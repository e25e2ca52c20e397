import CallRouting.Data
import CallRouting.Decimal.Reading
import CallRouting.Toml.Text

/-!
# Numbers, booleans and dates in TOML

A value without quotes or brackets is one word, but for a date and a time that are
separated by a blank. Underscores may stand between two digits. A date or a time is
kept as text, in one spelling: a capital `T` between date and time, a capital `Z`
for no offset, seconds even where none are written, and no zeros at the end of a
fraction of a second, which is cut after nine digits.

Numbers that are not finite become null, since the values here know none such. A word
can pass for a number and have no value: a number that is too great, a base without
digits, or a whole number in groups of which some are not decimal. What is wrong with it
shows when somebody wants its value.
-/

namespace CallRouting.Toml

/-- A value of one word. -/
inductive Scalar
  | value (data : Data)
  /-- A word that passes for a number but has no value. -/
  | unreadable

namespace Scalar

/-- The value of a scalar, if it has one. -/
def data? : Scalar → Option Data
  | .value data => some data
  | .unreadable => none

/-- A whole number. It has to fit 128 bits, with a sign or without. -/
def ofInt (value : Int) : Scalar :=
  if -170141183460469231731687303715884105728 ≤ value ∧
      value ≤ 340282366920938463463374607431768211455 then .value (.integer value)
  else .unreadable

/-- A floating-point number, which has to be finite. -/
def ofFloat (value : Float) : Scalar := if value.isInf then .unreadable else .value (.number value)

end Scalar

/-- The digits of a run in which underscores stand between two digits. -/
def digitRun? (isDigit : Char → Bool) : List Char → Option (List Char)
  | [] => none
  | [c] => if isDigit c then some [c] else none
  | c :: '_' :: rest => if isDigit c then (c :: ·) <$> digitRun? isDigit rest else none
  | c :: rest => if isDigit c then (c :: ·) <$> digitRun? isDigit rest else none

/-- A whole number in a base, without a sign. -/
def readBase (base : Nat) (word : List Char) : Option Scalar :=
  if word.isEmpty then some .unreadable
  else do
    let digits ← digitRun? (fun c => (hexDigit? c).any (· < base)) word
    return .ofInt (digits.foldl (fun value c => base * value + (hexDigit? c).getD 0) 0 : Nat)

/-- Digits without a needless zero in front. -/
def decimalRun? (word : List Char) : Option (List Char) :=
  match digitRun? Char.isDigit word with
  | some ['0'] => some ['0']
  | some ('0' :: _) => none
  | digits => digits

/-- A digit to base sixteen. -/
def isHexDigit (c : Char) : Bool := (hexDigit? c).isSome

/-- Whether every underscore stands between two hexadecimal digits, in a word behind some
character. -/
def isGrouped (before : Char) : List Char → Bool
  | [] => true
  | ['_'] => false
  | '_' :: c :: rest => isHexDigit before && isHexDigit c && isGrouped c rest
  | c :: rest => isGrouped c rest

/-- Whether a word without its sign passes for a whole number in groups: after the first
group, which has digits only, all that counts is where the underscores stand. -/
def isGroupedNumber (word : List Char) : Bool :=
  word.head? ≠ some '0' && (word.dropWhile Char.isDigit).head? = some '_' &&
    !(word.any fun c => c = '.' || Decimal.isExponentMark c) && isGrouped '_' word

/-- A digit, or a mark between digits. -/
def isDigitOrMark (c : Char) : Bool := c.isDigit || c = '_'

/-- The exponent behind its letter, without underscores. -/
def exponentRun? : List Char → Option (List Char)
  | '+' :: digits => digitRun? Char.isDigit digits
  | '-' :: digits => ('-' :: ·) <$> digitRun? Char.isDigit digits
  | digits => digitRun? Char.isDigit digits

/-- A floating-point number without a sign, in the spelling without underscores. -/
def floatRun? (word : List Char) : Option (List Char) := do
  let whole ← decimalRun? (word.takeWhile isDigitOrMark)
  match word.dropWhile isDigitOrMark with
  | '.' :: rest =>
    let fraction ← digitRun? Char.isDigit (rest.takeWhile isDigitOrMark)
    match rest.dropWhile isDigitOrMark with
    | [] => return whole ++ '.' :: fraction
    | e :: exponent =>
      if Decimal.isExponentMark e then
        return whole ++ '.' :: fraction ++ 'e' :: (← exponentRun? exponent)
      else none
  | e :: exponent =>
    if Decimal.isExponentMark e then return whole ++ 'e' :: (← exponentRun? exponent) else none
  | [] => none

/-- A number behind its sign. -/
def readMagnitude (negative : Bool) (word : List Char) : Option Scalar :=
  match word with
  | ['i', 'n', 'f'] | ['n', 'a', 'n'] => some (.value .null)
  | word =>
    match decimalRun? word, floatRun? word with
    | some digits, _ =>
      let value : Int := Decimal.digitsValue digits
      some (.ofInt (if negative then -value else value))
    | none, some digits =>
      let value := floatOfText digits
      some (.ofFloat (if negative then -value else value))
    | none, none => if isGroupedNumber word then some .unreadable else none

/-- Read a number: to base sixteen, eight or two by its mark, else a decimal one with its sign. -/
def readNumber : List Char → Option Scalar
  | '0' :: 'x' :: word => readBase 16 word
  | '0' :: 'o' :: word => readBase 8 word
  | '0' :: 'b' :: word => readBase 2 word
  | '+' :: word => readMagnitude false word
  | '-' :: word => readMagnitude true word
  | word => readMagnitude false word

/-- The number written with exactly so many digits, and what follows it. -/
def fixedDigits (width : Nat) (text : List Char) : Option (Nat × List Char) :=
  let digits := text.take width
  if digits.length = width && digits.all Char.isDigit then
    some (Decimal.digitsValue digits, text.drop width)
  else none

/-- Every fourth year, but of the hundreds only every fourth. -/
def isLeapYear (year : Nat) : Bool := year % 4 = 0 && (year % 100 ≠ 0 || year % 400 = 0)

/-- How many days a month has. -/
def daysInMonth (year month : Nat) : Nat :=
  if month = 2 then if isLeapYear year then 29 else 28
  else if [4, 6, 9, 11].contains month then 30 else 31

/-- A date, in its own spelling. -/
def readDate (text : List Char) : Option (List Char × List Char) := do
  let (year, rest) ← fixedDigits 4 text
  let '-' :: rest := rest | none
  let (month, rest) ← fixedDigits 2 rest
  let '-' :: rest := rest | none
  let (day, rest) ← fixedDigits 2 rest
  if 1 ≤ month && month ≤ 12 && 1 ≤ day && day ≤ daysInMonth year month then
    return (text.take 10, rest)
  else none

/-- The fraction of a second in front, shortened to what counts. -/
def readFraction (text : List Char) : Option (List Char × List Char) :=
  match text with
  | '.' :: rest =>
    let digits := rest.takeWhile Char.isDigit
    let shown := ((digits.take 9).reverse.dropWhile (· = '0')).reverse
    if digits.isEmpty then none
    else some (if shown.isEmpty then [] else '.' :: shown, rest.dropWhile Char.isDigit)
  | rest => some ([], rest)

/-- The seconds of a time with their colon and their fraction. They may be missing. -/
def readSeconds (text : List Char) : Option (List Char × List Char) :=
  match text with
  | ':' :: rest => do
    let (second, after) ← fixedDigits 2 rest
    let (fraction, after) ← readFraction after
    if second ≤ 60 then return (text.take 3 ++ fraction, after) else none
  | rest => some ([':', '0', '0'], rest)

/-- A time of day, shortened to what counts. -/
def readTime (text : List Char) : Option (List Char × List Char) := do
  let (hour, rest) ← fixedDigits 2 text
  let ':' :: rest := rest | none
  let (minute, rest) ← fixedDigits 2 rest
  let (seconds, rest) ← readSeconds rest
  if hour ≤ 23 && minute ≤ 59 then return (text.take 5 ++ seconds, rest) else none

/-- The offset at the end of a time, if there is one. -/
def readOffset (text : List Char) : Option (List Char) :=
  match text with
  | [] => some []
  | ['Z'] | ['z'] => some ['Z']
  | sign :: rest => do
    if sign ≠ '+' && sign ≠ '-' then none
    let (hour, after) ← fixedDigits 2 rest
    let ':' :: after := after | none
    let (minute, after) ← fixedDigits 2 after
    if hour ≤ 23 && minute ≤ 59 && after.isEmpty then
      return (if hour = 0 && minute = 0 then '+' else sign) :: rest
    else none

/-- The text that stands for a date or time in the values here. -/
def dateTime (text : List Char) : Data :=
  .record [("$__toml_private_datetime", .text (String.ofList text))]

/-- A date, a time, or both. The offset needs both. -/
def readDateTime (word : List Char) : Option Data :=
  match readDate word with
  | some (date, []) => some (dateTime date)
  | some (date, mark :: rest) => do
    if !(['T', 't', ' '].contains mark) then none
    let (time, rest) ← readTime rest
    let offset ← readOffset rest
    return dateTime (date ++ 'T' :: time ++ offset)
  | none => do
    let (time, rest) ← readTime word
    if rest.isEmpty then return dateTime time else none

/-- Read a word: a boolean, a number, a date or a time. -/
def readWord (word : List Char) : Option Scalar :=
  match word with
  | ['t', 'r', 'u', 'e'] => some (.value (.boolean true))
  | ['f', 'a', 'l', 's', 'e'] => some (.value (.boolean false))
  | word => readNumber word <|> .value <$> readDateTime word

/-- A word ends at a blank, a line break, a comment or a mark of punctuation. -/
def isWordChar (c : Char) : Bool :=
  !(" \t\r\n#=,[]\x7b\x7d".contains c)

/-- The word in front, and with a date the time after one blank. -/
def splitWord (text : List Char) : List Char × List Char :=
  let word := text.takeWhile isWordChar
  let rest := text.dropWhile isWordChar
  match readDate word, rest with
  | some (_, []), ' ' :: c :: after =>
    if c.isDigit then
      (word ++ ' ' :: (c :: after).takeWhile isWordChar, (c :: after).dropWhile isWordChar)
    else (word, rest)
  | _, _ => (word, rest)

/-- A value that is no text and has no parts. -/
def readScalar (text : List Char) : Option (Scalar × List Char) :=
  let (word, rest) := splitWord text
  (·, rest) <$> readWord word

end CallRouting.Toml
