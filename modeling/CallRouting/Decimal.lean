/-!
# Decimal texts of binary numbers

A 64-bit floating-point number is shown by the fewest decimal digits that read
back as the same number, and of those by the nearest. The search is done in
exact whole-number arithmetic: a finite number is `mantissa * 2 ^ exponent`, the
reals that round to it form an interval around it, and the first grid of decimal
numbers with a point in that interval wins.

How the digits are laid out is a choice of the format: the range in which it uses
the positional form, which shows a point and at least one digit behind it, and the
spelling of the exponent outside that range.
-/

namespace CallRouting

/-- The decimal number `digits * 10 ^ exponent`. -/
structure Decimal where
  digits : Nat
  exponent : Int
  deriving DecidableEq

/-- The binary number `mantissa * 2 ^ exponent`, whose lower neighbour may be
nearer than its upper one. -/
structure Dyadic where
  mantissa : Nat
  exponent : Int
  narrowBelow : Bool

namespace Dyadic

/-- The leading one of a mantissa, which is not written: `2 ^ 52`. -/
def hiddenBit : Nat := 4503599627370496

/-- The magnitude of the finite number with these bits. -/
def ofBits (bits : UInt64) : Dyadic :=
  let fraction := bits.toNat % hiddenBit
  let scale := bits.toNat / hiddenBit % 2048
  if scale = 0 then ⟨fraction, -1074, false⟩
  else ⟨hiddenBit + fraction, (scale : Int) - 1075, fraction = 0 && scale > 1⟩

/-- The whole part of `mantissa * 2 ^ two * 10 ^ ten`. -/
def wholePart (mantissa : Nat) (two ten : Int) : Nat :=
  mantissa * Nat.pow 2 two.toNat * Nat.pow 10 ten.toNat /
    (Nat.pow 2 (-two).toNat * Nat.pow 10 (-ten).toNat)

/-- Whether `c * 10 ^ ten ≤ mantissa * 2 ^ two`. -/
def decimalLe (c : Nat) (ten : Int) (mantissa : Nat) (two : Int) : Bool :=
  c * Nat.pow 10 ten.toNat * Nat.pow 2 (-two).toNat ≤
    mantissa * Nat.pow 2 two.toNat * Nat.pow 10 (-ten).toNat

/-- Whether `mantissa * 2 ^ two ≤ c * 10 ^ ten`. -/
def leDecimal (mantissa : Nat) (two : Int) (c : Nat) (ten : Int) : Bool :=
  mantissa * Nat.pow 2 two.toNat * Nat.pow 10 (-ten).toNat ≤
    c * Nat.pow 10 ten.toNat * Nat.pow 2 (-two).toNat

/-- Whether `c * 10 ^ ten` reads back as this number. The ends of the interval
belong to it exactly if the mantissa is even. -/
def readsBack (x : Dyadic) (c : Nat) (ten : Int) : Bool :=
  let low := 4 * x.mantissa - (if x.narrowBelow then 1 else 2)
  let high := 4 * x.mantissa + 2
  let two := x.exponent - 2
  if x.mantissa % 2 = 0 then leDecimal low two c ten && decimalLe c ten high two
  else !decimalLe c ten low two && !leDecimal high two c ten

/-- The position of the decimal point relative to the first digit: the number is
below `10 ^ p` and not below `10 ^ (p - 1)`. -/
def pointPosition (x : Dyadic) : Int :=
  let whole := wholePart x.mantissa x.exponent 0
  if whole = 0 then
    let shift := (List.range 400).find? fun n : Nat => wholePart x.mantissa x.exponent (n : Int) ≠ 0
    1 - ((shift.getD 400 : Nat) : Int)
  else (Nat.toDigits 10 whole).length

/-- The nearest decimal on the grid of multiples of `10 ^ ten` that reads back. -/
def onGrid? (x : Dyadic) (ten : Int) : Option Decimal :=
  let below := wholePart x.mantissa x.exponent (-ten)
  match x.readsBack below ten, x.readsBack (below + 1) ten with
  | false, false => none
  | true, false => some ⟨below, ten⟩
  | false, true => some ⟨below + 1, ten⟩
  | true, true =>
    let doubled := wholePart (2 * x.mantissa) x.exponent (-ten)
    if doubled < 2 * below + 1 then some ⟨below, ten⟩
    else if leDecimal (2 * x.mantissa) x.exponent (2 * below + 1) ten && below % 2 = 0 then
      some ⟨below, ten⟩
    else some ⟨below + 1, ten⟩

/-- The shortest decimal that reads back as this number, which is not zero. -/
def shortest (x : Dyadic) : Decimal :=
  let point := x.pointPosition
  let grids := (List.range 17).map fun n : Nat => point - 1 - (n : Int)
  (grids.findSome? x.onGrid?).getD ⟨wholePart x.mantissa x.exponent (17 - point), point - 17⟩

end Dyadic

namespace Decimal

/-- The digits without the zeros at their end. -/
def significant (x : Decimal) : List Char :=
  ((Nat.toDigits 10 x.digits).reverse.dropWhile (· = '0')).reverse

/-- How many places the decimal point stands behind the first digit. -/
def point (x : Decimal) : Int := (Nat.toDigits 10 x.digits).length + x.exponent

end Decimal

/-- The range of point positions written without an exponent. -/
structure FloatFormat where
  least : Int
  greatest : Int

namespace FloatFormat

/-- An exponent from `10 ^ 16` up and below `10 ^ -5`. -/
def compact : FloatFormat := ⟨-4, 16⟩

/-- Whether a number is written without an exponent, by where its point stands. -/
def isPositional (format : FloatFormat) (point : Int) : Bool :=
  format.least ≤ point && point ≤ format.greatest

/-- Digits around a decimal point, with a zero on a side that has none. -/
def layPositional (digits : List Char) (point : Int) : List Char :=
  if point ≤ 0 then '0' :: '.' :: List.replicate (-point).toNat '0' ++ digits
  else
    let whole := digits.take point.toNat
    let missing := List.replicate (point.toNat - digits.length) '0'
    let rest := digits.drop point.toNat
    whole ++ missing ++ '.' :: (if rest.isEmpty then ['0'] else rest)

/-- One digit, the others behind a point, and the exponent with its sign. -/
def layScientific (digits : List Char) (point : Int) : List Char :=
  digits.take 1 ++ (if digits.length ≤ 1 then [] else '.' :: digits.drop 1) ++
    'e' :: (if point < 1 then '-' else '+') :: Nat.toDigits 10 (point - 1).natAbs

/-- The text of the magnitude of a number: its shortest digits in the one layout or the other. -/
def layMagnitude (format : FloatFormat) (bits : UInt64) : List Char :=
  let x := Dyadic.ofBits bits
  if x.mantissa = 0 then ['0', '.', '0']
  else
    let decimal := x.shortest
    if format.isPositional decimal.point then layPositional decimal.significant decimal.point
    else layScientific decimal.significant decimal.point

/-- The text of a number. Zero keeps its sign. -/
def render (format : FloatFormat) (x : Float) : String :=
  if x.isNaN then "NaN"
  else
    let sign := if x.toBits < 9223372036854775808 then [] else ['-']
    if x.isInf then String.ofList (sign ++ ['i', 'n', 'f'])
    else String.ofList (sign ++ format.layMagnitude x.toBits)

end FloatFormat

end CallRouting
