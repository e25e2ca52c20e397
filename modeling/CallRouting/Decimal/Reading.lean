import CallRouting.Decimal

/-!
# Binary numbers from decimal texts

A text of digits, with an optional point among them and an optional exponent
behind them, is the floating-point number nearest to it. Numbers beyond the range
are infinite or zero without being computed.
-/

namespace CallRouting

namespace Decimal

/-- The nearest floating-point number. -/
def toFloat (x : Decimal) : Float :=
  if x.digits = 0 || x.point < -400 then 0.0
  else if 400 < x.point then 1.0 / 0.0
  else if 0 ≤ x.exponent then Float.ofScientific (x.digits * Nat.pow 10 x.exponent.toNat) false 0
  else Float.ofScientific x.digits true (-x.exponent).toNat

/-- The number that a list of digits stands for. -/
def digitsValue (digits : List Char) : Nat :=
  digits.foldl (fun value c => 10 * value + (c.toNat - '0'.toNat)) 0

/-- The exponent behind its letter: digits with an optional sign. -/
def exponentValue : List Char → Int
  | '-' :: digits => -(digitsValue digits : Int)
  | '+' :: digits => digitsValue digits
  | digits => digitsValue digits

/-- What stands between digits and their exponent. -/
def isExponentMark (c : Char) : Bool := c = 'e' || c = 'E'

/-- The decimal number written as digits, a fraction and an exponent. -/
def ofUnsigned (text : List Char) : Decimal :=
  let number := text.takeWhile fun c => !isExponentMark c
  let exponent := exponentValue ((text.dropWhile fun c => !isExponentMark c).drop 1)
  let whole := number.takeWhile (· ≠ '.')
  let fraction := (number.dropWhile (· ≠ '.')).drop 1
  ⟨digitsValue (whole ++ fraction), exponent - fraction.length⟩

end Decimal

/-- The floating-point number nearest to a decimal text with an optional sign. -/
def floatOfText : List Char → Float
  | '-' :: text => -(Decimal.ofUnsigned text).toFloat
  | '+' :: text => (Decimal.ofUnsigned text).toFloat
  | text => (Decimal.ofUnsigned text).toFloat

end CallRouting
