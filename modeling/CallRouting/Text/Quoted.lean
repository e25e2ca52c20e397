import CallRouting.Text.Printable
import CallRouting.Text.Extending

/-!
# Quoted text

A text is shown between double quotes. Quotes and backslashes are escaped by a
backslash; tab, line feed, carriage return and NUL have letters of their own;
a character that cannot be seen, or that would merge with the one before it, is
written as its code point in lower-case hexadecimal digits.
-/

namespace CallRouting.Text

/-- A character by its code point. -/
def codePoint (c : Char) : List Char :=
  ['\\', 'u', '\x7b'] ++ Nat.toDigits 16 c.toNat ++ ['\x7d']

/-- One character as it stands between the quotes. -/
def quoteChar (c : Char) : List Char :=
  match c with
  | '\x00' => ['\\', '0']
  | '\t' => ['\\', 't']
  | '\n' => ['\\', 'n']
  | '\r' => ['\\', 'r']
  | '"' => ['\\', '"']
  | '\\' => ['\\', '\\']
  | c => if isPrintable c && !isExtending c then [c] else codePoint c

/-- A text in quotation marks, with escapes where they are needed. -/
def quoted (text : String) : String :=
  String.ofList ('"' :: text.toList.flatMap quoteChar ++ ['"'])

end CallRouting.Text
