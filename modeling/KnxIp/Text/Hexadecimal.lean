/-
  Hexadecimal numerals with capital digits.
-/
import KnxIp.Bytes

namespace KnxIp.Text

/-- The capital hexadecimal digit with value `n % 16`. -/
def hexDigit (n : Nat) : Char :=
  let d := n % 16
  Char.ofNat (if d < 10 then 48 + d else 55 + d)

/-- The `width` lowest hexadecimal digits of `n`. -/
def hexDigits (n : Nat) : Nat → List Char
  | 0 => []
  | width + 1 => hexDigits (n / 16) width ++ [hexDigit n]

/-- How many hexadecimal digits `n` needs. -/
def hexLength (n : Nat) : Nat :=
  if n < 16 then 1 else hexLength (n / 16) + 1
termination_by n

/-- The numeral of `n`, filled up with zeros to at least `width` digits. -/
def hexadecimal (width n : Nat) : String :=
  String.ofList (hexDigits n (max width (hexLength n)))

/-- Octets in brackets, two digits each: `[0C, 1A]`. -/
def octetList (bytes : Bytes) : String :=
  "[" ++ ", ".intercalate (bytes.map fun b => hexadecimal 2 b.toNat) ++ "]"

end KnxIp.Text
