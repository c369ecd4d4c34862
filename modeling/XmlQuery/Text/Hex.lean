/-!
# Hexadecimal digits

## Main definitions

* `upper`: a number in upper-case hexadecimal digits, padded with zeros to a least width
* `digit?`: the value of a digit in a radix up to sixteen
* `number?`: the number that digits of a radix denote
-/

namespace XmlQuery.Text.Hex

/-- The hexadecimal digits of `n`, in upper case and with leading zeros up to `width`. -/
def upper (width n : Nat) : String :=
  let digits := (Nat.toDigits 16 n).map Char.toUpper
  String.ofList (List.replicate (width - digits.length) '0' ++ digits)

/-- The value of a hexadecimal digit, of either case. -/
def hexDigit? (c : Char) : Option Nat :=
  if '0' ≤ c ∧ c ≤ '9' then some (c.toNat - '0'.toNat)
  else if 'a' ≤ c ∧ c ≤ 'f' then some (c.toNat - 'a'.toNat + 10)
  else if 'A' ≤ c ∧ c ≤ 'F' then some (c.toNat - 'A'.toNat + 10)
  else none

/-- The value of a digit below `radix`. -/
def digit? (radix : Nat) (c : Char) : Option Nat :=
  (hexDigit? c).filter (· < radix)

/-- The number denoted by a non-empty sequence of digits of a radix. -/
def number? (radix : Nat) (digits : List Char) : Option Nat :=
  if digits.isEmpty then none
  else digits.foldlM (fun n c => (digit? radix c).map (n * radix + ·)) 0

end XmlQuery.Text.Hex
