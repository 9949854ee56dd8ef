/-!
Bytes as text in base 64, with the padding that fills the last group of four characters.
-/

namespace ScenarioRunner.WebDriver.Base64

/-- The value of a character of the standard alphabet. -/
def value? (c : Char) : Option Nat :=
  if 'A' ≤ c && c ≤ 'Z' then some (c.toNat - 65)
  else if 'a' ≤ c && c ≤ 'z' then some (c.toNat - 71)
  else if '0' ≤ c && c ≤ '9' then some (c.toNat + 4)
  else if c == '+' then some 62
  else if c == '/' then some 63
  else none

/-- Only the last group may be padded, and bits that stand for no byte are zero. -/
def decodeGroups : List Char → Option (List UInt8)
  | [] => some []
  | [a, b, '=', '='] => do
    let a ← value? a
    let b ← value? b
    if b % 16 == 0 then return [(a * 4 + b / 16).toUInt8] else none
  | [a, b, c, '='] => do
    let a ← value? a
    let b ← value? b
    let c ← value? c
    if c % 4 == 0 then
      return [(a * 4 + b / 16).toUInt8, (b % 16 * 16 + c / 4).toUInt8]
    else none
  | a :: b :: c :: d :: rest => do
    let a ← value? a
    let b ← value? b
    let c ← value? c
    let d ← value? d
    let bytes ← decodeGroups rest
    return (a * 4 + b / 16).toUInt8 :: (b % 16 * 16 + c / 4).toUInt8 ::
      (c % 4 * 64 + d).toUInt8 :: bytes
  | _ => none

/-- The bytes that a text spells. -/
def decode? (text : String) : Option ByteArray :=
  (decodeGroups text.toList).map fun bytes => ByteArray.mk bytes.toArray

end ScenarioRunner.WebDriver.Base64
