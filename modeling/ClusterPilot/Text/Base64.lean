/-
Bytes written as text in groups of four characters, six bits each. Characters without a value are
passed over; the first complete padding ends the text, whatever follows; a group that is neither
complete nor padded makes the text unreadable.
-/
namespace ClusterPilot.Text.Base64

/-- The six bits that a character writes. -/
def sextet? (c : Char) : Option Nat :=
  if 'A' ≤ c && c ≤ 'Z' then some (c.toNat - 'A'.toNat)
  else if 'a' ≤ c && c ≤ 'z' then some (c.toNat - 'a'.toNat + 26)
  else if '0' ≤ c && c ≤ '9' then some (c.toNat - '0'.toNat + 52)
  else if c = '+' then some 62
  else if c = '/' then some 63
  else none

/-- The whole bytes in a group of up to four times six bits. -/
def groupBytes : List Nat → List UInt8
  | [a, b] => [UInt8.ofNat (a * 4 + b / 16)]
  | [a, b, c] => [UInt8.ofNat (a * 4 + b / 16), UInt8.ofNat (b % 16 * 16 + c / 4)]
  | [a, b, c, d] =>
    [UInt8.ofNat (a * 4 + b / 16), UInt8.ofNat (b % 16 * 16 + c / 4), UInt8.ofNat (c % 4 * 64 + d)]
  | _ => []

/-- The bytes of a text that goes on after an unfinished group and the padding seen since. -/
def decodeFrom (group : List Nat) (padding : Nat) : List Char → Option (List UInt8)
  | [] => if group.isEmpty then some [] else none
  | c :: cs =>
    if c = '=' then
      if group.length < 2 then decodeFrom group padding cs
      else if 4 ≤ group.length + padding + 1 then some (groupBytes group)
      else decodeFrom group (padding + 1) cs
    else
      match sextet? c with
      | none => decodeFrom group padding cs
      | some s =>
        if group.length < 3 then decodeFrom (group ++ [s]) 0 cs
        else (decodeFrom [] 0 cs).map (groupBytes (group ++ [s]) ++ ·)

/-- The bytes that a text writes. -/
def decode? (cs : List Char) : Option (List UInt8) := decodeFrom [] 0 cs

end ClusterPilot.Text.Base64
