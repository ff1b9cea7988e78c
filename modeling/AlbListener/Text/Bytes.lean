import AlbListener.Text.Quoted

/-!
# Bytes

Bytes are written as the characters of ASCII between quotes, behind a `b`. Tab, line feed and
carriage return are written with a backslash and a letter, and every other byte that is no
printable character of ASCII by its two hexadecimal digits.

In base 64 each character of the alphabet stands for six bits. Characters outside the alphabet
are passed over, and signs of padding end the bytes where they complete a group of four.

Results:
* `decodeBase64?_nil`: no characters stand for no bytes.
* `continueBase64?_of_sextet?_eq_none`: characters outside the alphabet make no difference.
-/

namespace AlbListener.Text

/-- A byte as written between quotes `q`. -/
def escapeByte (q : Char) (byte : UInt8) : List Char :=
  let c := Char.ofNat byte.toNat
  if byte.toNat < 0x80 then escapeQuoted q c else '\\' :: 'x' :: fixedHex 2 byte.toNat

/-- Bytes between quotes. -/
def quotedBytes (bytes : List UInt8) : String :=
  let q := quote (bytes.map fun byte => Char.ofNat byte.toNat)
  String.ofList ('b' :: q :: bytes.flatMap (escapeByte q) ++ [q])

/-! ## Base 64 -/

/-- The six bits that a character of the alphabet stands for. -/
def sextet? (c : Char) : Option Nat :=
  if 'A' ≤ c ∧ c ≤ 'Z' then some (c.toNat - 'A'.toNat)
  else if 'a' ≤ c ∧ c ≤ 'z' then some (c.toNat - 'a'.toNat + 26)
  else if '0' ≤ c ∧ c ≤ '9' then some (c.toNat - '0'.toNat + 52)
  else if c = '+' then some 62
  else if c = '/' then some 63
  else none

/-- The bytes that characters stand for, behind `count` of the four of a group, whose bits that
    are not part of a byte yet are `carried`, and behind so many signs of padding. -/
def continueBase64? (count carried pads : Nat) : List Char → Option (List UInt8)
  | [] => if count = 0 then some [] else none
  | c :: rest =>
    if c = '=' then
      if count < 2 then continueBase64? count carried pads rest
      else if 4 ≤ count + pads + 1 then some []
      else continueBase64? count carried (pads + 1) rest
    else
      match sextet? c, count with
      | none, _ => continueBase64? count carried pads rest
      | some bits, 0 => continueBase64? 1 bits 0 rest
      | some bits, 1 => emit (carried * 4 + bits / 16) (continueBase64? 2 (bits % 16) 0 rest)
      | some bits, 2 => emit (carried * 16 + bits / 4) (continueBase64? 3 (bits % 4) 0 rest)
      | some bits, _ => emit (carried * 64 + bits) (continueBase64? 0 0 0 rest)
where
  /-- A byte in front of others. -/
  emit (byte : Nat) (bytes? : Option (List UInt8)) : Option (List UInt8) :=
    bytes?.map (UInt8.ofNat byte :: ·)

/-- The bytes that characters in base 64 stand for. -/
def decodeBase64? (cs : List Char) : Option (List UInt8) := continueBase64? 0 0 0 cs

theorem decodeBase64?_nil : decodeBase64? [] = some [] := rfl

theorem continueBase64?_of_sextet?_eq_none {c : Char} (h : sextet? c = none) (hc : c ≠ '=')
    (count carried pads : Nat) (rest : List Char) :
    continueBase64? count carried pads (c :: rest) = continueBase64? count carried pads rest := by
  simp [continueBase64?, h, hc]

example : decodeBase64? "aGkhIQ==xx".toList = some [104, 105, 33, 33] := by decide

example : decodeBase64? "aGk".toList = none := by decide

end AlbListener.Text
