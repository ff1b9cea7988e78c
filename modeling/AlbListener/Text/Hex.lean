/-!
# Hexadecimal digits

Results:
* `hexValue?_hexDigit`: every digit written is read back.
* `hexValueOf?_fixedHex4`: four written digits are read back as the number below 65536 they
  stand for.
* `printable_of_mem_fixedHex`: digits are printable ASCII.
-/

namespace AlbListener.Text

/-- The lower-case hexadecimal digit of a number below sixteen. -/
def hexDigit (n : Nat) : Char :=
  if n < 10 then Char.ofNat (48 + n) else Char.ofNat (87 + n)

/-- The value of a hexadecimal digit of either case. -/
def hexValue? (c : Char) : Option Nat :=
  if '0' ≤ c ∧ c ≤ '9' then some (c.toNat - 48)
  else if 'a' ≤ c ∧ c ≤ 'f' then some (c.toNat - 87)
  else if 'A' ≤ c ∧ c ≤ 'F' then some (c.toNat - 55)
  else none

theorem hexValue?_hexDigit : ∀ n < 16, hexValue? (hexDigit n) = some n := by decide

/-- The last `width` hexadecimal digits of a number. -/
def fixedHex : Nat → Nat → List Char
  | 0, _ => []
  | width + 1, n => fixedHex width (n / 16) ++ [hexDigit (n % 16)]

/-- The number that a list of hexadecimal digits stands for. -/
def hexValueOf? (cs : List Char) : Option Nat :=
  cs.foldlM (fun n c => (hexValue? c).map (16 * n + ·)) 0

theorem hexValueOf?_concat (cs : List Char) (c : Char) :
    hexValueOf? (cs ++ [c]) =
      (hexValueOf? cs).bind fun n => (hexValue? c).map (16 * n + ·) := by
  simp [hexValueOf?, List.foldlM_append]

theorem hexValueOf?_fixedHex (width n : Nat) :
    hexValueOf? (fixedHex width n) = some (n % Nat.pow 16 width) := by
  induction width generalizing n with
  | zero => simp [fixedHex, hexValueOf?, Nat.mod_one]
  | succ width ih =>
    rw [fixedHex, hexValueOf?_concat, ih,
      Option.bind_some, hexValue?_hexDigit _ (Nat.mod_lt _ (by decide)), Option.map_some]
    have e : Nat.pow 16 (width + 1) = 16 * Nat.pow 16 width := Nat.mul_comm _ _
    rw [e, Nat.mod_mul, Nat.add_comm]

theorem hexValueOf?_fixedHex4 {n : Nat} (h : n < 0x10000) :
    hexValueOf? (fixedHex 4 n) = some n := by
  rw [hexValueOf?_fixedHex, Nat.mod_eq_of_lt (by omega)]

theorem printable_hexDigit : ∀ n < 16, 0x20 ≤ (hexDigit n).toNat ∧ (hexDigit n).toNat ≤ 0x7E := by
  decide

theorem printable_of_mem_fixedHex {width n : Nat} {c : Char} (h : c ∈ fixedHex width n) :
    0x20 ≤ c.toNat ∧ c.toNat ≤ 0x7E := by
  induction width generalizing n with
  | zero => cases h
  | succ width ih =>
    rw [fixedHex, List.mem_append, List.mem_singleton] at h
    rcases h with h | rfl
    · exact ih h
    · exact printable_hexDigit _ (Nat.mod_lt _ (by decide))

/-- A text in upper-case hexadecimal digits. -/
def upperHex (width n : Nat) : List Char :=
  (fixedHex width n).map Char.toUpper

end AlbListener.Text
