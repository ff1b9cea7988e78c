import Mathlib.Tactic.Linarith
import AlbListener.Listener.Port
import AlbListener.Proofs.Json

/-!
# Ports that are whole numbers

A port is declared as an integer, but it may be written in another way, such as `80.0`. A
value that is a whole number is read as that integer, and equals it.

Results:
* `toInteger_of_isInteger`: a whole number is read as the integer it is.
* `equals_int_iff`: which integers a value equals.
-/

namespace AlbListener

namespace Json

/-- Whether a value is a given integer, however it is written. -/
def IsInteger (value : Json) (n : ℤ) : Prop := value.number? = some (.ofInt n)

/-- Whether a value is a whole number. -/
def IsWhole (value : Json) : Prop := ∃ n, value.IsInteger n

theorem isInteger_int (n : ℤ) : (Json.int n).IsInteger n := rfl

theorem IsInteger.unique {value : Json} {n m : ℤ} (hn : value.IsInteger n)
    (hm : value.IsInteger m) : n = m :=
  Number.ofInt_inj.mp (Option.some.inj (hn.symm.trans hm))

theorem sign_div {negative : Bool} {m u : ℕ} {n : ℤ} (hu : 0 < u)
    (h : Binary64.sign negative m = n * u) : Binary64.sign negative (m / u) = n := by
  have hu' : (u : ℤ) ≠ 0 := by exact_mod_cast hu.ne'
  cases negative with
  | true =>
    simp only [Binary64.sign, if_true] at h ⊢
    rw [Int.natCast_ediv, show (m : ℤ) = -n * u by linarith, Int.mul_ediv_cancel _ hu', neg_neg]
  | false =>
    simp only [Binary64.sign, Bool.false_eq_true, if_false] at h ⊢
    rw [Int.natCast_ediv, h, Int.mul_ediv_cancel _ hu']

/-- A whole number is read as the integer it is. -/
theorem toInteger_of_isInteger {value : Json} {n : ℤ} (h : value.IsInteger n) :
    value.toInteger = .ok n := by
  cases value with
  | int m => rw [toInteger, Number.ofInt_inj.mp (Option.some.inj h)]
  | bool b => rw [toInteger, Number.ofInt_inj.mp (Option.some.inj h)]
  | float x =>
    cases x with
    | finite negative significand exponent =>
      have hs : Binary64.sign negative (significand * twoTo exponent) = n * unitsPerOne :=
        Number.finite.inj (Option.some.inj h)
      simp only [toInteger, Binary64.toInt?, sign_div unitsPerOne_pos hs]
    | _ => cases h
  | _ => cases h

/-- A value equals an integer if it is that integer. -/
theorem equals_int_iff {value : Json} {n : ℤ} :
    (Json.int n).equals value = true ↔ value.IsInteger n := by
  have hsame : (Json.int n).equals value = sameScalar (.int n) value := by
    rw [equals, show (Json.int n).isNaN = false from rfl, Bool.not_false, Bool.true_and, same]
    all_goals simp
  rw [hsame, IsInteger]
  cases value with
  | null | str s | arr elements | obj members => simp [sameScalar, number?]
  | bool b | int m | float x =>
    simp only [sameScalar, number?, beq_iff_eq, Option.some.injEq]
    exact eq_comm

theorem isCompound_of_isWhole {value : Json} (h : value.IsWhole) : value.isCompound = false := by
  obtain ⟨n, hn⟩ := h
  cases value <;> first | rfl | cases hn

/-- A whole number equals itself. -/
theorem equals_self_of_isWhole {value : Json} (h : value.IsWhole) :
    value.equals value = true := by
  obtain ⟨n, hn⟩ := h
  have hnan : value.isNaN = false := by
    unfold isNaN
    split
    · cases hn
    · rfl
  rw [equals, hnan, same_refl (.plain (isCompound_of_isWhole ⟨n, hn⟩))]
  rfl

end Json

end AlbListener
