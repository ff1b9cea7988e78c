import Mathlib.Algebra.Group.Nat.Defs
import Mathlib.Data.List.Basic
import AlbListener.Text.Numeral

/-!
# Texts of digits

A text may be written in digits only and yet be no numeral, for there are digits that stand for
no place in a decimal numeral, and a numeral may not have too many of them. That is all that can go
wrong: no digit is a margin, a sign or an underscore.

Results:
* `readInt?_eq_none_iff`: a text of digits is no numeral exactly if one of them is not decimal, or
  if they are too many.
* `lt_digitCount`: a power of ten has more digits than its exponent says.
-/

namespace AlbListener.Text

variable {c : Char} {cs : List Char} {s : String}

/-- The code points of digits, as closed ranges. -/
def digitRanges : List (Nat × Nat) :=
  decimalZeros.map (fun first => (first, first + 9)) ++ otherDigitRanges

/-- The code points of margins, as closed ranges. -/
def marginRanges : List (Nat × Nat) := [
  (9, 13), (32, 32), (0x85, 0x85), (0xA0, 0xA0), (0x1680, 0x1680), (0x2000, 0x200A),
  (0x2028, 0x2029), (0x202F, 0x202F), (0x205F, 0x205F), (0x3000, 0x3000)]

theorem isSome_decimalValue?_iff :
    (decimalValue? c).isSome = true ↔
      ∃ first ∈ decimalZeros, first ≤ c.toNat ∧ c.toNat ≤ first + 9 := by
  simp [decimalValue?]

theorem inRanges_of_isDigit (h : isDigit c = true) : inRanges digitRanges c.toNat = true := by
  rw [isDigit, Bool.or_eq_true] at h
  rw [inRanges_eq_true_iff]
  rcases h with h | h
  · obtain ⟨_, hm, hle⟩ := isSome_decimalValue?_iff.mp h
    exact ⟨_, List.mem_append_left _ (List.mem_map_of_mem hm), hle⟩
  · obtain ⟨r, hm, hle⟩ := inRanges_eq_true_iff.mp h
    exact ⟨r, List.mem_append_right _ hm, hle⟩

theorem inRanges_of_isMargin (h : isMargin c = true) : inRanges marginRanges c.toNat = true := by
  simp only [isMargin, isBlank, Bool.and_eq_true, Bool.or_eq_true, decide_eq_true_eq, beq_iff_eq,
    Bool.not_eq_true', Bool.and_eq_false_iff, decide_eq_false_iff_not] at h
  simp only [inRanges, marginRanges, List.any_cons, List.any_nil, Bool.or_false, Bool.or_eq_true,
    Bool.and_eq_true, decide_eq_true_eq]
  omega

theorem digitRanges_disjoint :
    ∀ r ∈ digitRanges, ∀ m ∈ marginRanges, r.2 < m.1 ∨ m.2 < r.1 := by decide +kernel

/-- No digit is a margin. -/
theorem isMargin_of_isDigit (h : isDigit c = true) : isMargin c = false := by
  refine Bool.eq_false_iff.mpr fun hmargin => ?_
  obtain ⟨r, hr, hdigit⟩ := inRanges_eq_true_iff.mp (inRanges_of_isDigit h)
  obtain ⟨m, hm, hle⟩ := inRanges_eq_true_iff.mp (inRanges_of_isMargin hmargin)
  have := digitRanges_disjoint r hr m hm
  omega

theorem continueNatural?_eq_none_iff (n : Nat) (h : ∀ c ∈ cs, isDigit c = true) :
    continueNatural? n cs = none ↔ ∃ c ∈ cs, decimalValue? c = none := by
  induction cs generalizing n with
  | nil => simp [continueNatural?]
  | cons c rest ih =>
    obtain ⟨hdigit, hrest⟩ := List.forall_mem_cons.mp h
    cases hc : decimalValue? c with
    | none =>
      -- an underscore is no digit
      have hunderscore : c ≠ '_' := by
        rintro rfl
        exact absurd hdigit (by decide)
      refine iff_of_true ?_ ⟨c, List.mem_cons_self, hc⟩
      rw [continueNatural?]
      · rw [hc, Option.bind_none]
      · exact fun _ _ h _ => absurd h hunderscore
    | some d => rw [continueNatural?_cons hc, ih _ hrest, List.exists_mem_cons_iff, hc]; simp

theorem natural?_eq_none_iff (h : ∀ c ∈ cs, isDigit c = true) (hne : cs ≠ []) :
    natural? cs = none ↔ ∃ c ∈ cs, decimalValue? c = none := by
  cases cs with
  | nil => exact absurd rfl hne
  | cons c rest =>
    rw [natural?, List.exists_mem_cons_iff, Option.bind_eq_none_iff]
    cases hc : decimalValue? c with
    | none => simp
    | some d => simp [continueNatural?_eq_none_iff d (List.forall_mem_cons.mp h).2]

theorem allDigits_iff : allDigits s = true ↔ s.toList ≠ [] ∧ ∀ c ∈ s.toList, isDigit c = true := by
  simp [allDigits]

/-- No more digits are counted than there are. -/
theorem leadingDigits?_le {n : ℕ} (h : ∀ c ∈ cs, isDigit c = true)
    (hn : leadingDigits? cs = some n) : n ≤ cs.length := by
  induction cs generalizing n with
  | nil =>
    cases hn
    exact Nat.le_refl _
  | cons c rest ih =>
    obtain ⟨hdigit, hrest⟩ := List.forall_mem_cons.mp h
    by_cases hc : (decimalValue? c).isSome = true
    · rw [leadingDigits?_cons hc] at hn
      obtain ⟨m, hm, rfl⟩ := Option.map_eq_some_iff.mp hn
      exact Nat.succ_le_succ (ih hrest hm)
    · -- an underscore is no digit
      have hunderscore : c ≠ '_' := by
        rintro rfl
        exact absurd hdigit (by decide)
      rw [leadingDigits?, if_neg hc] at hn
      · cases hn
        exact Nat.zero_le _
      · exact fun h _ => hunderscore h
      · exact fun _ _ h _ => hunderscore h

/-- A text is written in digits, but is no numeral: not all of them are decimal, or they are more
    than a numeral may have. -/
def OddDigits (s : String) : Prop :=
  allDigits s = true ∧
    ((∃ c ∈ s.toList, decimalValue? c = none) ∨ digitLimit < s.toList.length)

theorem trimMargins_of_allDigits (h : allDigits s = true) : trimMargins s = s.toList := by
  rw [← trimMargins_of_forall fun c hc => isMargin_of_isDigit ((allDigits_iff.mp h).2 c hc),
    String.ofList_toList]

theorem ne_cons_of_digits (h : ∀ c ∈ cs, isDigit c = true) (hc : isDigit c = false)
    (rest : List Char) : cs ≠ c :: rest := fun he => by
  cases (h c (he ▸ List.mem_cons_self)).symm.trans hc

theorem dropSign_of_digits (h : ∀ c ∈ cs, isDigit c = true) : dropSign cs = cs := by
  unfold dropSign
  split
  · exact absurd rfl (ne_cons_of_digits h (by decide) _)
  · exact absurd rfl (ne_cons_of_digits h (by decide) _)
  · rfl

theorem tooManyDigits?_of_allDigits (h : allDigits s = true) :
    tooManyDigits? s = (leadingDigits? s.toList).filter (digitLimit < ·) := by
  have hdigits := (allDigits_iff.mp h).2
  rw [tooManyDigits?, trimMargins_of_allDigits h, dropSign_of_digits hdigits]
  split
  · exact absurd ‹_› (ne_cons_of_digits hdigits (by decide) _)
  · rfl

theorem integer?_eq_none_iff (h : ∀ c ∈ cs, isDigit c = true) (hne : cs ≠ []) :
    integer? cs = none ↔ ∃ c ∈ cs, decimalValue? c = none := by
  rw [← natural?_eq_none_iff h hne]
  unfold integer?
  split
  · exact absurd rfl (ne_cons_of_digits h (by decide) _)
  · exact absurd rfl (ne_cons_of_digits h (by decide) _)
  · exact Option.map_eq_none_iff

/-- A text of digits is no numeral exactly if one of them is not decimal, or if they are too
    many. -/
theorem readInt?_eq_none_iff (h : allDigits s = true) : readInt? s = none ↔ OddDigits s := by
  obtain ⟨hne, hdigits⟩ := allDigits_iff.mp h
  rw [readInt?, OddDigits, trimMargins_of_allDigits h, tooManyDigits?_of_allDigits h,
    ite_eq_left_iff, integer?_eq_none_iff hdigits hne]
  constructor
  · intro hnone
    refine ⟨h, ?_⟩
    cases hcount : (leadingDigits? s.toList).filter (digitLimit < ·) with
    | none => exact .inl (hnone (by rw [hcount]; exact Bool.false_ne_true))
    | some n =>
      obtain ⟨hn, hlimit⟩ := Option.filter_eq_some_iff.mp hcount
      exact .inr (Nat.lt_of_lt_of_le (of_decide_eq_true hlimit) (leadingDigits?_le hdigits hn))
  · rintro ⟨-, hodd | hlong⟩ hfew
    · exact hodd
    · by_contra hdecimal
      have hall : ∀ c ∈ s.toList, (decimalValue? c).isSome = true := fun c hc =>
        Option.isSome_iff_ne_none.mpr fun he => hdecimal ⟨c, hc, he⟩
      rw [leadingDigits?_of_decimal hall, Option.filter_some, if_pos (by simpa using hlong)] at hfew
      exact hfew rfl

/-! ## Long numerals -/

/-- A number that is not less than a power of ten has more digits than the exponent says. -/
theorem lt_digitCount {k n : Nat} (h : 10 ^ k ≤ n) : k < digitCount n := by
  unfold digitCount
  rw [Int.natAbs_natCast]
  induction k generalizing n with
  | zero => exact List.length_pos_iff.mpr Nat.toDigits_ne_nil
  | succ k ih =>
    rw [pow_succ] at h
    have hten : 10 ≤ n := by
      have : 0 < 10 ^ k := Nat.pow_pos (by decide)
      omega
    have hrest := ih (n := n / 10) (by omega)
    rw [Nat.toDigits_eq_if (by decide), if_neg (by omega), List.length_append,
      List.length_singleton]
    omega

end AlbListener.Text
