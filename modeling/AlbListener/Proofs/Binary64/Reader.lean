import Mathlib.Data.List.DropRight
import Mathlib.Data.List.TakeWhile
import Mathlib.Tactic.SplitIfs
import AlbListener.Binary64.Reader

/-!
# Texts that spell a NaN

A text stands for a NaN if it spells the word, in letters of any case, with a sign or without and
between margins (`SpellsNaN`). Every other text that stands for a double stands for an infinity or
for a decimal number, which is rounded to a double and never to a NaN.

Results:
* `dropUnderscores?_eq_self`: between letters there is no underscore to be dropped.
* `stands_of_read?`: what texts stand for.
* `read?_eq_nan_iff`: the texts that stand for a NaN are those that spell it.
-/

namespace AlbListener

/-! ## Margins -/

namespace Text

variable {before cs after : List Char}

/-- What is left of a text stands between margins. -/
theorem exists_margins (s : String) : ∃ before after, s.toList = before ++ trimMargins s ++ after ∧
    (∀ c ∈ before, isMargin c = true) ∧ ∀ c ∈ after, isMargin c = true := by
  refine ⟨s.toList.takeWhile isMargin, (s.toList.dropWhile isMargin).rtakeWhile isMargin, ?_,
    fun c => List.mem_takeWhile_imp, fun c => List.mem_rtakeWhile_imp⟩
  rw [trimMargins, ← List.rdropWhile, List.append_assoc, List.rdropWhile_append_rtakeWhile,
    List.takeWhile_append_dropWhile]

/-- What has no margins of its own is left of a text in which it stands between margins. -/
theorem trimMargins_append {s : String} (hs : s.toList = before ++ cs ++ after)
    (hb : ∀ c ∈ before, isMargin c = true) (ha : ∀ c ∈ after, isMargin c = true)
    (hcs : ∀ c ∈ cs, isMargin c = false) (hne : cs ≠ []) : trimMargins s = cs := by
  have hfront : (cs ++ after).dropWhile isMargin = cs ++ after := by
    obtain ⟨c, rest, rfl⟩ := List.exists_cons_of_ne_nil hne
    exact List.dropWhile_cons_of_neg (by simp [hcs c List.mem_cons_self])
  have hback : (after.reverse ++ cs.reverse).dropWhile isMargin = cs.reverse := by
    rw [List.dropWhile_append_of_pos (by simpa using ha)]
    exact dropWhile_of_forall (by simpa using hcs)
  rw [trimMargins, hs, List.append_assoc, List.dropWhile_append_of_pos hb, hfront,
    List.reverse_append, hback, List.reverse_reverse]

end Text

namespace Binary64

variable {negative : Bool} {cs ds : List Char} {c : Char} {x : Binary64}

/-! ## Digits and underscores -/

theorem isDigit_digitChar : ∀ d < 10, d.digitChar.isDigit = true := by decide

theorem decimalValue?_lt {d : ℕ} (h : Text.decimalValue? c = some d) : d < 10 := by
  obtain ⟨first, hfind, rfl⟩ := Option.map_eq_some_iff.mp h
  have hrange := List.find?_some hfind
  simp only [Bool.and_eq_true, decide_eq_true_eq] at hrange
  omega

/-- What is no digit in the end was none before. -/
theorem asciiDigit_eq_self (h : (asciiDigit c).isDigit = false) : asciiDigit c = c := by
  unfold asciiDigit at h ⊢
  split at h
  · rename_i d hd
    exact absurd (isDigit_digitChar d (decimalValue?_lt hd)) (by simp [h])
  · rfl

/-- Underscores are dropped between digits only. -/
theorem dropUnderscores?_eq_self {after : Bool} (h : dropUnderscores? after cs = some ds)
    (hd : ∀ c ∈ ds, c.isDigit = false) : cs = ds := by
  fun_induction dropUnderscores? after cs generalizing ds with
  | case1 =>
    cases h
    rfl
  | case2 after c rest hbetween ih =>
    -- the digit behind the underscore is kept
    obtain ⟨more, -, rfl⟩ := Option.map_eq_some_iff.mp h
    have hc := hd c List.mem_cons_self
    rw [hc, Bool.and_false] at hbetween
    cases hbetween
  | case3 => cases h
  | case4 => cases h
  | case5 after c rest _ _ ih =>
    obtain ⟨more, hmore, rfl⟩ := Option.map_eq_some_iff.mp h
    rw [ih hmore (List.forall_mem_cons.mp hd).2]

/-! ## What texts stand for -/

theorem carry_ne_nan (negative : Bool) (significand exponent : ℕ) :
    carry negative significand exponent ≠ .nan := by
  unfold carry
  split_ifs <;> dsimp only <;> split_ifs <;> exact nofun

/-- A decimal is rounded to a number. -/
theorem ofDecimal_ne_nan (negative : Bool) (digits : ℕ) (exponent : ℤ) :
    ofDecimal negative digits exponent ≠ .nan := by
  unfold ofDecimal
  split_ifs
  · exact nofun
  · exact nofun
  · exact nofun
  · exact carry_ne_nan _ _ _
  · exact carry_ne_nan _ _ _

theorem ofNumeral?_eq_some (h : ofNumeral? negative cs = some x) :
    ∃ digits exponent, x = ofDecimal negative digits exponent := by
  rw [ofNumeral?, Option.ite_none_left_eq_some] at h
  obtain ⟨exponent, -, rfl⟩ := Option.map_eq_some_iff.mp h.2
  exact ⟨_, _, rfl⟩

/-- The word for a NaN, in letters of any case. -/
def NaNWord (cs : List Char) : Prop := cs.map Char.toLower = ['n', 'a', 'n']

/-- What a text can stand for: an infinity, a NaN if it spells one, or a decimal number. -/
inductive Stands (spellsNaN : Prop) : Binary64 → Prop
  | infinite (negative : Bool) : Stands spellsNaN (.infinite negative)
  | nan (h : spellsNaN) : Stands spellsNaN .nan
  | decimal (negative : Bool) (digits : ℕ) (exponent : ℤ) :
      Stands spellsNaN (ofDecimal negative digits exponent)

variable {P Q : Prop}

theorem Stands.mono (h : Stands P x) (hPQ : P → Q) : Stands Q x := by
  cases h with
  | infinite negative => exact .infinite negative
  | nan h => exact .nan (hPQ h)
  | decimal negative digits exponent => exact .decimal negative digits exponent

theorem Stands.of_nan (h : Stands P .nan) : P := by
  generalize hx : Binary64.nan = x at h
  cases h with
  | infinite => cases hx
  | nan h => exact h
  | decimal negative digits exponent => exact absurd hx.symm (ofDecimal_ne_nan _ _ _)

theorem stands_of_ofUnsigned? (h : ofUnsigned? negative cs = some x) : Stands (NaNWord cs) x := by
  unfold ofUnsigned? at h
  dsimp only at h
  split_ifs at h with hinfinite hnan
  · cases h
    exact .infinite negative
  · cases h
    exact .nan (String.ofList_injective hnan)
  · obtain ⟨digits, exponent, rfl⟩ := ofNumeral?_eq_some h
    exact .decimal negative digits exponent

theorem NaNWord.ofUnsigned? (h : NaNWord cs) : ofUnsigned? negative cs = some .nan := by
  rw [Binary64.ofUnsigned?, h]
  rfl

/-- A letter is a small letter or the capital letter for it. -/
theorem eq_or_eq_of_toLower {small capital : Char} (h : c.toLower = small)
    (hs : capital.toNat + 32 = small.toNat) : c = small ∨ c = capital := by
  unfold Char.toLower at h
  split_ifs at h with hupper
  · have hle : c.toNat ≤ 90 := hupper.2
    have hsum : (c.val + 32).toNat = c.toNat + 32 := by
      rw [UInt32.toNat_add]
      exact Nat.mod_eq_of_lt (Nat.lt_of_le_of_lt (Nat.add_le_add_right hle _) (by decide))
    have hcode : c.toNat + 32 = small.toNat := hsum.symm.trans (congrArg Char.toNat h)
    exact .inr (Char.ext (UInt32.toNat_inj.mp (Nat.add_right_cancel (hcode.trans hs.symm))))
  · exact .inl h

/-- The letters of the word. -/
def nanLetters : List Char := ['n', 'N', 'a', 'A']

theorem NaNWord.mem_letters (h : NaNWord cs) (hc : c ∈ cs) : c ∈ nanLetters := by
  have hmem : c.toLower ∈ ['n', 'a', 'n'] := h ▸ List.mem_map_of_mem hc
  have hn (h : c.toLower = 'n') : c ∈ nanLetters := by
    have hcase : 'N'.toNat + 32 = 'n'.toNat := rfl
    rcases eq_or_eq_of_toLower h hcase with rfl | rfl <;> decide
  have ha (h : c.toLower = 'a') : c ∈ nanLetters := by
    have hcase : 'A'.toNat + 32 = 'a'.toNat := rfl
    rcases eq_or_eq_of_toLower h hcase with rfl | rfl <;> decide
  rcases List.mem_cons.mp hmem with h | hmem
  · exact hn h
  · rcases List.mem_pair.mp hmem with h | h
    · exact ha h
    · exact hn h

/-- A sign, or none. -/
def Sign (cs : List Char) : Prop := cs = [] ∨ cs = ['+'] ∨ cs = ['-']

/-- The word for a NaN, with a sign or without. -/
def SignedNaN (cs : List Char) : Prop := ∃ sign word, cs = sign ++ word ∧ Sign sign ∧ NaNWord word

theorem stands_of_ofSigned? (h : ofSigned? cs = some x) : Stands (SignedNaN cs) x := by
  unfold ofSigned? at h
  split at h
  · exact (stands_of_ofUnsigned? h).mono fun hw => ⟨['-'], _, rfl, .inr (.inr rfl), hw⟩
  · exact (stands_of_ofUnsigned? h).mono fun hw => ⟨['+'], _, rfl, .inr (.inl rfl), hw⟩
  · exact (stands_of_ofUnsigned? h).mono fun hw => ⟨[], _, rfl, .inl rfl, hw⟩

theorem SignedNaN.ofSigned? (h : SignedNaN cs) : ofSigned? cs = some .nan := by
  obtain ⟨sign, word, rfl, hs, hw⟩ := h
  have hletter : ∀ c ∈ nanLetters, c ≠ '-' ∧ c ≠ '+' :=
    List.forall_iff_forall_mem.mp (by decide)
  rcases hs with rfl | rfl | rfl
  · rw [List.nil_append, Binary64.ofSigned?]
    · exact hw.ofUnsigned?
    · rintro rest rfl
      exact (hletter '-' (hw.mem_letters List.mem_cons_self)).1 rfl
    · rintro rest rfl
      exact (hletter '+' (hw.mem_letters List.mem_cons_self)).2 rfl
  · exact hw.ofUnsigned?
  · exact hw.ofUnsigned?

theorem SignedNaN.ne_nil (h : SignedNaN cs) : cs ≠ [] := by
  rintro rfl
  cases h.ofSigned?

/-- What it is written in are no digits, margins or underscores. -/
theorem SignedNaN.of_mem (h : SignedNaN cs) (hc : c ∈ cs) : c.isDigit = false ∧ asciiDigit c = c ∧
    Text.isMargin c = false ∧ c ≠ '_' := by
  have hplain : ∀ c ∈ '+' :: '-' :: nanLetters, c.isDigit = false ∧ asciiDigit c = c ∧
      Text.isMargin c = false ∧ c ≠ '_' :=
    -- by its letters, not by an instance for all characters
    List.forall_iff_forall_mem.mp (by decide +kernel)
  obtain ⟨sign, word, rfl, hs, hw⟩ := h
  refine hplain c ?_
  rcases List.mem_append.mp hc with hc | hc
  · rcases hs with rfl | rfl | rfl
    · cases hc
    · rw [List.mem_singleton.mp hc]
      exact List.mem_cons_self
    · rw [List.mem_singleton.mp hc]
      exact List.mem_cons_of_mem _ List.mem_cons_self
  · exact List.mem_cons_of_mem _ (List.mem_cons_of_mem _ (hw.mem_letters hc))

/-! ## Texts that spell a NaN -/

/-- A text spells a NaN: what stands between its margins is the word, with a sign or without. -/
def SpellsNaN (s : String) : Prop :=
  ∃ before content after, s.toList = before ++ content ++ after ∧
    (∀ c ∈ before, Text.isMargin c = true) ∧ (∀ c ∈ after, Text.isMargin c = true) ∧
    SignedNaN content

/-- What texts stand for. -/
theorem stands_of_read? {s : String} (h : read? s = some x) : Stands (SpellsNaN s) x := by
  obtain ⟨cs, hcs, hsigned⟩ := Option.bind_eq_some_iff.mp h
  refine (stands_of_ofSigned? hsigned).mono fun hnan => ?_
  have hdigits : (Text.trimMargins s).map asciiDigit = cs :=
    dropUnderscores?_eq_self hcs fun c hc => (hnan.of_mem hc).1
  have hself : (Text.trimMargins s).map asciiDigit = Text.trimMargins s := by
    refine (List.map_congr_left fun c hc => asciiDigit_eq_self ?_).trans (List.map_id' _)
    exact (hnan.of_mem (hdigits ▸ List.mem_map_of_mem hc)).1
  obtain ⟨before, after, htext, hb, ha⟩ := Text.exists_margins s
  exact ⟨before, Text.trimMargins s, after, htext, hb, ha, hself ▸ hdigits ▸ hnan⟩

/-- The texts that stand for a NaN are those that spell it. -/
theorem read?_eq_nan_iff {s : String} : read? s = some .nan ↔ SpellsNaN s := by
  constructor
  · exact fun h => (stands_of_read? h).of_nan
  · rintro ⟨before, content, after, htext, hb, ha, hnan⟩
    have htrim : Text.trimMargins s = content :=
      Text.trimMargins_append htext hb ha (fun c hc => (hnan.of_mem hc).2.2.1) hnan.ne_nil
    have hself : content.map asciiDigit = content :=
      (List.map_congr_left fun c hc => (hnan.of_mem hc).2.1).trans (List.map_id' _)
    rw [read?, htrim, hself, dropUnderscores?_of_forall fun c hc => (hnan.of_mem hc).2.2.2]
    exact hnan.ofSigned?

example : SpellsNaN "\u3000-NaN\n" := read?_eq_nan_iff.mp (by decide +kernel)

end Binary64

end AlbListener
