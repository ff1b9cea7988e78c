import AlbListener.Proofs.Json.OneLine

/-!
# Texts of whole characters

The text of a value names characters as a whole: one that takes two units is escaped as a pair of
surrogates, and no other unit that is escaped is a surrogate. So a document that is written into a
file is not refused for its strings.

Results:
* `paired_escape`: a character is written as a whole.
* `isUnicode_render`: so are all characters of a value.
-/

namespace AlbListener.Json

/-! ## Codes -/

/-- A code that is no surrogate leaves the others as they are. -/
theorem arePaired_cons {n : ℕ} (h : n < 0xD800 ∨ 0xE000 ≤ n) (rest : List ℕ) :
    arePaired (n :: rest) = arePaired rest := by
  have hnone : (0xD800 ≤ n && n < 0xE000) = false := by
    simp only [Bool.and_eq_false_iff, decide_eq_false_iff_not]
    omega
  cases rest with
  | nil => rw [arePaired, hnone]; rfl
  | cons low rest => rw [arePaired, if_neg (by omega), hnone]; rfl

/-- So does a pair of surrogates. -/
theorem arePaired_pair {high low : ℕ} (hh : 0xD800 ≤ high ∧ high < 0xDC00)
    (hl : 0xDC00 ≤ low ∧ low < 0xE000) (rest : List ℕ) :
    arePaired (high :: low :: rest) = arePaired rest := by
  rw [arePaired, if_pos ⟨hh.1, hh.2, hl.1, hl.2⟩]

theorem codes_cons {c : Char} (h : c ≠ '\\') (rest : List Char) :
    codes (c :: rest) = c.toNat :: codes rest := by
  rw [codes]
  · rintro _ _ _ _ _ rfl
    exact absurd rfl h
  · rintro _ _ rfl
    exact absurd rfl h

/-- What is escaped with one letter is none of a pair. -/
theorem codes_letter {e : Char} (h : e ≠ 'u') (rest : List Char) :
    codes ('\\' :: e :: rest) = e.toNat :: codes rest := by
  rw [codes]
  rintro _ _ _ _ _ rfl
  exact absurd rfl h

theorem codes_escapeUnit {n : ℕ} (h : n < 0x10000) (rest : List Char) :
    codes (escapeUnit n ++ rest) = n :: codes rest := by
  have hhex := Text.hexValueOf?_fixedHex4 h
  obtain ⟨a, b, c, d, hdigits⟩ : ∃ a b c d, Text.fixedHex 4 n = [a, b, c, d] := ⟨_, _, _, _, rfl⟩
  rw [hdigits] at hhex
  rw [escapeUnit, hdigits]
  show codes ('\\' :: 'u' :: a :: b :: c :: d :: rest) = _
  rw [codes, hhex]

/-! ## Texts -/

/-- A text of whole characters: whether surrogates are paired depends on what follows it alone. -/
def Paired (cs : List Char) : Prop :=
  ∀ rest, arePaired (codes (cs ++ rest)) = arePaired (codes rest)

theorem paired_append {cs ds : List Char} (hc : Paired cs) (hd : Paired ds) : Paired (cs ++ ds) :=
  fun rest => by rw [List.append_assoc, hc, hd]

/-- A text in which nothing is escaped. -/
theorem paired_of_plain {cs : List Char} (h : ∀ c ∈ cs, c ≠ '\\') : Paired cs := by
  induction cs with
  | nil => exact fun _ => rfl
  | cons c rest ih =>
    obtain ⟨hc, hrest⟩ := List.forall_mem_cons.mp h
    intro more
    rw [List.cons_append, codes_cons hc, arePaired_cons (not_surrogate c), ih hrest]

theorem paired_letter {e : Char} (h : e ≠ 'u') : Paired ['\\', e] := fun rest => by
  rw [List.cons_append, List.singleton_append, codes_letter h, arePaired_cons (not_surrogate e)]

/-- A character is written as a whole. -/
theorem paired_escape (c : Char) : Paired (escape c) := by
  unfold escape
  iterate 7
    split
    case isTrue => exact paired_letter (by decide)
  split_ifs with hplain hbasic
  · exact paired_of_plain (List.forall_mem_singleton.mpr ‹_›)
  · intro rest
    rw [codes_escapeUnit hbasic, arePaired_cons (not_surrogate c)]
  · intro rest
    have := toNat_lt c
    rw [List.append_assoc, codes_escapeUnit (by omega), codes_escapeUnit (by omega),
      arePaired_pair (by omega) (by omega)]

theorem paired_stringChars (s : String) : Paired (stringChars s) := by
  have hquote : Paired ['"'] := paired_of_plain (List.forall_mem_singleton.mpr (by decide))
  have hescape : Paired (s.toList.flatMap escape) := by
    induction s.toList with
    | nil => exact fun _ => rfl
    | cons c rest ih => exact paired_append (paired_escape c) ih
  exact paired_append (paired_append hquote hescape) hquote

/-! ## Values -/

theorem paired_lineBreak (level : Option ℕ) : Paired (lineBreak level) := by
  refine paired_of_plain fun c hc => ?_
  cases level with
  | none => cases hc
  | some n =>
    rcases List.mem_cons.mp hc with rfl | hc
    · decide
    · obtain rfl := List.eq_of_mem_replicate hc
      decide

theorem composed_paired (indented : Bool) : Composed indented Paired where
  append := paired_append
  mark c hc := paired_of_plain <| List.forall_mem_singleton.mpr <| by
    rintro rfl
    exact absurd hc (by decide)
  lineBreak level _ := paired_lineBreak level
  scalar value level h := by
    by_cases hs : ∃ s, value = .str s
    · obtain ⟨s, rfl⟩ := hs
      exact paired_stringChars s
    · exact paired_of_plain fun c hc => (plain_scalar level h (fun s he => hs ⟨s, he⟩) c hc).2

theorem arePaired_chars (value : Json) (level : Option ℕ) :
    arePaired (codes (chars level value)) = true := by
  have hend := (composed_paired level.isSome).chars value rfl []
  rwa [List.append_nil] at hend

/-- The strings of a value that is written are read as texts. -/
theorem isUnicode_render (value : Json) : isUnicode value.render = true := by
  rw [isUnicode, render, String.toList_ofList, arePaired_chars]

end AlbListener.Json
