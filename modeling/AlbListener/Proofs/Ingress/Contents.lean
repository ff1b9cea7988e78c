import AlbListener.Ingress.Annotations
import Mathlib.Data.List.DropRight
import Mathlib.Data.List.TakeWhile

/-!
# What annotations say

The content of a text is what stands between the blanks at its ends, and begins and ends with
characters that are not blank (`Text.Trimmed`). `Annotations.Says` is what an annotation says in
these terms, which is nothing if it is missing, null or blank.

Results:
* `Text.blank_or_trimmed`: a text is blank, or has a content between blanks.
* `Annotations.lookup_eq_ok_iff`: what is looked up is what the annotation says.
-/

namespace AlbListener

/-! ## Texts between blanks -/

namespace Text

/-- A text of blanks only. -/
def Blank (s : String) : Prop := ∀ c ∈ s.toList, isBlank c = true

instance (s : String) : Decidable (Blank s) := List.decidableBAll _ s.toList

/-- A text with characters at both ends that are not blank. -/
structure Trimmed (s : String) : Prop where
  ne_nil : s.toList ≠ []
  first : isBlank (s.toList.head ne_nil) = false
  last : isBlank (s.toList.getLast ne_nil) = false

theorem blank_empty : Blank "" := fun _ hc => absurd hc List.not_mem_nil

theorem Trimmed.ne_empty {s : String} (h : Trimmed s) : s ≠ "" := by
  rintro rfl
  exact h.ne_nil rfl

theorem trimmed_of_forall {s : String} (hne : s.toList ≠ [])
    (h : ∀ c ∈ s.toList, isBlank c = false) : Trimmed s :=
  ⟨hne, h _ (List.head_mem hne), h _ (List.getLast_mem hne)⟩

theorem strip_of_blank {s : String} (h : Blank s) : strip s = "" := by
  have hstrip := strip_append h blank_empty ""
  rw [String.append_empty, String.append_empty] at hstrip
  exact hstrip

theorem Trimmed.strip_eq {s : String} (h : Trimmed s) : strip s = s := by
  have hfront : s.toList.dropWhile isBlank = s.toList :=
    List.dropWhile_eq_self_iff.mpr fun _ => by
      rw [List.getElem_zero, h.first]
      exact Bool.false_ne_true
  have hback : s.toList.rdropWhile isBlank = s.toList :=
    List.rdropWhile_eq_self_iff.mpr fun _ => by
      rw [h.last]
      exact Bool.false_ne_true
  rw [strip, stripChars, hfront, ← List.rdropWhile, hback, String.ofList_toList]

theorem blank_or_trimmed (s : String) : Blank s ∨ ∃ before content after,
    s = before ++ content ++ after ∧ Blank before ∧ Blank after ∧ Trimmed content := by
  have hs := List.takeWhile_append_dropWhile (p := isBlank) (l := s.toList)
  by_cases hrest : s.toList.dropWhile isBlank = []
  · rw [hrest, List.append_nil] at hs
    exact .inl fun c hc => List.mem_takeWhile_imp (hs ▸ hc)
  · right
    have hrest' := List.rdropWhile_append_rtakeWhile (p := isBlank)
      (l := s.toList.dropWhile isBlank)
    have hfirst := List.head_dropWhile_not isBlank hrest
    set rest := s.toList.dropWhile isBlank
    -- the first character that is not blank is still there when the blanks at the end are gone
    have hne : rest.rdropWhile isBlank ≠ [] := by
      rw [ne_eq, List.rdropWhile_eq_nil_iff]
      exact fun hall => Bool.false_ne_true (hfirst.symm.trans (hall _ (List.head_mem hrest)))
    refine ⟨String.ofList (s.toList.takeWhile isBlank), String.ofList (rest.rdropWhile isBlank),
      String.ofList (rest.rtakeWhile isBlank), ?_, ?_, ?_, ?_, ?_, ?_⟩
    · rw [← String.ofList_append, ← String.ofList_append, List.append_assoc, hrest', hs,
        String.ofList_toList]
    · intro c hc
      rw [String.toList_ofList] at hc
      exact List.mem_takeWhile_imp hc
    · intro c hc
      rw [String.toList_ofList] at hc
      exact List.mem_rtakeWhile_imp hc
    · rwa [String.toList_ofList]
    · simp only [String.toList_ofList]
      rw [(List.rdropWhile_prefix isBlank rest).head hne, hfirst]
    · simp only [String.toList_ofList]
      exact Bool.eq_false_iff.mpr (List.rdropWhile_last_not isBlank rest hne)

end Text

/-! ## Annotations -/

namespace Annotations

/-- What the annotation of a name says, under the prefix of the annotations. -/
inductive Says (annotations : Annotations) (name : String) : Option String → Prop
  | missing (h : Entries.get? annotations.values (annotations.keyPrefix ++ "/" ++ name) = none) :
      Says annotations name none
  | null (h : Entries.get? annotations.values (annotations.keyPrefix ++ "/" ++ name) =
      some .null) : Says annotations name none
  | blank {s : String} (h : Entries.get? annotations.values
      (annotations.keyPrefix ++ "/" ++ name) = some (.str s)) (hs : Text.Blank s) :
      Says annotations name none
  | text (before content after : String) (h : Entries.get? annotations.values
      (annotations.keyPrefix ++ "/" ++ name) = some (.str (before ++ content ++ after)))
      (hb : Text.Blank before) (ha : Text.Blank after) (hc : Text.Trimmed content) :
      Says annotations name (some content)

theorem content?_of_blank {s : String} (h : Text.Blank s) : content? s = none := by
  rw [content?, Text.strip_of_blank h, if_pos rfl]

theorem content?_of_trimmed {before content after : String} (hb : Text.Blank before)
    (ha : Text.Blank after) (hc : Text.Trimmed content) :
    content? (before ++ content ++ after) = some content := by
  rw [content?, Text.strip_append hb ha, hc.strip_eq, if_neg hc.ne_empty]

variable {annotations : Annotations} {name : String} {text? : Option String}

theorem Says.lookup (h : annotations.Says name text?) : annotations.lookup name = .ok text? := by
  unfold Annotations.lookup key
  cases h with
  | missing h => rw [h]
  | null h => rw [h]
  | blank h hs => rw [h]; exact congrArg Except.ok (content?_of_blank hs)
  | text before content after h hb ha hc => rw [h]; exact congrArg Except.ok (content?_of_trimmed hb ha hc)

theorem says_of_lookup (h : annotations.lookup name = .ok text?) : annotations.Says name text? := by
  unfold Annotations.lookup key at h
  split at h
  · rename_i hmissing
    cases h
    exact .missing hmissing
  · rename_i hnull
    cases h
    exact .null hnull
  · rename_i s hs
    -- a text is looked up as its content
    rcases Text.blank_or_trimmed s with hblank | ⟨before, content, after, rfl, hb, ha, hc⟩
    · cases (content?_of_blank hblank).symm.trans (Except.ok.inj h)
      exact .blank hs hblank
    · cases (content?_of_trimmed hb ha hc).symm.trans (Except.ok.inj h)
      exact .text before content after hs hb ha hc
  · cases h

theorem lookup_eq_ok_iff : annotations.lookup name = .ok text? ↔ annotations.Says name text? :=
  ⟨says_of_lookup, Says.lookup⟩

/-- What an annotation says begins and ends with no blank. -/
theorem Says.trimmed {content : String} (h : annotations.Says name (some content)) :
    Text.Trimmed content := by
  cases h with
  | text _ _ _ _ _ _ hc => exact hc

end Annotations

end AlbListener
