/-!
# Blanks

The white space of Unicode 14 together with the four ASCII information separators
U+001C to U+001F. The zero-width characters U+180E, U+200B and U+FEFF are not blank.

Results:
* `isBlank_of_isWhitespace`: the space, the tab, the line feed and the carriage return are
  blank.
* `strip_append`: blanks around a text make no difference.
-/

namespace AlbListener.Text

/-- Whether a character is white space. -/
def isBlank (c : Char) : Bool :=
  let n := c.toNat
  (9 ≤ n && n ≤ 13) || (28 ≤ n && n ≤ 32) || n == 0x85 || n == 0xA0 || n == 0x1680
    || (0x2000 ≤ n && n ≤ 0x200A) || n == 0x2028 || n == 0x2029 || n == 0x202F
    || n == 0x205F || n == 0x3000

theorem isBlank_of_isWhitespace {c : Char} (h : c.isWhitespace = true) : isBlank c = true := by
  simp only [Char.isWhitespace, Bool.or_eq_true, decide_eq_true_eq] at h
  rcases h with ((rfl | rfl) | rfl) | rfl <;> decide

/-- The characters of a text without the blanks at both ends. -/
def stripChars (cs : List Char) : List Char :=
  ((cs.dropWhile isBlank).reverse.dropWhile isBlank).reverse

/-- A text without the blanks at both ends (`strip`). -/
def strip (s : String) : String :=
  String.ofList (stripChars s.toList)

theorem stripChars_append {before after : List Char} (hb : ∀ c ∈ before, isBlank c = true)
    (ha : ∀ c ∈ after, isBlank c = true) (cs : List Char) :
    stripChars (before ++ cs ++ after) = stripChars cs := by
  rw [stripChars, stripChars, List.append_assoc, List.dropWhile_append_of_pos hb,
    List.dropWhile_append]
  split
  · -- a text of blanks only
    rename_i hblank
    rw [← List.append_nil after, List.dropWhile_append_of_pos ha, List.isEmpty_iff.mp hblank]
    rfl
  · rw [List.reverse_append, List.dropWhile_append_of_pos (by simpa using ha)]

theorem strip_append {before after : String} (hb : ∀ c ∈ before.toList, isBlank c = true)
    (ha : ∀ c ∈ after.toList, isBlank c = true) (s : String) :
    strip (before ++ s ++ after) = strip s := by
  rw [strip, String.toList_append, String.toList_append, stripChars_append hb ha, ← strip]

end AlbListener.Text
