/-!
# Lines of a text

A line ends at a line feed, a carriage return, the pair of both, a vertical tab, a form feed,
one of the information separators U+001C to U+001E, or U+0085, U+2028, U+2029. What follows
the last line end is a line only if it is not empty.

Results:
* `splitLines_of_forall`: a text without any line end is one line.
* `splitLines_join`: lines with a line feed behind each are split into these lines.
* `not_mem_unifyLineEnds`: no carriage return is left.
* `unifyLineEnds_of_not_mem`: nothing changes where there is none.
-/

namespace AlbListener.Text

/-- Whether a character ends a line. -/
def isLineEnd (c : Char) : Bool :=
  let n := c.toNat
  (10 ≤ n && n ≤ 13) || (0x1C ≤ n && n ≤ 0x1E) || n == 0x85 || n == 0x2028 || n == 0x2029

/-- The lines of a list of characters, the current line being collected in reverse. -/
def splitLinesFrom : List Char → List Char → List (List Char)
  | [], current => if current.isEmpty then [] else [current.reverse]
  | '\r' :: '\n' :: rest, current => current.reverse :: splitLinesFrom rest []
  | c :: rest, current =>
    if isLineEnd c then current.reverse :: splitLinesFrom rest []
    else splitLinesFrom rest (c :: current)

/-- The lines of a text, without their ends. -/
def splitLines (s : String) : List String :=
  (splitLinesFrom s.toList []).map String.ofList

/-- A list of characters with every carriage return, alone or before a line feed, as a line
    feed. -/
def unifyLineEnds : List Char → List Char
  | '\r' :: '\n' :: rest => '\n' :: unifyLineEnds rest
  | c :: rest => (if c == '\r' then '\n' else c) :: unifyLineEnds rest
  | [] => []

theorem splitLinesFrom_of_forall {cs : List Char} (h : ∀ c ∈ cs, isLineEnd c = false)
    (current : List Char) :
    splitLinesFrom cs current =
      if current.isEmpty && cs.isEmpty then [] else [current.reverse ++ cs] := by
  induction cs generalizing current with
  | nil => cases current <;> simp [splitLinesFrom]
  | cons c rest ih =>
    have hc := h c (by simp)
    have hr : c ≠ '\r' := by rintro rfl; exact absurd hc (by decide)
    rw [splitLinesFrom]
    · simp [hc, ih fun d hd => h d (by simp [hd])]
    · rintro _ rfl; exact absurd rfl hr

theorem splitLines_of_forall {s : String} (h : ∀ c ∈ s.toList, isLineEnd c = false)
    (hs : s ≠ "") : splitLines s = [s] := by
  have : s.toList ≠ [] := by simpa using hs
  simp [splitLines, splitLinesFrom_of_forall h, this]

/-- The current line is over at a line feed. -/
theorem splitLinesFrom_lineFeed {cs : List Char} (h : ∀ c ∈ cs, isLineEnd c = false)
    (rest current : List Char) :
    splitLinesFrom (cs ++ '\n' :: rest) current =
      (current.reverse ++ cs) :: splitLinesFrom rest [] := by
  induction cs generalizing current with
  | nil => simp [splitLinesFrom, isLineEnd]
  | cons c cs ih =>
    have hc := h c (by simp)
    have hr : c ≠ '\r' := by rintro rfl; exact absurd hc (by decide)
    rw [List.cons_append, splitLinesFrom]
    · simp [hc, ih fun d hd => h d (by simp [hd])]
    · rintro _ rfl; exact absurd rfl hr

theorem splitLines_join {lines : List String}
    (h : ∀ line ∈ lines, ∀ c ∈ line.toList, isLineEnd c = false) :
    splitLines (String.join (lines.map (· ++ "\n"))) = lines := by
  have hend : "\n".toList = ['\n'] := rfl
  induction lines with
  | nil => rfl
  | cons line rest ih =>
    have ih := ih fun line hm => h line (List.mem_cons_of_mem _ hm)
    rw [splitLines] at ih ⊢
    rw [List.map_cons, String.join_cons, String.toList_append, String.toList_append, hend,
      List.append_assoc, List.singleton_append,
      splitLinesFrom_lineFeed (h line List.mem_cons_self), List.map_cons, ih, List.reverse_nil,
      List.nil_append, String.ofList_toList]

theorem not_mem_unifyLineEnds (cs : List Char) : '\r' ∉ unifyLineEnds cs := by
  fun_induction unifyLineEnds cs with
  | case1 rest ih => simp [ih]
  | case2 c rest _ ih =>
    refine List.not_mem_cons_of_ne_of_not_mem ?_ ih
    by_cases hc : c = '\r'
    · simp [hc]
    · simp [hc, Ne.symm hc]
  | case3 => simp

theorem unifyLineEnds_of_not_mem {cs : List Char} (h : '\r' ∉ cs) : unifyLineEnds cs = cs := by
  fun_induction unifyLineEnds cs with
  | case1 rest ih => simp at h
  | case2 c rest _ ih =>
    obtain ⟨hc, hrest⟩ : ¬ '\r' = c ∧ '\r' ∉ rest := by simpa using h
    simp [ih hrest, Ne.symm hc]
  | case3 => rfl

end AlbListener.Text
