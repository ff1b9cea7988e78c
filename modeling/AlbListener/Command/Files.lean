import AlbListener.Entries

/-!
# Files by path

The files that a command line can name stand in one directory and in those below it. A path is
walked step by step: an empty step and a single dot stay where they are, two dots lead to the
directory above, and behind a file there is nothing. Of the directories above the first one it
is only known that they are there.

Results:
* `walk_append`: a path is walked part by part.
* `stepFrom_name`: the name of a file leads to that file.
-/

namespace AlbListener

/-- What a path leads to. A path with a null character cannot be looked up. -/
inductive PathTarget
  | file (text : String)
  | directory
  | nothing
  | unusable
  deriving DecidableEq, Repr

/-- The files of a directory, by their paths from there. -/
abbrev Files := Entries String

namespace Files

/-- Where a walk along a path stands: in a directory, by the names that lead there, above all
    known directories, at a file, or nowhere. -/
inductive Position
  | within (names : List String)
  | above
  | file (text : String)
  | nowhere
  deriving DecidableEq, Repr

/-- The steps of a path. -/
def steps (path : String) : List String := (path.toList.splitOn '/').map String.ofList

/-- Whether a step stays where it is. -/
def stays (step : String) : Bool := step == "" || step == "."

/-- The names that lead to a file. -/
def namesOf (path : String) : List String := (steps path).filter fun step => !stays step

/-- The file that some names lead to. -/
def fileAt? (files : Files) (names : List String) : Option String :=
  (files.find? fun file => namesOf file.1 == names).map Prod.snd

/-- Whether some names lead to a directory, which holds a file. -/
def isDirectory (files : Files) (names : List String) : Bool :=
  files.any fun file => names.isPrefixOf (namesOf file.1)

/-- One step along a path. -/
def stepFrom (files : Files) (position : Position) (step : String) : Position :=
  match position with
  | .nowhere | .file _ => .nowhere
  | .above => if stays step || step == ".." then .above else .nowhere
  | .within names =>
    if stays step then .within names
    else if step = ".." then if names.isEmpty then .above else .within names.dropLast
    else
      match fileAt? files (names ++ [step]) with
      | some text => .file text
      | none =>
        if isDirectory files (names ++ [step]) then .within (names ++ [step]) else .nowhere

/-- The end of a walk. -/
def walk (files : Files) (start : Position) (steps : List String) : Position :=
  steps.foldl (stepFrom files) start

/-- What stands at the end of a walk. -/
def Position.target : Position → PathTarget
  | .within _ | .above => .directory
  | .file text => .file text
  | .nowhere => .nothing

/-- What a path leads to. -/
def find (files : Files) (path : String) : PathTarget :=
  if path.toList.contains '\x00' then .unusable
  else if path = "" then .nothing
  else
    let start := if path.toList.head? = some '/' then .above else .within []
    (walk files start (steps path)).target

theorem walk_append (files : Files) (start : Position) (first second : List String) :
    walk files start (first ++ second) = walk files (walk files start first) second :=
  List.foldl_append

theorem stepFrom_name {files : Files} {names : List String} {step text : String}
    (hs : stays step = false) (hd : step ≠ "..")
    (h : fileAt? files (names ++ [step]) = some text) :
    stepFrom files (.within names) step = .file text := by
  simp [stepFrom, hs, hd, h]

end Files

end AlbListener
