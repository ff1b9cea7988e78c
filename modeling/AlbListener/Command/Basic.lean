import AlbListener.Command.Files
import AlbListener.Command.Line
import AlbListener.Command.View
import AlbListener.Event.Printer
import AlbListener.Reconciler
import AlbListener.Settings
import AlbListener.Text.Control
import AlbListener.Yaml.Document
import AlbListener.Yaml.Reader

/-!
# Commands

What a command prints, and how it ends. Failures that a user can do something about are worded
for them, and every other one only stops the command. What was printed before a failure stays
printed.

Results:
* `exitCode_eq_zero_iff`: the exit code is zero exactly for a command that is done.
* `settle_ok`: a step that succeeds is not reported.
* `awaited_none`: a pass that is not answered too late ends as it does.
-/

namespace AlbListener

/-- What a command finds around it: the cloud, what stands at a path, the environment, and the
    time that events bear. -/
structure World (σ : Type) where
  cloud : Cloud σ
  find : String → PathTarget
  environment : Environment
  now : String

/-- How a command ends: it has done what it should, it reports why it cannot, its command line
    is refused, or it stops at a failure that it does not report, of a run or of a document, or
    because there is a directory where a file should be. -/
inductive Ending
  | done
  | refused (message : String)
  | usage
  | stopped (reason : Stop)
  | malformed (problem : Yaml.Problem)
  | directory

namespace Ending

/-- The exit code. -/
def exitCode : Ending → Nat
  | .done => 0
  | .usage => 2
  | .refused _ | .stopped _ | .malformed _ | .directory => 1

/-- What is written for the user about a failure. -/
def errorText : Ending → String
  | .refused message => "Error: " ++ message ++ "\n"
  | _ => ""

theorem exitCode_eq_zero_iff {e : Ending} : e.exitCode = 0 ↔ e = .done := by
  cases e <;> simp [exitCode]

end Ending

/-- What depends on time while a pass is made: which sort of call, if any, is not answered within a
    time limit, and how many turns a printer gets after each event. -/
structure Timing where
  late? : Binary64 → Option Call := fun _ => none
  turns : Nat → Nat := fun _ => 0

/-- What a command printed and how it ended. -/
structure Reply where
  output : String
  ending : Ending

/-- A reply without commands to the terminal in what is printed. -/
def Reply.plain (reply : Reply) : Reply :=
  { output := Text.stripControls reply.output
    ending :=
      match reply.ending with
      | .refused message => .refused (Text.stripControls message)
      | ending => ending }

/-- A command that is carried out, which may end early. -/
abbrev Session (σ α : Type) := ExceptT Reply (Run σ) α

namespace Session

variable {σ α : Type}

/-- Ends with something printed. -/
def finish (output : String) (ending : Ending) : Session σ α := throw ⟨output, ending⟩

/-- The value of a step behind some output. If the step failed, the command ends, and reports
    the failure if there are words for it. -/
def settle (words : Failure → Option String) (output : String) (result : Except Stop α) :
    Session σ α :=
  match result with
  | .ok value => pure value
  | .error (.failed failure) =>
    match words failure with
    | some message => finish output (.refused message)
    | none => finish output (.stopped (.failed failure))
  | .error reason => finish output (.stopped reason)

/-- No words for any failure. -/
def unreported : Failure → Option String := fun _ => none

/-- The value of a step that reads a document, which is not reported if it fails. -/
def reading (output : String) (step : Except Fault α) : Session σ α :=
  settle unreported output (step.mapError Stop.ofFault)

/-- How a session ends. -/
def reply (session : Session σ Reply) : Run σ Reply := do
  match ← (ExceptT.run session).attempt with
  | .ok (.ok reply) => return reply
  | .ok (.error reply) => return reply
  | .error reason => return ⟨"", .stopped reason⟩

theorem settle_ok (words : Failure → Option String) (output : String) (value : α) :
    settle words output (.ok value) = (pure value : Session σ α) := rfl

end Session

namespace Command

variable {σ : Type}

/-! ## Words for failures -/

/-- The report of a request that is refused. -/
def requestWords : Failure → Option String
  | .fault (.invalid reason) => some reason.message
  | .unreadable e => some e.message
  | _ => none

/-- The report of a reconciler that cannot go on. -/
def reconcileWords : Failure → Option String
  | .reconcile reason stage =>
    some (reason.kind.name ++ ": " ++ (Failure.reconcile reason stage).text)
  | _ => none

/-- The report of a call that the provider refused or that did not reach it. -/
def providerWords : Failure → Option String
  | .client code message operation =>
    some ("AWS error: " ++ (Failure.client code message operation).text)
  | .endpoint url => some ("AWS error: " ++ (Failure.endpoint url).text)
  | _ => none

/-- The report of a pass that took too long. -/
def timeoutWords (timeout : Binary64) : Failure → Option String
  | .timeout => some ("Reconciliation timed out after " ++ timeout.text ++ "s")
  | _ => none

/-! ## Requests -/

/-- A file with its name and text. -/
structure File where
  name : String
  text : String

/-- Whether a file holds YAML; every other one holds JSON. -/
def File.isYaml (file : File) : Bool :=
  ".yaml".toList.isSuffixOf file.name.toList || ".yml".toList.isSuffixOf file.name.toList

/-- The document in a file that holds YAML (`_read_document`). -/
def readYaml (file : File) : Session σ Yaml.Value :=
  match Yaml.read file.text with
  | .ok document => pure document
  | .error (.fault reason) => Session.settle requestWords "" (.error (Stop.ofFault reason))
  | .error problem => Session.finish "" (.malformed problem)

/-- The document in a file that holds JSON (`_read_document`). Its strings have to be texts, which
    half of a surrogate pair is not part of. -/
def readJson (file : File) : Session σ Json :=
  let text := String.ofList (Text.unifyLineEnds file.text.toList)
  if Json.isUnicode text then
    Session.settle requestWords ""
      ((Json.readWithin .standard text).mapError fun e => .failed e.asFailure)
  else Session.settle requestWords "" (.error (Stop.ofFault (.invalid .loneSurrogate)))

/-- The settings of the environment (`get_config`). -/
def loadSettings (world : World σ) : Session σ Settings :=
  Session.reading "" (Settings.ofEnvironment world.environment)

/-- The request that a document describes. -/
def requestOf {α : Type} [Document α] (settings : Settings) (document : α) :
    Session σ Request := do
  let run : Run σ Request := Request.load document settings.pass.annotationPrefix none
  Session.settle requestWords "" (← run.attempt)

/-- The request in a file (`_load_request`). -/
def loadRequest (settings : Settings) (file : File) : Session σ Request := do
  if file.isYaml then requestOf settings (← readYaml file)
  else requestOf settings (← readJson file)

/-- The desired listener of a request. -/
def desired (request : Request) : Session σ ListenerConfig :=
  Session.settle reconcileWords "" (request.build.mapError Stop.failed)

/-! ## The commands -/

/-- Shows the desired listener (`render`). -/
def showDesired (world : World σ) (file : File) (format : OutputFormat) : Session σ Reply := do
  let request ← loadRequest (← loadSettings world) file
  let config ← desired request
  let output ←
    match format with
    | .json => pure (View.configJson config)
    | .yaml => pure (View.configYaml config)
    | .table => Session.reading "" (View.configTable config)
  return ⟨output ++ "\n", .done⟩

/-- Shows how the live listener differs from the desired one (`plan`). -/
def showDrift (world : World σ) (file : File) : Session σ Reply := do
  let request ← loadRequest (← loadSettings world) file
  let config ← desired request
  let described ← (world.cloud.describe request.loadBalancerArn request.port.port).attempt
  match ← Session.settle providerWords "" described with
  | none =>
    return ⟨"No listener on port " ++ request.port.port.display ++ ": a " ++ config.protocol.name
      ++ " listener will be created\n", .done⟩
  | some live =>
    let drifts ← Session.reading "" (live.drifts config)
    if drifts.isEmpty then
      return ⟨"✓ Listener " ++ live.arn.display ++ " is up to date\n", .done⟩
    else
      let columns ← Session.reading "" (View.driftColumns drifts)
      let head := "Listener " ++ live.arn.display ++ " will be modified:\n"
      let table ← Session.reading head (Table.grid columns)
      return ⟨head ++ table ++ "\n", .done⟩

/-- What is shown of the events of a pass that are watched, which is what a printer prints of them.
    Whatever its bus reports is recorded. -/
def showEvents (watch : Bool) (turns : Nat → Nat) (events : List Event) : Run σ String :=
  if watch then do
    let printer := Printer.ofEvents turns events
    Run.record printer.records
    return printer.output
  else return ""

/-- Whether a pass made a call of a sort. The first one of every pass describes the live listener. -/
def madeCall (trace : List Effect) (call : Call) : Bool :=
  call == .describe || (trace.filterMap Effect.call?).contains call

/-- How a pass ends that is waited for (`asyncio.wait_for`): if it was cancelled because a call was
    answered too late, this is a failure of its own. -/
def awaited (late? : Option Call) (trace : List Effect) :
    Except Stop Result → Except Stop Result
  | .error .cancelled =>
    if late?.any (madeCall trace) then .error (.failed .timeout) else .error .cancelled
  | result => result

/-- A pass that is not answered too late ends as it does. -/
theorem awaited_none (trace : List Effect) (result : Except Stop Result) :
    awaited none trace result = result := by
  rcases result with (_ | _) | _ <;> rfl

/-- Brings the desired listener about (`apply`), and shows the events of the pass if they are
    watched. However the pass ends, its events are shown first. -/
def bringAbout (world : World σ) (file : File) (watch : Bool) (timing : Timing := {}) :
    Session σ Reply := do
  let settings ← loadSettings world
  let request ← loadRequest settings file
  let late? := timing.late? settings.pass.timeout
  let reconciler : Reconciler σ :=
    { cloud := world.cloud.late late?, rules := .unmanaged, announces := watch, now := world.now }
  let (result, trace) ← (reconciler.converge request).observe
  let shown : Run σ String := showEvents watch timing.turns (trace.filterMap Effect.published)
  let events ← shown
  let words (failure : Failure) : Option String :=
    (reconcileWords failure).or ((providerWords failure).or
      (timeoutWords settings.pass.timeout failure))
  let result ← Session.settle words events (awaited late? trace result)
  return ⟨events ++ "Listener: " ++ result.listener.arn.display ++ "\nResult: "
    ++ result.type.name ++ "\n", .done⟩

/-- The name of the file of a command. -/
def fileName : Command → String
  | .render file _ => file
  | .plan file => file
  | .apply file _ => file

/-- Carries out a command on its file. -/
def perform (world : World σ) (file : File) (command : Command) (timing : Timing := {}) :
    Session σ Reply :=
  match command with
  | .render _ format => showDesired world file format
  | .plan _ => showDrift world file
  | .apply _ watch => bringAbout world file watch timing

/-- The names of the levels of what is recorded. -/
def levelNames : List String :=
  ["CRITICAL", "FATAL", "ERROR", "WARN", "WARNING", "INFO", "DEBUG", "NOTSET"]

/-- Sets the level of what is recorded (`logging.basicConfig`), which has to be a known one. -/
def setLevel (level : String) : Session σ Unit :=
  if Text.upper level ∈ levelNames then pure ()
  else Session.finish "" (.stopped (Stop.ofFault (.invalid (.logLevel (Text.upper level)))))

/-- Sets the level that is given, or else the one of the settings. -/
def chooseLevel (world : World σ) (level? : Option String) : Session σ Unit := do
  let given := level?.getD ""
  if given.isEmpty then setLevel (← loadSettings world).pass.logLevel
  else setLevel given

/-- Carries out a command line (`cli`). The level of what is recorded is set first. -/
def performLine (world : World σ) (args : List String) (timing : Timing := {}) :
    Session σ Reply := do
  match CommandLine.ofArgs? args with
  | none => Session.finish "" .usage
  | some invocation =>
    chooseLevel world invocation.logLevel?
    match invocation.command? with
    | none => Session.finish "" .usage
    | some command =>
      match world.find command.fileName with
      | .nothing => Session.finish "" .usage
      | .unusable => Session.finish "" (.stopped (Stop.ofFault (.invalid .nullCharacter)))
      | .directory =>
        let _ ← loadSettings world
        Session.finish "" .directory
      | .file text => perform world ⟨command.fileName, text⟩ command timing

/-- What a command line prints, and how it ends, at some pace of what it waits for. Nothing that is
    printed is a command to the terminal. -/
def runTimed (timing : Timing) (world : World σ) (args : List String) : Run σ Reply := do
  return (← (performLine world args timing).reply).plain

/-- What a command line prints, and how it ends, if every call is answered in time. -/
def run (world : World σ) (args : List String) : Run σ Reply := runTimed {} world args

end Command

end AlbListener
