import AlbListener.Calendar.Moment
import AlbListener.Json.Display

/-!
# Why a document is refused

A document can have the wrong shape (`Fault`: a member is missing, or a value is of a sort
that the reading step cannot take apart) or the right shape with a value that is not allowed
(`Invalid`). Each cause has one wording, which is part of the output.

Results:
* `Fault.isInvalid_iff`: the faults that count as a refused value.
-/

namespace AlbListener

/-- A value that is not allowed where it stands. -/
inductive Invalid
  | portRange (port : Json)
  | protocol (value : Json)
  | provider (value : Json)
  | eventType (value : Json)
  | integer (base : Nat) (text : String)
  | tooManyDigits (limit count : Nat)
  | longInteger (limit : Nat)
  | number (text : String)
  | notANumber
  | pairLength (index length : Nat)
  | weightedForward
  | noTargetGroup
  | noFixedStatusCode
  | noRedirectStatusCode
  | noProviderConfig (type config : String)
  | actionType (value : Json)
  | noDefaultAction
  | manyDefaultCertificates
  | request (violations : String)
  | maxAttempts
  | reconcileTimeout
  | nullCharacter
  | codePoint
  | loneSurrogate
  | logLevel (name : String)
  | time (problem : Calendar.Problem)

/-- Why a text is refused that is no numeral in a base. -/
def Invalid.ofNumeral (base : Nat) (text : String) : Invalid :=
  match (if base = 10 then Text.tooManyDigits? text else none) with
  | some count => .tooManyDigits Text.digitLimit count
  | none => .integer base text

/-- The wording of a refusal. -/
def Invalid.message : Invalid → String
  | .portRange port => "Listener port must be in 1..65535, got " ++ port.display
  | .protocol value => value.literal ++ " is not a valid ListenerProtocol"
  | .provider value => "Unknown authenticate provider: " ++ value.display
  | .eventType value => value.literal ++ " is not a valid EventType"
  | .integer base text =>
    "invalid literal for int() with base " ++ Text.natText base ++ ": "
      ++ String.ofList ((Text.quoted text).toList.take 200)
  | .tooManyDigits limit count =>
    "Exceeds the limit (" ++ Text.natText limit
      ++ " digits) for integer string conversion: value has " ++ Text.natText count ++ " digits; use sys.set_int_max_str_digits() to increase the limit"
  | .longInteger limit =>
    "Exceeds the limit (" ++ Text.natText limit ++ " digits) for integer string conversion; "
      ++ "use sys.set_int_max_str_digits() to increase the limit"
  | .number text => "could not convert string to float: " ++ Text.quoted text
  | .notANumber => "cannot convert float NaN to integer"
  | .pairLength index length =>
    "dictionary update sequence element #" ++ Text.natText index ++ " has length "
      ++ Text.natText length ++ "; 2 is required"
  | .weightedForward => "weighted forward actions are not supported"
  | .noTargetGroup => "forward action requires TargetGroupArn"
  | .noFixedStatusCode => "fixed-response action requires FixedResponseConfig.StatusCode"
  | .noRedirectStatusCode => "redirect action requires RedirectConfig.StatusCode"
  | .noProviderConfig type config => type ++ " action requires " ++ config
  | .actionType value => "Unknown action type: " ++ value.literal
  | .noDefaultAction => "A listener needs at least one default action"
  | .manyDefaultCertificates => "At most one certificate may be marked default"
  | .request violations => "Invalid listener request: " ++ violations
  | .maxAttempts => "AWS_MAX_ATTEMPTS must be at least 1"
  | .reconcileTimeout => "RECONCILE_TIMEOUT must be positive"
  | .nullCharacter => "embedded null byte"
  | .codePoint => "chr() arg not in range(0x110000)"
  | .loneSurrogate => "a surrogate without its other half is no character"
  | .logLevel name => "Unknown level: " ++ Text.quoted name
  | .time problem => problem.message

/-- What a value of some sort cannot be used for. -/
inductive Mismatch
  | subscript (kind : Json.Kind)
  | subscriptByName (kind : Json.Kind)
  | iterate (kind : Json.Kind)
  | search (kind : Json.Kind)
  | measure (kind : Json.Kind)
  | toInteger (kind : Json.Kind)
  | compare (operator : String) (left right : Json.Kind)
  | hash (kind : Json.Kind)
  | pair (index : Nat)

/-- The wording of a mismatch. -/
def Mismatch.message : Mismatch → String
  | .subscript kind => "'" ++ kind.name ++ "' object is not subscriptable"
  | .subscriptByName .arr => "list indices must be integers or slices, not str"
  | .subscriptByName _ => "string indices must be integers, not 'str'"
  | .iterate kind => "'" ++ kind.name ++ "' object is not iterable"
  | .search kind => "argument of type '" ++ kind.name ++ "' is not iterable"
  | .measure kind => "object of type '" ++ kind.name ++ "' has no len()"
  | .toInteger kind =>
    "int() argument must be a string, a bytes-like object or a real number, not '"
      ++ kind.name ++ "'"
  | .compare operator left right =>
    "'" ++ operator ++ "' not supported between instances of '" ++ left.name ++ "' and '"
      ++ right.name ++ "'"
  | .hash kind => "unhashable type: '" ++ kind.name ++ "'"
  | .pair index =>
    "cannot convert dictionary update sequence element #" ++ Text.natText index
      ++ " to a sequence"

/-- Why a step that reads a document fails. -/
inductive Fault
  | invalid (reason : Invalid)
  | mismatch (reason : Mismatch)
  | noMember (name : String)
  | noFirstMember
  | pastEnd (kind : Json.Kind)
  | noAccess (kind : Json.Kind) (operation : String)
  | infinite
  | tooLarge

/-- The wording of a fault; a missing member is named by its quoted name. -/
def Fault.message : Fault → String
  | .invalid reason => reason.message
  | .mismatch reason => reason.message
  | .noMember name => Text.quoted name
  | .noFirstMember => "0"
  | .pastEnd .str => "string index out of range"
  | .pastEnd _ => "list index out of range"
  | .noAccess kind operation => "'" ++ kind.name ++ "' object has no attribute '" ++ operation ++ "'"
  | .infinite => "cannot convert float infinity to integer"
  | .tooLarge => "int too large to convert to float"

/-- Whether a fault is that of a refused value. -/
def Fault.isInvalid : Fault → Bool
  | .invalid _ => true
  | _ => false

theorem Fault.isInvalid_iff {f : Fault} : f.isInvalid = true ↔ ∃ reason, f = .invalid reason := by
  cases f <;> simp [isInvalid]

end AlbListener
