import AlbListener.Action.Document
import AlbListener.Failure
import AlbListener.Text.Blank

/-!
# Annotations

The annotations of an ingress that concern its load balancer begin with a prefix and a slash.
They name the certificate and the TLS policy and define actions. An annotation is read only
when it is asked for, without the blanks around it; a blank one counts as missing.

The document of an action is read within limits. Only a mistake in it is reported as one: a
document that exceeds a limit fails in another way.

Results:
* `lookup_eq_ok_none_iff`: when an annotation counts as missing.
* `checkDepth_eq_ok_iff`: which actions are kept.
-/

namespace AlbListener

/-- The annotations of an ingress and the prefix of those that concern its load balancer
    (`IngressAnnotations`). -/
structure Annotations where
  keyPrefix : String
  values : List (String × Json)

namespace Annotations

/-- The prefix that is used if no other is configured. -/
def defaultPrefix : String := "alb.ingress.kubernetes.io"

/-- The full name of an annotation. -/
def key (annotations : Annotations) (name : String) : String :=
  annotations.keyPrefix ++ "/" ++ name

/-- The text without blanks around it, unless nothing is left. -/
def content? (s : String) : Option String :=
  if Text.strip s = "" then none else some (Text.strip s)

/-- The content of an annotation (`_get`). -/
def lookup (annotations : Annotations) (name : String) : Except Fault (Option String) :=
  match Entries.get? annotations.values (annotations.key name) with
  | none | some .null => .ok none
  | some (.str s) => .ok (content? s)
  | some other => .error (.noAccess other.kind "strip")

/-- The certificate that an HTTPS listener uses (`certificate_arn`). -/
def certificateArn (annotations : Annotations) : Except Fault (Option String) :=
  annotations.lookup "certificate-arn"

/-- The TLS policy that an HTTPS listener uses (`ssl_policy`). -/
def sslPolicy (annotations : Annotations) : Except Fault (Option String) :=
  annotations.lookup "ssl-policy"

/-- The rest of a text after a given beginning. -/
def after? : List Char → List Char → Option (List Char)
  | [], rest => some rest
  | _ :: _, [] => none
  | p :: ps, c :: cs => if p = c then after? ps cs else none

/-- The names of the actions that are defined, in order (`action_names`). -/
def actionNames (annotations : Annotations) : List String :=
  let marker := (annotations.key "actions.").toList
  sortTexts (annotations.values.filterMap fun entry =>
    (after? marker entry.1.toList).map String.ofList)

/-! ## Actions -/

/-- The service whose action is built in. -/
def notFoundService : String := "response-404"

/-- The action for requests that have no route (`default_404_action`). -/
def notFoundAction : Action := .fixedResponse (.str "404") (.str "text/plain") .null

/-- A failure to resolve the action of a service. -/
def failure (service : Json) (problem : AnnotationProblem) : Failure :=
  .reconcile (.action service problem) .null

/-- An action that has been read, unless its settings are nested too deep (`_freeze`). -/
def checkDepth (limits : Limits) (a : Action) : Except Failure Action :=
  if limits.settings?.any (· < a.depth) then .error (.runtime "maximum recursion depth exceeded")
  else .ok a

/-- The failure to read the document of an action. -/
def readFailure (service : Json) (e : Json.ReadError) : Failure :=
  if e.problem.isExcess then e.asFailure else failure service (.unreadable e)

/-- The action that a document in an annotation describes (`get_action`). -/
def parseAction (service : Json) (text : String) (limits : Limits := .standard) :
    Except Failure Action :=
  match Json.readWithin limits text with
  | .error e => .error (readFailure service e)
  | .ok (.obj members) =>
    match Action.ofDocument (.obj members) with
    | .ok action => checkDepth limits action
    | .error (.invalid reason) => .error (failure service (.invalid reason))
    | .error fault => .error (.fault fault)
  | .ok _ => .error (failure service .notObject)

/-- The action of a service (`get_action`). -/
def action (annotations : Annotations) (service : Json) (limits : Limits := .standard) :
    Except Failure Action :=
  if service.equals (.str notFoundService) then .ok notFoundAction else
    match annotations.lookup ("actions." ++ service.display) with
    | .error fault => .error (.fault fault)
    | .ok none => .error (failure service .unset)
    | .ok (some text) => parseAction service text limits

/-! ## Comparison and display -/

/-- Whether two sets of annotations are the same (`__eq__`). -/
def same (a b : Annotations) : Bool :=
  a.keyPrefix == b.keyPrefix && (Json.obj a.values).same (.obj b.values)

/-- The annotations as a literal, by the prefix and the names (`__repr__`). -/
def literal (annotations : Annotations) : String :=
  let names := sortTexts (annotations.values.map Prod.fst)
  "IngressAnnotations(prefix=" ++ Text.quoted annotations.keyPrefix ++ ", keys="
    ++ (Json.arr (names.map Json.str)).literal ++ ")"

theorem lookup_eq_ok_none_iff (annotations : Annotations) (name s : String)
    (h : Entries.get? annotations.values (annotations.key name) = some (.str s)) :
    annotations.lookup name = .ok none ↔ Text.strip s = "" := by
  simp [lookup, h, content?]

theorem checkDepth_eq_ok_iff {limits : Limits} {a b : Action} :
    checkDepth limits a = .ok b ↔ a = b ∧ ∀ depth ∈ limits.settings?, a.depth ≤ depth := by
  unfold checkDepth
  split
  · rename_i h
    refine iff_of_false (fun h => by cases h) fun ⟨_, hdepth⟩ => ?_
    cases hs : limits.settings? with
    | none => simp [hs] at h
    | some depth => simp [hs] at h hdepth; omega
  · rename_i h
    cases hs : limits.settings? with
    | none => simp
    | some depth => simp [hs] at h ⊢; omega

end Annotations

end AlbListener
