import AlbListener.Action.Basic
import AlbListener.Json.Access

/-!
# Action documents

An action is read from the document by which the provider, or an annotation, describes it.
Its place among the actions (`Order`) is not part of it. A document that is refused describes
an action that cannot be expressed; on a live listener such an action is kept as it is.

Results:
* `ofObserved_eq_ofDocument`: a document that is not refused is read alike in both places.
-/

namespace AlbListener.Action

/-- A forward to the one target group, named at the top or in the list of groups. -/
def forwardOf (data : Json) : Except Fault Action := do
  let config := (← data.getD "ForwardConfig" .null).orElse (.obj [])
  let groups := (← config.getD "TargetGroups" .null).orElse (.arr [])
  if (← groups.size) > 1 then .error (.invalid .weightedForward) else
    let arn ← data.getD "TargetGroupArn" .null
    let arn ←
      if !arn.isTruthy && groups.isTruthy then do (← groups.first).getD "TargetGroupArn" .null
      else pure arn
    if arn.isTruthy then .ok (.forward arn) else .error (.invalid .noTargetGroup)

/-- A fixed response; its status code is a text. -/
def fixedResponseOf (data : Json) : Except Fault Action := do
  let config := (← data.getD "FixedResponseConfig" .null).orElse (.obj [])
  if !(← config.mentions "StatusCode") then .error (.invalid .noFixedStatusCode) else
    let status ← config.member "StatusCode"
    return .fixedResponse (.str status.display) (← config.getD "ContentType" .null)
      (← config.getD "MessageBody" .null)

/-- A redirect; the components that are missing are taken over from the request. -/
def redirectOf (data : Json) : Except Fault Action := do
  let config := (← data.getD "RedirectConfig" .null).orElse (.obj [])
  if !(← config.mentions "StatusCode") then .error (.invalid .noRedirectStatusCode) else
    let status ← config.member "StatusCode"
    return .redirect status (← config.getD "Protocol" keepProtocol)
      (.str (← config.getD "Port" keepPort).display) (← config.getD "Host" keepHost)
      (← config.getD "Path" keepPath) (← config.getD "Query" keepQuery)

/-- An authentication by a provider, whose settings have to be given. -/
def authenticateOf (provider : Provider) (data : Json) : Except Fault Action := do
  if !(← data.mentions provider.configName) then
    .error (.invalid (.noProviderConfig (ActionType.authenticate provider).name provider.configName))
  else
    return authenticateWith provider (← (← data.member provider.configName).toMembers) .null

/-- The type that a value names. -/
def typeOf? : Json → Option ActionType
  | .str s => ActionType.ofName? s
  | _ => none

/-- The action that a document describes (`action_from_api`). -/
def ofDocument (data : Json) : Except Fault Action := do
  let type ← data.getD "Type" .null
  match typeOf? type with
  | some .forward => forwardOf data
  | some .fixedResponse => fixedResponseOf data
  | some .redirect => redirectOf data
  | some (.authenticate provider) => authenticateOf provider data
  | none => .error (.invalid (.actionType type))

/-- The action that keeps a document as it is, without its place among the actions
    (`UnmanagedAction.from_api`). -/
def unmanagedOf (data : Json) : Except Fault Action :=
  match data with
  | .obj members =>
    let members := Entries.erase members "Order"
    let type := (Entries.get? members "Type").getD .null
    .ok (.unmanaged type.display (Json.obj members).sorted.render)
  | other => .error (.noAccess other.kind "items")

/-- The action that a document on a live listener describes (`observed_action_from_api`). -/
def ofObserved (data : Json) : Except Fault Action :=
  match ofDocument data with
  | .error (.invalid _) => unmanagedOf data
  | result => result

/-- The provider that a value names. -/
def providerOf (value : Json) : Except Fault Provider :=
  match value with
  | .str s =>
    match Provider.ofName? s with
    | some provider => .ok provider
    | none => .error (.invalid (.provider value))
  | other =>
    if other.isCompound then .error (.mismatch (.hash other.kind))
    else .error (.invalid (.provider value))

/-- An authenticate action with a named provider, the settings given and a secret. -/
def authenticateFrom (provider config secret : Json) : Except Fault Action := do
  return authenticateWith (← providerOf provider) (← config.toMembers) secret

theorem ofObserved_eq_ofDocument {data : Json} {a : Action} (h : ofDocument data = .ok a) :
    ofObserved data = .ok a := by simp [ofObserved, h]

end AlbListener.Action
