import AlbListener.Json.Equality
import AlbListener.Json.Printer
import AlbListener.Json.Reader

/-!
# Routing actions

What a listener does with a request that no rule matches. The provider describes an action by
a document; `Action` holds what this reconciler manages of it, and an action that it cannot
express is kept as its document. Members that are not set are null.

Results:
* `same_authenticate`: client secrets are not compared.
* `isUnmanaged_of_same`: an action that cannot be expressed is the same only as another one
  that cannot be.
-/

namespace AlbListener

/-- Who authenticates the users of a listener. -/
inductive Provider
  | oidc
  | cognito
  deriving DecidableEq, Repr

namespace Provider

/-- The name of a provider. -/
def name : Provider → String
  | .oidc => "oidc"
  | .cognito => "cognito"

/-- The member of an action document that holds the settings. -/
def configName : Provider → String
  | .oidc => "AuthenticateOidcConfig"
  | .cognito => "AuthenticateCognitoConfig"

/-- The provider of a name. -/
def ofName? (s : String) : Option Provider :=
  if s = "oidc" then some .oidc else if s = "cognito" then some .cognito else none

theorem ofName?_name (p : Provider) : ofName? p.name = some p := by cases p <;> rfl

end Provider

/-- The types of action that can be expressed. -/
inductive ActionType
  | forward
  | fixedResponse
  | redirect
  | authenticate (provider : Provider)
  deriving DecidableEq, Repr

namespace ActionType

/-- The name of a type in documents. -/
def name : ActionType → String
  | .forward => "forward"
  | .fixedResponse => "fixed-response"
  | .redirect => "redirect"
  | .authenticate .oidc => "authenticate-oidc"
  | .authenticate .cognito => "authenticate-cognito"

/-- The type of a name. -/
def ofName? (s : String) : Option ActionType :=
  if s = "forward" then some .forward
  else if s = "fixed-response" then some .fixedResponse
  else if s = "redirect" then some .redirect
  else if s = "authenticate-oidc" then some (.authenticate .oidc)
  else if s = "authenticate-cognito" then some (.authenticate .cognito)
  else none

theorem ofName?_name (t : ActionType) : ofName? t.name = some t := by
  match t with
  | .forward | .fixedResponse | .redirect => rfl
  | .authenticate .oidc | .authenticate .cognito => rfl

end ActionType

/-- A routing action. -/
inductive Action
  | forward (targetGroupArn : Json)
  | fixedResponse (statusCode contentType messageBody : Json)
  | redirect (statusCode protocol port host path query : Json)
  | authenticate (provider : Provider) (settings : List (String × Json)) (clientSecret : Json)
  | unmanaged (type document : String)

namespace Action

/-! ## Settings of authenticate actions -/

/-- The settings that a provider uses if they are not given. -/
def defaultSettings : List (String × Json) := [
  ("Scope", .str "openid"),
  ("SessionCookieName", .str "AWSELBAuthSessionCookie"),
  ("SessionTimeout", .int 604800),
  ("OnUnauthenticatedRequest", .str "authenticate")]

/-- The setting that holds the client secret, which the provider never reports. -/
def secretName : String := "ClientSecret"

/-- The setting that asks the provider to keep the client secret it has. -/
def keepSecretName : String := "UseExistingClientSecret"

mutual

/-- A setting with the members of its objects in order, except for objects in arrays (`_freeze`). -/
def settled : Json → Json
  | .obj members => .obj (Json.sortMembers (settledMembers members))
  | value => value

/-- Settings with the members of their objects in order. -/
def settledMembers : List (String × Json) → List (String × Json)
  | [] => []
  | (name, value) :: rest => (name, settled value) :: settledMembers rest

end

/-- The settings given over the default ones. -/
def effectiveSettings (given : List (String × Json)) : List (String × Json) :=
  Entries.overlay defaultSettings given

/-- An authenticate action with the settings given over the default ones
    (`AuthenticateAction.__post_init__`). The secret is kept apart; one that is given by itself goes
    before one among the settings. -/
def authenticateWith (provider : Provider) (given : List (String × Json)) (secret : Json) :
    Action :=
  let settings := effectiveSettings given
  let secret :=
    if secret.isNull then (Entries.get? settings secretName).getD .null else secret
  let rest := Entries.erase (Entries.erase settings secretName) keepSecretName
  .authenticate provider (Json.sortMembers (settledMembers rest)) secret

/-! ## Redirects -/

/-- The components of a redirect that are taken over from the request. -/
def keepProtocol : Json := .str "#\x7bprotocol\x7d"
def keepPort : Json := .str "#\x7bport\x7d"
def keepHost : Json := .str "#\x7bhost\x7d"
def keepPath : Json := .str "/#\x7bpath\x7d"
def keepQuery : Json := .str "#\x7bquery\x7d"

/-! ## Documents -/

/-- The type of an action as its document names it. -/
def type : Action → String
  | .forward _ => ActionType.forward.name
  | .fixedResponse .. => ActionType.fixedResponse.name
  | .redirect .. => ActionType.redirect.name
  | .authenticate provider .. => (ActionType.authenticate provider).name
  | .unmanaged type _ => type

/-- A member, if it is set. -/
def optional (name : String) (value : Json) : List (String × Json) :=
  if value.isNull then [] else [(name, value)]

/-- The settings of an authenticate action as a provider call passes them. -/
def settingsWithSecret (provider : Provider) (settings : List (String × Json)) (secret : Json) :
    List (String × Json) :=
  if !secret.isNull then settings ++ [(secretName, secret)]
  else if provider = .oidc then settings ++ [(keepSecretName, .bool true)]
  else settings

/-- The document of an action (`to_api`). -/
def toApi : Action → Json
  | .forward arn =>
    .obj [("Type", .str ActionType.forward.name), ("TargetGroupArn", arn)]
  | .fixedResponse statusCode contentType messageBody =>
    .obj [("Type", .str ActionType.fixedResponse.name),
      ("FixedResponseConfig", .obj (("StatusCode", statusCode)
        :: (optional "ContentType" contentType ++ optional "MessageBody" messageBody)))]
  | .redirect statusCode protocol port host path query =>
    .obj [("Type", .str ActionType.redirect.name),
      ("RedirectConfig", .obj [("Protocol", protocol), ("Port", port), ("Host", host),
        ("Path", path), ("Query", query), ("StatusCode", statusCode)])]
  | .authenticate provider settings secret =>
    .obj [("Type", .str (ActionType.authenticate provider).name),
      (provider.configName, .obj (settingsWithSecret provider settings secret))]
  | .unmanaged _ document =>
    match Json.read document with
    | .ok value => value
    | .error _ => .null

/-! ## Equality -/

/-- How deep the settings of an action are nested. -/
def depth : Action → Nat
  | .authenticate _ settings _ => Json.membersDepth settings
  | _ => 0

/-- Whether two actions are the same; client secrets are not compared. -/
def same : Action → Action → Bool
  | .forward a, .forward b => a.same b
  | .fixedResponse status type body, .fixedResponse status' type' body' =>
    status.same status' && type.same type' && body.same body'
  | .redirect status protocol port host path query,
      .redirect status' protocol' port' host' path' query' =>
    status.same status' && protocol.same protocol' && port.same port' && host.same host'
      && path.same path' && query.same query'
  | .authenticate provider settings _, .authenticate provider' settings' _ =>
    provider == provider' && (Json.obj settings).same (.obj settings')
  | .unmanaged type document, .unmanaged type' document' =>
    type == type' && document == document'
  | _, _ => false

/-- Whether two lists of actions are the same in order. -/
def sameAll : List Action → List Action → Bool
  | [], [] => true
  | a :: as, b :: bs => a.same b && sameAll as bs
  | _, _ => false

/-- Whether an action cannot be expressed. -/
def isUnmanaged : Action → Bool
  | .unmanaged .. => true
  | _ => false

theorem same_authenticate (provider : Provider) (settings settings' : List (String × Json))
    (secret secret' : Json) :
    same (.authenticate provider settings secret) (.authenticate provider settings' secret') =
      (Json.obj settings).same (.obj settings') := by
  simp [same]

theorem isUnmanaged_of_same {a b : Action} (h : a.same b = true) :
    a.isUnmanaged = b.isUnmanaged := by
  cases a <;> cases b <;> first | rfl | simp [same] at h

end Action

end AlbListener
