import AlbListener.Listener.Drift
import AlbListener.Table.Grid
import AlbListener.Yaml.Printer

/-!
# Listeners on the screen

A desired listener, and the drift of a live one, as the commands show them. Client secrets are
masked in tables, and what is empty or not set is shown as a dash.

Results:
* `orDash_of_ne`: a text that is not empty is shown as it is.
* `get?_maskSecret`: a client secret is not shown.
-/

namespace AlbListener

namespace View

/-- What is shown for nothing. -/
def dash : String := "-"

/-- A text, or a dash if it is empty. -/
def orDash (s : String) : String := if s = "" then dash else s

/-- What is shown for a client secret. -/
def mask : Json := .str "****"

/-- The members of an object with the client secret masked. -/
def maskSecret (members : List (String × Json)) : List (String × Json) :=
  if Entries.has members Action.secretName then Entries.put members Action.secretName mask
  else members

/-- A member of an action document with its client secret masked. -/
def masked : Json → Json
  | .obj members => .obj (maskSecret members)
  | value => value

/-- An action: its type and what else its document holds, on one line (`_describe_action`). -/
def actionLine (action : Action) : Except Fault String :=
  match action.toApi with
  | .obj members =>
    match Entries.get? members "Type" with
    | some type =>
      let detail := (Entries.erase members "Type").map fun member => (member.1, masked member.2)
      .ok (type.display ++ " " ++ (Json.obj detail).sorted.render)
    | none => .error (.noMember "Type")
  | other => .error (.noAccess other.kind "items")

/-- Actions, each on a line of its own. -/
def actionLines (actions : List Action) : Except Fault String := do
  return orDash (String.intercalate "\n" (← actions.mapM actionLine))

/-- A certificate, with a remark if it is the default one. -/
def certificateLine (c : Certificate) : String :=
  c.arn.display ++ if c.isDefault.isTruthy then " (default)" else ""

/-- Certificates, each on a line of its own. -/
def certificateLines (certificates : List Certificate) : String :=
  orDash (String.intercalate "\n" (certificates.map certificateLine))

/-- A value, or a dash if it is not set. -/
def valueOrDash (value : Json) : Json := if value.isNull then .str dash else value

/-! ## A desired listener -/

/-- A desired listener as a table of its fields. -/
def configTable (config : ListenerConfig) : Except Fault String := do
  let actions ← actionLines config.defaultActions
  Table.grid [
    { name? := none
      cells := [.str "Port", .str "Protocol", .str "SSL policy", .str "Certificates",
        .str "Default actions"] },
    { name? := none
      cells := [config.port, .str config.protocol.name, valueOrDash config.sslPolicy,
        .str (certificateLines config.certificates), .str actions] }]

/-- A desired listener as indented JSON. -/
def configJson (config : ListenerConfig) : String := (Json.obj config.toApi).renderIndented

/-- A desired listener as YAML. -/
def configYaml (config : ListenerConfig) : String := Yaml.render config.toApi

/-! ## Drift -/

/-- The live and the desired value of a drift (`_format_value`). -/
def driftCells : Drift → Except Fault (Json × Json)
  | .port observed desired => .ok (.int observed, valueOrDash desired)
  | .protocol observed desired => .ok (.str observed.name, .str desired.name)
  | .certificates observed desired =>
    .ok (.str (certificateLines observed), .str (certificateLines desired))
  | .sslPolicy observed desired => .ok (valueOrDash observed, valueOrDash desired)
  | .defaultActions observed desired => do
    return (.str (← actionLines observed), .str (← actionLines desired))

/-- The columns of a table of drifts. -/
def driftColumns (drifts : List Drift) : Except Fault (List Table.Column) := do
  let cells ← drifts.mapM driftCells
  return [
    { name? := some "Field", cells := drifts.map fun d => .str d.field },
    { name? := some "Live", cells := cells.map Prod.fst },
    { name? := some "Desired", cells := cells.map Prod.snd }]

theorem orDash_of_ne {s : String} (h : s ≠ "") : orDash s = s := by simp [orDash, h]

theorem get?_maskSecret {members : List (String × Json)} {value : Json}
    (h : Entries.get? (maskSecret members) Action.secretName = some value) : value = mask := by
  unfold maskSecret at h
  split at h
  · rw [Entries.get?_put_self] at h
    exact (Option.some.inj h).symm
  · rename_i hm
    rw [Entries.has, h] at hm
    exact absurd rfl hm

end View

end AlbListener
