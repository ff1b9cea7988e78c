import AlbListener.Cloud.Client

/-!
# Fleets

A provider that keeps its listeners in memory, as the documents that describe them. A new
listener is numbered and stored at the end; a modified one keeps what the call does not
mention; the listeners of a load balancer are described in pages of a given size. A failure
that is pending for a call is raised the next time the call is made, before it does anything.

Results:
* `pages_ne_nil`: there is always a page, if only an empty one.
-/

namespace AlbListener

/-- A failure to be raised instead of an answer. -/
inductive Injected
  | client (code message : String)
  | endpoint (url : String)
  | timeout
  | cancelled
  | rules (message : String) (stage : Json)
  | runtime (message : String)

/-- Why a run stops when a call meets an injected failure. -/
def Injected.toStop (operation : String) : Injected → Stop
  | .client code message => .failed (.client code message operation)
  | .endpoint url => .failed (.endpoint url)
  | .timeout => .failed .timeout
  | .cancelled => .cancelled
  | .rules message stage => .failed (.reconcile (.stated .rules (.str message)) stage)
  | .runtime message => .failed (.runtime message)

/-- The name of the operation of a call. -/
def Call.operation : Call → String
  | .create => "CreateListener"
  | .modify => "ModifyListener"
  | .describe => "DescribeListeners"

/-- A provider in memory: its listeners, how many were created, the size of its pages (zero
    for one page), the failures that are pending, and the answers that are set for all calls
    that create or modify and for all that describe. -/
structure Fleet where
  listeners : List Json
  created : Nat
  pageSize : Nat
  pending : List (Call × Injected)
  answer? : Option Json
  pages? : Option (List Json)

namespace Fleet

/-- A provider with some listeners. -/
def ofListeners (listeners : List Json) (pageSize : Nat) : Fleet :=
  { listeners, created := 0, pageSize, pending := [], answer? := none, pages? := none }

/-- Whether a description has a member of a given value. -/
def hasMember (name : String) (value description : Json) : Bool :=
  match description with
  | .obj members => ((Entries.get? members name).getD .null).equals value
  | _ => false

/-- A description with parameters stored over it. -/
def merge (params : List (String × Json)) (description : Json) : Json :=
  match description with
  | .obj members => .obj (Entries.overlay members params)
  | other => other

/-- The parameter of a call. -/
def param (params : List (String × Json)) (name : String) : Json :=
  (Entries.get? params name).getD .null

/-- The answer that holds one listener. -/
def answerWith (listener : Json) : Json := .obj [("Listeners", .arr [listener])]

/-! ## Calls -/

/-- A call that is made: it is recorded, and a failure that is pending for it is raised. -/
def send (call : Call) (params : List (String × Json)) : Run Fleet Unit := fun fleet =>
  let trace := [Effect.send call params]
  match fleet.pending.find? (·.1 == call) with
  | some (_, failure) =>
    let pending := fleet.pending.filter (·.1 != call)
    ⟨.error (failure.toStop call.operation), { fleet with pending }, trace⟩
  | none => ⟨.ok (), fleet, trace⟩

/-- The fleet after a listener was created, and the listener. -/
def create (fleet : Fleet) (params : List (String × Json)) : Fleet × Json :=
  let created := fleet.created + 1
  let arn := (param params "LoadBalancerArn").display ++ "/listener/" ++ Text.natText created
  let listener := Json.obj (Entries.overlay [("ListenerArn", .str arn)] params)
  ({ fleet with listeners := fleet.listeners ++ [listener], created }, listener)

/-- The descriptions with parameters stored over the first that has a given arn, and that one. -/
def modifyFirst (arn : Json) (params : List (String × Json)) :
    List Json → Option (List Json × Json)
  | [] => none
  | description :: rest =>
    if hasMember "ListenerArn" arn description then
      let modified := merge params description
      some (modified :: rest, modified)
    else (modifyFirst arn params rest).map fun found => (description :: found.1, found.2)

/-- A list in parts of a given size, the last one perhaps shorter, with fuel for the parts. -/
def chunks (size : Nat) : Nat → List Json → List (List Json)
  | 0, _ => []
  | _ + 1, [] => []
  | fuel + 1, listeners => listeners.take size :: chunks size fuel (listeners.drop size)

/-- The pages that describe the listeners of a load balancer. -/
def pages (fleet : Fleet) (loadBalancerArn : Json) : List Json :=
  let found := fleet.listeners.filter (hasMember "LoadBalancerArn" loadBalancerArn)
  let parts :=
    if fleet.pageSize = 0 ∨ found.isEmpty then [found]
    else chunks fleet.pageSize found.length found
  parts.map fun part => .obj [("Listeners", .arr part)]

/-- The client of a fleet. -/
def client : Client Fleet where
  create params := do
    send .create params
    fun fleet =>
      match fleet.answer? with
      | some answer => ⟨.ok answer, fleet, []⟩
      | none =>
        let (fleet, listener) := fleet.create params
        ⟨.ok (answerWith listener), fleet, []⟩
  modify params := do
    send .modify params
    fun fleet =>
      match fleet.answer? with
      | some answer => ⟨.ok answer, fleet, []⟩
      | none =>
        match modifyFirst (param params "ListenerArn") params fleet.listeners with
        | some (listeners, listener) =>
          ⟨.ok (answerWith listener), { fleet with listeners }, []⟩
        | none =>
          ⟨.error (.failed (.client "ListenerNotFound" "One or more listeners not found"
            Call.modify.operation)), fleet, []⟩
  describe params := do
    send .describe params
    fun fleet =>
      let pages := fleet.pages?.getD (fleet.pages (param params "LoadBalancerArn"))
      ⟨.ok (pages.map Run.pure), fleet, []⟩

/-- The cloud of a fleet. -/
def cloud : Cloud Fleet := client.cloud

/-! ## Changes from outside -/

/-- A fleet with one more listener. -/
def put (fleet : Fleet) (listener : Json) : Fleet :=
  { fleet with listeners := fleet.listeners ++ [listener] }

/-- A fleet with members stored over every listener of a given arn. -/
def patch (fleet : Fleet) (arn : Json) (members : List (String × Json)) : Fleet :=
  { fleet with
    listeners := fleet.listeners.map fun listener =>
      if hasMember "ListenerArn" arn listener then merge members listener else listener }

/-- A fleet without the listeners of a given arn. -/
def delete (fleet : Fleet) (arn : Json) : Fleet :=
  { fleet with listeners := fleet.listeners.filter fun l => !hasMember "ListenerArn" arn l }

/-- A fleet with a failure pending for a call. -/
def inject (fleet : Fleet) (call : Call) (failure : Injected) : Fleet :=
  { fleet with pending := (call, failure) :: fleet.pending.filter (·.1 != call) }

theorem pages_ne_nil (fleet : Fleet) (arn : Json) : fleet.pages arn ≠ [] := by
  simp only [pages]
  split
  · simp
  · rename_i h
    simp only [not_or] at h
    generalize fleet.listeners.filter (hasMember "LoadBalancerArn" arn) = found at h ⊢
    cases found with
    | nil => exact absurd rfl h.2
    | cons l rest => simp [chunks]

end Fleet

end AlbListener
