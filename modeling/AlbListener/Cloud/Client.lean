import AlbListener.Cloud.Basic

/-!
# Clients of the provider

The provider takes calls with named parameters and answers with documents; it describes the
listeners of a load balancer in pages, which are fetched one at a time. `Client.cloud` is the
cloud behind such a client.

Results:
* `findOnPort_append`: descriptions are searched one after the other.
-/

namespace AlbListener

/-- The calls of the provider; a page is fetched by a run of its own. -/
structure Client (σ : Type) where
  create (params : List (String × Json)) : Run σ Json
  modify (params : List (String × Json)) : Run σ Json
  describe (params : List (String × Json)) : Run σ (List (Run σ Json))

namespace Client

variable {σ : Type}

/-- The listener in the answer to a call that creates or modifies one. -/
def listenerOf (answer : Json) : Except Fault Listener := do
  Listener.ofDocument (← (← answer.member "Listeners").first)

/-- The first of a list of descriptions that is bound to a port. -/
def findOnPort (port : Json) : List Json → Except Fault (Option Json)
  | [] => .ok none
  | item :: rest => do
    if (← item.getD "Port" .null).equals port then return some item else findOnPort port rest

/-- The description on a page that is bound to a port. -/
def findOnPage (port page : Json) : Except Fault (Option Json) := do
  findOnPort port (← (← page.getD "Listeners" (.arr [])).elements)

/-- The first description on a list of pages that is bound to a port; no page after the one that
    holds it is fetched (`_find`). -/
def findListener (port : Json) : List (Run σ Json) → Run σ (Option Json)
  | [] => .pure none
  | fetch :: rest => do
    let page ← fetch
    match ← Run.read (findOnPage port page) with
    | some item => return some item
    | none => findListener port rest

/-- The cloud behind a client (`Elbv2ListenerAPI`). -/
def cloud (client : Client σ) : Cloud σ where
  create loadBalancerArn config := do
    Run.log .info .provider ("Creating " ++ config.protocol.name ++ ":" ++ config.port.display
      ++ " listener on " ++ loadBalancerArn.display)
    let answer ← client.create (("LoadBalancerArn", loadBalancerArn) :: config.toApi)
    Run.read (listenerOf answer)
  modify listenerArn config := do
    Run.log .info .provider ("Modifying listener " ++ listenerArn.display)
    let answer ← client.modify (("ListenerArn", listenerArn) :: config.toApi)
    Run.read (listenerOf answer)
  describe loadBalancerArn port := do
    let pages ← client.describe [("LoadBalancerArn", loadBalancerArn)]
    match ← findListener port pages with
    | none => return none
    | some found => return some (← Run.read (Listener.ofDocument found))

theorem findOnPort_append (port : Json) (items others : List Json) :
    findOnPort port (items ++ others) =
      (findOnPort port items).bind fun found =>
        match found with
        | some item => .ok (some item)
        | none => findOnPort port others := by
  induction items with
  | nil => rfl
  | cons item rest ih =>
    simp only [List.cons_append, findOnPort, bind, Except.bind]
    cases item.getD "Port" .null with
    | error fault => rfl
    | ok value =>
      by_cases h : value.equals port = true
      · simp only [if_pos h]
        rfl
      · simp only [if_neg h]
        exact ih

end Client

end AlbListener
