import AlbListener.Action.Document
import AlbListener.Listener.Certificate
import AlbListener.Listener.Port
import AlbListener.Sorting.Fallible

/-!
# Live listeners

A live listener as the provider describes it. Its default actions are evaluated in ascending
`Order`, those without one first.

Results:
* `inOrder_perm`: putting documents in order keeps them.
-/

namespace AlbListener

/-- A live listener. -/
structure Listener where
  arn : Json
  port : Int
  protocol : Protocol
  defaultActions : List Action
  sslPolicy : Json
  certificates : List Certificate
  loadBalancerArn : Json

namespace Listener

/-! ## Documents in order -/

/-- The documents with the place of each. -/
def places : List Json → Except Fault (List (Json × Json))
  | [] => .ok []
  | document :: rest => do
    let place ← document.getD "Order" (.int 0)
    return (place, document) :: (← places rest)

/-- Documents in ascending order of their places, equal ones as they came. -/
def inOrder (documents : List Json) : Except Fault (List Json) := do
  let placed ← sortWith (fun a b => a.1.less? b.1) (← places documents)
  return placed.map Prod.snd

/-! ## Reading a description -/

/-- The listener that a description describes (`Listener.from_api`). -/
def ofDocument (data : Json) : Except Fault Listener := do
  let actions ← inOrder (← ((← data.getD "DefaultActions" .null).orElse (.arr [])).elements)
  let arn ← data.member "ListenerArn"
  let port ← (← data.member "Port").toInteger
  let protocol ← Protocol.ofJson (← data.member "Protocol")
  let defaultActions ← actions.mapM Action.ofObserved
  let sslPolicy ← data.getD "SslPolicy" .null
  let certificates ←
    (← ((← data.getD "Certificates" .null).orElse (.arr [])).elements).mapM Certificate.ofDocument
  let loadBalancerArn ← data.getD "LoadBalancerArn" .null
  return { arn, port, protocol, defaultActions, sslPolicy, certificates, loadBalancerArn }

theorem map_snd_places {documents : List Json} {placed : List (Json × Json)}
    (h : places documents = .ok placed) : placed.map Prod.snd = documents := by
  induction documents generalizing placed with
  | nil => cases h; rfl
  | cons document rest ih =>
    simp only [places, bind, Except.bind] at h
    split at h
    · contradiction
    · split at h
      · contradiction
      · rename_i tail ht
        cases h
        simp [ih ht]

theorem inOrder_perm {documents sorted : List Json} (h : inOrder documents = .ok sorted) :
    sorted.Perm documents := by
  simp only [inOrder, bind, Except.bind] at h
  split at h
  · contradiction
  · rename_i placed hp
    split at h
    · contradiction
    · rename_i inOrder hs
      cases h
      rw [← map_snd_places hp]
      exact (sortWith_perm hs).map _

end Listener

end AlbListener
