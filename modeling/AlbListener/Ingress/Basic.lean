import AlbListener.Ingress.Backend

/-!
# Ingresses

What a listener needs to know of an ingress: its name, its default backend and the rules,
which are passed on as they are.
-/

namespace AlbListener

/-- An ingress. -/
structure Ingress where
  name : Json
  namespaceName : Json
  backend : Option Backend
  rules : List Json

namespace Ingress

/-- The ingress that a document describes (`Ingress.from_dict`). -/
def ofDocument (data : Json) : Except Fault Ingress := do
  let spec := (← data.getD "spec" .null).orElse (.obj [])
  let backend ← spec.getD "backend" .null
  let name ← data.member "name"
  let namespaceName ← data.getD "namespace" (.str "default")
  let backend ← if backend.isTruthy then some <$> Backend.ofDocument backend else pure none
  let rules ← ((← spec.getD "rules" .null).orElse (.arr [])).elements
  return { name, namespaceName, backend, rules }

end Ingress

end AlbListener
