import AlbListener.Document
import AlbListener.Sorting

/-!
# The form of request documents

A check lists how a value violates its form. Violations are reported in the order of the
paths to the values, and those of one value in the order of its checks. The checks for one
sort of value say nothing about values of another sort, so the sort is checked by itself.

A double that is a whole number counts as an integer, and a boolean does not count as a
number.

Results:
* `report_eq_none_iff`: nothing is reported of a value that passes.
* `all_eq_nil_iff`: a value passes a list of checks if it passes each.
-/

namespace AlbListener

/-- A value that violates its form: the path to it and how. -/
structure Violation where
  path : List String
  message : String
  deriving DecidableEq, Repr

/-- A check of the values of a format. -/
abbrev Check (α : Type) := α → List Violation

namespace Check

open Document (shape literal)

variable {α : Type} [Document α]

/-! ## Sorts of values -/

/-- The sorts of values that checks tell apart. -/
inductive Form
  | object
  | array
  | string
  | integer
  deriving DecidableEq, Repr

/-- The name of a sort. -/
def Form.name : Form → String
  | .object => "object"
  | .array => "array"
  | .string => "string"
  | .integer => "integer"

/-- Whether a value is of a sort. -/
def isOf (value : α) (form : Form) : Bool :=
  match shape value, form with
  | .object .., .object | .array _, .array | .text _, .string => true
  | .number _ isInteger, .integer => isInteger
  | _, _ => false

/-! ## Checks -/

/-- A violation by a value itself. -/
def violation (message : String) : List Violation := [⟨[], message⟩]

/-- The violations of a value inside another. -/
def within (steps : List String) (violations : List Violation) : List Violation :=
  violations.map fun v => { v with path := steps ++ v.path }

/-- A list of checks one after the other. -/
def all (checks : List (Check α)) : Check α := fun value => checks.flatMap fun check => check value

/-- The value is of one of the sorts. -/
def ofForm (forms : List Form) : Check α := fun value =>
  if forms.any (isOf value) then [] else
    violation (literal value ++ " is not of type "
      ++ String.intercalate ", " (forms.map fun form => Text.quoted form.name))

/-- An object has members of these names. -/
def required (names : List String) : Check α := fun value =>
  match shape value with
  | .object named _ =>
    names.flatMap fun name =>
      if Entries.has named name then [] else
        violation (Text.quoted name ++ " is a required property")
  | _ => []

/-- A member of an object, if it is there, passes a check. -/
def property (name : String) (check : Check α) : Check α := fun value =>
  match shape value with
  | .object named _ =>
    match Entries.get? named name with
    | some member => within [name] (check member)
    | none => []
  | _ => []

/-- Every member of an object passes a check. -/
def everyMember (check : Check α) : Check α := fun value =>
  match shape value with
  | .object _ members => members.flatMap fun member => within member.1 (check member.2)
  | _ => []

/-- Every element of an array passes a check. -/
def everyElement (check : Check α) : Check α := fun value =>
  match shape value with
  | .array elements =>
    elements.zipIdx.flatMap fun element => within [Text.natText element.2] (check element.1)
  | _ => []

/-- A text is not empty. -/
def nonEmpty : Check α := fun value =>
  match shape value with
  | .text s => if s = "" then violation (Text.quoted s ++ " should be non-empty") else []
  | _ => []

/-- A number is at least so much. -/
def minimum (n : Int) : Check α := fun value =>
  match shape value with
  | .number x _ =>
    if x.lt (.ofInt n) then
      violation (literal value ++ " is less than the minimum of " ++ Text.intText n)
    else []
  | _ => []

/-- A number is at most so much. -/
def maximum (n : Int) : Check α := fun value =>
  match shape value with
  | .number x _ =>
    if Number.lt (.ofInt n) x then
      violation (literal value ++ " is greater than the maximum of " ++ Text.intText n)
    else []
  | _ => []

/-- The value is one of these texts. -/
def oneOf (texts : List String) : Check α := fun value =>
  let known :=
    match shape value with
    | .text s => texts.contains s
    | _ => false
  if known then [] else
    violation (literal value ++ " is not one of " ++ (Json.arr (texts.map Json.str)).literal)

/-! ## The form of a request -/

/-- A text that is not empty. -/
def text : Check α := all [ofForm [.string], nonEmpty]

/-- A port of a service, by number or by name. -/
def servicePort : Check α := all [ofForm [.integer, .string], nonEmpty]

/-- The default backend of an ingress. -/
def backend : Check α := all [
  ofForm [.object],
  required ["serviceName", "servicePort"],
  property "serviceName" text,
  property "servicePort" servicePort]

/-- An ingress. -/
def ingress : Check α := all [
  ofForm [.object],
  required ["name"],
  property "name" text,
  property "namespace" (ofForm [.string]),
  property "annotations" (all [ofForm [.object], everyMember (ofForm [.string])]),
  property "spec" (all [
    ofForm [.object],
    property "backend" backend,
    property "rules" (ofForm [.array])])]

/-- The port of a listener and its protocol. -/
def listenerPort : Check α := all [
  ofForm [.object],
  required ["port", "scheme"],
  property "port" (all [ofForm [.integer], minimum 1, maximum 65535]),
  property "scheme" (oneOf ["HTTP", "HTTPS"])]

/-- The target group of a backend. -/
def targetGroup : Check α := all [
  ofForm [.object],
  required ["serviceName", "servicePort", "targetGroupArn"],
  property "serviceName" text,
  property "servicePort" servicePort,
  property "targetGroupArn" text]

/-- A request (`REQUEST_SCHEMA`). -/
def request : Check α := all [
  ofForm [.object],
  required ["loadBalancerArn", "ingress", "port"],
  property "loadBalancerArn" text,
  property "ingress" ingress,
  property "port" listenerPort,
  property "targetGroups" (all [ofForm [.array], everyElement targetGroup])]

/-! ## Reports -/

/-- The order of paths: by the first steps that differ, a shorter path first. -/
def pathLe : List String → List String → Bool
  | [], _ => true
  | _ :: _, [] => false
  | a :: as, b :: bs => if a = b then pathLe as bs else textLe a b

/-- Violations in the order of their paths. -/
def inOrder (violations : List Violation) : List Violation :=
  sortBy (fun a b => pathLe a.path b.path) violations

/-- A violation with its path. -/
def entry (v : Violation) : String :=
  (if v.path.isEmpty then "(root)" else String.intercalate "." v.path) ++ ": " ++ v.message

/-- What is wrong with a value, if anything is (`validate_spec_against_schema`). -/
def report {α : Type} (check : Check α) (value : α) : Option String :=
  match check value with
  | [] => none
  | violations => some (String.intercalate "; " ((inOrder violations).map entry))

theorem report_eq_none_iff {α : Type} {check : Check α} {value : α} :
    report check value = none ↔ check value = [] := by
  unfold report
  split <;> simp_all

theorem all_eq_nil_iff {α : Type} {checks : List (Check α)} {value : α} :
    all checks value = [] ↔ ∀ check ∈ checks, check value = [] := by
  simp [all]

theorem within_eq_nil_iff {steps : List String} {violations : List Violation} :
    within steps violations = [] ↔ violations = [] := by
  simp [within]

end Check

end AlbListener
