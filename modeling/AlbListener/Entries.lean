/-!
# Entries

A list of named values in the order in which the names first appeared. Storing a value under
a name that is already there keeps its place.

Results:
* `get?_put_self`, `get?_put_of_ne`: storing changes the value of that name only.
* `get?_erase_self`, `get?_erase_of_ne`: so does removing.
* `names_put`: a new name comes last, a known one stays where it is.
* `get?_overlay`: in an overlay the upper value wins.
-/

namespace AlbListener

/-- Named values in order. -/
abbrev Entries (α : Type) := List (String × α)

namespace Entries

variable {α : Type}

/-- The value of a name. -/
def get? : Entries α → String → Option α
  | [], _ => none
  | (name, value) :: rest, key => if name = key then some value else get? rest key

/-- Whether there is a value of that name. -/
def has (entries : Entries α) (key : String) : Bool := (get? entries key).isSome

/-- The names in order. -/
def names (entries : Entries α) : List String := entries.map Prod.fst

/-- The entries with a value stored under a name. -/
def put : Entries α → String → α → Entries α
  | [], key, value => [(key, value)]
  | (name, old) :: rest, key, value =>
    if name = key then (name, value) :: rest else (name, old) :: put rest key value

/-- The entries without a name. -/
def erase (entries : Entries α) (key : String) : Entries α :=
  entries.filter fun entry => entry.1 != key

/-- The entries of `lower` with those of `upper` stored over them in order. -/
def overlay (lower upper : Entries α) : Entries α :=
  upper.foldl (fun entries entry => put entries entry.1 entry.2) lower

/-- The entries for a list of pairs in which a name may come again. -/
def ofPairs (pairs : List (String × α)) : Entries α := overlay [] pairs

@[simp] theorem get?_put_self (entries : Entries α) (key : String) (value : α) :
    get? (put entries key value) key = some value := by
  induction entries with
  | nil => simp [put, get?]
  | cons entry rest ih => by_cases h : entry.1 = key <;> simp [put, get?, h, ih]

theorem get?_put_of_ne (entries : Entries α) {key other : String} (value : α)
    (h : key ≠ other) : get? (put entries key value) other = get? entries other := by
  induction entries with
  | nil => simp [put, get?, h]
  | cons entry rest ih =>
    by_cases hk : entry.1 = key
    · simp [put, get?, hk, h]
    · simp only [put, if_neg hk, get?, ih]

@[simp] theorem get?_erase_self (entries : Entries α) (key : String) :
    get? (erase entries key) key = none := by
  induction entries with
  | nil => rfl
  | cons entry rest ih =>
    by_cases h : entry.1 = key <;> simp_all [erase, get?]

theorem get?_erase_of_ne (entries : Entries α) {key other : String} (h : key ≠ other) :
    get? (erase entries key) other = get? entries other := by
  induction entries with
  | nil => rfl
  | cons entry rest ih =>
    by_cases hk : entry.1 = key
    · have ho : entry.1 ≠ other := hk ▸ h
      simp_all [erase, get?]
    · by_cases ho : entry.1 = other <;> simp_all [erase, get?]

theorem names_put (entries : Entries α) (key : String) (value : α) :
    names (put entries key value) =
      if key ∈ names entries then names entries else names entries ++ [key] := by
  induction entries with
  | nil => simp [put, names]
  | cons entry rest ih =>
    by_cases h : entry.1 = key
    · simp [put, names, h]
    · have h' : ¬ key = entry.1 := fun e => h e.symm
      simp only [names] at ih
      by_cases hm : key ∈ rest.map Prod.fst <;> simp_all [put, names]

theorem overlay_cons (lower : Entries α) (entry : String × α) (upper : Entries α) :
    overlay lower (entry :: upper) = overlay (put lower entry.1 entry.2) upper := rfl

theorem get?_overlay (lower upper : Entries α) (key : String)
    (h : (names upper).Nodup) :
    get? (overlay lower upper) key = (get? upper key).or (get? lower key) := by
  induction upper generalizing lower with
  | nil => simp [overlay, get?]
  | cons entry rest ih =>
    simp only [names, List.map_cons, List.nodup_cons] at h
    rw [overlay_cons, ih _ h.2]
    by_cases hk : entry.1 = key
    · have hn : get? rest key = none := by
        subst hk
        exact none_of_not_mem h.1
      simp [get?, hk, hn]
    · rw [get?_put_of_ne _ _ hk]
      simp [get?, hk]
where
  none_of_not_mem {rest : Entries α} {key : String} (h : key ∉ rest.map Prod.fst) :
      get? rest key = none := by
    induction rest with
    | nil => rfl
    | cons entry rest ih =>
      simp only [List.map_cons, List.mem_cons, not_or] at h
      rw [get?, if_neg (fun e => h.1 e.symm)]
      exact ih h.2

end Entries

end AlbListener
