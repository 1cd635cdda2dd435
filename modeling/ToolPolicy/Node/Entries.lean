/-! Mappings as lists of entries in the order of their first appearance. -/

namespace ToolPolicy.Entries

variable {α : Type}

/-- Puts a value under a key: a known key keeps its place, a new one comes last. -/
def put : List (String × α) → String → α → List (String × α)
  | [], key, value => [(key, value)]
  | entry :: rest, key, value =>
    if entry.1 = key then (key, value) :: rest else entry :: put rest key value

/-- The mapping that results from putting the entries one after the other. -/
def ofList (entries : List (String × α)) : List (String × α) :=
  entries.foldl (fun es entry => put es entry.1 entry.2) []

/-- The keys of a mapping in order. -/
def keys (entries : List (String × α)) : List String := entries.map Prod.fst

/-- Looking up the key just put finds the value. -/
theorem lookup_put_self (entries : List (String × α)) (key : String) (value : α) :
    (put entries key value).lookup key = some value := by
  induction entries with
  | nil => simp [put]
  | cons entry rest ih =>
    obtain ⟨name, old⟩ := entry
    by_cases same : name = key
    · simp [put, same]
    · have different : (key == name) = false := by simpa using fun h => same h.symm
      simp [put, same, List.lookup_cons, different, ih]

/-- Putting a value leaves every other key as it was. -/
theorem lookup_put_of_ne (entries : List (String × α)) {key other : String} (value : α)
    (ne : other ≠ key) : (put entries key value).lookup other = entries.lookup other := by
  have absent : (other == key) = false := by simpa using ne
  induction entries with
  | nil => simp [put, List.lookup_cons, absent]
  | cons entry rest ih =>
    obtain ⟨name, old⟩ := entry
    by_cases same : name = key
    · simp [put, same, List.lookup_cons, absent]
    · simp [put, same, List.lookup_cons, ih]

/-- A known key leaves the keys as they are, and a new one is added at the end. -/
theorem keys_put (entries : List (String × α)) (key : String) (value : α) :
    keys (put entries key value) =
      if key ∈ keys entries then keys entries else keys entries ++ [key] := by
  induction entries with
  | nil => simp [put, keys]
  | cons entry rest ih =>
    rw [put]
    by_cases same : entry.1 = key
    · simp [keys, same]
    · have different : ¬key = entry.1 := fun h => same h.symm
      simp only [keys] at ih
      -- A key that is known further back keeps its place; a new one goes to the end.
      by_cases known : key ∈ rest.map Prod.fst
      · simp [keys, same, different, ih, known]
      · simp [keys, same, different, ih, known]

end ToolPolicy.Entries
