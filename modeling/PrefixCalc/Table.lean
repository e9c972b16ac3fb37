/-!
# Tables

A table gives values to names and keeps the names in the order in which they were
first put in. Putting a name in again changes its value and not its place.
-/

namespace PrefixCalc

/-- Names with values, in the order in which the names were first put in. -/
structure Table (α : Type) where
  /-- The names and their values. -/
  entries : List (String × α) := []

namespace Table

variable {α : Type}

/-- The table without names. -/
def empty : Table α := ⟨[]⟩

instance : EmptyCollection (Table α) := ⟨empty⟩

/-- The names, in order. -/
def names (table : Table α) : List String :=
  table.entries.map Prod.fst

/-- The value of a name. -/
def find? (table : Table α) (name : String) : Option α :=
  table.entries.lookup name

/-- Whether a name is in the table. -/
def contains (table : Table α) (name : String) : Bool :=
  (table.find? name).isSome

/-- How many names there are. -/
def size (table : Table α) : Nat :=
  table.entries.length

/-- Whether there are no names. -/
def isEmpty (table : Table α) : Bool :=
  table.entries.isEmpty

/-- Give a name a value in a list of entries. -/
def insertEntry (name : String) (value : α) : List (String × α) → List (String × α)
  | [] => [(name, value)]
  | (other, old) :: rest =>
    if name = other then (other, value) :: rest
    else (other, old) :: insertEntry name value rest

/-- Give a name a value: in its place if it has one, else at the end. -/
def insert (table : Table α) (name : String) (value : α) : Table α :=
  ⟨insertEntry name value table.entries⟩

/-- Looking a name up goes through the entries in order. -/
theorem lookup_cons (name : String) (entry : String × α) (rest : List (String × α)) :
    (entry :: rest).lookup name = if name = entry.1 then some entry.2 else rest.lookup name := by
  obtain ⟨other, value⟩ := entry
  rw [List.lookup_cons]
  by_cases same : name = other
  · simp [same]
  · have different : (name == other) = false := by simpa using same
    simp [different, same]

/-- The names in the table are those that it contains. -/
theorem contains_iff (table : Table α) (name : String) :
    table.contains name = true ↔ name ∈ table.names := by
  unfold contains find? names
  induction table.entries with
  | nil => simp
  | cons entry rest ih =>
    rw [lookup_cons, List.map_cons, List.mem_cons]
    by_cases same : name = entry.1
    · simp [same]
    · rw [if_neg same, ih]
      simp [same]

/-- Entries give a name that was put in its new value, and every other name the value it had. -/
theorem lookup_insertEntry (name other : String) (value : α) (entries : List (String × α)) :
    (insertEntry name value entries).lookup other =
      if other = name then some value else entries.lookup other := by
  induction entries with
  | nil => rw [insertEntry, lookup_cons]
  | cons entry rest ih =>
    unfold insertEntry
    by_cases here : name = entry.1
    · rw [if_pos here, lookup_cons, lookup_cons, ← here]
      split <;> rfl
    · rw [if_neg here, lookup_cons, lookup_cons, ih]
      by_cases there : other = entry.1
      · have different : other ≠ name := fun same => here (same.symm.trans there)
        simp [there, Ne.symm here]
      · simp [there]

/-- A name that was put in has its new value, and every other name the value it had. -/
theorem find?_insert (table : Table α) (name other : String) (value : α) :
    (table.insert name value).find? other =
      if other = name then some value else table.find? other :=
  lookup_insertEntry name other value table.entries

/-- Putting a name in keeps the names in their order and adds it at the end if it is new. -/
theorem names_insert (table : Table α) (name : String) (value : α) :
    (table.insert name value).names =
      if name ∈ table.names then table.names else table.names ++ [name] := by
  unfold insert names
  induction table.entries with
  | nil => rfl
  | cons entry rest ih =>
    unfold insertEntry
    by_cases here : name = entry.1
    · simp [here]
    · simp only [here, if_false, List.map_cons, List.mem_cons, false_or, ih]
      split <;> simp

end Table

end PrefixCalc
