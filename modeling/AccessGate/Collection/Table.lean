/-!
# Tables

A table assigns a value to each of finitely many keys and remembers the order in which the keys
came in.  `put` and `erase` are described by what `get?` finds afterwards.
-/

namespace AccessGate

namespace Table

/-- The value of a key in a list of entries. -/
def lookup {κ ν : Type} [DecidableEq κ] (key : κ) : List (κ × ν) → Option ν
  | [] => none
  | entry :: entries => if entry.1 = key then some entry.2 else lookup key entries

/-- A list of entries with the value of a key set: in place if the key is there, else at the
end. -/
def replace {κ ν : Type} [DecidableEq κ] (key : κ) (value : ν) : List (κ × ν) → List (κ × ν)
  | [] => [(key, value)]
  | entry :: entries =>
      if entry.1 = key then (key, value) :: entries else entry :: replace key value entries

/-- A list of entries without those of a key. -/
def discard {κ ν : Type} [DecidableEq κ] (key : κ) (entries : List (κ × ν)) : List (κ × ν) :=
  entries.filter fun entry => entry.1 ≠ key

section Entries

variable {κ ν : Type} [DecidableEq κ]

theorem fst_mem_replace {key other : κ} {value : ν} {entries : List (κ × ν)} :
    other ∈ (replace key value entries).map Prod.fst ↔
      other = key ∨ other ∈ entries.map Prod.fst := by
  induction entries with
  | nil => simp [replace]
  | cons entry entries induction =>
      by_cases same : entry.1 = key
      · simp [replace, same]
      · simp only [replace, same, if_false, List.map_cons, List.mem_cons, induction]
        constructor
        · rintro (found | found | found) <;> simp [found]
        · rintro (found | found | found) <;> simp [found]

theorem nodup_replace {key : κ} {value : ν} {entries : List (κ × ν)}
    (distinct : (entries.map Prod.fst).Nodup) :
    ((replace key value entries).map Prod.fst).Nodup := by
  induction entries with
  | nil => simp [replace]
  | cons entry entries induction =>
      rw [List.map_cons, List.nodup_cons] at distinct
      by_cases same : entry.1 = key
      · subst same
        simpa only [replace, if_true, List.map_cons, List.nodup_cons] using distinct
      · simp only [replace, same, if_false, List.map_cons, List.nodup_cons]
        refine ⟨?_, induction distinct.2⟩
        rw [fst_mem_replace]
        rintro (found | found)
        · exact same found
        · exact distinct.1 found

theorem nodup_discard {key : κ} {entries : List (κ × ν)}
    (distinct : (entries.map Prod.fst).Nodup) :
    ((discard key entries).map Prod.fst).Nodup :=
  distinct.sublist (List.filter_sublist.map Prod.fst)

theorem lookup_replace {key other : κ} {value : ν} {entries : List (κ × ν)} :
    lookup other (replace key value entries) =
      if key = other then some value else lookup other entries := by
  induction entries with
  | nil => simp [replace, lookup]
  | cons entry entries induction =>
      by_cases same : entry.1 = key <;> by_cases hit : key = other <;>
        simp_all [replace, lookup]

theorem lookup_discard {key other : κ} {entries : List (κ × ν)} :
    lookup other (discard key entries) = if key = other then none else lookup other entries := by
  induction entries with
  | nil => simp [discard, lookup]
  | cons entry entries induction =>
      simp only [discard] at induction
      by_cases same : entry.1 = key <;> by_cases hit : key = other <;>
        simp_all [discard, lookup]

theorem lookup_eq_some_iff {key : κ} {value : ν} {entries : List (κ × ν)}
    (distinct : (entries.map Prod.fst).Nodup) :
    lookup key entries = some value ↔ (key, value) ∈ entries := by
  induction entries with
  | nil => simp [lookup]
  | cons entry entries induction =>
      rw [List.map_cons, List.nodup_cons] at distinct
      by_cases same : entry.1 = key
      · subst same
        have absent : (entry.1, value) ∉ entries := fun found =>
          distinct.1 (List.mem_map.mpr ⟨(entry.1, value), found, rfl⟩)
        simp [lookup, absent, Prod.ext_iff, eq_comm]
      · simp [lookup, same, induction distinct.2, Prod.ext_iff, Ne.symm same]

theorem replace_of_lookup {key : κ} {value : ν} {entries : List (κ × ν)}
    (found : lookup key entries = some value) : replace key value entries = entries := by
  induction entries with
  | nil => cases found
  | cons entry entries induction =>
      by_cases same : entry.1 = key
      · rw [lookup, if_pos same] at found
        rw [replace, if_pos same, ← same, ← Option.some.inj found]
      · rw [lookup, if_neg same] at found
        rw [replace, if_neg same, induction found]

theorem discard_of_lookup {key : κ} {entries : List (κ × ν)}
    (absent : lookup key entries = none) : discard key entries = entries := by
  induction entries with
  | nil => rfl
  | cons entry entries induction =>
      by_cases same : entry.1 = key
      · rw [lookup, if_pos same] at absent
        cases absent
      · rw [lookup, if_neg same] at absent
        rw [discard, List.filter_cons_of_pos (by simpa using same)]
        exact congrArg (entry :: ·) (induction absent)

end Entries

end Table

/-- A finite assignment of values to keys. -/
structure Table (κ ν : Type) where
  entries : List (κ × ν)
  distinct : (entries.map Prod.fst).Nodup

namespace Table

variable {κ ν : Type} [DecidableEq κ]

/-- The table without keys. -/
def empty : Table κ ν := ⟨[], by simp⟩

instance : Inhabited (Table κ ν) := ⟨empty⟩

def get? (table : Table κ ν) (key : κ) : Option ν :=
  lookup key table.entries

/-- Sets the value of a key.  A known key keeps its place, a new one goes last. -/
def put (table : Table κ ν) (key : κ) (value : ν) : Table κ ν :=
  ⟨replace key value table.entries, nodup_replace table.distinct⟩

def erase (table : Table κ ν) (key : κ) : Table κ ν :=
  ⟨discard key table.entries, nodup_discard table.distinct⟩

/-- Removes several keys. -/
def eraseAll (table : Table κ ν) (keys : List κ) : Table κ ν :=
  keys.foldl erase table

/-- The table of a list of assignments, of which later ones win. -/
def ofList (entries : List (κ × ν)) : Table κ ν :=
  entries.foldl (fun table entry => table.put entry.1 entry.2) empty

/-- The keys in the order in which they came in. -/
def keys (table : Table κ ν) : List κ :=
  table.entries.map Prod.fst

/-- The number of keys. -/
def size (table : Table κ ν) : Nat :=
  table.entries.length

@[simp] theorem get?_empty (key : κ) : (empty : Table κ ν).get? key = none := rfl

theorem get?_eq_some_iff (table : Table κ ν) (key : κ) (value : ν) :
    table.get? key = some value ↔ (key, value) ∈ table.entries :=
  lookup_eq_some_iff table.distinct

@[simp] theorem get?_put (table : Table κ ν) (key other : κ) (value : ν) :
    (table.put key value).get? other = if key = other then some value else table.get? other :=
  lookup_replace

@[simp] theorem get?_erase (table : Table κ ν) (key other : κ) :
    (table.erase key).get? other = if key = other then none else table.get? other :=
  lookup_discard

@[simp] theorem get?_eraseAll (table : Table κ ν) (keys : List κ) (other : κ) :
    (table.eraseAll keys).get? other = if other ∈ keys then none else table.get? other := by
  induction keys generalizing table with
  | nil => simp [eraseAll]
  | cons key keys induction =>
      have step : table.eraseAll (key :: keys) = (table.erase key).eraseAll keys := rfl
      rw [step, induction, get?_erase]
      by_cases same : key = other
      · simp [same]
      · simp [same, Ne.symm same]

theorem mem_keys_iff (table : Table κ ν) (key : κ) :
    key ∈ table.keys ↔ ∃ value, table.get? key = some value := by
  simp [keys, get?_eq_some_iff]

omit [DecidableEq κ] in
theorem eq_of_entries {first second : Table κ ν} (same : first.entries = second.entries) :
    first = second := by
  cases first
  cases second
  congr

theorem put_of_get? {table : Table κ ν} {key : κ} {value : ν}
    (found : table.get? key = some value) : table.put key value = table :=
  eq_of_entries (replace_of_lookup found)

theorem erase_of_get? {table : Table κ ν} {key : κ} (absent : table.get? key = none) :
    table.erase key = table :=
  eq_of_entries (discard_of_lookup absent)

end Table

end AccessGate
