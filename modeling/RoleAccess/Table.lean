/-!
# Tables in order of first entry

A `Table` maps keys to values and remembers the order in which its keys first
came in. Writing to a key it already has replaces the value and keeps the place;
a new key goes to the end. No key occurs twice, and the type carries the proof.
-/

namespace RoleAccess

/-- A finite map that keeps its keys in order of first entry. -/
@[ext] structure Table (κ ν : Type) where
  /-- Keys with their values. -/
  entries : List (κ × ν)
  /-- No key occurs twice. -/
  distinct : (entries.map Prod.fst).Nodup

namespace Table

variable {κ ν : Type} [DecidableEq κ]

/-- The table without entries. -/
def empty : Table κ ν := ⟨[], List.nodup_nil⟩

instance : EmptyCollection (Table κ ν) := ⟨empty⟩

instance : Inhabited (Table κ ν) := ⟨empty⟩

/-- Writes one entry into a list of entries. -/
def putEntry (key : κ) (value : ν) : List (κ × ν) → List (κ × ν)
  | [] => [(key, value)]
  | entry :: rest =>
      if entry.1 = key then (key, value) :: rest else entry :: putEntry key value rest

/-- Writing keeps the keys and adds the written one at the end if it is new. -/
theorem map_fst_putEntry (key : κ) (value : ν) (entries : List (κ × ν)) :
    (putEntry key value entries).map Prod.fst =
      if key ∈ entries.map Prod.fst then entries.map Prod.fst
      else entries.map Prod.fst ++ [key] := by
  induction entries with
  | nil => simp [putEntry]
  | cons entry rest ih =>
      by_cases h : entry.1 = key
      · simp [putEntry, h]
      · have h' : ¬key = entry.1 := fun e => h e.symm
        by_cases hm : key ∈ rest.map Prod.fst
        · simp_all [putEntry]
        · simp_all [putEntry]

theorem nodup_putEntry (key : κ) (value : ν) {entries : List (κ × ν)}
    (h : (entries.map Prod.fst).Nodup) : ((putEntry key value entries).map Prod.fst).Nodup := by
  rw [map_fst_putEntry]
  split
  · exact h
  · next hnew =>
      refine List.nodup_append.2 ⟨h, by simp, ?_⟩
      intro a ha b hb e
      exact hnew (by rw [← List.mem_singleton.1 hb, ← e]; exact ha)

/-- Writes an entry: replaced in its place if the key is there, else added at
the end. -/
def put (table : Table κ ν) (key : κ) (value : ν) : Table κ ν :=
  ⟨putEntry key value table.entries, nodup_putEntry key value table.distinct⟩

/-- The entries whose keys are to be kept. -/
def filter (table : Table κ ν) (keeps : κ → Bool) : Table κ ν :=
  ⟨table.entries.filter fun entry => keeps entry.1,
    table.distinct.sublist (List.filter_sublist.map Prod.fst)⟩

/-- The value of a key. -/
def get? (table : Table κ ν) (key : κ) : Option ν := table.entries.lookup key

/-- The keys in order of first entry. -/
def keys (table : Table κ ν) : List κ := table.entries.map Prod.fst

/-- The values in the order of their keys. -/
def values (table : Table κ ν) : List ν := table.entries.map Prod.snd

/-- The number of keys. -/
def size (table : Table κ ν) : Nat := table.entries.length

/-- The table that results from writing the entries of a list from the first to
the last. -/
def ofList (entries : List (κ × ν)) : Table κ ν :=
  entries.foldl (fun table entry => table.put entry.1 entry.2) empty

/-- Looking a key up in a list of entries compares it with the first key. -/
theorem lookup_cons_eq_ite (entry : κ × ν) (rest : List (κ × ν)) (key : κ) :
    (entry :: rest).lookup key = if key = entry.1 then some entry.2 else rest.lookup key := by
  obtain ⟨first, value⟩ := entry
  by_cases h : key = first
  · simp [h]
  · have hb : (key == first) = false := beq_false_of_ne h
    simp [List.lookup_cons, hb, h]

theorem lookup_putEntry (key other : κ) (value : ν) (entries : List (κ × ν)) :
    (putEntry key value entries).lookup other =
      if other = key then some value else entries.lookup other := by
  induction entries with
  | nil => simp [putEntry, lookup_cons_eq_ite]
  | cons entry rest ih =>
      by_cases hk : entry.1 = key
      · by_cases ho : other = key <;> simp [putEntry, lookup_cons_eq_ite, hk, ho]
      · by_cases ho : other = key
        · have hne : ¬key = entry.1 := fun e => hk e.symm
          rw [if_pos ho] at ih
          subst ho
          simp [putEntry, lookup_cons_eq_ite, hk, hne, ih]
        · simp [putEntry, lookup_cons_eq_ite, hk, ho, ih]

@[simp] theorem get?_empty (key : κ) : (empty : Table κ ν).get? key = none := rfl

omit [DecidableEq κ] in
@[simp] theorem keys_empty : (empty : Table κ ν).keys = [] := rfl

omit [DecidableEq κ] in
theorem keys_nodup (table : Table κ ν) : table.keys.Nodup := table.distinct

theorem keys_put (table : Table κ ν) (key : κ) (value : ν) :
    (table.put key value).keys =
      if key ∈ table.keys then table.keys else table.keys ++ [key] :=
  map_fst_putEntry key value table.entries

/-- Reading after writing. -/
theorem get?_put (table : Table κ ν) (key other : κ) (value : ν) :
    (table.put key value).get? other = if other = key then some value else table.get? other :=
  lookup_putEntry key other value table.entries

theorem lookup_eq_some_iff {entries : List (κ × ν)} (h : (entries.map Prod.fst).Nodup)
    (key : κ) (value : ν) : entries.lookup key = some value ↔ (key, value) ∈ entries := by
  induction entries with
  | nil => simp
  | cons entry rest ih =>
      obtain ⟨first, held⟩ := entry
      rw [List.map_cons, List.nodup_cons] at h
      rw [lookup_cons_eq_ite]
      by_cases hk : key = first
      · subst hk
        have hrest : (key, value) ∉ rest := fun hm =>
          h.1 (List.mem_map.2 ⟨(key, value), hm, rfl⟩)
        simp [hrest, eq_comm]
      · simp [hk, ih h.2]

/-- Reading finds exactly the entries. -/
theorem get?_eq_some_iff (table : Table κ ν) (key : κ) (value : ν) :
    table.get? key = some value ↔ (key, value) ∈ table.entries :=
  lookup_eq_some_iff table.distinct key value

theorem mem_keys_iff (table : Table κ ν) (key : κ) :
    key ∈ table.keys ↔ ∃ value, table.get? key = some value := by
  simp [keys, get?_eq_some_iff]

theorem mem_values_iff (table : Table κ ν) (value : ν) :
    value ∈ table.values ↔ ∃ key, table.get? key = some value := by
  simp [values, get?_eq_some_iff]

omit [DecidableEq κ] in
theorem length_keys (table : Table κ ν) : table.keys.length = table.size := by
  simp [keys, size]

end Table

end RoleAccess
