/-!
# DataSchema.OrderedMap

**A map that remembers the order in which its keys were first written.** A schema is read by people,
and what is generated from it should follow the order in which things were declared. The map is
therefore a list of pairs, and the invariant that makes it a map — no key occurs twice — is part of
the type.

Writing to a key that is present keeps its place and replaces its value; writing to a new key puts
it last. The lemma `keys_insert` says exactly this, and every other operation is a `map` or a
`filter` of the entries.
-/

namespace DataSchema

/-- An association list whose keys are pairwise different. -/
structure OrderedMap (α : Type) where
  /-- The pairs, in the order in which their keys were first written. -/
  entries : List (String × α)
  /-- No key occurs twice. -/
  nodup : (entries.map Prod.fst).Nodup
deriving DecidableEq

namespace OrderedMap

variable {α β : Type}

@[ext] theorem ext {m n : OrderedMap α} (h : m.entries = n.entries) : m = n := by
  cases m; cases n; cases h; rfl

/-- The map without entries. -/
def empty : OrderedMap α := ⟨[], .nil⟩

instance : EmptyCollection (OrderedMap α) := ⟨empty⟩

instance : Inhabited (OrderedMap α) := ⟨empty⟩

/-- The keys, in order. -/
def keys (m : OrderedMap α) : List String := m.entries.map Prod.fst

/-- The values, in the order of their keys. -/
def values (m : OrderedMap α) : List α := m.entries.map Prod.snd

/-- The number of entries. -/
def size (m : OrderedMap α) : Nat := m.entries.length

/-- Is there no entry? -/
def isEmpty (m : OrderedMap α) : Bool := m.entries.isEmpty

/-- The value at a key. -/
def get? (m : OrderedMap α) (key : String) : Option α :=
  (m.entries.find? (fun entry => entry.1 = key)).map Prod.snd

/-- Is there an entry with this key? -/
def contains (m : OrderedMap α) (key : String) : Bool :=
  m.entries.any (fun entry => entry.1 = key)

/-! ### Writing

Replacement happens in place, so the keys change only when the key is new. -/

/-- Put a value into a list of pairs: in place of the first pair with that key, or at the end. -/
def put (key : String) (value : α) : List (String × α) → List (String × α)
  | [] => [(key, value)]
  | entry :: rest => if entry.1 = key then (key, value) :: rest else entry :: put key value rest

theorem map_fst_put (key : String) (value : α) (entries : List (String × α)) :
    (put key value entries).map Prod.fst =
      if key ∈ entries.map Prod.fst then entries.map Prod.fst
      else entries.map Prod.fst ++ [key] := by
  induction entries with
  | nil => rfl
  | cons entry rest ih =>
    by_cases h : entry.1 = key
    · simp [put, h]
    · have h' : ¬ key = entry.1 := fun e => h e.symm
      simp only [put, h, if_false, List.map_cons, ih, List.mem_cons, h', false_or]
      split <;> simp

/-- Write a value at a key. -/
def insert (m : OrderedMap α) (key : String) (value : α) : OrderedMap α where
  entries := put key value m.entries
  nodup := by
    have h := m.nodup
    rw [map_fst_put]
    split
    · exact h
    · next hk =>
      exact List.nodup_append.2 ⟨h, by simp, fun a ha b hb hab => hk (by
        cases List.mem_singleton.1 hb; exact hab ▸ ha)⟩

/-- Writing adds a key at the end if it is new, and moves none. -/
theorem keys_insert (m : OrderedMap α) (key : String) (value : α) :
    (m.insert key value).keys = if key ∈ m.keys then m.keys else m.keys ++ [key] :=
  map_fst_put key value m.entries

/-- The map written by going through a list of pairs: a key stands where it first occurs, with the
value that it has last. -/
def ofList (entries : List (String × α)) : OrderedMap α :=
  entries.foldl (fun m entry => m.insert entry.1 entry.2) empty

/-! ### Removing and mapping -/

/-- Take the entry at a key away; the others keep their order. -/
def erase (m : OrderedMap α) (key : String) : OrderedMap α where
  entries := m.entries.filter (fun entry => entry.1 ≠ key)
  nodup := m.nodup.sublist (List.filter_sublist.map _)

/-- Replace every value by a function of its key and itself. -/
def mapEntries (m : OrderedMap α) (f : String → α → β) : OrderedMap β where
  entries := m.entries.map (fun entry => (entry.1, f entry.1 entry.2))
  nodup := by simpa [List.map_map, Function.comp_def] using m.nodup

theorem entries_mapEntries (m : OrderedMap α) (f : String → α → β) :
    (m.mapEntries f).entries = m.entries.map fun entry => (entry.1, f entry.1 entry.2) := rfl

@[simp] theorem keys_mapEntries (m : OrderedMap α) (f : String → α → β) :
    (m.mapEntries f).keys = m.keys := by
  simp [mapEntries, keys, Function.comp_def]

end OrderedMap

end DataSchema
