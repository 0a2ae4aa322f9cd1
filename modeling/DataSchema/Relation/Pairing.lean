/-!
# DataSchema.Relation.Pairing

**Which reference belongs to which list.** When a model has several lists of another model's
records, and that model several references back, each list is the other side of one of the
references. The pairing is found in two passes over the lists.

* First the labels speak: a list with a label takes the first free reference with the same label.
* Then what is left is paired by position: the lists without a partner take the free references from
  the front.

References are known by their position. The free ones are kept as a list in increasing order, which
makes both passes plain recursions on the lists.
-/

namespace DataSchema.Pairing

/-- A reference that no list has taken yet: its position and its label. -/
abbrev Slot := Nat × Option String

/-- The first pass: each labelled list takes the first free reference with its label. The result has
the partners so far and the references that stay free. -/
def byLabel : List (Option String) → List Slot → List (Option Nat) × List Slot
  | [], free => ([], free)
  | none :: lists, free =>
    let (partners, left) := byLabel lists free
    (none :: partners, left)
  | some label :: lists, free =>
    match free.find? (fun slot => slot.2 = some label) with
    | none =>
      let (partners, left) := byLabel lists free
      (none :: partners, left)
    | some slot =>
      let (partners, left) := byLabel lists (free.erase slot)
      (some slot.1 :: partners, left)

/-- The second pass: each list without a partner takes the first free reference. -/
def byPosition : List (Option Nat) → List Slot → List (Option Nat)
  | [], _ => []
  | some partner :: rest, free => some partner :: byPosition rest free
  | none :: rest, slot :: free => some slot.1 :: byPosition rest free
  | none :: rest, [] => none :: byPosition rest []

/-- The references as free slots, numbered from zero. -/
def slots (references : List (Option String)) : List Slot :=
  references.zipIdx.map fun (label, index) => (index, label)

/-- For each list, by its label, the position of the reference that it belongs to. -/
def pair (lists references : List (Option String)) : List (Option Nat) :=
  let (partners, free) := byLabel lists (slots references)
  byPosition partners free

theorem length_byLabel (lists : List (Option String)) (free : List Slot) :
    (byLabel lists free).1.length = lists.length := by
  fun_induction byLabel lists free <;> simp_all

theorem length_byPosition (partners : List (Option Nat)) (free : List Slot) :
    (byPosition partners free).length = partners.length := by
  fun_induction byPosition partners free <;> simp_all

@[simp] theorem length_pair (lists references : List (Option String)) :
    (pair lists references).length = lists.length := by
  simp [pair, length_byPosition, length_byLabel]

end DataSchema.Pairing
