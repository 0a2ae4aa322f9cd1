import DataSchema.Field.Tree

/-!
# DataSchema.Proofs.Access.Basic

**Accesses that can leave what they access.** The library takes texts and lists apart by their
structure, so nothing in it can go out of range. Here are the accesses of a program that counts: the
element at an index, the list from an index on, the text between two bytes. Each gives an error where
it is out of range. A text is out of range also where a byte is inside a character: it can be cut at
the valid positions only (`isSome_cutAtByte?_iff`).

A computation written with them is `Checked`. That it agrees with a function of the library,
`checked x = pure (f x)`, says that none of its accesses goes out of range, and that counting finds
what the structure gives.
-/

namespace DataSchema

open DataSchema.Field (byteSize)

/-! ### Bytes -/

@[simp] theorem byteSize_nil : byteSize [] = 0 := rfl

@[simp] theorem byteSize_cons (c : Char) (s : List Char) :
    byteSize (c :: s) = c.utf8Size + byteSize s := rfl

@[simp] theorem byteSize_append (s t : List Char) : byteSize (s ++ t) = byteSize s + byteSize t := by
  induction s with
  | nil => simp
  | cons c s ih => rw [List.cons_append, byteSize_cons, byteSize_cons, ih, Nat.add_assoc]

theorem utf8ByteSize_ofList (s : List Char) : (String.ofList s).utf8ByteSize = byteSize s := by
  induction s with
  | nil => rfl
  | cons c s ih =>
      rw [String.ofList_cons]
      simp [ih]

/-- The text before a byte and the text from it on. There is no cut inside a character and none past
the end. -/
def cutAtByte? : List Char → Nat → Option (List Char × List Char)
  | s, 0 => some ([], s)
  | [], _ + 1 => none
  | c :: rest, n + 1 =>
    if c.utf8Size ≤ n + 1 then
      (cutAtByte? rest (n + 1 - c.utf8Size)).map fun (front, back) => (c :: front, back)
    else none

@[simp] theorem byteSize_eq_zero_iff {s : List Char} : byteSize s = 0 ↔ s = [] := by
  cases s with
  | nil => simp
  | cons c s =>
      have hpos := c.utf8Size_pos
      simp only [byteSize_cons, reduceCtorEq, iff_false]
      omega

theorem cutAtByte?_zero_eq_some_iff {s front back : List Char} :
    cutAtByte? s 0 = some (front, back) ↔ s = front ++ back ∧ byteSize front = 0 := by
  have hcut : cutAtByte? s 0 = some ([], s) := by cases s <;> rfl
  rw [hcut, byteSize_eq_zero_iff, Option.some.injEq, Prod.mk.injEq]
  constructor
  · rintro ⟨rfl, rfl⟩
    exact ⟨rfl, rfl⟩
  · rintro ⟨hs, rfl⟩
    exact ⟨rfl, hs⟩

/-- A text is cut at the end of any front of it, and nowhere else. -/
theorem cutAtByte?_eq_some_iff {s : List Char} {n : Nat} {front back : List Char} :
    cutAtByte? s n = some (front, back) ↔ s = front ++ back ∧ byteSize front = n := by
  induction s generalizing n front with
  | nil =>
      cases n with
      | zero => exact cutAtByte?_zero_eq_some_iff
      | succ n =>
          simp only [cutAtByte?, reduceCtorEq, false_iff, not_and]
          intro happend
          rw [(List.append_eq_nil_iff.mp happend.symm).1, byteSize_nil]
          omega
  | cons c rest ih =>
      have hpos := c.utf8Size_pos
      cases n with
      | zero => exact cutAtByte?_zero_eq_some_iff
      | succ n =>
          rw [cutAtByte?]
          constructor
          · intro h
            split at h
            · next hle =>
                obtain ⟨⟨tail, back'⟩, hcut, hpair⟩ := Option.map_eq_some_iff.mp h
                obtain ⟨rfl, rfl⟩ := Prod.mk.inj hpair
                obtain ⟨rfl, hsize⟩ := ih.mp hcut
                refine ⟨rfl, ?_⟩
                rw [byteSize_cons]
                omega
            · exact absurd h (by simp)
          · rintro ⟨happend, hsize⟩
            cases front with
            | nil => exact absurd hsize (by simp)
            | cons d tail =>
                obtain ⟨rfl, rfl⟩ := List.cons.inj happend
                rw [byteSize_cons] at hsize
                have hcut := ih.mpr ⟨rfl, (by omega : byteSize tail = n + 1 - c.utf8Size)⟩
                rw [if_pos (by omega), hcut]
                rfl

/-- The bytes at which a text is cut are the valid positions in it. -/
theorem isSome_cutAtByte?_iff {s : List Char} {n : Nat} :
    (cutAtByte? s n).isSome = true ↔ (⟨n⟩ : String.Pos.Raw).IsValid (String.ofList s) := by
  rw [String.Pos.Raw.isValid_ofList, Option.isSome_iff_exists]
  constructor
  · rintro ⟨⟨front, back⟩, hcut⟩
    obtain ⟨rfl, rfl⟩ := cutAtByte?_eq_some_iff.mp hcut
    exact ⟨front.length, by rw [List.take_left, utf8ByteSize_ofList]⟩
  · rintro ⟨i, hi⟩
    rw [utf8ByteSize_ofList] at hi
    exact ⟨_, cutAtByte?_eq_some_iff.mpr ⟨(List.take_append_drop i s).symm, hi.symm⟩⟩

/-! ### Accesses -/

/-- An access that is out of range. -/
inductive OutOfRange
  /-- There is no element at the index. -/
  | element (index size : Nat)
  /-- The list ends before the index. -/
  | suffix (start size : Nat)
  /-- The text ends before a byte, a byte is inside a character, or the bytes are in wrong order. -/
  | text (start stop size : Nat)
deriving DecidableEq, Repr

/-- A computation that stops at the first access that is out of range. -/
abbrev Checked := Except OutOfRange

namespace Checked

variable {α β : Type}

/-- The element at an index. -/
def element (xs : List α) (index : Nat) : Checked α :=
  match xs[index]? with
  | some a => pure a
  | none => throw (.element index xs.length)

/-- The list with another element at an index. -/
def write (xs : List α) (index : Nat) (a : α) : Checked (List α) :=
  if index < xs.length then pure (xs.set index a) else throw (.element index xs.length)

/-- The list from an index on. -/
def suffix (xs : List α) (start : Nat) : Checked (List α) :=
  if start ≤ xs.length then pure (xs.drop start) else throw (.suffix start xs.length)

/-- The text from one byte up to another. -/
def text (s : List Char) (start stop : Nat) : Checked (List Char) :=
  match cutAtByte? s stop with
  | some (front, _) =>
    match cutAtByte? front start with
    | some (_, middle) => pure middle
    | none => throw (.text start stop (byteSize s))
  | none => throw (.text start stop (byteSize s))

/-- The text from a byte on. -/
def textFrom (s : List Char) (start : Nat) : Checked (List Char) := text s start (byteSize s)

theorem element_eq {xs : List α} {index : Nat} {a : α} (h : xs[index]? = some a) :
    element xs index = pure a := by
  rw [element, h]

theorem write_eq {xs : List α} {index : Nat} (h : index < xs.length) (a : α) :
    write xs index a = pure (xs.set index a) :=
  if_pos h

theorem suffix_eq {xs : List α} {start : Nat} (h : start ≤ xs.length) :
    suffix xs start = pure (xs.drop start) :=
  if_pos h

/-- A piece is cut out of a text at its two ends, and not from anywhere else. -/
theorem text_eq_iff {s middle : List Char} {start stop : Nat} :
    text s start stop = pure middle ↔
      ∃ front back, s = front ++ middle ++ back ∧ byteSize front = start ∧
        byteSize (front ++ middle) = stop := by
  unfold text
  constructor
  · intro h
    split at h
    · next upto back hstop =>
        split at h
        · next front piece hstart =>
            obtain ⟨rfl, hupto⟩ := cutAtByte?_eq_some_iff.mp hstop
            obtain ⟨rfl, hfront⟩ := cutAtByte?_eq_some_iff.mp hstart
            obtain rfl : piece = middle := Except.ok.inj h
            exact ⟨front, back, rfl, hfront, hupto⟩
        · exact nomatch h
    · exact nomatch h
  · rintro ⟨front, back, rfl, rfl, rfl⟩
    rw [cutAtByte?_eq_some_iff.mpr ⟨rfl, rfl⟩]
    dsimp only
    rw [cutAtByte?_eq_some_iff.mpr ⟨rfl, rfl⟩]

-- The second byte of a text that begins with a character of two bytes is not the start of a piece.
example : text ['é', ','] 1 3 = .error (.text 1 3 3) := by rfl

theorem text_eq (front middle back : List Char) :
    text (front ++ middle ++ back) (byteSize front) (byteSize (front ++ middle)) = pure middle :=
  text_eq_iff.mpr ⟨front, back, rfl, rfl, rfl⟩

theorem textFrom_eq (front back : List Char) :
    textFrom (front ++ back) (byteSize front) = pure back := by
  have h := text_eq front back []
  rwa [List.append_nil] at h

/-! ### Lists -/

theorem mapM_eq {xs : List α} {f : α → Checked β} {g : α → β} (h : ∀ a ∈ xs, f a = pure (g a)) :
    xs.mapM f = pure (xs.map g) := by
  induction xs with
  | nil => rfl
  | cons a xs ih =>
      rw [List.mapM_cons, h a (List.mem_cons_self ..), pure_bind,
        ih fun b hb => h b (List.mem_cons_of_mem _ hb), pure_bind, List.map_cons]

/-- Pairs that are made one by one. -/
theorem mapM_pair_eq {γ : Type} {xs : List α} {f : α → Checked β} {g : α → β} (key : α → γ)
    (h : ∀ a ∈ xs, f a = pure (g a)) :
    (xs.mapM fun a => do
      let b ← f a
      pure (key a, b)) = pure (xs.map fun a => (key a, g a)) :=
  mapM_eq fun a ha => by rw [h a ha, pure_bind]

theorem filterMapM_eq {xs : List α} {f : α → Checked (Option β)} {g : α → Option β}
    (h : ∀ a ∈ xs, f a = pure (g a)) : xs.filterMapM f = pure (xs.filterMap g) := by
  induction xs with
  | nil => rfl
  | cons a xs ih =>
      rw [List.filterMapM_cons, h a (List.mem_cons_self ..), pure_bind,
        ih fun b hb => h b (List.mem_cons_of_mem _ hb)]
      cases hg : g a with
      | none => rw [List.filterMap_cons_none hg]
      | some b =>
          rw [List.filterMap_cons_some hg]
          exact pure_bind _ _

end Checked

end DataSchema
