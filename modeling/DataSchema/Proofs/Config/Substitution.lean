import DataSchema.Config.Expansion
import Mathlib.Data.List.Infix
import Mathlib.Data.List.TakeWhile
import Mathlib.Logic.Function.Basic

/-!
# DataSchema.Proofs.Config.Substitution

**Expansion as one substitution.** A settings text reads as characters and references, from left to
right (`segments`). To fill it in is to write the values of the variables that are set where their
references stand, and everything else as it is: each reference is settled on its own, and a value is
not read again (`substitute`).

The expansion finds the same references, but it replaces them one after the other in the text as it
is by then. After some steps that text is the original one, filled in for the names of these steps,
as long as a reference occurs in it only where the original text has it. `Separate` says when that
holds: when the turn of a reference comes, no occurrence of it begins in a value that stands in the
text already, nor at a dollar sign before such a value, nor inside another reference that still
stands. Then every step fills in one more name (`replaceAll_fill`), and the expansion is the
substitution (`expand_eq_substitute`). This is so for ordinary values (`separate_of_plain`), but a
value that looks like a reference can be taken for one (`expand_value_expanded`).
-/

namespace DataSchema.Config

/-! ### Reading a text -/

/-- What stands between the braces of a reference. -/
def IsName (name : List Char) : Prop := name ≠ [] ∧ '\x7d' ∉ name

/-- A part of a text. -/
inductive Segment where
  | char (c : Char)
  | reference (name : List Char)
  deriving DecidableEq, Repr

/-- Read a text from left to right. -/
def segments (s : List Char) : List Segment :=
  match s with
  | '$' :: '\x7b' :: rest =>
    let name := rest.takeWhile (· ≠ '\x7d')
    let after := rest.dropWhile (· ≠ '\x7d')
    if name = [] ∨ after = [] then .char '$' :: segments ('\x7b' :: rest)
    else .reference name :: segments after.tail
  | c :: rest => .char c :: segments rest
  | [] => []
termination_by s.length
decreasing_by
  · exact Nat.lt_succ_self _
  · have := (List.dropWhile_sublist (l := rest) (· ≠ '\x7d')).length_le
    simp only [List.length_tail, List.length_cons]
    omega
  · exact Nat.lt_succ_self _

@[simp] theorem segments_nil : segments [] = [] := by
  rw [segments]

theorem no_reference_of_ne {c : Char} {rest : List Char} (hc : c ≠ '$') (name : List Char)
    (_ : IsName name) : ¬ reference name <+: c :: rest :=
  fun h => hc (List.cons_prefix_cons.mp h).1.symm

/-- The text after an opening brace, cut at its first closing brace. -/
theorem takeWhile_dropWhile_brace {name : List Char} (h : '\x7d' ∉ name) (rest : List Char) :
    (name ++ '\x7d' :: rest).takeWhile (· ≠ '\x7d') = name ∧
      (name ++ '\x7d' :: rest).dropWhile (· ≠ '\x7d') = '\x7d' :: rest := by
  have hname : ∀ c ∈ name, decide (c ≠ '\x7d') = true := by
    intro c hc
    exact decide_eq_true fun heq => h (heq ▸ hc)
  constructor
  · rw [List.takeWhile_append_of_pos hname, List.takeWhile_cons_of_neg (by decide), List.append_nil]
  · rw [List.dropWhile_append_of_pos hname, List.dropWhile_cons_of_neg (by decide)]

theorem reference_append (name rest : List Char) :
    reference name ++ rest = '$' :: '\x7b' :: (name ++ '\x7d' :: rest) := by
  simp [reference]

/-- At most one reference begins at a place. -/
theorem reference_append_inj {name other rest rest' : List Char} (hname : IsName name)
    (hother : IsName other) (h : reference name ++ rest = reference other ++ rest') :
    name = other := by
  rw [reference_append, reference_append] at h
  have hcut := congrArg (List.takeWhile (· ≠ '\x7d')) (List.cons.inj (List.cons.inj h).2).2
  rwa [(takeWhile_dropWhile_brace hname.2 rest).1,
    (takeWhile_dropWhile_brace hother.2 rest').1] at hcut

/-- Where a reference begins, the reference is read. -/
theorem segments_reference {name : List Char} (h : IsName name) (rest : List Char) :
    segments (reference name ++ rest) = .reference name :: segments rest := by
  obtain ⟨htake, hdrop⟩ := takeWhile_dropWhile_brace h.2 rest
  rw [reference_append, segments]
  simp only [htake, hdrop, h.1, List.tail_cons, reduceCtorEq, or_self, if_false]

/-- Where no reference begins, a character is read. -/
theorem segments_cons {c : Char} {rest : List Char}
    (h : ∀ name, IsName name → ¬ reference name <+: c :: rest) :
    segments (c :: rest) = .char c :: segments rest := by
  rw [segments.eq_def]
  split
  · next after heq =>
    obtain ⟨rfl, rfl⟩ := List.cons.inj heq
    rw [if_pos]
    by_cases hbrace : '\x7d' ∈ after
    · obtain ⟨name, rest, rfl, hname⟩ := List.eq_append_cons_of_mem hbrace
      rw [(takeWhile_dropWhile_brace hname rest).1]
      refine Or.inl (by_contra fun hne => h name ⟨hne, hname⟩ ⟨rest, ?_⟩)
      exact reference_append name rest
    · refine Or.inr (List.dropWhile_eq_nil_iff.mpr fun d hd => decide_eq_true ?_)
      rintro rfl
      exact hbrace hd
  · next heq =>
    obtain ⟨rfl, rfl⟩ := List.cons.inj heq
    rfl
  · next heq => cases heq

/-- At every place of a text a reference begins or none does. -/
theorem segments_induction {motive : List Char → Prop} (nil : motive [])
    (reference : ∀ name rest, IsName name → motive rest → motive (reference name ++ rest))
    (char : ∀ c rest, (∀ name, IsName name → ¬ Config.reference name <+: c :: rest) →
      motive rest → motive (c :: rest)) (s : List Char) : motive s := by
  induction hlength : s.length using Nat.strong_induction_on generalizing s with
  | _ length ih =>
    subst hlength
    by_cases hs : ∃ name, IsName name ∧ Config.reference name <+: s
    · obtain ⟨name, hname, rest, rfl⟩ := hs
      refine reference name rest hname (ih _ ?_ rest rfl)
      simp only [Config.reference, List.length_append, List.length_cons]
      omega
    · cases s with
      | nil => exact nil
      | cons c rest =>
        refine char c rest (fun name hname hbegins => hs ⟨name, hname, hbegins⟩) ?_
        exact ih _ (Nat.lt_succ_self _) rest rfl

/-- The name that a segment refers to. -/
def Segment.name? : Segment → Option (List Char)
  | .char _ => none
  | .reference name => some name

/-- The references of a text are those that are read. -/
theorem references_eq_filterMap (s : List Char) :
    references s = (segments s).filterMap Segment.name? := by
  induction s using references.induct with
  | case1 rest name after h ih =>
    have hbrace : segments ('\x7b' :: rest) = .char '\x7b' :: segments rest :=
      segments_cons (no_reference_of_ne (by decide))
    rw [references, segments]
    simp only [name, after] at h
    rw [if_pos h, if_pos h, hbrace, ih]
    rfl
  | case2 rest name after h ih =>
    simp only [name, after] at h ih
    rw [references, segments, if_neg h, if_neg h, ih]
    rfl
  | case3 c rest hnot ih =>
    rw [references, segments, ih]
    · rfl
    · exact hnot
    · exact hnot
  | case4 => rw [references, segments_nil, List.filterMap_nil]

theorem references_reference {name : List Char} (h : IsName name) (rest : List Char) :
    references (reference name ++ rest) = name :: references rest := by
  rw [references_eq_filterMap, references_eq_filterMap, segments_reference h]
  rfl

theorem references_cons {c : Char} {rest : List Char}
    (h : ∀ name, IsName name → ¬ reference name <+: c :: rest) :
    references (c :: rest) = references rest := by
  rw [references_eq_filterMap, references_eq_filterMap, segments_cons h]
  rfl

/-- A name that a text refers to is a name, and the reference stands in the text. -/
theorem of_mem_references {s name : List Char} (h : name ∈ references s) :
    IsName name ∧ reference name <:+: s := by
  induction s using segments_induction with
  | nil => exact absurd h (by rw [references]; exact List.not_mem_nil)
  | reference m rest hm ih =>
    rw [references_reference hm, List.mem_cons] at h
    obtain rfl | hmem := h
    · exact ⟨hm, (List.prefix_append ..).isInfix⟩
    · obtain ⟨hname, hwithin⟩ := ih hmem
      exact ⟨hname, hwithin.trans (List.suffix_append ..).isInfix⟩
  | char c rest hc ih =>
    rw [references_cons hc] at h
    obtain ⟨hname, hwithin⟩ := ih h
    exact ⟨hname, List.infix_cons hwithin⟩

/-! ### Filling in -/

/-- The text of a segment, with a value for some names. -/
def Segment.fill (values : List Char → Option (List Char)) : Segment → List Char
  | .char c => [c]
  | .reference name => (values name).getD (Config.reference name)

/-- A text with the values of some names where their references stand. -/
def fill (values : List Char → Option (List Char)) (s : List Char) : List Char :=
  (segments s).flatMap (Segment.fill values)

/-- The value of a variable, if it is set. -/
def Environment.value? (env : Environment) (name : List Char) : Option (List Char) :=
  (env (String.ofList name)).map String.toList

/-- A text with the values of all variables that are set where their references stand. -/
def substitute (env : Environment) (text : String) : String :=
  String.ofList (fill env.value? text.toList)

section Fill

variable {values : List Char → Option (List Char)}

@[simp] theorem fill_nil : fill values [] = [] := by
  rw [fill, segments_nil, List.flatMap_nil]

theorem fill_reference {name : List Char} (h : IsName name) (rest : List Char) :
    fill values (reference name ++ rest) =
      (values name).getD (reference name) ++ fill values rest := by
  rw [fill, fill, segments_reference h, List.flatMap_cons, Segment.fill]

theorem fill_cons {c : Char} {rest : List Char}
    (h : ∀ name, IsName name → ¬ reference name <+: c :: rest) :
    fill values (c :: rest) = c :: fill values rest := by
  rw [fill, fill, segments_cons h, List.flatMap_cons, Segment.fill, List.singleton_append]

/-- Only the values of the names that a text refers to matter. -/
theorem fill_congr {other : List Char → Option (List Char)} {s : List Char}
    (h : ∀ name ∈ references s, values name = other name) : fill values s = fill other s := by
  induction s using segments_induction with
  | nil => simp
  | reference name rest hname ih =>
    rw [references_reference hname, List.forall_mem_cons] at h
    rw [fill_reference hname, fill_reference hname, h.1, ih h.2]
  | char c rest hc ih =>
    rw [references_cons hc] at h
    rw [fill_cons hc, fill_cons hc, ih h]

/-- Without values the text is what it was. -/
theorem fill_none (s : List Char) : fill (fun _ => none) s = s := by
  induction s using segments_induction with
  | nil => simp
  | reference name rest hname ih => rw [fill_reference hname, ih, Option.getD_none]
  | char c rest hc ih => rw [fill_cons hc, ih]

/-- A text without a closing brace has no references. -/
theorem fill_eq_self {s : List Char} (h : '\x7d' ∉ s) : fill values s = s := by
  have hnone : fill values s = fill (fun _ => none) s := by
    refine fill_congr fun name hname => ?_
    refine absurd ((of_mem_references hname).2.subset ?_) h
    simp [reference]
  rw [hnone, fill_none]

end Fill

/-! ### Replacing a pattern -/

section Replace

variable {pattern value : List Char}

theorem replaceFrom_skip (skip : Nat) (s : List Char) :
    replaceFrom pattern value skip s = replaceAll pattern value (s.drop skip) := by
  induction s generalizing skip with
  | nil => rw [List.drop_nil]; cases skip <;> rfl
  | cons c rest ih =>
    cases skip with
    | zero => rfl
    | succ skip => rw [replaceFrom, ih, List.drop_succ_cons]

theorem replaceAll_append_self (h : pattern ≠ []) (s : List Char) :
    replaceAll pattern value (pattern ++ s) = value ++ replaceAll pattern value s := by
  obtain ⟨c, rest, rfl⟩ := List.exists_cons_of_ne_nil h
  have hbegins : (c :: rest).isPrefixOf (c :: (rest ++ s)) = true :=
    List.isPrefixOf_iff_prefix.mpr (List.prefix_append (c :: rest) s)
  rw [List.cons_append, replaceAll, replaceFrom, if_pos hbegins, replaceFrom_skip,
    List.length_cons, Nat.add_sub_cancel, List.drop_left]

theorem replaceAll_cons {c : Char} {s : List Char} (h : ¬ pattern <+: c :: s) :
    replaceAll pattern value (c :: s) = c :: replaceAll pattern value s := by
  rw [replaceAll, replaceFrom, if_neg fun hbegins => h (List.isPrefixOf_iff_prefix.mp hbegins)]
  rfl

/-- A text in which no occurrence of the pattern begins stays as it is. -/
theorem replaceAll_append {t : List Char} (s : List Char)
    (h : ∀ u, u <:+ t → u ≠ [] → ¬ pattern <+: u ++ s) :
    replaceAll pattern value (t ++ s) = t ++ replaceAll pattern value s := by
  induction t with
  | nil => rfl
  | cons c t ih =>
    have hc : ¬ pattern <+: c :: (t ++ s) := h (c :: t) List.suffix_rfl (List.cons_ne_nil _ _)
    rw [List.cons_append, replaceAll_cons hc, ih fun u hu => h u (hu.trans (List.suffix_cons ..)),
      List.cons_append]

end Replace

/-! ### Occurrences of a reference -/

/-- One of two texts begins with the other. -/
def Meets (s t : List Char) : Prop := s <+: t ∨ t <+: s

instance (s t : List Char) : Decidable (Meets s t) := inferInstanceAs (Decidable (_ ∨ _))

/-- A text that begins with both begins with the shorter one of them. -/
theorem meets_of_prefix {s t whole : List Char} (hs : s <+: whole) (ht : t <+: whole) :
    Meets s t :=
  List.prefix_or_prefix_of_prefix hs ht

/-- No occurrence of a pattern begins in a text, whatever the text is followed by. -/
def Avoids (pattern s : List Char) : Prop := ∀ u ∈ s.tails, u ≠ [] → ¬ Meets u pattern

instance (pattern s : List Char) : Decidable (Avoids pattern s) :=
  inferInstanceAs (Decidable (∀ _ ∈ _, _))

theorem Avoids.replaceAll_append {pattern t : List Char} (h : Avoids pattern t)
    (value s : List Char) :
    replaceAll pattern value (t ++ s) = t ++ replaceAll pattern value s := by
  refine Config.replaceAll_append s fun u hu hne hbegins => ?_
  refine h u ((List.mem_tails ..).mpr hu) hne ?_
  exact meets_of_prefix (List.prefix_append u s) hbegins

/-- A reference ends with a closing brace. -/
theorem brace_mem_of_suffix {name u : List Char} (h : u <:+ reference name) (hne : u ≠ []) :
    '\x7d' ∈ u := by
  obtain rfl | ⟨u, c, rfl⟩ := List.eq_nil_or_concat' u
  · exact absurd rfl hne
  · obtain ⟨front, hu⟩ := h
    have hlast : (front ++ u) ++ [c] = ('$' :: '\x7b' :: name) ++ ['\x7d'] := by
      rw [List.append_assoc, hu]
      rfl
    simp [(List.append_inj' hlast rfl).2]

theorem count_brace_reference {name : List Char} (h : IsName name) :
    (reference name).count '\x7d' = 1 := by
  simp [reference, List.count_eq_zero.mpr h.2]

/-- Where one reference does not stand inside another, no occurrence of it begins there: it would
have to end there too, with the only closing brace that it has. -/
theorem avoids_reference {name other : List Char} (hname : IsName name)
    (h : ¬ reference name <:+: reference other) : Avoids (reference name) (reference other) := by
  intro u hu hne hmeets
  have hsuffix : u <:+ reference other := (List.mem_tails ..).mp hu
  have hmem : '\x7d' ∈ u := brace_mem_of_suffix hsuffix hne
  obtain ⟨v, hv⟩ | hbegins := hmeets
  · have hnil : v = [] := by
      by_contra hvne
      have hbraces := count_brace_reference hname
      rw [← hv, List.count_append] at hbraces
      have hu := List.count_pos_iff.mpr hmem
      have hv := List.count_pos_iff.mpr (brace_mem_of_suffix ⟨u, hv⟩ hvne)
      omega
    rw [hnil, List.append_nil] at hv
    exact h (hv ▸ hsuffix.isInfix)
  · exact h (hbegins.isInfix.trans hsuffix.isInfix)

/-- No occurrence of a reference begins at a character that begins no reference of the text, unless
the character is a dollar sign and a value follows it. -/
theorem not_prefix_fill_cons {values : List Char → Option (List Char)} {name : List Char} {c : Char}
    {rest : List Char} (hname : IsName name)
    (hc : ∀ other, IsName other → ¬ reference other <+: c :: rest)
    (hdollar : ∀ other ∈ references rest, ∀ value ∈ values other,
      [.char '$', .reference other] <+: segments (c :: rest) →
      ¬ Meets value (reference name).tail) :
    ¬ reference name <+: c :: fill values rest := by
  intro hbegins
  obtain ⟨rfl, htail⟩ := List.cons_prefix_cons.mp hbegins
  cases rest using segments_induction with
  | nil => simp at htail
  | reference other rest hother =>
    rw [segments_cons hc, segments_reference hother, references_reference hother] at hdollar
    rw [fill_reference hother] at htail
    cases hvalue : values other with
    | none =>
      rw [hvalue] at htail
      exact absurd (List.cons_prefix_cons.mp htail).1 (by decide)
    | some value =>
      rw [hvalue] at htail
      refine hdollar other List.mem_cons_self value hvalue ⟨segments rest, rfl⟩ ?_
      exact meets_of_prefix (List.prefix_append ..) htail
  | char d rest hd =>
    -- An opening brace that begins no reference is followed by a closing one, or by none at all.
    rw [fill_cons hd] at htail
    obtain ⟨hopen, hname'⟩ := List.cons_prefix_cons.mp htail
    subst hopen
    by_cases hbrace : '\x7d' ∈ rest
    · obtain ⟨other, after, rfl, hother⟩ := List.eq_append_cons_of_mem hbrace
      obtain rfl : other = [] := by
        by_contra hne
        exact hc other ⟨hne, hother⟩ ⟨after, reference_append ..⟩
      obtain ⟨e, name, rfl⟩ := List.exists_cons_of_ne_nil hname.1
      rw [List.nil_append, fill_cons (no_reference_of_ne (by decide))] at hname'
      refine hname.2 (List.mem_cons.mpr (.inl ?_))
      exact (List.cons_prefix_cons.mp hname').1.symm
    · rw [fill_eq_self hbrace] at hname'
      exact hbrace (hname'.subset (List.mem_append_right name List.mem_cons_self))

/-! ### One replacement -/

/-- When a reference is to be replaced in a text that is filled in for some names, it occurs nowhere
but where the text itself has it. -/
structure Clear (values : List Char → Option (List Char)) (name s : List Char) : Prop where
  /-- It does not stand inside a reference that is not filled in. -/
  reference : ∀ other ∈ references s, other ≠ name → values other = none →
    ¬ Config.reference name <:+: Config.reference other
  /-- It does not begin in a value. -/
  value : ∀ other ∈ references s, ∀ value ∈ values other, Avoids (Config.reference name) value
  /-- It does not begin with a dollar sign of the text and go on in a value. -/
  dollar : ∀ other ∈ references s, ∀ value ∈ values other,
    [.char '$', .reference other] <:+: segments s → ¬ Meets value (Config.reference name).tail

instance (values : List Char → Option (List Char)) (name s : List Char) :
    Decidable (Clear values name s) :=
  decidable_of_iff
    ((∀ other ∈ references s, other ≠ name → values other = none →
        ¬ reference name <:+: reference other) ∧
      (∀ other ∈ references s, ∀ value ∈ values other, Avoids (reference name) value) ∧
      ∀ other ∈ references s, ∀ value ∈ values other,
        [.char '$', .reference other] <:+: segments s → ¬ Meets value (reference name).tail)
    ⟨fun ⟨inside, value, dollar⟩ => ⟨inside, value, dollar⟩,
      fun h => ⟨h.reference, h.value, h.dollar⟩⟩

section Step

variable {values : List Char → Option (List Char)} {name : List Char}

theorem Clear.of_suffix {s t : List Char} (h : Clear values name s)
    (hsegments : segments t <:+ segments s) : Clear values name t := by
  have hmem : ∀ other ∈ references t, other ∈ references s := by
    intro other hother
    rw [references_eq_filterMap] at hother ⊢
    exact (hsegments.sublist.filterMap Segment.name?).subset hother
  constructor
  · exact fun other hother => h.reference other (hmem other hother)
  · exact fun other hother => h.value other (hmem other hother)
  · intro other hother value hvalue hwithin
    exact h.dollar other (hmem other hother) value hvalue (hwithin.trans hsegments.isInfix)

/-- **One replacement.** To replace a reference in a text that is filled in is to fill in its name
too. -/
theorem replaceAll_fill {value s : List Char} (hname : IsName name)
    (hvalue : values name = none ∨ values name = some value) (h : Clear values name s) :
    replaceAll (reference name) value (fill values s) =
      fill (Function.update values name (some value)) s := by
  induction s using segments_induction with
  | nil => rw [fill_nil, fill_nil]; rfl
  | reference other rest hother ih =>
    have hrest : Clear values name rest :=
      h.of_suffix (segments_reference hother rest ▸ List.suffix_cons ..)
    have hmem : other ∈ references (reference other ++ rest) :=
      references_reference hother rest ▸ List.mem_cons_self
    rw [fill_reference hother, fill_reference hother, ← ih hrest]
    cases hset : values other with
    | some own =>
      have hupdate : Function.update values name (some value) other = some own := by
        by_cases heq : other = name
        · subst heq
          rw [Function.update_self]
          exact (hvalue.resolve_left (by simp [hset])).symm.trans hset
        · rw [Function.update_of_ne heq, hset]
      rw [hupdate]
      exact (h.value other hmem own hset).replaceAll_append value _
    | none =>
      by_cases heq : other = name
      · subst heq
        rw [Function.update_self]
        exact replaceAll_append_self (by simp [reference]) _
      · rw [Function.update_of_ne heq, hset]
        exact (avoids_reference hname (h.reference other hmem heq hset)).replaceAll_append value _
  | char c rest hc ih =>
    have hrest : Clear values name rest :=
      h.of_suffix (segments_cons hc ▸ List.suffix_cons ..)
    rw [fill_cons hc, fill_cons hc, ← ih hrest]
    refine replaceAll_cons (not_prefix_fill_cons hname hc fun other hother own hown hbegins => ?_)
    exact h.dollar other (references_cons hc ▸ hother) own hown hbegins.isInfix

end Step

/-! ### References kept apart -/

/-- The values of the variables with one of some names. -/
def Environment.known (env : Environment) (names : List (List Char)) (name : List Char) :
    Option (List Char) :=
  if name ∈ names then env.value? name else none

/-- Every reference, when its turn comes, occurs nowhere but where the text itself has it. -/
def Separate (env : Environment) (text : List Char) : Prop :=
  ∀ i < (references text).length, ∀ name ∈ (references text)[i]?, (env.value? name).isSome →
    Clear (env.known ((references text).take i)) name text

instance (env : Environment) (text : List Char) : Decidable (Separate env text) :=
  inferInstanceAs (Decidable (∀ _ < _, ∀ _ ∈ _, _ → _))

/-! ### Ordinary settings -/

theorem Meets.head_eq {a b : Char} {s t : List Char} (h : Meets (a :: s) (b :: t)) : a = b := by
  rcases h with h | h
  · exact (List.cons_prefix_cons.mp h).1
  · exact (List.cons_prefix_cons.mp h).1.symm

/-- A reference to a name without a dollar sign stands inside no other reference to such a name. -/
theorem not_within_reference {name other : List Char} (hname : IsName name) (hother : IsName other)
    (hplain : '$' ∉ other) (hne : other ≠ name) : ¬ reference name <:+: reference other := by
  rintro ⟨front, back, h⟩
  cases front with
  | nil =>
    rw [List.nil_append, ← List.append_nil (reference other)] at h
    exact hne (reference_append_inj hname hother h).symm
  | cons c front =>
    have htail := (List.cons.inj h).2
    have hmem : '$' ∈ '\x7b' :: (other ++ ['\x7d']) := by
      rw [← htail]
      simp [reference]
    simp [hplain] at hmem

/-- Names without a dollar sign, and values without one that are not empty and do not begin with a
brace, keep every reference apart. -/
theorem separate_of_plain {env : Environment} {text : List Char}
    (hnames : ∀ name ∈ references text, '$' ∉ name)
    (hvalues : ∀ name ∈ references text, ∀ value ∈ env.value? name,
      '$' ∉ value ∧ value ≠ [] ∧ value.head? ≠ some '\x7b') : Separate env text := by
  intro i _ name hname _
  have hmem : name ∈ references text := List.mem_of_getElem? hname
  have hknown : ∀ other, ∀ value ∈ env.known ((references text).take i) other,
      value ∈ env.value? other := by
    intro other value hvalue
    rw [Environment.known] at hvalue
    split at hvalue
    · exact hvalue
    · cases hvalue
  constructor
  · intro other hother hne _
    exact not_within_reference (of_mem_references hmem).1 (of_mem_references hother).1
      (hnames other hother) hne
  · intro other hother value hvalue u hu hune hmeets
    obtain ⟨hdollar, -, -⟩ := hvalues other hother value (hknown other value hvalue)
    obtain ⟨c, u, rfl⟩ := List.exists_cons_of_ne_nil hune
    obtain rfl : c = '$' := hmeets.head_eq
    exact hdollar (((List.mem_tails ..).mp hu).subset List.mem_cons_self)
  · intro other hother value hvalue _ hmeets
    obtain ⟨-, hne, hbrace⟩ := hvalues other hother value (hknown other value hvalue)
    obtain ⟨c, value, rfl⟩ := List.exists_cons_of_ne_nil hne
    exact hbrace (congrArg some hmeets.head_eq)

/-! ### The whole run -/

section Run

variable {env : Environment} {text : List Char}

theorem Separate.clear (h : Separate env text) {earlier later : List (List Char)}
    {name : List Char} (hrefs : references text = earlier ++ name :: later)
    (hset : (env.value? name).isSome) : Clear (env.known earlier) name text := by
  have hname : name ∈ (references text)[earlier.length]? := by simp [hrefs]
  have htake : (references text).take earlier.length = earlier := by simp [hrefs]
  have hclear := h earlier.length (by simp [hrefs]) name hname hset
  rwa [htake] at hclear

theorem known_append_singleton (earlier : List (List Char)) (name : List Char) :
    env.known (earlier ++ [name]) = Function.update (env.known earlier) name (env.value? name) := by
  funext other
  by_cases heq : other = name
  · subst heq
    rw [Function.update_self]
    simp [Environment.known]
  · rw [Function.update_of_ne heq]
    simp [Environment.known, heq]

/-- One step of the expansion fills in one more name. -/
theorem expandName_fill {earlier : List (List Char)} {name : List Char} (hname : IsName name)
    (h : (env.value? name).isSome → Clear (env.known earlier) name text) :
    expandName env (fill (env.known earlier) text) name =
      fill (env.known (earlier ++ [name])) text := by
  rw [known_append_singleton, expandName]
  cases hvalue : env (String.ofList name) with
  | none =>
    have hunset : env.value? name = none := by rw [Environment.value?, hvalue, Option.map_none]
    have hknown : env.known earlier name = none := by
      rw [Environment.known, hunset, ite_self]
    rw [hunset, Function.update_eq_self_iff.mpr hknown.symm]
  | some value =>
    have hset : env.value? name = some value.toList := by
      rw [Environment.value?, hvalue, Option.map_some]
    have hknown : env.known earlier name = none ∨ env.known earlier name = some value.toList := by
      rw [Environment.known, hset]
      exact (ite_eq_or_eq ..).symm
    rw [hset]
    exact replaceAll_fill hname hknown (h (by rw [hset]; rfl))

/-- The steps that are left fill in the names that are left. -/
theorem foldl_expandName_fill (h : Separate env text) {earlier later : List (List Char)}
    (hrefs : references text = earlier ++ later) :
    later.foldl (expandName env) (fill (env.known earlier) text) =
      fill (env.known (references text)) text := by
  induction later generalizing earlier with
  | nil => rw [hrefs, List.append_nil]; rfl
  | cons name later ih =>
    have hmem : name ∈ references text := by simp [hrefs]
    rw [List.foldl_cons, expandName_fill (of_mem_references hmem).1 (h.clear hrefs)]
    exact ih (by simp [hrefs])

end Run

/-- **Expansion as one substitution.** Where no value and no other reference can be taken for a
reference whose turn comes later, the expansion writes the value of each variable that is set where
the text refers to it, and everything else as it is. -/
theorem expand_eq_substitute {env : Environment} {text : String} (h : Separate env text.toList) :
    expand env text = substitute env text := by
  have hstart : fill (env.known []) text.toList = text.toList := by
    have hnone : env.known [] = fun _ => none := by
      funext name
      simp [Environment.known]
    rw [hnone, fill_none]
  have hend : fill (env.known (references text.toList)) text.toList =
      fill env.value? text.toList := by
    refine fill_congr fun name hmem => ?_
    rw [Environment.known, if_pos hmem]
  have hrun := foldl_expandName_fill h (List.nil_append _).symm
  rw [hstart, hend] at hrun
  rw [expand, substitute, hrun]

/-- Values that refer to other variables: to one that the text does not refer to, and to one that it
refers to before. One reference is not set, one stands twice, and one is not closed. -/
theorem expand_eq_substitute_paths :
    let env := Environment.ofList
      [("HOME", "/srv"), ("DB", "$\x7bUSER\x7d/$\x7bHOME\x7d"), ("NONE", "")]
    let text := "$$\x7bHOME\x7d/$\x7bDB\x7d$\x7bUNSET\x7d$\x7bDB\x7d$\x7bNONE\x7d$\x7bHOME"
    Separate env text.toList ∧ expand env text = substitute env text ∧
      substitute env text =
        "$/srv/$\x7bUSER\x7d/$\x7bHOME\x7d$\x7bUNSET\x7d$\x7bUSER\x7d/$\x7bHOME\x7d$\x7bHOME" := by
  intro env text
  have hseparate : Separate env text.toList := by decide +kernel
  exact ⟨hseparate, expand_eq_substitute hseparate, by decide +kernel⟩

/-- The value of the first variable refers to the second, which the text refers to after it: the
reference in the value is replaced too. -/
theorem expand_value_expanded :
    let env := Environment.ofList [("A", "$\x7bB\x7d"), ("B", "x")]
    let text := "$\x7bA\x7d$\x7bB\x7d"
    expand env text = "xx" ∧ substitute env text = "$\x7bB\x7dx" := by
  decide +kernel

end DataSchema.Config
