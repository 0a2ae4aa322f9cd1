import Mathlib.Data.List.Forall2
import DataSchema.Proofs.Json.Scalar

/-!
# DataSchema.Proofs.Json.RoundTrip

**What is written is read back.** Between a value and its text stand the tokens of the value. The
printer writes these tokens, with blanks that depend on the layout, so cutting the text gives the
tokens for every layout (`lexes_renderWith`). The parser is a machine over tokens: from a state where
a value may come next, the tokens of a value lead to the state where this value is finished, and leave
the stack as it was (`foldlM_tokens`). Both are inductions over the value, and neither looks at what
the other does.

Values that nothing can be read from are written like `null`, so the round trip is about values
without them (`Plain`).
-/

namespace DataSchema.Json

/-! ### Values and their tokens -/

/-- No part of the value is foreign. -/
inductive Plain : Json → Prop
  | null : Plain null
  | bool (b : Bool) : Plain (bool b)
  | nat (n : Nat) : Plain (nat n)
  | string (s : String) : Plain (string s)
  | array {items : List Json} (h : ∀ v ∈ items, Plain v) : Plain (array items)
  | object {members : List (String × Json)} (h : ∀ m ∈ members, Plain m.2) : Plain (object members)

mutual

/-- The tokens that a value is written with. -/
def tokens : Json → List Token
  | null => [.scalar null]
  | bool b => [.scalar (bool b)]
  | nat n => [.scalar (nat n)]
  | string s => [.string (some s)]
  | array items => .openArray :: ([Token.comma].intercalate (itemTokens items) ++ [.closeArray])
  | object members =>
    .openObject :: ([Token.comma].intercalate (memberTokens members) ++ [.closeObject])
  | foreign => [.scalar null]

/-- The tokens of each item of an array. -/
def itemTokens : List Json → List (List Token)
  | [] => []
  | v :: rest => v.tokens :: itemTokens rest

/-- The tokens of each member of an object. -/
def memberTokens : List (String × Json) → List (List Token)
  | [] => []
  | (name, v) :: rest => (.string (some name) :: .colon :: v.tokens) :: memberTokens rest

end

theorem itemTokens_eq_map (items : List Json) : itemTokens items = items.map tokens := by
  induction items with
  | nil => rw [itemTokens, List.map_nil]
  | cons v rest ih => rw [itemTokens, ih, List.map_cons]

theorem memberTokens_eq_map (members : List (String × Json)) : memberTokens members =
    members.map fun m => .string (some m.1) :: .colon :: m.2.tokens := by
  induction members with
  | nil => rw [memberTokens, List.map_nil]
  | cons m rest ih => rw [memberTokens, ih, List.map_cons]

theorem renderItems_eq_map (l : Layout) (depth : Nat) (items : List Json) :
    renderItems l depth items = items.map (renderWith l depth) := by
  induction items with
  | nil => rw [renderItems, List.map_nil]
  | cons v rest ih => rw [renderItems, ih, List.map_cons]

theorem renderMembers_eq_map (l : Layout) (depth : Nat) (members : List (String × Json)) :
    renderMembers l depth members =
      members.map fun m => renderString m.1 ++ l.colon ++ renderWith l depth m.2 := by
  induction members with
  | nil => rw [renderMembers, List.map_nil]
  | cons m rest ih => rw [renderMembers, ih, List.map_cons]

/-- The images of a list under two functions agree place by place. -/
theorem forall₂_map_map {α β γ : Type} {R : β → γ → Prop} {f : α → β} {g : α → γ} {s : List α}
    (h : ∀ a ∈ s, R (f a) (g a)) : List.Forall₂ R (s.map f) (s.map g) := by
  rw [List.forall₂_map_left_iff, List.forall₂_map_right_iff]
  exact List.forall₂_same.mpr h

theorem intercalate_cons {α : Type} (separator : α) (first : List α) (rest : List (List α)) :
    [separator].intercalate (first :: rest) = first ++ rest.flatMap (separator :: ·) := by
  induction rest generalizing first with
  | nil => simp [List.intercalate]
  | cons second rest ih =>
      have hsplit : [separator].intercalate (first :: second :: rest) =
          first ++ separator :: [separator].intercalate (second :: rest) := by
        simp [List.intercalate]
      rw [hsplit, ih, List.flatMap_cons, List.cons_append]

/-! ### Cutting a written value -/

/-- In front of a text that it does not run into, the text is cut into the tokens. -/
def Lexes (text : List Char) (ts : List Token) : Prop :=
  ∀ rest, Delimited rest → tokens? (text ++ rest) = (tokens? rest).map (ts ++ ·)

/-- The layout puts only blanks around the tokens. -/
structure Layout.Blank (l : Layout) : Prop where
  lineBreak : ∀ depth, ∀ c ∈ l.lineBreak depth, isJsonBlank c = true
  colon : ∃ gap, l.colon = ':' :: gap ∧ ∀ c ∈ gap, isJsonBlank c = true

theorem Layout.blank_compact : Layout.compact.Blank where
  lineBreak := by simp [Layout.compact]
  colon := ⟨[], rfl, by simp⟩

theorem Layout.blank_indented : Layout.indented.Blank where
  lineBreak := by
    intro depth c hc
    rcases List.mem_cons.mp hc with rfl | hc
    · decide
    · rw [(List.mem_replicate.mp hc).2]
      decide
  colon := ⟨[' '], rfl, by simp [isJsonBlank]⟩

theorem delimited_of_isJsonBlank {c : Char} (h : isJsonBlank c = true) :
    c.isDigit = false ∧ c ≠ '.' ∧ c ≠ 'e' ∧ c ≠ 'E' := by
  simp only [isJsonBlank, Bool.or_eq_true, beq_iff_eq] at h
  rcases h with ((rfl | rfl) | rfl) | rfl <;> decide

theorem delimited_gap_append {gap s : List Char} (hgap : ∀ c ∈ gap, isJsonBlank c = true)
    (hs : Delimited s) : Delimited (gap ++ s) := by
  intro c hc
  cases gap with
  | nil => exact hs c hc
  | cons d rest =>
      have hdc : d = c := by simpa using hc
      exact delimited_of_isJsonBlank (hdc ▸ hgap d (List.mem_cons_self ..))

theorem delimited_cons {c : Char} (h : c.isDigit = false ∧ c ≠ '.' ∧ c ≠ 'e' ∧ c ≠ 'E')
    (s : List Char) : Delimited (c :: s) := by
  intro d hd
  have hcd : c = d := by simpa using hd
  exact hcd ▸ h

theorem tokens?_gap_append {gap : List Char} (hgap : ∀ c ∈ gap, isJsonBlank c = true)
    (s : List Char) : tokens? (gap ++ s) = tokens? s := by
  induction gap with
  | nil => rfl
  | cons c rest ih =>
      have hc : isJsonBlank c = true := hgap c (List.mem_cons_self ..)
      rw [List.cons_append, tokens?, if_pos hc,
        ih fun d hd => hgap d (List.mem_cons_of_mem _ hd)]

theorem tokens?_of_readToken {c : Char} {s after : List Char} {t : Token}
    (hc : isJsonBlank c = false) (h : readToken (c :: s) = some (t, after)) :
    tokens? (c :: s) = (tokens? after).map (t :: ·) := by
  rw [tokens?, if_neg (by simp [hc])]
  split
  · next t' after' he =>
      rw [h] at he
      cases he
      rfl
  · next he =>
      rw [h] at he
      exact absurd he (by simp)

theorem lexes_nil : Lexes [] [] := by
  intro rest _
  cases h : tokens? rest <;> simp [h]

theorem Lexes.append {a b : List Char} {ts us : List Token} (ha : Lexes a ts) (hb : Lexes b us)
    (hdelimited : ∀ rest, Delimited rest → Delimited (b ++ rest)) : Lexes (a ++ b) (ts ++ us) := by
  intro rest hrest
  rw [List.append_assoc, ha _ (hdelimited rest hrest), hb rest hrest, Option.map_map]
  simp [Function.comp_def]

theorem Lexes.gap_append {gap text : List Char} {ts : List Token}
    (hgap : ∀ c ∈ gap, isJsonBlank c = true) (h : Lexes text ts) : Lexes (gap ++ text) ts := by
  intro rest hrest
  rw [List.append_assoc, tokens?_gap_append hgap, h rest hrest]

/-- A mark is a token by itself. -/
theorem Lexes.mark_append {c : Char} {t : Token} {text : List Char} {ts : List Token}
    (hc : isJsonBlank c = false) (hread : ∀ s, readToken (c :: s) = some (t, s))
    (h : Lexes text ts) : Lexes (c :: text) (t :: ts) := by
  intro rest hrest
  rw [List.cons_append, tokens?_of_readToken hc (hread _), h rest hrest, Option.map_map]
  rfl

theorem lexes_renderString (s : String) : Lexes (renderString s) [.string (some s)] := by
  intro rest _
  exact tokens?_of_readToken (by decide) (readToken_renderString s rest)

theorem lexes_renderNat (n : Nat) : Lexes (renderNat n) [.scalar (nat n)] := by
  intro rest hrest
  have hread := readToken_renderNat n hrest
  obtain ⟨c, digits, hrender, hc⟩ := exists_cons_renderNat n
  rw [hrender, List.cons_append] at hread ⊢
  refine tokens?_of_readToken ?_ hread
  by_contra hblank
  have hdelimited := delimited_of_isJsonBlank (by simpa using hblank)
  rw [hc] at hdelimited
  exact Bool.noConfusion hdelimited.1

/-- A word is read in full. -/
theorem lexes_word (c : Char) (letters : List Char) {v : Json} (hc : isJsonBlank c = false)
    (hread : ∀ s, readToken (c :: s) = (skipWord letters s).map (.scalar v, ·)) :
    Lexes (c :: letters) [.scalar v] := by
  intro rest _
  refine tokens?_of_readToken hc ?_
  rw [hread]
  simp [skipWord]

variable {l : Layout}

/-- Items with commas between them are cut into their tokens, with commas between them. -/
theorem lexes_intercalate (hl : l.Blank) (depth : Nat) {pieces : List (List Char)}
    {tss : List (List Token)} (h : List.Forall₂ Lexes pieces tss) :
    Lexes ([','].intercalate (pieces.map (l.lineBreak depth ++ ·)))
      ([Token.comma].intercalate tss) := by
  have hcomma : ∀ text, (∃ rest, text = ',' :: rest) ∨ text = [] →
      ∀ rest, Delimited rest → Delimited (text ++ rest) := by
    rintro text (⟨_, rfl⟩ | rfl) rest hrest
    · exact delimited_cons (by decide) _
    · exact hrest
  cases h with
  | nil => exact lexes_nil
  | @cons piece ts pieces tss hpiece hrest =>
      rw [List.map_cons, intercalate_cons, intercalate_cons]
      have hmore : Lexes ((pieces.map (l.lineBreak depth ++ ·)).flatMap (',' :: ·))
          (tss.flatMap (Token.comma :: ·)) := by
        induction hrest with
        | nil => exact lexes_nil
        | @cons piece' ts' pieces' tss' hpiece' _ ih =>
            rw [List.map_cons, List.flatMap_cons, List.flatMap_cons]
            refine (hpiece'.gap_append (hl.lineBreak depth)).mark_append (by decide)
              (fun _ => rfl) |>.append ih (hcomma _ ?_)
            cases pieces' with
            | nil => exact Or.inr rfl
            | cons next _ => exact Or.inl ⟨_, rfl⟩
      refine (hpiece.gap_append (hl.lineBreak depth)).append hmore (hcomma _ ?_)
      cases pieces with
      | nil => exact Or.inr rfl
      | cons next _ => exact Or.inl ⟨_, rfl⟩

theorem lexes_enclose (hl : l.Blank) (depth : Nat) {opening closing : Char}
    {openToken closeToken : Token} {pieces : List (List Char)} {tss : List (List Token)}
    (hopening : isJsonBlank opening = false) (hclosing : isJsonBlank closing = false)
    (hreadOpening : ∀ s, readToken (opening :: s) = some (openToken, s))
    (hreadClosing : ∀ s, readToken (closing :: s) = some (closeToken, s))
    (hdelimited : ∀ s, Delimited (closing :: s)) (h : List.Forall₂ Lexes pieces tss) :
    Lexes (enclose l depth opening closing pieces)
      (openToken :: ([Token.comma].intercalate tss ++ [closeToken])) := by
  have hclose : Lexes (l.lineBreak depth ++ [closing]) [closeToken] :=
    (lexes_nil.mark_append hclosing hreadClosing).gap_append (hl.lineBreak depth)
  have henclose : ∀ text ts, Lexes text ts →
      Lexes (opening :: (text ++ (l.lineBreak depth ++ [closing])))
        (openToken :: (ts ++ [closeToken])) := by
    intro text ts htext
    refine (htext.append hclose fun rest _ => ?_).mark_append hopening hreadOpening
    rw [List.append_assoc]
    exact delimited_gap_append (hl.lineBreak depth) (hdelimited _)
  rw [enclose]
  split
  · next hnil =>
      subst hnil
      cases h
      exact (lexes_nil.mark_append hclosing hreadClosing).mark_append hopening hreadOpening
  · rw [List.append_assoc]
    exact henclose _ _ (lexes_intercalate hl (depth + 1) h)

theorem lexes_member (hl : l.Blank) (name : String) {text : List Char} {ts : List Token}
    (h : Lexes text ts) : Lexes (renderString name ++ l.colon ++ text)
      (.string (some name) :: .colon :: ts) := by
  obtain ⟨gap, hcolon, hgap⟩ := hl.colon
  have hafter : Lexes (':' :: (gap ++ text)) (.colon :: ts) :=
    (h.gap_append hgap).mark_append (by decide) fun _ => rfl
  rw [hcolon, List.append_assoc, List.cons_append]
  exact (lexes_renderString name).append hafter fun rest _ => delimited_cons (by decide) _

/-- A written value is cut into its tokens. -/
theorem lexes_renderWith (hl : l.Blank) {v : Json} (hv : v.Plain) (depth : Nat) :
    Lexes (renderWith l depth v) v.tokens := by
  induction hv generalizing depth with
  | null =>
      rw [renderWith, tokens]
      exact lexes_word 'n' "ull".toList (by decide) fun _ => rfl
  | bool b =>
      cases b with
      | true =>
          rw [renderWith, tokens]
          exact lexes_word 't' "rue".toList (by decide) fun _ => rfl
      | false =>
          rw [renderWith, tokens]
          exact lexes_word 'f' "alse".toList (by decide) fun _ => rfl
  | nat n =>
      rw [renderWith, tokens]
      exact lexes_renderNat n
  | string s =>
      rw [renderWith, tokens]
      exact lexes_renderString s
  | array _ ih =>
      rw [renderWith, tokens]
      refine lexes_enclose hl depth (by decide) (by decide) (fun _ => rfl) (fun _ => rfl)
        (delimited_cons (by decide)) ?_
      rw [renderItems_eq_map, itemTokens_eq_map]
      exact forall₂_map_map fun v hv => ih v hv _
  | object _ ih =>
      rw [renderWith, tokens]
      refine lexes_enclose hl depth (by decide) (by decide) (fun _ => rfl) (fun _ => rfl)
        (delimited_cons (by decide)) ?_
      rw [renderMembers_eq_map, memberTokens_eq_map]
      exact forall₂_map_map fun m hm => lexes_member hl m.1 (ih m hm _)

/-! ### Running the machine on the tokens of a value -/

/-- From where a value may stand, the tokens lead to the finished value. -/
def Finishes (ts : List Token) (v : Json) : Prop :=
  ∀ stack, ts.foldlM State.step (.value stack) = some (.finished v stack)

/-- Tokens that finish a value do so as well where the array could end. -/
theorem Finishes.firstItem {ts : List Token} {v : Json} (h : Finishes ts v) (stack : List Frame) :
    ts.foldlM State.step (.firstItem stack) = some (.finished v (.array [] :: stack)) := by
  have hvalue := h (.array [] :: stack)
  cases ts with
  | nil => simp at hvalue
  | cons t rest =>
      rw [List.foldlM_cons] at hvalue ⊢
      cases t <;> first | exact hvalue | simp [State.step, State.startValue] at hvalue

/-- The rest of an array, after an item is finished. -/
theorem foldlM_moreItems {tss : List (List Token)} {items : List Json}
    (h : List.Forall₂ Finishes tss items) (v : Json) (before : List Json) (stack : List Frame) :
    (tss.flatMap (Token.comma :: ·) ++ [Token.closeArray]).foldlM State.step
        (.finished v (.array before :: stack)) =
      some (.finished (array ((v :: before).reverse ++ items)) stack) := by
  induction h generalizing v before with
  | nil => simp [State.step]
  | @cons ts w tss items hts _ ih =>
      have hitem : (Token.comma :: ts).foldlM State.step
          (.finished v (.array before :: stack)) =
            some (.finished w (.array (v :: before) :: stack)) := hts (.array (v :: before) :: stack)
      rw [List.flatMap_cons, List.append_assoc, List.foldlM_append, hitem, Option.bind_eq_bind,
        Option.bind_some, ih]
      simp

/-- The tokens of a member lead from its name to its finished value. -/
theorem foldlM_member {ts : List Token} {v : Json} (h : Finishes ts v) (name : String)
    (members : Members) (stack : List Frame) :
    (.string (some name) :: .colon :: ts).foldlM State.step (.member members stack) =
      some (.finished v (.object members (some name) :: stack)) := by
  simp only [List.foldlM_cons, State.step, State.startMember, Option.bind_eq_bind,
    Option.bind_some]
  exact h _

/-- The tokens of one member. -/
def FinishesMember (ts : List Token) (m : String × Json) : Prop :=
  ∃ rest, ts = .string (some m.1) :: .colon :: rest ∧ Finishes rest m.2

/-- The rest of an object, after the value of a member is finished. -/
theorem foldlM_moreMembers {tss : List (List Token)} {members : List (String × Json)}
    (h : List.Forall₂ FinishesMember tss members) (v : Json) (name : Option String)
    (before : Members) (stack : List Frame) :
    (tss.flatMap (Token.comma :: ·) ++ [Token.closeObject]).foldlM State.step
        (.finished v (.object before name :: stack)) =
      some (.finished (ofMembers ((members.map fun m => (some m.1, m.2)).reverse ++
        (name, v) :: before)) stack) := by
  induction h generalizing v name before with
  | nil => simp [State.step]
  | @cons ts m tss members hts _ ih =>
      obtain ⟨rest, rfl, hrest⟩ := hts
      have hmember := foldlM_member hrest m.1 ((name, v) :: before) stack
      rw [List.flatMap_cons, List.append_assoc, List.foldlM_append]
      have hcomma : (Token.comma :: (.string (some m.1) :: .colon :: rest)).foldlM State.step
          (.finished v (.object before name :: stack)) =
            some (.finished m.2 (.object ((name, v) :: before) (some m.1) :: stack)) := hmember
      rw [hcomma, Option.bind_eq_bind, Option.bind_some, ih]
      simp

theorem ofMembers_named (members : List (String × Json)) :
    ofMembers (members.map fun m => (some m.1, m.2)).reverse = object members := by
  have hall : (members.map fun m => ((some m.1 : Option String), m.2)).mapM
      (fun m => m.1.map (·, m.2)) = some members := by
    induction members with
    | nil => rfl
    | cons m rest ih => simp [ih]
  rw [ofMembers, List.reverse_reverse]
  simp [hall]

theorem finishes_array {tss : List (List Token)} {items : List Json}
    (h : List.Forall₂ Finishes tss items) :
    Finishes (.openArray :: ([Token.comma].intercalate tss ++ [.closeArray])) (array items) := by
  intro stack
  rw [List.foldlM_cons]
  have hopen : State.step (.value stack) .openArray = some (.firstItem stack) := rfl
  rw [hopen, Option.bind_eq_bind, Option.bind_some]
  cases h with
  | nil => rfl
  | @cons ts v tss items hts hrest =>
      rw [intercalate_cons, List.append_assoc, List.foldlM_append, hts.firstItem stack,
        Option.bind_eq_bind, Option.bind_some, foldlM_moreItems hrest]
      rfl

theorem finishes_object {tss : List (List Token)} {members : List (String × Json)}
    (h : List.Forall₂ FinishesMember tss members) :
    Finishes (.openObject :: ([Token.comma].intercalate tss ++ [.closeObject]))
      (object members) := by
  intro stack
  rw [List.foldlM_cons]
  have hopen : State.step (.value stack) .openObject = some (.firstMember stack) := rfl
  rw [hopen, Option.bind_eq_bind, Option.bind_some]
  cases h with
  | nil => rfl
  | @cons ts m tss members hts hrest =>
      obtain ⟨rest, rfl, hvalue⟩ := hts
      have hfirst : (.string (some m.1) :: .colon :: rest : List Token).foldlM State.step
          (.firstMember stack) = some (.finished m.2 (.object [] (some m.1) :: stack)) :=
        foldlM_member hvalue m.1 [] stack
      have hall := ofMembers_named (m :: members)
      rw [List.map_cons, List.reverse_cons] at hall
      rw [intercalate_cons, List.append_assoc, List.foldlM_append, hfirst, Option.bind_eq_bind,
        Option.bind_some, foldlM_moreMembers hrest, hall]

/-- The tokens of a value finish it. -/
theorem finishes_tokens {v : Json} (hv : v.Plain) : Finishes v.tokens v := by
  induction hv with
  | null => exact fun _ => rfl
  | bool b => exact fun _ => rfl
  | nat n => exact fun _ => rfl
  | string s => exact fun _ => rfl
  | array _ ih =>
      rw [tokens]
      refine finishes_array ?_
      rw [itemTokens_eq_map, List.forall₂_map_left_iff]
      exact List.forall₂_same.mpr ih
  | object _ ih =>
      rw [tokens]
      refine finishes_object ?_
      rw [memberTokens_eq_map, List.forall₂_map_left_iff]
      exact List.forall₂_same.mpr fun m hm => ⟨m.2.tokens, rfl, ih m hm⟩

/-! ### Whole texts -/

/-- A written value is read back, whatever the layout and with blanks after it. -/
theorem parse?_renderWith (hl : l.Blank) {v : Json} (hv : v.Plain) {gap : List Char}
    (hgap : ∀ c ∈ gap, isJsonBlank c = true) :
    parse? (String.ofList (renderWith l 0 v ++ gap)) = some v := by
  have hnothing : tokens? gap = some [] := by
    have h := tokens?_gap_append hgap []
    rw [List.append_nil] at h
    rw [h, tokens?]
  have hdelimited : Delimited gap := by
    have h := delimited_gap_append hgap delimited_nil
    rwa [List.append_nil] at h
  have htokens : tokens? (renderWith l 0 v ++ gap) = some v.tokens := by
    rw [lexes_renderWith hl hv 0 gap hdelimited, hnothing, Option.map_some, List.append_nil]
  rw [parse?, String.toList_ofList, htokens, Option.bind_eq_bind, Option.bind_some,
    finishes_tokens hv []]
  rfl

theorem parse?_compact {v : Json} (hv : v.Plain) : parse? v.compact = some v := by
  have h := @parse?_renderWith _ Layout.blank_compact v hv [] (by simp)
  rwa [List.append_nil] at h

theorem parse?_indented {v : Json} (hv : v.Plain) : parse? v.indented = some v := by
  have h := @parse?_renderWith _ Layout.blank_indented v hv [] (by simp)
  rwa [List.append_nil] at h

/-- A line break may follow the value. -/
theorem parse?_indented_newline {v : Json} (hv : v.Plain) :
    parse? (v.indented ++ "\n") = some v := by
  have h := @parse?_renderWith _ Layout.blank_indented v hv ['\n'] (by simp [isJsonBlank])
  rwa [String.ofList_append] at h

end DataSchema.Json
