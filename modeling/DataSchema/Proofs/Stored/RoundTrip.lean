import Mathlib.Data.List.Nodup
import DataSchema.Proofs.Json.RoundTrip
import DataSchema.Proofs.Schema.Alignment
import DataSchema.Proofs.Schema.References
import DataSchema.Report

/-!
# DataSchema.Proofs.Stored.RoundTrip

**A stored schema is read back as it was.** A value *round-trips* when its stored form can be written
as a text and stands for the value. This is shown from the inside out: scalars and constants first,
then lists, options and maps over what they hold, and at last the records, whose fields are looked up
by name. The one condition is that line numbers are words of 64 bits, because no larger number is
read.
-/

namespace DataSchema

open JsonFormat (encode decode?)
open Json (Plain Slot slots?)
open Source (BlockKind LineRange Outline normalizedLines)

/-- The stored form of the value can be written, and is read as the value. -/
structure RoundTrips {α : Type} [JsonFormat α] (a : α) : Prop where
  plain : Plain (encode a)
  decode : decode? (encode a) = some a

/-! ### Scalars and constants -/

theorem roundTrips_bool (b : Bool) : RoundTrips b := ⟨.bool b, rfl⟩

theorem roundTrips_string (s : String) : RoundTrips s := ⟨.string s, rfl⟩

theorem roundTrips_nat {n : Nat} (h : n < 2 ^ 64) : RoundTrips n := ⟨.nat n, if_pos h⟩

/-- A constant is read back from its name if no other constant has the name. -/
theorem constant?_string {α : Type} {all : List α} {name : α → String} {a : α} (ha : a ∈ all)
    (hname : ∀ b ∈ all, name b = name a → b = a) :
    Json.constant? all name (.string (name a)) = some a := by
  have hstored : Json.constant? all name (.string (name a)) =
      all.find? (fun b => name b = name a) := rfl
  rw [hstored]
  cases hfind : all.find? (fun b => name b = name a) with
  | none =>
      have hnone := List.find?_eq_none.mp hfind a ha
      simp at hnone
  | some b =>
      have hb : name b = name a := by simpa using List.find?_some hfind
      rw [hname b (List.mem_of_find?_eq_some hfind) hb]

theorem roundTrips_scalarType (t : ScalarType) : RoundTrips t := by
  refine ⟨.string _, constant?_string (ScalarType.mem_all t) fun u _ => ?_⟩
  cases u <;> cases t <;> decide

/-! ### Lists, options and maps -/

theorem mapM_map_eq_some {α β : Type} {f : β → Option α} {g : α → β} {s : List α}
    (h : ∀ a ∈ s, f (g a) = some a) : (s.map g).mapM f = some s := by
  induction s with
  | nil => rfl
  | cons a rest ih =>
      have hrest := ih fun b hb => h b (List.mem_cons_of_mem _ hb)
      rw [List.map_cons, List.mapM_cons, h a (List.mem_cons_self ..), hrest]
      rfl

section Collections

variable {α : Type} [JsonFormat α]

theorem roundTrips_list {s : List α} (h : ∀ a ∈ s, RoundTrips a) : RoundTrips s := by
  refine ⟨.array ?_, mapM_map_eq_some fun a ha => (h a ha).decode⟩
  intro v hv
  obtain ⟨a, ha, rfl⟩ := List.mem_map.mp hv
  exact (h a ha).plain

/-- An absent value is stored as `null`, so what may be absent must not be stored like this. -/
theorem roundTrips_option {o : Option α} (h : ∀ a ∈ o, RoundTrips a)
    (hnull : ∀ a : α, encode a ≠ .null) : RoundTrips o := by
  cases o with
  | none => exact ⟨.null, rfl⟩
  | some a =>
      have ha := h a rfl
      refine ⟨ha.plain, ?_⟩
      -- The reader looks at the stored form first, whatever the type of what may be absent.
      have hsome : ∀ v : Json, v ≠ .null →
          decode? (α := Option α) v = (decode? v : Option α).map some := by
        intro v hv
        cases v <;> first | rfl | exact absurd rfl hv
      have hstored : (encode (some a) : Json) = encode a := rfl
      rw [hstored, hsome _ (hnull a), ha.decode, Option.map_some]

theorem roundTrips_orderedMap {m : OrderedMap α} (h : ∀ a ∈ m.values, RoundTrips a) :
    RoundTrips m := by
  have hentry : ∀ entry ∈ m.entries, RoundTrips entry.2 := by
    intro entry hentry
    exact h entry.2 (List.mem_map.mpr ⟨entry, hentry, rfl⟩)
  constructor
  · refine .object ?_
    intro member hmember
    obtain ⟨entry, he, rfl⟩ := List.mem_map.mp hmember
    exact (hentry entry he).plain
  · have hmembers : (m.entries.map fun entry => (entry.1, encode entry.2)).mapM
        (fun member => (decode? member.2 : Option α).map (member.1, ·)) = some m.entries := by
      refine mapM_map_eq_some fun entry he => ?_
      rw [(hentry entry he).decode]
      rfl
    have hmap : OrderedMap.ofList m.entries = m :=
      OrderedMap.ext (OrderedMap.entries_ofList m.nodup)
    unfold Json.instJsonFormatOrderedMap
    dsimp only
    rw [hmembers, Option.map_some, hmap]

end Collections

/-! ### Records -/

/-- What an object says about a field. -/
def slotOf (members : List (String × Json)) (name : String) : Slot :=
  match members.find? (fun m => m.1 = name) with
  | some m => .given m.2
  | none => .omitted

/-- An object that gives no field twice is read. -/
theorem slots?_object {members : List (String × Json)} (h : (members.map Prod.fst).Nodup)
    (names : List String) :
    slots? names false (.object members) = some (names.map (slotOf members)) := by
  have honce : ∀ name, ¬ 1 < (members.filter (fun m => m.1 = name)).length := by
    intro name
    have hcount : (members.filter (fun m => m.1 = name)).length =
        (members.map Prod.fst).count name := by
      rw [← List.countP_eq_length_filter, List.count, List.countP_map]
      rfl
    have hle := List.nodup_iff_count_le_one.mp h name
    omega
  have hnone : (names.any fun name => 1 < (members.filter (fun m => m.1 = name)).length) =
      false := by
    rw [List.any_eq_false]
    intro name _
    simpa using honce name
  rw [slots?, Bool.false_and, hnone]
  rfl

/-- A record is read back if it is written as an object with a member for each field, and the
reader makes the record of what these members say. -/
theorem roundTrips_record {α : Type} [JsonFormat α] {a : α} {members : List (String × Json)}
    {names : List String} {read : List Slot → Option α} (hencode : encode a = .object members)
    (hdecode : decode? (.object members) = (slots? names false (.object members)).bind read)
    (hnames : (members.map Prod.fst).Nodup) (hplain : ∀ m ∈ members, Plain m.2)
    (hread : read (names.map (slotOf members)) = some a) : RoundTrips a := by
  constructor
  · rw [hencode]
    exact .object hplain
  · rw [hencode, hdecode, slots?_object hnames, Option.bind_some, hread]

theorem roundTrips_optionalText (o : Option String) : RoundTrips o :=
  roundTrips_option (fun s _ => roundTrips_string s) fun _ h => Json.noConfusion h

theorem roundTrips_attribute (a : Attribute) : RoundTrips a := by
  have hpath := roundTrips_string a.path
  have hargs := roundTrips_optionalText a.args
  refine roundTrips_record rfl rfl (by simp) ?_ ?_
  · simp [hpath.plain, hargs.plain]
  · simp [slotOf, Slot.required, Slot.optional, hpath.decode, hargs.decode]

theorem roundTrips_fieldType (t : FieldType) : RoundTrips t := by
  cases t with
  | scalar t =>
      have ht := roundTrips_scalarType t
      refine ⟨.object (by simpa using ht.plain), ?_⟩
      unfold instJsonFormatFieldType
      simp [ht.decode]
  | enum name =>
      have hname := roundTrips_string name
      refine ⟨.object (by simpa using hname.plain), ?_⟩
      unfold instJsonFormatFieldType
      simp [hname.decode]
  | relation model =>
      have hmodel := roundTrips_string model
      refine ⟨.object (by simpa using hmodel.plain), ?_⟩
      unfold instJsonFormatFieldType
      simp [hmodel.decode]

theorem roundTrips_property {p : Property} (hline : p.line < 2 ^ 64) : RoundTrips p := by
  have hkey := roundTrips_string p.key
  have htype := roundTrips_fieldType p.type
  have hflag := roundTrips_bool
  have hlabel := roundTrips_optionalText p.relationLabel
  have hattributes := roundTrips_list fun a (_ : a ∈ p.attributes) => roundTrips_attribute a
  have hnumber := roundTrips_nat hline
  refine roundTrips_record rfl rfl (by simp) ?_ ?_
  · simp [hkey.plain, htype.plain, (hflag _).plain, hlabel.plain, hattributes.plain, hnumber.plain]
  · simp [slotOf, Slot.required, Slot.optional, hkey.decode, htype.decode, (hflag _).decode,
      hlabel.decode, hattributes.decode, hnumber.decode]

/-- The line numbers of the range are words of 64 bits. -/
def Source.LineRange.Fits (r : LineRange) : Prop := r.start < 2 ^ 64 ∧ r.stop < 2 ^ 64

instance (r : LineRange) : Decidable r.Fits :=
  inferInstanceAs (Decidable (r.start < 2 ^ 64 ∧ r.stop < 2 ^ 64))

theorem roundTrips_lineRange {r : LineRange} (h : r.Fits) : RoundTrips r := by
  have hstart := roundTrips_nat h.1
  have hstop := roundTrips_nat h.2
  refine roundTrips_record rfl rfl (by simp) ?_ ?_
  · simp [hstart.plain, hstop.plain]
  · simp [slotOf, Slot.required, hstart.decode, hstop.decode]

theorem roundTrips_model {m : Model} (hbody : m.body.Fits)
    (hlines : ∀ p ∈ m.properties, p.line < 2 ^ 64) : RoundTrips m := by
  have hname := roundTrips_string m.name
  have hproperties := roundTrips_list fun p hp => roundTrips_property (hlines p hp)
  have hrange := roundTrips_lineRange hbody
  refine roundTrips_record rfl rfl (by simp) ?_ ?_
  · simp [hname.plain, hproperties.plain, hrange.plain]
  · simp [slotOf, Slot.required, hname.decode, hproperties.decode, hrange.decode]

theorem roundTrips_enumeration {e : Enumeration} (hbody : e.body.Fits) : RoundTrips e := by
  have hname := roundTrips_string e.name
  have hvalues := roundTrips_list fun s (_ : s ∈ e.values) => roundTrips_string s
  have hrange := roundTrips_lineRange hbody
  refine roundTrips_record rfl rfl (by simp) ?_ ?_
  · simp [hname.plain, hvalues.plain, hrange.plain]
  · simp [slotOf, Slot.required, hname.decode, hvalues.decode, hrange.decode]

/-- A deep key that is absent is not written, and what is not written is absent. -/
theorem roundTrips_relationEntry (e : RelationEntry) : RoundTrips e := by
  obtain ⟨key, value, deepKey⟩ := e
  have hkey := roundTrips_string key
  have hvalue := roundTrips_string value
  cases deepKey with
  | none =>
      refine roundTrips_record rfl rfl (by simp) ?_ ?_
      · simp [hkey.plain, hvalue.plain]
      · simp [slotOf, Slot.required, Slot.withDefault, hkey.decode, hvalue.decode]
  | some fields =>
      have hfields := roundTrips_list fun s (_ : s ∈ fields) => roundTrips_string s
      have hgiven : RoundTrips (some fields) := by
        refine roundTrips_option (fun a ha => ?_) fun _ h => Json.noConfusion h
        cases ha
        exact hfields
      have hdecode : decode? (encode fields) = some (some fields) := hgiven.decode
      refine roundTrips_record rfl rfl (by simp) ?_ ?_
      · simp [hkey.plain, hvalue.plain, hfields.plain]
      · simp [slotOf, Slot.required, Slot.withDefault, hkey.decode, hvalue.decode, hdecode]

theorem roundTrips_relationRecord (r : RelationRecord) : RoundTrips r := by
  have hbucket := fun c => roundTrips_list fun e (_ : e ∈ r.bucket c) => roundTrips_relationEntry e
  have hoo := hbucket .oneToOne
  have hom := hbucket .oneToMany
  have hmo := hbucket .manyToOne
  have hmm := hbucket .manyToMany
  simp only [RelationRecord.bucket] at hoo hom hmo hmm
  refine roundTrips_record rfl rfl (by simp) ?_ ?_
  · simp [hoo.plain, hom.plain, hmo.plain, hmm.plain]
  · simp [slotOf, Slot.required, hoo.decode, hom.decode, hmo.decode, hmm.decode]

/-! ### Schemas -/

/-- All line numbers in the schema are words of 64 bits. -/
structure Schema.LinesFit (s : Schema) : Prop where
  enums : ∀ e ∈ s.enums.values, e.body.Fits
  models : ∀ m ∈ s.models.values, m.body.Fits
  properties : ∀ m ∈ s.models.values, ∀ p ∈ m.properties, p.line < 2 ^ 64

section Compiled

variable {source : String} {markers : Markers} (h : (normalizedLines source).length < 2 ^ 64)

include h

theorem fits_of_isBody {kind : BlockKind} {name : String} {body : LineRange}
    (hbody : (Outline.ofText source).IsBody kind name body) : body.Fits := by
  by_cases hopens : (Outline.ofText source).Opens kind name
  · obtain ⟨block, hfirst, -, -, rfl⟩ := hbody.opened hopens
    obtain ⟨-, hstart, hstop⟩ := Source.body_bounds hfirst.mem
    exact ⟨Nat.lt_of_le_of_lt (Nat.le_trans hstart hstop) h, Nat.lt_of_le_of_lt hstop h⟩
  · rw [hbody.unopened hopens]
    decide

/-- A compiled schema has no line numbers beyond the lines of its text. -/
theorem Schema.linesFit_compile : (Schema.compile source markers).LinesFit where
  enums := by
    intro e he
    obtain ⟨name, -, rfl⟩ := Schema.exists_enumeration_ofName_of_mem he
    exact fits_of_isBody h (Enumeration.isBody_ofName _ name)
  models := by
    intro m hm
    obtain ⟨name, -, rfl⟩ := Schema.exists_ofName_of_mem hm
    exact fits_of_isBody h (Model.isBody_ofName _ _ name)
  properties := by
    intro m hm p hp
    obtain ⟨line, -, hline, -⟩ := Schema.exists_declaration_of_mem hm hp
    have hlt : p.line < (normalizedLines source).length := (List.getElem?_eq_some_iff.mp hline).1
    exact Nat.lt_trans hlt h

end Compiled

theorem roundTrips_schema {s : Schema} (h : s.LinesFit) : RoundTrips s := by
  have henums := roundTrips_orderedMap fun e he => roundTrips_enumeration (h.enums e he)
  have hmodels := roundTrips_orderedMap fun m hm =>
    roundTrips_model (h.models m hm) (h.properties m hm)
  have hrelations := roundTrips_orderedMap fun r (_ : r ∈ s.relations.values) =>
    roundTrips_relationRecord r
  refine roundTrips_record rfl rfl (by simp) ?_ ?_
  · simp [henums.plain, hmodels.plain, hrelations.plain]
  · simp [slotOf, Slot.required, henums.decode, hmodels.decode, hrelations.decode]

namespace Schema

/-- A schema is read back from every text that it is written as, and the texts that are written for
what was read are the same. -/
theorem json_roundTrip {s : Schema} (h : s.LinesFit) :
    (ofJson? s.toJson = some s ∧ (ofJson? s.toJson).map toJson = some s.toJson) ∧
      (ofJson? s.toIndentedJson = some s ∧
        (ofJson? s.toIndentedJson).map toIndentedJson = some s.toIndentedJson) ∧
      (ofJson? (s.print .json) = some s ∧
        (ofJson? (s.print .json)).map (print · .json) = some (s.print .json)) := by
  obtain ⟨hplain, hdecode⟩ := roundTrips_schema h
  have hcompact : ofJson? s.toJson = some s := by
    rw [ofJson?, toJson, Json.parse?_compact hplain, Option.bind_some, hdecode]
  have hindented : ofJson? s.toIndentedJson = some s := by
    rw [ofJson?, toIndentedJson, Json.parse?_indented hplain, Option.bind_some, hdecode]
  have hprinted : ofJson? (s.print .json) = some s := by
    rw [ofJson?, print, toIndentedJson, Json.parse?_indented_newline hplain, Option.bind_some,
      hdecode]
  refine ⟨⟨hcompact, ?_⟩, ⟨hindented, ?_⟩, hprinted, ?_⟩
  · rw [hcompact, Option.map_some]
  · rw [hindented, Option.map_some]
  · rw [hprinted, Option.map_some]

/-- Names that must be escaped, texts and lists that are empty but not absent, and the greatest
line number. -/
def unusual : Schema where
  enums := .ofList [("Größe\n", ⟨"Größe\n", ["\"", "\\", "\t"], ⟨2, 1⟩⟩)]
  models := .ofList
    [("", ⟨"", [⟨"key", .relation "", true, true, false, false, false, some "",
      [⟨"a.b", none⟩, ⟨"c", some ""⟩, ⟨"c", some "(1, 2)"⟩], 18446744073709551615⟩,
      ⟨"unit", .enum "Größe\n", false, false, true, true, true, none, [], 0⟩,
      ⟨"price", .scalar .money, false, false, false, false, false, none, [], 7⟩], ⟨0, 0⟩⟩)]
  relations := .ofList
    [("", { oneToMany := [⟨"key", "", none⟩, ⟨"key", "", some []⟩, ⟨"key", "", some ["a", "b"]⟩] })]

theorem json_roundTrip_unusual :
    unusual.LinesFit ∧ ofJson? unusual.toJson = some unusual ∧
      ofJson? unusual.toIndentedJson = some unusual ∧
        ofJson? (unusual.print .json) = some unusual := by
  have hfit : unusual.LinesFit :=
    ⟨by decide +kernel, by decide +kernel, by decide +kernel⟩
  obtain ⟨⟨hcompact, -⟩, ⟨hindented, -⟩, hprinted, -⟩ := json_roundTrip hfit
  exact ⟨hfit, hcompact, hindented, hprinted⟩

end Schema

end DataSchema
