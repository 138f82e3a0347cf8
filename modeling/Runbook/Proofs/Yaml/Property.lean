import Runbook.Proofs.Json.RoundTrip
import Runbook.Yaml.Value

/-!
# Texts of structured properties

A sequence or a mapping becomes JSON text of the same structure, provided that
every key within it is something that can be the name of a member.  If one is
not, all of the text is lost.
-/

namespace Runbook.Yaml

/-- A value is a sequence or a mapping. -/
def IsCollection : Yaml → Prop
  | .sequence _ | .mapping _ => True
  | _ => False

instance : DecidablePred IsCollection
  | .sequence _ | .mapping _ => isTrue trivial
  | .null | .bool _ | .integer _ | .float _ | .string _ | .tagged _ _ =>
    isFalse id

/-- A key can be the name of a member. -/
def IsNameable : Yaml → Prop
  | .string _ | .bool _ | .integer _ => True
  | .float value => value.isFinite = true
  | _ => False

/-- A value stands somewhere within another one, though not in a key. -/
inductive Within : Yaml → Yaml → Prop
  | self (value : Yaml) : Within value value
  | item {part item : Yaml} {items : List Yaml} (member : item ∈ items)
      (within : Within part item) : Within part (.sequence items)
  | entry {part key value : Yaml} {entries : List (Yaml × Yaml)}
      (member : (key, value) ∈ entries) (within : Within part value) :
      Within part (.mapping entries)
  | tagged {part value : Yaml} (tag : String) (within : Within part value) :
      Within part (.tagged tag value)

/-- Every key can be the name of a member. -/
def KeysNamed (value : Yaml) : Prop :=
  ∀ entries, (Yaml.mapping entries).Within value →
    ∀ entry ∈ entries, entry.1.IsNameable

/-- Every integer has at most 64 bits. -/
def HasWords (value : Yaml) : Prop :=
  ∀ number, (Yaml.integer number).Within value →
    (Json.Number.integer number).IsWord

/-- At most `depth` arrays and objects are open at once in the text of a value;
a tag is an object of its own. -/
def NestsWithin : Nat → Yaml → Prop
  | 0, .sequence _ | 0, .mapping _ | 0, .tagged _ _ => False
  | depth + 1, .sequence items => ∀ item ∈ items, NestsWithin depth item
  | depth + 1, .mapping entries =>
    ∀ entry ∈ entries, NestsWithin depth entry.2
  | depth + 1, .tagged _ value => NestsWithin depth value
  | _, _ => True

/-- A JSON value has the structure of a value.  A finite number is what the
reader makes of a numeral that stands for it, and any other number is null.  In
an object the names are sorted, each with the value of its last entry. -/
inductive Mirrors : Yaml → Json → Prop
  | null : Mirrors .null .null
  | bool (value : Bool) : Mirrors (.bool value) (.bool value)
  | integer (value : Int) :
      Mirrors (.integer value) (.number (.integer value))
  | finite {value : Binary64} {text : Json.NumberText} {number : Json.Number}
      (stands : Reading.decimal?
        (value.render Json.numberNotation).toList = some value)
      (written : Json.NumberText.ofChars?
        (value.render Json.numberNotation).toList = some text)
      (read : Json.Number.ofText? text = some number) :
      Mirrors (.float value) (.number number)
  | infinite {value : Binary64} (notFinite : value.isFinite = false) :
      Mirrors (.float value) .null
  | string (text : String) : Mirrors (.string text) (.string text)
  | sequence {items : List Yaml} {values : List Json}
      (all : List.Forall₂ Mirrors items values) :
      Mirrors (.sequence items) (.array values)
  | mapping {entries : List (Yaml × Yaml)}
      {named members : List (String × Json)}
      (names : entries.map (fun entry => memberName? entry.1) =
        named.map fun member => some member.1)
      (values : List.Forall₂ Mirrors (entries.map Prod.snd)
        (named.map Prod.snd))
      (sorted : Json.IsSorted members)
      (last : ∀ name,
        Json.member? name members = Json.member? name named.reverse) :
      Mirrors (.mapping entries) (.object members)
  | tagged {value : Yaml} {json : Json} (tag : String)
      (mirrors : Mirrors value json) :
      Mirrors (.tagged tag value) (.object [("!" ++ tag, json)])

/-- Values are finite trees of items and entries. -/
@[elab_as_elim]
theorem induct {motive : Yaml → Prop} (null : motive .null)
    (bool : ∀ value, motive (.bool value))
    (integer : ∀ value, motive (.integer value))
    (float : ∀ value, motive (.float value))
    (string : ∀ text, motive (.string text))
    (sequence : ∀ items, (∀ item ∈ items, motive item) →
      motive (.sequence items))
    (mapping : ∀ entries,
      (∀ entry ∈ entries, motive entry.2) → motive (.mapping entries))
    (tagged : ∀ tag value, motive value → motive (.tagged tag value))
    (value : Yaml) : motive value := by
  match value with
  | .null => exact null
  | .bool value => exact bool value
  | .integer value => exact integer value
  | .float value => exact float value
  | .string text => exact string text
  | .sequence items =>
      exact sequence items fun item member =>
        induct null bool integer float string sequence mapping tagged item
  | .mapping entries =>
      exact mapping entries fun entry member =>
        induct null bool integer float string sequence mapping tagged entry.2
  | .tagged tag value =>
      exact tagged tag value
        (induct null bool integer float string sequence mapping tagged value)
termination_by value
decreasing_by
  · have smaller := List.sizeOf_lt_of_mem member
    simp_wf
    omega
  · have smaller := List.sizeOf_lt_of_mem member
    have pair : sizeOf entry = 1 + sizeOf entry.1 + sizeOf entry.2 := by
      cases entry
      rfl
    simp_wf
    omega
  · simp_wf

/-! ### Parts of a value -/

variable {part value : Yaml} {items : List Yaml}
  {entries : List (Yaml × Yaml)}

theorem within_sequence_iff : part.Within (.sequence items) ↔
    part = .sequence items ∨ ∃ item ∈ items, part.Within item := by
  constructor
  · rintro (_ | ⟨member, within⟩)
    · exact .inl rfl
    · exact .inr ⟨_, member, within⟩
  · rintro (rfl | ⟨item, member, within⟩)
    · exact .self _
    · exact .item member within

theorem within_mapping_iff : part.Within (.mapping entries) ↔
    part = .mapping entries ∨ ∃ entry ∈ entries, part.Within entry.2 := by
  constructor
  · rintro (_ | _ | ⟨member, within⟩)
    · exact .inl rfl
    · exact .inr ⟨_, member, within⟩
  · rintro (rfl | ⟨entry, member, within⟩)
    · exact .self _
    · exact .entry member within

theorem keysNamed_sequence : (Yaml.sequence items).KeysNamed ↔
    ∀ item ∈ items, item.KeysNamed := by
  constructor
  · exact fun named item member entries within =>
      named entries (.item member within)
  · rintro named entries (_ | ⟨member, within⟩)
    exact named _ member entries within

theorem keysNamed_mapping : (Yaml.mapping entries).KeysNamed ↔
    ∀ entry ∈ entries, entry.1.IsNameable ∧ entry.2.KeysNamed := by
  constructor
  · exact fun named entry member => ⟨named _ (.self _) entry member,
      fun others within => named others (.entry member within)⟩
  · rintro named others within
    rcases within_mapping_iff.1 within with same | ⟨entry, member, within⟩
    · cases same
      exact fun entry member => (named entry member).1
    · exact (named entry member).2 others within

theorem keysNamed_tagged {tag : String} :
    (Yaml.tagged tag value).KeysNamed ↔ value.KeysNamed := by
  constructor
  · exact fun named entries within => named entries (.tagged tag within)
  · intro named entries within
    cases within with
    | tagged _ inside => exact named entries inside

/-! ### The JSON value -/

theorem itemsToJson?_eq_some_iff {values : List Json} :
    itemsToJson? items = some values ↔
      List.Forall₂ (fun item value => toJson? item = some value) items
        values := by
  induction items generalizing values with
  | nil =>
      rw [itemsToJson?, List.forall₂_nil_left_iff, Option.some.injEq, eq_comm]
  | cons item rest ih =>
      simp only [itemsToJson?, Option.bind_eq_bind, Option.bind_eq_some_iff,
        Option.pure_def, Option.some.injEq, List.forall₂_cons_left_iff, ih]
      constructor
      · rintro ⟨value, made, others, madeOthers, rfl⟩
        exact ⟨value, others, made, madeOthers, rfl⟩
      · rintro ⟨value, others, made, madeOthers, rfl⟩
        exact ⟨value, made, others, madeOthers, rfl⟩

theorem entriesToJson?_eq_some_iff {members : List (String × Json)} :
    entriesToJson? entries = some members ↔
      List.Forall₂ (fun entry member => memberName? entry.1 = some member.1 ∧
        toJson? entry.2 = some member.2) entries members := by
  induction entries generalizing members with
  | nil =>
      rw [entriesToJson?, List.forall₂_nil_left_iff, Option.some.injEq,
        eq_comm]
  | cons entry rest ih =>
      obtain ⟨key, item⟩ := entry
      simp only [entriesToJson?, Option.bind_eq_bind, Option.bind_eq_some_iff,
        Option.pure_def, Option.some.injEq, List.forall₂_cons_left_iff, ih]
      constructor
      · rintro ⟨name, named, value, made, others, madeOthers, rfl⟩
        exact ⟨(name, value), others, ⟨named, made⟩, madeOthers, rfl⟩
      · rintro ⟨⟨name, value⟩, others, ⟨named, made⟩, madeOthers, rfl⟩
        exact ⟨name, named, value, made, others, madeOthers, rfl⟩

theorem exists_memberName?_iff {key : Yaml} :
    (∃ name, memberName? key = some name) ↔ key.IsNameable := by
  cases key with
  | float value =>
      rw [memberName?, IsNameable]
      cases value.isFinite <;> simp
  | _ => simp [memberName?, IsNameable]

/-- There is a JSON value exactly if all keys can be names. -/
theorem exists_toJson?_iff (value : Yaml) :
    (∃ json, toJson? value = some json) ↔ value.KeysNamed := by
  induction value using induct with
  | sequence items ih =>
      rw [keysNamed_sequence, ← forall₂_congr ih, ← Json.exists_forall₂_iff]
      simp only [toJson?, Option.map_eq_some_iff, itemsToJson?_eq_some_iff]
      exact ⟨fun ⟨_, values, made, _⟩ => ⟨values, made⟩,
        fun ⟨values, made⟩ => ⟨_, values, made, rfl⟩⟩
  | mapping entries ih =>
      have both : (∀ entry ∈ entries,
          entry.1.IsNameable ∧ entry.2.KeysNamed) ↔
          ∀ entry ∈ entries, ∃ member : String × Json,
            memberName? entry.1 = some member.1 ∧
              toJson? entry.2 = some member.2 := by
        refine forall₂_congr fun entry member => ?_
        rw [← exists_memberName?_iff, ← ih entry member]
        simp
      rw [keysNamed_mapping, both, ← Json.exists_forall₂_iff]
      simp only [toJson?, Option.map_eq_some_iff, entriesToJson?_eq_some_iff]
      exact ⟨fun ⟨_, members, made, _⟩ => ⟨members, made⟩,
        fun ⟨members, made⟩ => ⟨_, members, made, rfl⟩⟩
  | tagged tag value ih =>
      rw [keysNamed_tagged, ← ih]
      simp only [toJson?, Option.map_eq_some_iff]
      exact ⟨fun ⟨_, json, made, _⟩ => ⟨json, made⟩,
        fun ⟨json, made⟩ => ⟨_, json, made, rfl⟩⟩
  | _ =>
      refine ⟨fun _ entries within => (by cases within), fun _ => ?_⟩
      exact ⟨_, by rw [toJson?]⟩

/-- Related elements of two lists have related properties. -/
theorem forall_iff_of_forall₂ {α β : Type} {related : α → β → Prop}
    {first : α → Prop} {second : β → Prop} {left : List α} {right : List β}
    (all : List.Forall₂ related left right)
    (same : ∀ element ∈ left, ∀ partner,
      related element partner → (first element ↔ second partner)) :
    (∀ element ∈ left, first element) ↔ ∀ partner ∈ right, second partner := by
  induction all with
  | nil => simp
  | cons here _ ih =>
      rw [List.forall_mem_cons] at same
      rw [List.forall_mem_cons, List.forall_mem_cons, same.1 _ here,
        ih same.2]

/-- The numbers of a value can be read: a finite one is written as a numeral
that stands for it. -/
theorem mirrors_number {value : Binary64} :
    ∃ json, (Json.Number.float value).restored? = some json ∧
      Mirrors (.float value) json := by
  cases isFinite : value.isFinite with
  | true =>
      obtain ⟨stands, text, number, written, found⟩ :=
        Json.Number.reads_render isFinite
      refine ⟨_, Json.Number.restored?_finite written found, ?_⟩
      rw [Json.Number.render, if_pos isFinite] at stands written
      exact .finite stands written found
  | false =>
      have infinite : ¬ value.isFinite = true := by rw [isFinite]; decide
      exact ⟨_, Json.Number.restored?_infinite infinite, .infinite isFinite⟩

/-- The text of a value is read as a value of the same structure. -/
theorem mirrors_restored {value : Yaml} (words : value.HasWords) {json : Json}
    (made : toJson? value = some json) : Mirrors value json.restored := by
  induction value using induct generalizing json with
  | null =>
      cases made
      rw [Json.restored]
      exact .null
  | bool value =>
      cases made
      rw [Json.restored]
      exact .bool value
  | integer value =>
      cases made
      rw [Json.restored, (words value (.self _)).restored?]
      exact .integer value
  | float value =>
      cases made
      obtain ⟨json, restored, mirrors⟩ := @mirrors_number value
      rw [Json.restored, restored]
      exact mirrors
  | string text =>
      cases made
      rw [Json.restored]
      exact .string text
  | sequence items ih =>
      rw [toJson?, Option.map_eq_some_iff] at made
      obtain ⟨values, all, rfl⟩ := made
      rw [itemsToJson?_eq_some_iff] at all
      rw [Json.restored, Json.restoredItems_eq_map]
      refine .sequence ?_
      rw [List.forall₂_map_right_iff]
      have mirrors (item : Yaml) (member : item ∈ items) (json : Json)
          (made : toJson? item = some json) : Mirrors item json.restored :=
        ih item member (fun number within => words number (.item member within))
          made
      exact ((List.forall₂_and_left _ _).2 ⟨mirrors, all⟩).imp
        fun item value both => both.1 value both.2
  | mapping entries ih =>
      rw [toJson?, Option.map_eq_some_iff] at made
      obtain ⟨members, all, rfl⟩ := made
      rw [entriesToJson?_eq_some_iff] at all
      rw [Json.restored, Json.restoredMembers_eq_map, Json.sortedObject]
      refine .mapping ?_ ?_ (Json.isSorted_sortMembers _)
        fun name => Json.member?_sortMembers _
      · rw [← List.forall₂_eq_eq_eq, List.map_map, List.forall₂_map_left_iff,
          List.forall₂_map_right_iff]
        exact all.imp fun entry member both => both.1
      · rw [List.map_map, List.forall₂_map_left_iff,
          List.forall₂_map_right_iff]
        have mirrors (entry : Yaml × Yaml) (member : entry ∈ entries)
            (json : Json) (made : toJson? entry.2 = some json) :
            Mirrors entry.2 json.restored :=
          ih entry member
            (fun number within => words number (.entry member within)) made
        exact ((List.forall₂_and_left _ _).2 ⟨mirrors, all⟩).imp
          fun entry member both => both.1 member.2 both.2.2
  | tagged tag value ih =>
      rw [toJson?, Option.map_eq_some_iff] at made
      obtain ⟨json, made, rfl⟩ := made
      rw [Json.restored, Json.restoredMembers_eq_map]
      exact .tagged tag
        (ih (fun number within => words number (.tagged tag within)) made)

/-- The text of a value can be read unless it is nested too deeply. -/
theorem nestsWithin_iff {value : Yaml} (words : value.HasWords) {json : Json}
    (made : toJson? value = some json) {depth : Nat} :
    value.NestsWithin depth ↔ json.Readable depth := by
  induction value using induct generalizing json depth with
  | integer value =>
      cases made
      have found := Option.isSome_of_eq_some (words value (.self _)).restored?
      cases depth <;> exact iff_of_true trivial found
  | float value =>
      cases made
      obtain ⟨json, restored, -⟩ := @mirrors_number value
      have found := Option.isSome_of_eq_some restored
      cases depth <;> exact iff_of_true trivial found
  | sequence items ih =>
      rw [toJson?, Option.map_eq_some_iff] at made
      obtain ⟨values, all, rfl⟩ := made
      rw [itemsToJson?_eq_some_iff] at all
      cases depth with
      | zero => exact Iff.rfl
      | succ depth =>
          exact forall_iff_of_forall₂ all fun item member json made =>
            ih item member
              (fun number within => words number (.item member within)) made
  | mapping entries ih =>
      rw [toJson?, Option.map_eq_some_iff] at made
      obtain ⟨members, all, rfl⟩ := made
      rw [entriesToJson?_eq_some_iff] at all
      cases depth with
      | zero => exact Iff.rfl
      | succ depth =>
          exact forall_iff_of_forall₂ all fun entry member json made =>
            ih entry member
              (fun number within => words number (.entry member within)) made.2
  | tagged tag value ih =>
      rw [toJson?, Option.map_eq_some_iff] at made
      obtain ⟨json, made, rfl⟩ := made
      cases depth with
      | zero => exact Iff.rfl
      | succ depth =>
          refine (ih (fun number within => words number (.tagged tag within))
            made).trans ?_
          simp [Json.Readable]
  | _ =>
      cases made
      cases depth <;> exact Iff.rfl

/-! ### The text of a property -/

/-- The text of a sequence or a mapping.  If every key in it can be the name of
a member, then it is JSON text, which the reader refuses only where too many
arrays and objects are open, and otherwise reads as a value of the same
structure.  If some key cannot, then it is empty, as if nothing were authored,
and it cannot be read. -/
theorem propertyText_spec {value : Yaml} (collection : value.IsCollection)
    (words : value.HasWords) :
    ∃ text, value.propertyText = some text ∧
      (text = "" ↔ ¬ value.KeysNamed) ∧
      ((∃ json, Json.read? text = some json) ↔
        value.KeysNamed ∧ value.NestsWithin Json.maxDepth) ∧
      ∀ json, Json.read? text = some json → value.Mirrors json := by
  have written : value.propertyText =
      some ((toJson? value).elim "" Json.render) := by
    cases value with
    | sequence items => rw [propertyText]
    | mapping entries => rw [propertyText]
    | _ => exact collection.elim
  have unread : Json.Source.read? "" = none := by decide
  refine ⟨_, written, ?_⟩
  rw [← exists_toJson?_iff]
  cases made : toJson? value with
  | none =>
      have nothing : Json.read? "" = none := by rw [Json.read?, unread]; rfl
      simp [nothing]
  | some json =>
      have nonempty : json.render ≠ "" := by
        intro empty
        have read := Json.sourceRead?_render json
        rw [empty, unread] at read
        cases read
      have read : Json.read? json.render =
          Json.ofSource? Json.maxDepth json.source := by
        rw [Json.read?, Json.sourceRead?_render, Option.bind_some]
      rw [nestsWithin_iff words made, Option.elim_some, read,
        ← Json.isSome_ofSource?_iff, Option.isSome_iff_exists]
      refine ⟨by simp [nonempty], by simp, fun found reads => ?_⟩
      have readable := Json.isSome_ofSource?_iff.1
        (Option.isSome_of_eq_some reads)
      rw [Json.ofSource?_source readable] at reads
      cases reads
      exact mirrors_restored words made

end Runbook.Yaml
