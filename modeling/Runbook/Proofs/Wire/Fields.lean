import Runbook.Proofs.Json.Indented
import Runbook.Proofs.OrderedMap
import Runbook.Wire.Decoder

/-!
# The fields of records

A record is read from an object that has each of its fields at most once, or
from an array that lists its first fields in their order.  What a field holds
is then found by its name.

A decoder that finds a value in what has been written for it is lawful, and so
are the decoders that are built of it: for a value that may be missing, for a
list, and for the fields of an object.  A field is found by its name, and one
that has been left out is found to be missing.
-/

namespace Runbook.Wire

open Json (Source Piece)

variable {names : List String} {depth : Nat} {source : Source}
  {members : List (String × Source)} {fields : Fields} {name : String}

/-- The members of an object whose names can be read, in the order of the
text. -/
def members? : Source → Option (List (String × Source))
  | .object members => members.mapM fun (content, source) =>
    (Piece.text? content).map fun name => (name, source)
  | _ => none

/-- The members that are fields of a record. -/
def known (names : List String) (members : List (String × Source)) :
    List (String × Source) :=
  members.filter fun member => names.contains member.1

/-- No field of a record occurs twice. -/
def Once (names : List String) (members : List (String × Source)) : Prop :=
  ((known names members).map Prod.fst).Nodup

/-- What the fields of a record are read from. -/
inductive FieldsOf (names : List String) (depth : Nat) : Source → Fields → Prop
  | object {source : Source} {members : List (String × Source)}
      (isObject : members? source = some members) (once : Once names members) :
      FieldsOf names depth source ⟨depth, known names members⟩
  | array {items : List Source} (short : items.length ≤ names.length) :
      FieldsOf names depth (.array items) ⟨depth, names.zip items⟩

theorem areDistinct_iff : areDistinct names = true ↔ names.Nodup := by
  induction names with
  | nil => simp [areDistinct]
  | cons name rest ih => simp [areDistinct, ih]

theorem fields?_object (members : List (List Piece × Source)) :
    fields? names (depth + 1) (.object members) =
      (members? (.object members)).bind fun members =>
        if areDistinct ((known names members).map Prod.fst) then
          some ⟨depth, known names members⟩
        else none :=
  rfl

theorem fields?_eq_some_iff :
    fields? names (depth + 1) source = some fields ↔
      FieldsOf names depth source fields := by
  constructor
  · intro isRead
    cases source with
    | object members =>
        rw [fields?_object, Option.bind_eq_some_iff] at isRead
        obtain ⟨named, isObject, isRead⟩ := isRead
        obtain ⟨distinct, same⟩ := Option.ite_none_right_eq_some.1 isRead
        cases same
        exact .object isObject (areDistinct_iff.1 distinct)
    | array items =>
        obtain ⟨short, same⟩ := Option.ite_none_right_eq_some.1 isRead
        cases same
        exact .array short
    | _ => cases isRead
  · intro isRead
    cases isRead with
    | @object source members isObject once =>
        cases source with
        | object written =>
            rw [fields?_object, isObject]
            exact if_pos (areDistinct_iff.2 once)
        | _ => cases isObject
    | array short => exact if_pos short

/-! ### Fields by their names -/

theorem source?_eq_find? (fields : Fields) (name : String) :
    fields.source? name = OrderedMap.find? name fields.sources := by
  unfold Fields.source?
  induction fields.sources with
  | nil => rfl
  | cons field rest ih =>
      obtain ⟨other, source⟩ := field
      by_cases same : name = other
      · subst same
        simp [OrderedMap.find?]
      · have different : (name == other) = false := beq_false_of_ne same
        simp [List.lookup_cons, OrderedMap.find?, different, Ne.symm same, ih]

/-- A field that occurs once has the value of the member with its name. -/
theorem source?_eq_some_iff (once : Once names members)
    (isField : name ∈ names) :
    (Fields.mk depth (known names members)).source? name = some source ↔
      (name, source) ∈ members := by
  rw [source?_eq_find?, OrderedMap.find?_eq_some_iff once]
  simp [known, isField]

theorem required_eq_some_iff {α : Type} {decoder : Decoder α} {value : α} :
    fields.required name decoder = some value ↔
      ∃ source, fields.source? name = some source ∧
        decoder fields.depth source = some value :=
  Option.bind_eq_some_iff

/-! ### Texts -/

variable {text : String}

theorem text_eq_some_iff :
    Wire.text depth source = some text ↔
      ∃ content, source = .string content ∧
        Piece.text? content = some text := by
  cases source <;> simp [Wire.text]

/-- A text is read as the string that it is. -/
theorem ofSource?_of_text (isText : Wire.text depth source = some text)
    (within : Nat) : Json.ofSource? within source = some (.string text) := by
  obtain ⟨content, rfl, isRead⟩ := text_eq_some_iff.1 isText
  rw [Json.ofSource?, isRead]
  rfl

/-- A list of texts is read as the array of strings that it is. -/
theorem ofItems?_of_texts {items : List Source} {texts : List String}
    (areTexts : items.mapM (Wire.text depth) = some texts) (within : Nat) :
    Json.ofItems? within items = some (texts.map .string) := by
  induction items generalizing texts with
  | nil =>
      cases areTexts
      rfl
  | cons item rest ih =>
      rw [List.mapM_cons, Option.bind_eq_bind,
        Option.bind_eq_some_iff] at areTexts
      obtain ⟨text, isText, areTexts⟩ := areTexts
      rw [Option.bind_eq_bind, Option.bind_eq_some_iff] at areTexts
      obtain ⟨others, areOthers, same⟩ := areTexts
      cases same
      rw [Json.ofItems?, ofSource?_of_text isText, ih areOthers]
      rfl

theorem ofSource?_of_texts {texts : List String}
    (areTexts : Wire.list Wire.text depth source = some texts)
    (within : Nat) :
    Json.ofSource? (within + 1) source =
      some (.array (texts.map .string)) := by
  cases depth with
  | zero => cases areTexts
  | succ depth =>
      cases source with
      | array items =>
          rw [Json.ofSource?, ofItems?_of_texts areTexts]
          rfl
      | _ => cases areTexts

end Runbook.Wire

/-! ## Decoding what has been encoded -/

namespace Runbook.Wire

open Json (Source Piece)

variable {α : Type} {decoder : Decoder α} {encode : α → Json} {depth : Nat}
  {name : String} {value : α}

/-- What is written for a value is decoded to it. -/
def Restores (decoder : Decoder α) (encode : α → Json) (depth : Nat)
    (value : α) : Prop :=
  decoder depth (encode value).source = some value

/-- A value is read back from its text in one line and in several lines. -/
structure ReadsBack (decoder : Decoder α) (encode : α → Json) (value : α) :
    Prop where
  rendered : read? decoder (encode value).render = some value
  indented : read? decoder (encode value).renderIndented = some value

theorem Restores.readsBack (restores : Restores decoder encode Json.maxDepth
    value) : ReadsBack decoder encode value where
  rendered := by
    rw [read?, Json.sourceRead?_render, Option.bind_some, restores]
  indented := by
    rw [read?, Json.sourceRead?_renderIndented, Option.bind_some, restores]

/-! ### Plain values -/

@[simp]
theorem text_source (depth : Nat) (value : String) :
    text depth (Json.string value).source = some value := by
  rw [Json.source, text, Piece.text?_map_ofChar]

@[simp]
theorem bool_source (depth : Nat) (value : Bool) :
    bool depth (Json.bool value).source = some value := by
  rw [Json.source, bool]

/-- The tree of an integer of 64 bits. -/
theorem exists_source_ofInt {value : Int}
    (isWord : (Json.Number.integer value).IsWord) :
    ∃ text, (Json.ofInt value).source = .number text ∧
      Json.Number.ofText? text = some (.integer value) := by
  have restored := isWord.restored?
  rw [Json.Number.restored?] at restored
  rw [Json.ofInt, Json.source]
  split at restored
  · next text same =>
      simp only [Option.map_eq_some_iff, Json.number.injEq] at restored
      obtain ⟨number, found, rfl⟩ := restored
      exact ⟨text, same, found⟩
  · cases restored

theorem restores_natural {value : Nat} (small : value < 2 ^ 64)
    (depth : Nat) :
    Restores natural (fun value => Json.ofInt value) depth value := by
  obtain ⟨text, written, found⟩ := @exists_source_ofInt value
    ⟨by omega, by omega⟩
  rw [Restores, written, natural, found]
  simp

/-- An instant that is read back from its text. -/
theorem restores_instant {value : Instant}
    (reads : Instant.read? value.render = some value) (depth : Nat) :
    Restores instant (fun instant => .string instant.render) depth value := by
  rw [Restores, instant, text_source, Option.bind_some, reads]

/-- A JSON value that the reader gives back. -/
theorem restores_json {value : Json} (fits : Json.Fits depth value) :
    Restores json id depth value := by
  rw [Restores, json, id, Json.ofSource?_source fits.readable, fits.restored]

/-- One of several values by its name, if no earlier one has it. -/
theorem restores_choice {all : List α} {name : α → String} (depth : Nat)
    (found : (all.find? fun other => name other == name value) = some value) :
    Restores (choice all name) (fun value => .string (name value)) depth
      value := by
  have isText := text_source depth (name value)
  rw [Json.source] at isText
  rw [Restores, Json.source, choice, isText, Option.bind_some, found]
  exact nofun

/-! ### Lists -/

theorem restores_list {values : List α}
    (each : ∀ value ∈ values, Restores decoder encode depth value) :
    Restores (list decoder) (fun values => .array (values.map encode))
      (depth + 1) values := by
  rw [Restores, Json.source, list, Json.sourceItems_eq_map]
  induction values with
  | nil => rfl
  | cons value rest ih =>
      rw [List.forall_mem_cons] at each
      have first : decoder depth (encode value).source = some value := each.1
      rw [List.map_cons, List.map_cons, List.mapM_cons, first, ih each.2]
      rfl

@[simp]
theorem list_text_source (depth : Nat) (values : List String) :
    list text (depth + 1) (texts values).source = some values :=
  restores_list fun value _ => text_source depth value

/-! ### Fields -/

/-- The fields of an object that has been written. -/
def encoded (depth : Nat) (members : List (String × Json)) : Fields :=
  ⟨depth, members.map fun member => (member.1, member.2.source)⟩

variable {members others : List (String × Json)} {names : List String}

/-- The names of written members are read. -/
theorem mapM_sourceMembers {β : Type}
    (make : String → List Piece → Source → β)
    (members : List (String × Json)) :
    ((Json.sourceMembers members).mapM fun (content, source) =>
        (Piece.text? content).map fun name => make name content source) =
      some (members.map fun member =>
        make member.1 (member.1.toList.map Piece.ofChar) member.2.source) := by
  induction members with
  | nil => rfl
  | cons member rest ih =>
      rw [Json.sourceMembers, List.mapM_cons, ih]
      dsimp only
      rw [Piece.text?_map_ofChar]
      rfl

theorem members?_source (members : List (String × Json)) :
    members? (Json.object members).source =
      some (members.map fun member => (member.1, member.2.source)) := by
  rw [Json.source]
  exact mapM_sourceMembers (fun name _ source => (name, source)) members

/-- Members in the order of the fields of a record are its fields. -/
theorem fields?_source (sublist : (members.map Prod.fst).Sublist names)
    (distinct : names.Nodup) (depth : Nat) :
    fields? names (depth + 1) (Json.object members).source =
      some (encoded depth members) := by
  have all : known names (members.map fun member =>
      (member.1, member.2.source)) =
        members.map fun member => (member.1, member.2.source) := by
    refine List.filter_eq_self.2 ?_
    simp only [List.forall_mem_map, List.contains_iff_mem]
    exact fun member present =>
      sublist.subset (List.mem_map_of_mem present)
  have once : Once names (members.map fun member =>
      (member.1, member.2.source)) := by
    rw [Once, all, List.map_map]
    exact distinct.sublist sublist
  rw [fields?_eq_some_iff, encoded, ← all]
  exact .object (members?_source members) once

theorem source?_encoded (depth : Nat) (members : List (String × Json))
    (name : String) :
    (encoded depth members).source? name =
      (Json.member? name members).map Json.source := by
  rw [source?_eq_find?, encoded]
  induction members with
  | nil => rfl
  | cons member rest ih =>
      rw [List.map_cons, OrderedMap.find?, Json.member?, ih]
      split <;> rfl

/-- A field is read from what has been written under its name. -/
theorem required_encoded (depth : Nat) (members : List (String × Json))
    (name : String) (decoder : Decoder α) :
    (encoded depth members).required name decoder =
      (Json.member? name members).bind fun json =>
        decoder depth json.source := by
  rw [Fields.required, source?_encoded]
  cases Json.member? name members <;> rfl

theorem defaulted_encoded (depth : Nat) (members : List (String × Json))
    (name : String) (fallback : α) (decoder : Decoder α) :
    (encoded depth members).defaulted name fallback decoder =
      match Json.member? name members with
      | none => some fallback
      | some json => decoder depth json.source := by
  rw [Fields.defaulted, source?_encoded]
  cases Json.member? name members <;> rfl

theorem source_string_ne_null (value : String) :
    (Json.string value).source ≠ .null := by
  rw [Json.source]
  exact nofun

theorem source_natural_ne_null {value : Nat} (small : value < 2 ^ 64) :
    (Json.ofInt value).source ≠ .null := by
  obtain ⟨text, written, -⟩ := @exists_source_ofInt value
    ⟨by omega, by omega⟩
  rw [written]
  exact nofun

theorem option_eq_of_ne_null {source : Source} (some_ : source ≠ .null) :
    option decoder depth source = (decoder depth source).map some := by
  cases source <;> first | rfl | exact (some_ rfl).elim

theorem optional_encoded (depth : Nat) (members : List (String × Json))
    (name : String) (decoder : Decoder α) :
    (encoded depth members).optional name decoder =
      match Json.member? name members with
      | none => some none
      | some json => option decoder depth json.source :=
  defaulted_encoded depth members name none (option decoder)

/-- A text that is null when there is none. -/
@[simp]
theorem option_orNull (depth : Nat) (value : Option String) :
    option text depth (orNull value).source = some value := by
  cases value with
  | none =>
      rw [orNull, Json.source]
      rfl
  | some held =>
      rw [orNull, option_eq_of_ne_null (source_string_ne_null held),
        text_source, Option.map_some]

/-- A field that is left out when there is no value. -/
theorem optional_present {value : Option α} (there : Json.member? name members =
    value.map encode) (some_ : ∀ held ∈ value, (encode held).source ≠ .null)
    (restores : ∀ held ∈ value, Restores decoder encode depth held) :
    (encoded depth members).optional name decoder = some value := by
  rw [optional_encoded, there]
  cases value with
  | none => rfl
  | some held =>
      exact (option_eq_of_ne_null (some_ held rfl)).trans
        (congrArg (Option.map some) (restores held rfl))

/-! ### Members that may be left out -/

theorem member?_present {name other : String} {value : Option α} :
    Json.member? name (present other encode value) =
      if other = name then value.map encode else none := by
  cases value with
  | none => simp [present, Json.member?]
  | some held => rfl

theorem sublist_present (name : String) (encode : α → Json)
    (value : Option α) :
    ((present name encode value).map Prod.fst).Sublist [name] := by
  cases value with
  | none => exact List.nil_sublist _
  | some held => exact .refl _

end Runbook.Wire
