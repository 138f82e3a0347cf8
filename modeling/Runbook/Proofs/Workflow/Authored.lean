import Runbook.Proofs.OrderedMap
import Runbook.Proofs.Yaml.Bounds
import Runbook.Workflow.Document

/-!
# Authored properties

The properties of the nodes of a document are values without tags, and they
stand so deep in the document that the JSON reader can take them again.
-/

namespace Runbook

namespace Document

theorem itemsHaveTag_eq_false_iff {items : List Yaml} :
    itemsHaveTag items = false ↔ ∀ item ∈ items, hasTag item = false := by
  induction items with
  | nil => simp [itemsHaveTag]
  | cons item rest ih =>
      rw [itemsHaveTag, Bool.or_eq_false_iff, ih, List.forall_mem_cons]

theorem entriesHaveTag_eq_false {entries : List (Yaml × Yaml)}
    (untagged : entriesHaveTag entries = false) :
    ∀ entry ∈ entries, hasTag entry.2 = false := by
  induction entries with
  | nil => simp
  | cons entry rest ih =>
      obtain ⟨key, value⟩ := entry
      rw [entriesHaveTag, Bool.or_eq_false_iff,
        Bool.or_eq_false_iff] at untagged
      exact List.forall_mem_cons.2 ⟨untagged.1.2, ih untagged.2⟩

end Document

namespace Yaml

variable {value : Yaml} {depth : Nat}

/-- Without tags, the arrays and objects in the text of a value are its
collections. -/
theorem OpensWithin.nestsWithin (opens : value.OpensWithin depth)
    (untagged : Document.hasTag value = false) : value.NestsWithin depth := by
  induction value using Yaml.induct generalizing depth with
  | sequence items ih =>
      rw [Document.hasTag, Document.itemsHaveTag_eq_false_iff] at untagged
      cases depth with
      | zero =>
          rw [OpensWithin] at opens
          exact opens
      | succ depth =>
          rw [OpensWithin] at opens
          exact fun item member =>
            ih item member (opens item member) (untagged item member)
  | mapping entries ih =>
      rw [Document.hasTag] at untagged
      have untagged := Document.entriesHaveTag_eq_false untagged
      cases depth with
      | zero =>
          rw [OpensWithin] at opens
          exact opens
      | succ depth =>
          rw [OpensWithin] at opens
          exact fun entry member =>
            ih entry member (opens entry member) (untagged entry member)
  | tagged tag value =>
      rw [Document.hasTag] at untagged
      cases untagged
  | _ => cases depth <;> trivial

theorem NestsWithin.mono {more : Nat} (nests : value.NestsWithin depth)
    (atMost : depth ≤ more) : value.NestsWithin more := by
  induction value using Yaml.induct generalizing depth more with
  | sequence items ih =>
      cases depth with
      | zero => exact nests.elim
      | succ depth =>
          obtain ⟨more, rfl⟩ := Nat.exists_eq_add_of_le' atMost
          exact fun item member =>
            ih item member (nests item member) (Nat.le_add_left depth more)
  | mapping entries ih =>
      cases depth with
      | zero => exact nests.elim
      | succ depth =>
          obtain ⟨more, rfl⟩ := Nat.exists_eq_add_of_le' atMost
          exact fun entry member =>
            ih entry member (nests entry member) (Nat.le_add_left depth more)
  | tagged tag value ih =>
      cases depth with
      | zero => exact nests.elim
      | succ depth =>
          obtain ⟨more, rfl⟩ := Nat.exists_eq_add_of_le' atMost
          have inside : value.NestsWithin depth := nests
          exact ih inside (Nat.le_add_left depth more)
  | _ => cases more <;> trivial

theorem IsBounded.untagged (bounded : value.IsBounded depth) :
    value.untagged.IsBounded depth := by
  induction value using Yaml.induct with
  | tagged tag value ih =>
      refine ih ⟨fun number within => bounded.words number
        (.tagged tag within), ?_⟩
      have opens := bounded.opens
      rwa [OpensWithin] at opens
  | _ => exact bounded

theorem IsBounded.item {items : List Yaml}
    (bounded : (Yaml.sequence items).IsBounded (depth + 1)) :
    ∀ item ∈ items, item.IsBounded depth := by
  intro item member
  have opens := bounded.opens
  rw [OpensWithin] at opens
  exact ⟨fun number within => bounded.words number (.item member within),
    opens item member⟩

theorem IsBounded.entry {entries : List (Yaml × Yaml)}
    (bounded : (Yaml.mapping entries).IsBounded (depth + 1)) :
    ∀ entry ∈ entries, entry.2.IsBounded depth := by
  intro entry member
  have opens := bounded.opens
  rw [OpensWithin] at opens
  exact ⟨fun number within => bounded.words number (.entry member within),
    opens entry member⟩

end Yaml

/-- Values are read as far as all of them are. -/
theorem exists_of_mapM {α β : Type} {find : α → Option β} {elements : List α}
    {values : List β} (found : elements.mapM find = some values) :
    ∀ value ∈ values, ∃ element ∈ elements, find element = some value := by
  induction elements generalizing values with
  | nil =>
      cases found
      simp
  | cons element rest ih =>
      rw [List.mapM_cons] at found
      obtain ⟨value, here, found⟩ := Option.bind_eq_some_iff.1 found
      obtain ⟨others, there, same⟩ := Option.bind_eq_some_iff.1 found
      cases same
      rw [List.forall_mem_cons]
      refine ⟨⟨element, by simp, here⟩, fun value member => ?_⟩
      obtain ⟨source, present, found⟩ := ih there value member
      exact ⟨source, List.mem_cons_of_mem _ present, found⟩

namespace Document

open Yaml

variable {value : Yaml} {depth : Nat}

/-- Fields are one level below their mapping. -/
theorem isBounded_of_fields? {fields : List (String × Yaml)}
    (bounded : value.IsBounded (depth + 1))
    (found : fields? value = some fields) :
    ∀ field ∈ fields, field.2.IsBounded depth := by
  unfold fields? at found
  have bounded := bounded.untagged
  split at found
  · cases found
    simp
  · next entries isMapping =>
      rw [isMapping] at bounded
      intro field member
      obtain ⟨entry, present, made⟩ := exists_of_mapM found field member
      obtain ⟨key, -, rfl⟩ := Option.map_eq_some_iff.1 made
      exact bounded.entry entry present
  · cases found

theorem mem_of_field? {name : String} {fields : List (String × Yaml)}
    (found : field? name fields = some (some value)) :
    ∃ field ∈ fields, field.2 = value := by
  unfold field? at found
  split at found
  · cases found
  · next field only =>
      cases found
      have member : field ∈ fields.filter fun field => field.1 == name := by
        simp [only]
      exact ⟨field, List.mem_of_mem_filter member, rfl⟩
  · cases found

/-- The properties of a node have no tags. -/
theorem property_of_node? {definition : NodeDefinition}
    (bounded : value.IsBounded (depth + 1))
    (found : node? value = some definition) :
    ∀ property ∈ definition.properties.entries,
      hasTag property.2 = false ∧ property.2.IsBounded depth := by
  obtain ⟨fields, listed, found⟩ := Option.bind_eq_some_iff.1 found
  obtain ⟨id, -, found⟩ := Option.bind_eq_some_iff.1 found
  obtain ⟨typed, -, found⟩ := Option.bind_eq_some_iff.1 found
  obtain ⟨tag, -, found⟩ := Option.bind_eq_some_iff.1 found
  obtain ⟨next, -, found⟩ := Option.bind_eq_some_iff.1 found
  obtain ⟨trueNext, -, found⟩ := Option.bind_eq_some_iff.1 found
  obtain ⟨falseNext, -, found⟩ := Option.bind_eq_some_iff.1 found
  obtain ⟨position, -, found⟩ := Option.bind_eq_some_iff.1 found
  obtain ⟨untagged, found⟩ := Option.ite_none_left_eq_some.1 found
  cases found
  intro property member
  have other := OrderedMap.mem_of_mem_ofList member
  have field := List.mem_of_mem_filter other
  refine ⟨?_, isBounded_of_fields? bounded listed property field⟩
  by_contra tagged
  exact untagged (List.any_eq_true.2 ⟨property, other, by simpa using tagged⟩)

/-- The properties in a document are three levels below it. -/
theorem property_of_ofYaml? {document : Document}
    (bounded : value.IsBounded (depth + 3))
    (found : ofYaml? value = some document) :
    ∀ definition ∈ document.nodes,
      ∀ property ∈ definition.properties.entries,
        hasTag property.2 = false ∧ property.2.IsBounded depth := by
  obtain ⟨fields, listed, found⟩ := Option.bind_eq_some_iff.1 found
  obtain ⟨name, -, found⟩ := Option.bind_eq_some_iff.1 found
  obtain ⟨description, -, found⟩ := Option.bind_eq_some_iff.1 found
  obtain ⟨startNode, -, found⟩ := Option.bind_eq_some_iff.1 found
  obtain ⟨field, held, found⟩ := Option.bind_eq_some_iff.1 found
  match field with
  | none =>
      cases found
      simp
  | some value =>
      obtain ⟨nodes, read, found⟩ := Option.bind_eq_some_iff.1 found
      cases found
      obtain ⟨field, member, rfl⟩ := mem_of_field? held
      have inside := (isBounded_of_fields? bounded listed field
        member).untagged
      unfold nodes? at read
      split at read
      · cases read
        simp
      · next items isSequence =>
          rw [isSequence] at inside
          intro definition member
          obtain ⟨item, present, made⟩ := exists_of_mapM read definition member
          exact property_of_node? (inside.item item present) made
      · cases read

end Document

theorem Yaml.mem_of_entry? {name : String} {value : Yaml}
    {entries : List (Yaml × Yaml)} (found : entry? name entries = some value) :
    ∃ entry ∈ entries, entry.2 = value := by
  induction entries with
  | nil => cases found
  | cons entry rest ih =>
      obtain ⟨key, held⟩ := entry
      have later (found : entry? name rest = some value) :
          ∃ entry ∈ (key, held) :: rest, entry.2 = value := by
        obtain ⟨entry, member, same⟩ := ih found
        exact ⟨entry, List.mem_cons_of_mem _ member, same⟩
      cases key with
      | string other =>
          unfold entry? at found
          split at found
          · cases found
            exact ⟨_, List.mem_cons_self, rfl⟩
          · exact later found
      | _ => exact later found

theorem Bundle.isBounded_of_workflows? {value workflows : Yaml} {depth : Nat}
    (bounded : value.IsBounded (depth + 1))
    (found : workflows? value = some workflows) :
    workflows.IsBounded depth := by
  unfold workflows? at found
  have bounded := bounded.untagged
  split at found
  · next entries isMapping =>
      rw [isMapping] at bounded
      obtain ⟨entry, member, rfl⟩ := Yaml.mem_of_entry? found
      exact bounded.entry entry member
  · cases found

/-- A value is a property of a node in some workflow of a bundle. -/
def Bundle.Authors (bundle : Bundle) (value : Yaml) : Prop :=
  ∃ entry ∈ bundle.entries, ∃ definition ∈ entry.2.nodes,
    ∃ property ∈ definition.properties.entries, property.2 = value

/-- The text of an authored property can be read as far as its numbers and its
nesting go. -/
theorem Bundle.Authors.isReadable {source : String} {bundle : Bundle}
    {value : Yaml} (authors : bundle.Authors value)
    (read : Bundle.read source = .ok bundle) :
    value.HasWords ∧ value.NestsWithin Json.maxDepth := by
  obtain ⟨entry, listed, definition, member, property, present, rfl⟩ := authors
  suffices bounds : ∃ depth ≤ Json.maxDepth,
      Document.hasTag property.2 = false ∧ property.2.IsBounded depth by
    obtain ⟨depth, atMost, untagged, bounded⟩ := bounds
    exact ⟨bounded.words, (bounded.opens.nestsWithin untagged).mono atMost⟩
  unfold Bundle.read at read
  split at read
  · next found =>
      cases read
      obtain ⟨root, reads, found⟩ := Option.bind_eq_some_iff.1 found
      have bounded := Yaml.isBounded_of_read? reads
      unfold ofYaml? at found
      split at found
      · next workflows held =>
          obtain ⟨_, -, found⟩ := Option.bind_eq_some_iff.1 found
          obtain ⟨_, -, found⟩ := Option.bind_eq_some_iff.1 found
          obtain ⟨fields, listedFields, found⟩ :=
            Option.bind_eq_some_iff.1 found
          obtain ⟨documents, read, same⟩ := Option.bind_eq_some_iff.1 found
          cases same
          obtain ⟨field, inside, made⟩ := exists_of_mapM read entry
            (OrderedMap.mem_of_mem_ofList listed)
          obtain ⟨document, parsed, rfl⟩ := Option.map_eq_some_iff.1 made
          have bounded := Document.isBounded_of_fields?
            (isBounded_of_workflows? bounded held) listedFields field inside
          have bounded : field.2.IsBounded (123 + 3) := bounded
          exact ⟨123, by decide, Document.property_of_ofYaml? bounded parsed
            definition member property present⟩
      · obtain ⟨document, made, rfl⟩ := Option.map_eq_some_iff.1 found
        obtain rfl := List.mem_singleton.1 (OrderedMap.mem_of_mem_ofList listed)
        have bounded : root.IsBounded (125 + 3) := bounded
        exact ⟨125, by decide, Document.property_of_ofYaml? bounded made
          definition member property present⟩
  · cases read

/-- Structured properties keep their structure as far as their keys are names in
JSON.  The text of a sequence or a mapping is empty exactly if some key within
it is null, a collection, a tagged value or an infinite number; then what is
authored is lost.  Any other text is read as a value of the same structure,
unless too many arrays and objects are open in it, and in a document there never
are. -/
theorem Yaml.propertyText_mirrors {value : Yaml}
    (collection : value.IsCollection) :
    (value.HasWords → ∃ text, value.propertyText = some text ∧
      (text = "" ↔ ¬ value.KeysNamed) ∧
      ((∃ json, Json.read? text = some json) ↔
        value.KeysNamed ∧ value.NestsWithin Json.maxDepth) ∧
      ∀ json, Json.read? text = some json → value.Mirrors json) ∧
    ∀ source bundle, Bundle.read source = .ok bundle →
      bundle.Authors value → ∃ text, value.propertyText = some text ∧
        (value.KeysNamed → text ≠ "" ∧
          ∃ json, Json.read? text = some json ∧ value.Mirrors json) ∧
        (¬ value.KeysNamed → text = "") := by
  refine ⟨Yaml.propertyText_spec collection, ?_⟩
  intro source bundle read authors
  obtain ⟨words, nests⟩ := authors.isReadable read
  obtain ⟨text, written, empty, readable, mirrors⟩ :=
    Yaml.propertyText_spec collection words
  refine ⟨text, written, fun named => ⟨?_, ?_⟩, empty.2⟩
  · exact fun isEmpty => empty.1 isEmpty named
  · obtain ⟨json, reads⟩ := readable.2 ⟨named, nests⟩
    exact ⟨json, reads, mirrors json reads⟩

/-- The first property in a bundle, if it is structured, and its text. -/
def Bundle.firstProperty? (bundle : Bundle) : Option (Yaml × String) := do
  let entry ← bundle.entries.head?
  let definition ← entry.2.nodes.head?
  let property ← definition.properties.entries.head?
  if property.2.IsCollection then
    property.2.propertyText.map fun text => (property.2, text)
  else none

theorem Bundle.exists_of_firstProperty? {source text : String}
    (found : (Bundle.read source).toOption.bind (fun bundle =>
      bundle.firstProperty?.map Prod.snd) = some text) :
    ∃ bundle value, Bundle.read source = .ok bundle ∧ bundle.Authors value ∧
      value.IsCollection ∧ value.propertyText = some text := by
  obtain ⟨bundle, read, chosen⟩ := Option.bind_eq_some_iff.1 found
  obtain ⟨⟨value, written⟩, picked, same⟩ := Option.map_eq_some_iff.1 chosen
  obtain rfl : written = text := same
  obtain ⟨entry, first, chosen⟩ := Option.bind_eq_some_iff.1 picked
  obtain ⟨definition, firstNode, chosen⟩ := Option.bind_eq_some_iff.1 chosen
  obtain ⟨property, firstProperty, chosen⟩ := Option.bind_eq_some_iff.1 chosen
  obtain ⟨collection, chosen⟩ := Option.ite_none_right_eq_some.1 chosen
  obtain ⟨_, written, same⟩ := Option.map_eq_some_iff.1 chosen
  cases same
  refine ⟨bundle, property.2, ?_, ⟨entry, List.mem_of_head? first, definition,
    List.mem_of_head? firstNode, property, List.mem_of_head? firstProperty,
    rfl⟩, collection, written⟩
  cases ended : Bundle.read source with
  | error error =>
      rw [ended] at read
      cases read
  | ok other =>
      rw [ended] at read
      cases read
      rfl

/-- A document whose structured property has keys that are names, and a number
that is not one in JSON. -/
theorem Yaml.propertyText_mirrors_named :
    ∃ bundle value json,
      Bundle.read "nodes:\n- type: set\n  input: \x7b1: [.nan, x]\x7d\n" =
        .ok bundle ∧
      bundle.Authors value ∧ value.IsCollection ∧
      value.propertyText = some "\x7b\"1\":[null,\"x\"]\x7d" ∧
      Json.read? "\x7b\"1\":[null,\"x\"]\x7d" = some json ∧
      value.Mirrors json := by
  obtain ⟨bundle, value, read, authors, collection, written⟩ :=
    @Bundle.exists_of_firstProperty?
      "nodes:\n- type: set\n  input: \x7b1: [.nan, x]\x7d\n"
      "\x7b\"1\":[null,\"x\"]\x7d" (by decide +kernel)
  obtain ⟨text, same, named, unnamed⟩ :=
    (Yaml.propertyText_mirrors collection).2 _ bundle read authors
  obtain rfl := Option.some.inj (same.symm.trans written)
  have isNamed : value.KeysNamed := by
    by_contra notNamed
    exact absurd (unnamed notNamed) (by decide)
  obtain ⟨-, json, reads, mirrors⟩ := named isNamed
  exact ⟨bundle, value, json, read, authors, collection, written, reads,
    mirrors⟩

/-- With a key that is null, nothing is left of an authored structure. -/
theorem Yaml.propertyText_of_nullKey :
    ∃ bundle value,
      Bundle.read "nodes:\n- type: set\n  input: \x7b~: 1\x7d\n" =
        .ok bundle ∧
      bundle.Authors value ∧ value.IsCollection ∧
      value.propertyText = some "" ∧ Json.read? "" = none := by
  obtain ⟨bundle, value, read, authors, collection, written⟩ :=
    @Bundle.exists_of_firstProperty?
      "nodes:\n- type: set\n  input: \x7b~: 1\x7d\n" "" (by decide +kernel)
  exact ⟨bundle, value, read, authors, collection, written, by decide⟩

end Runbook
