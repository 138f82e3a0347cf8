import Runbook.Proofs.Yaml.Property
import Runbook.Yaml.Reader

/-!
# Bounds of what is read

A value that is read from a text has integers of 64 bits, and only so many
sequences and mappings are open at once in it as the reader allows.
-/

namespace Runbook.Yaml

/-- At most `depth` sequences and mappings are open at once; tags do not
count. -/
def OpensWithin : Nat → Yaml → Prop
  | depth, .tagged _ value => OpensWithin depth value
  | 0, .sequence _ | 0, .mapping _ => False
  | depth + 1, .sequence items => ∀ item ∈ items, OpensWithin depth item
  | depth + 1, .mapping entries => ∀ entry ∈ entries, OpensWithin depth entry.2
  | _, _ => True

/-- What holds of every value that is read when so many more collections may be
open. -/
structure IsBounded (depth : Nat) (value : Yaml) : Prop where
  words : value.HasWords
  opens : value.OpensWithin depth

/-! ### Scalars -/

theorem isWord_of_readInteger {text : List Char} {value : Int}
    (reads : readInteger text = .value value) :
    (Json.Number.integer value).IsWord := by
  unfold readInteger at reads
  split at reads
  · split at reads
    · cases reads
    · split at reads
      · next small =>
          cases reads
          simp only [Nat.pow_eq] at small
          constructor <;> omega
      · split at reads <;> cases reads
  · dsimp only at reads
    generalize magnitude? _ = found at reads
    cases found with
    | none => cases reads
    | some magnitude =>
        dsimp only at reads
        split at reads
        · next small =>
            cases reads
            simp only [Nat.pow_eq] at small
            constructor <;> omega
        · split at reads <;> cases reads

/-- A value that is neither a collection nor tagged, with an integer of 64 bits
if it is one. -/
inductive IsScalar : Yaml → Prop
  | null : IsScalar .null
  | bool (value : Bool) : IsScalar (.bool value)
  | integer {value : Int} (isWord : (Json.Number.integer value).IsWord) :
      IsScalar (.integer value)
  | float (value : Binary64) : IsScalar (.float value)
  | string (text : String) : IsScalar (.string text)

variable {value : Yaml} {depth : Nat}

theorem IsScalar.isBounded (scalar : value.IsScalar) (depth : Nat) :
    value.IsBounded depth := by
  constructor
  · intro number within
    cases scalar <;> cases within
    assumption
  · cases scalar <;> simp [OpensWithin]

theorem isScalar_ofPlain? {text : String} (reads : ofPlain? text = some value) :
    value.IsScalar := by
  unfold ofPlain? at reads
  split at reads
  · cases reads
    exact .null
  · split at reads
    · cases reads
      exact .bool _
    · split at reads
      · next found =>
          cases reads
          exact .integer (isWord_of_readInteger found)
      · cases reads
      · split at reads
        · cases reads
          exact .string _
        · split at reads <;> cases reads
          · exact .float _
          · exact .string _

theorem isScalar_ofTagged? {tag text : String}
    (reads : ofTagged? tag text = some value) : value.IsScalar := by
  unfold ofTagged? at reads
  split at reads
  · obtain ⟨flag, -, rfl⟩ := Option.map_eq_some_iff.1 reads
    exact .bool _
  · split at reads
    · split at reads
      · next found =>
          cases reads
          exact .integer (isWord_of_readInteger found)
      · cases reads
    · split at reads
      · obtain ⟨number, -, rfl⟩ := Option.map_eq_some_iff.1 reads
        exact .float _
      · split at reads
        · split at reads <;> cases reads
          exact .null
        · cases reads
          exact .string _

namespace Node

theorem isScalar_scalarValue? {tag : Option String} {text : String}
    {isPlain : Bool} (reads : scalarValue? tag text isPlain = some value) :
    value.IsScalar := by
  unfold scalarValue? at reads
  split at reads
  · exact isScalar_ofTagged? reads
  · split at reads
    · exact isScalar_ofPlain? reads
    · cases reads
      exact .string _

theorem isBounded_withTag? {tag : Option String} {tagged : Yaml}
    (bounded : value.IsBounded depth)
    (reads : withTag? tag value = some tagged) :
    tagged.IsBounded depth := by
  unfold withTag? at reads
  split at reads <;> cases reads
  · constructor
    · intro number within
      cases within with
      | tagged _ inside => exact bounded.words number inside
    · rw [OpensWithin]
      exact bounded.opens
  · exact bounded

/-! ### Collections -/

/-- What holds of each value that is found holds of all of them together. -/
theorem forall_of_mapM {α β : Type} {find : α → StateT Nat Option β}
    {holds : β → Prop} {elements : List α} {values : List β}
    {before after : Nat}
    (each : ∀ element ∈ elements, ∀ before value after,
      find element before = some (value, after) → holds value)
    (found : elements.mapM find before = some (values, after)) :
    ∀ value ∈ values, holds value := by
  induction elements generalizing values before with
  | nil =>
      cases found
      simp
  | cons element rest ih =>
      rw [List.mapM_cons] at found
      obtain ⟨⟨value, between⟩, here, found⟩ := Option.bind_eq_some_iff.1 found
      obtain ⟨⟨others, last⟩, there, found⟩ := Option.bind_eq_some_iff.1 found
      cases found
      rw [List.forall_mem_cons] at each ⊢
      exact ⟨each.1 _ _ _ here, ih each.2 there⟩

theorem distinctEntries?_eq {entries distinct : List (Yaml × Yaml)}
    (found : distinctEntries? entries = some distinct) :
    distinct = entries := by
  suffices folded : ∀ before after, entries.foldlM (fun before entry =>
      if hasKey entry.1 before then none else some (before ++ [entry]))
        before = some after → after = before ++ entries from
    folded [] distinct found
  clear found
  induction entries with
  | nil =>
      intro before after found
      cases found
      simp
  | cons entry rest ih =>
      intro before after found
      rw [List.foldlM_cons] at found
      obtain ⟨next, added, found⟩ := Option.bind_eq_some_iff.1 found
      obtain ⟨-, same⟩ := Option.ite_none_left_eq_some.1 added
      cases same
      rw [ih _ _ found, List.append_assoc]
      rfl

variable {aliases : Aliases} {before after : Nat}

/-- An alias stands for a value that is bounded as well. -/
theorem isBounded_valueOrTarget {find : Node Nat → StateT Nat Option Yaml}
    (each : ∀ node before value after,
      find node before = some (value, after) → value.IsBounded depth)
    {node : Node Nat}
    (found : valueOrTarget aliases find node before = some (value, after)) :
    value.IsBounded depth := by
  match node with
  | .alias number =>
      obtain ⟨⟨_, between⟩, -, found⟩ := Option.bind_eq_some_iff.1 found
      cases target : aliases.targets.lookup number with
      | none =>
          rw [target] at found
          cases found
      | some node =>
          rw [target] at found
          exact each _ _ _ _ found
  | .scalar .. => exact each _ _ _ _ found
  | .sequence .. => exact each _ _ _ _ found
  | .mapping .. => exact each _ _ _ _ found

theorem isBounded_sequence {values : List Yaml}
    (bounded : ∀ value ∈ values, value.IsBounded depth) :
    (Yaml.sequence values).IsBounded (depth + 1) := by
  constructor
  · intro number within
    rcases within_sequence_iff.1 within with same | ⟨item, member, within⟩
    · cases same
    · exact (bounded item member).words number within
  · rw [OpensWithin]
    exact fun value member => (bounded value member).opens

theorem isBounded_mapping {entries : List (Yaml × Yaml)}
    (bounded : ∀ entry ∈ entries, entry.2.IsBounded depth) :
    (Yaml.mapping entries).IsBounded (depth + 1) := by
  constructor
  · intro number within
    rcases within_mapping_iff.1 within with same | ⟨entry, member, within⟩
    · cases same
    · exact (bounded entry member).words number within
  · rw [OpensWithin]
    exact fun entry member => (bounded entry member).opens

theorem isBounded_scalar {anchor : Option Nat} {tag : Option String}
    {text : String} {isPlain : Bool}
    (found : valueOf aliases depth (.scalar anchor tag text isPlain) before =
      some (value, after)) : value.IsBounded depth := by
  rw [valueOf] at found
  cases isLocal : localTag? tag with
  | none =>
      rw [isLocal] at found
      obtain ⟨value, reads, found⟩ := Option.bind_eq_some_iff.1 found
      cases found
      exact (isScalar_scalarValue? reads).isBounded depth
  | some name =>
      rw [isLocal] at found
      obtain ⟨⟨scalar, between⟩, reads, found⟩ :=
        Option.bind_eq_some_iff.1 found
      obtain ⟨_, plain, same⟩ := Option.bind_eq_some_iff.1 reads
      cases same
      obtain ⟨_, tagged, same⟩ := Option.bind_eq_some_iff.1 found
      cases same
      exact isBounded_withTag? ((isScalar_scalarValue? plain).isBounded depth)
        tagged

/-- The value of a node is bounded by what may be open. -/
theorem isBounded_valueOf {node : Node Nat}
    (found : valueOf aliases depth node before = some (value, after)) :
    value.IsBounded depth := by
  induction depth generalizing node before value after with
  | zero =>
      match node with
      | .alias _ => cases found
      | .sequence .. => cases found
      | .mapping .. => cases found
      | .scalar _ tag text isPlain => exact isBounded_scalar found
  | succ depth ih =>
      match node with
      | .alias _ => cases found
      | .scalar _ tag text isPlain => exact isBounded_scalar found
      | .sequence _ tag items =>
          rw [valueOf] at found
          obtain ⟨⟨values, between⟩, all, found⟩ :=
            Option.bind_eq_some_iff.1 found
          obtain ⟨_, tagged, same⟩ := Option.bind_eq_some_iff.1 found
          cases same
          refine isBounded_withTag? (isBounded_sequence ?_) tagged
          refine forall_of_mapM (fun item member before value after found =>
            ?_) all
          exact isBounded_valueOrTarget (fun _ _ _ _ => ih) found
      | .mapping _ tag entries =>
          rw [valueOf] at found
          obtain ⟨⟨pairs, between⟩, all, found⟩ :=
            Option.bind_eq_some_iff.1 found
          obtain ⟨⟨distinct, last⟩, chosen, found⟩ :=
            Option.bind_eq_some_iff.1 found
          obtain ⟨_, kept, same⟩ := Option.bind_eq_some_iff.1 chosen
          cases same
          obtain ⟨_, tagged, same⟩ := Option.bind_eq_some_iff.1 found
          cases same
          rw [distinctEntries?_eq kept] at tagged
          refine isBounded_withTag? (isBounded_mapping ?_) tagged
          refine forall_of_mapM (fun entry member before value after found =>
            ?_) all
          obtain ⟨⟨key, second⟩, -, found⟩ := Option.bind_eq_some_iff.1 found
          obtain ⟨⟨item, third⟩, here, found⟩ :=
            Option.bind_eq_some_iff.1 found
          cases found
          exact isBounded_valueOrTarget (fun _ _ _ _ => ih) here

end Node

/-- A value that is read has integers of 64 bits, and as many collections open
at once as the reader allows. -/
theorem isBounded_of_read? {text : String} (reads : read? text = some value) :
    value.IsBounded Node.maxDepth := by
  obtain ⟨tokens, -, reads⟩ := Option.bind_eq_some_iff.1 reads
  obtain ⟨documents, -, reads⟩ := Option.bind_eq_some_iff.1 reads
  match documents with
  | [] =>
      cases reads
      exact IsScalar.null.isBounded _
  | [root] =>
      obtain ⟨⟨numbered, _⟩, -, reads⟩ := Option.bind_eq_some_iff.1 reads
      obtain ⟨⟨_, _⟩, found, same⟩ := Option.bind_eq_some_iff.1 reads
      cases same
      exact Node.isBounded_valueOf found
  | _ :: _ :: _ => cases reads

end Runbook.Yaml
