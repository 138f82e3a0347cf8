import Runbook.Proofs.Json.Float
import Runbook.Proofs.Json.Grammar
import Runbook.Proofs.Json.Members

/-!
# JSON text is read back

Every value is written as a JSON text, whatever its strings hold: the text has
the lexemes of the value and no others.  A value of integers of 64 bits whose
objects are sorted, and that is not nested too deeply, is read back from its
text as it was.
-/

namespace Runbook.Json

/-- The tree of the text of a number. -/
def Number.source (number : Number) : Source :=
  match NumberText.ofChars? number.render.toList with
  | some text => .number text
  | none => .null

mutual

/-- The tree of the text of a value. -/
def source : Json → Source
  | .null => .null
  | .bool value => .bool value
  | .number value => value.source
  | .string text => .string (text.toList.map Piece.ofChar)
  | .array items => .array (sourceItems items)
  | .object members => .object (sourceMembers members)

def sourceItems : List Json → List Source
  | [] => []
  | item :: rest => source item :: sourceItems rest

def sourceMembers : List (String × Json) → List (List Piece × Source)
  | [] => []
  | (name, value) :: rest =>
    (name.toList.map Piece.ofChar, source value) :: sourceMembers rest

end

theorem sourceItems_eq_map (items : List Json) :
    sourceItems items = items.map source := by
  induction items with
  | nil => rw [sourceItems, List.map_nil]
  | cons item rest ih => rw [sourceItems, List.map_cons, ih]

theorem sourceMembers_eq_map (members : List (String × Json)) :
    sourceMembers members = members.map fun member =>
      (member.1.toList.map Piece.ofChar, source member.2) := by
  induction members with
  | nil => rw [sourceMembers, List.map_nil]
  | cons member rest ih => rw [sourceMembers, List.map_cons, ih]

/-! ### The lexemes of the text -/

/-- A number that is finite is written as a number. -/
theorem exists_ofChars?_render {number : Number} (finite : ∀ value,
    number = .float value → value.isFinite = true) :
    ∃ text, NumberText.ofChars? number.render.toList = some text := by
  cases number with
  | integer value => exact ⟨_, ofChars?_intText value⟩
  | float value =>
      have isFinite := finite value rfl
      cases value with
      | nan => cases isFinite
      | infinite negative => cases isFinite
      | finite negative mantissa exponent canonical =>
          obtain ⟨text, reads, -⟩ := Number.readsAs_render negative canonical
          exact ⟨text, reads⟩

/-- Any other number is written as null. -/
theorem Number.source_infinite {value : Binary64}
    (infinite : ¬ value.isFinite = true) :
    (Number.float value).render.toList = ['n', 'u', 'l', 'l'] ∧
      (Number.float value).source = .null := by
  have written : (Number.float value).render.toList = ['n', 'u', 'l', 'l'] := by
    rw [Number.render, if_neg infinite]
    rfl
  have isNull : NumberText.ofChars? ['n', 'u', 'l', 'l'] = none := by decide
  exact ⟨written, by rw [Number.source, written, isNull]⟩

theorem lexes_number_render (number : Number) :
    Lexes number.render.toList number.source.tokens := by
  by_cases finite : ∀ value, number = .float value → value.isFinite = true
  · obtain ⟨text, reads⟩ := exists_ofChars?_render finite
    rw [Number.source, reads]
    exact lexes_number (NumberText.isNumeric_of_ofChars? reads) reads
  · simp only [not_forall] at finite
    obtain ⟨value, rfl, infinite⟩ := finite
    obtain ⟨written, isNull⟩ := Number.source_infinite infinite
    rw [written, isNull]
    exact lexes_null

/-- A text between two characters that are lexemes of their own. -/
theorem Lexes.enclosed {opener closer : Char} {first last : Token}
    {text : List Char} {tokens : List Token}
    (opens : ∀ before, Lexer.openToken before opener =
      some ⟨first :: before, .between⟩)
    (closes : ∀ before, Lexer.openToken before closer =
      some ⟨last :: before, .between⟩)
    (apart : Lexer.isNumeric closer = false) (lexes : Lexes text tokens) :
    Lexes (opener :: text ++ [closer]) (first :: tokens ++ [last]) :=
  .cons opens (lexes.append (.cons closes .nil) (by simpa using apart))

mutual

theorem lexes_renderChars (value : Json) :
    Lexes (renderChars value) value.source.tokens := by
  cases value with
  | null =>
      rw [renderChars, source, Source.tokens]
      exact lexes_null
  | bool value =>
      rw [source, Source.tokens]
      cases value with
      | true =>
          rw [renderChars]
          exact lexes_true
      | false =>
          rw [renderChars]
          exact lexes_false
  | number value =>
      rw [renderChars, source]
      exact lexes_number_render value
  | string text =>
      rw [renderChars, source, Source.tokens]
      exact lexes_quote text
  | array items =>
      rw [renderChars, source, Source.tokens]
      exact .enclosed (fun _ => rfl) (fun _ => rfl) rfl
        (lexes_renderItems items)
  | object members =>
      rw [renderChars, source, Source.tokens]
      exact .enclosed (fun _ => rfl) (fun _ => rfl) rfl
        (lexes_renderMembers members)

theorem lexes_renderItems (items : List Json) :
    Lexes (renderItems items) (Source.itemTokens (sourceItems items)) := by
  match items with
  | [] =>
      rw [renderItems, sourceItems, Source.itemTokens]
      exact .nil
  | [item] =>
      rw [renderItems, sourceItems, sourceItems, Source.itemTokens]
      exact lexes_renderChars item
  | item :: second :: rest =>
      have others := lexes_renderItems (second :: rest)
      rw [sourceItems] at others
      rw [renderItems, sourceItems, sourceItems, Source.itemTokens]
      · exact (lexes_renderChars item).append
          (.cons (fun _ => rfl) others) (by simp [Lexer.isNumeric])
      · simp
      · simp

theorem lexes_renderMembers (members : List (String × Json)) :
    Lexes (renderMembers members)
      (Source.memberTokens (sourceMembers members)) := by
  match members with
  | [] =>
      rw [renderMembers, sourceMembers, Source.memberTokens]
      exact .nil
  | [(name, value)] =>
      rw [renderMembers, sourceMembers, sourceMembers, Source.memberTokens]
      exact (lexes_quote name).append
        (.cons (fun _ => rfl) (lexes_renderChars value))
        (by simp [Lexer.isNumeric])
  | (name, value) :: second :: rest =>
      have others := lexes_renderMembers (second :: rest)
      have colon : Lexes (':' :: renderChars value)
          (.colon :: value.source.tokens) :=
        .cons (fun _ => rfl) (lexes_renderChars value)
      have first := (lexes_quote name).append colon (by simp [Lexer.isNumeric])
      rw [sourceMembers] at others
      rw [renderMembers, sourceMembers, sourceMembers, Source.memberTokens]
      · exact first.append (.cons (fun _ => rfl) others)
          (by simp [Lexer.isNumeric])
      · simp
      · simp

end

/-- The text of a value is the text of its tree. -/
theorem sourceRead?_render (value : Json) :
    Source.read? value.render = some value.source := by
  rw [Source.read?, render, String.toList_ofList,
    (lexes_renderChars value).scan?, Option.bind_some,
    Source.ofTokens?_eq_some_iff]

/-! ### The value of the text -/

/-- The value that is read from the text of a number, if there is one. -/
def Number.restored? (number : Number) : Option Json :=
  match number.source with
  | .number text => (ofText? text).map .number
  | _ => some .null

mutual

/-- A value as it is read back from its text: its numbers are what their texts
say, and its objects are sorted. -/
def restored : Json → Json
  | .null => .null
  | .bool value => .bool value
  | .number value => value.restored?.getD .null
  | .string text => .string text
  | .array items => .array (restoredItems items)
  | .object members => sortedObject (restoredMembers members)

def restoredItems : List Json → List Json
  | [] => []
  | item :: rest => restored item :: restoredItems rest

def restoredMembers : List (String × Json) → List (String × Json)
  | [] => []
  | (name, value) :: rest => (name, restored value) :: restoredMembers rest

end

theorem restoredItems_eq_map (items : List Json) :
    restoredItems items = items.map restored := by
  induction items with
  | nil => rw [restoredItems, List.map_nil]
  | cons item rest ih => rw [restoredItems, List.map_cons, ih]

theorem restoredMembers_eq_map (members : List (String × Json)) :
    restoredMembers members = members.map fun member =>
      (member.1, restored member.2) := by
  induction members with
  | nil => rw [restoredMembers, List.map_nil]
  | cons member rest ih => rw [restoredMembers, List.map_cons, ih]

/-- The text of a value can be read: its numbers can, and at most `depth` arrays
and objects are open at once. -/
def Readable : Nat → Json → Prop
  | _, .null => True
  | _, .bool _ => True
  | _, .string _ => True
  | _, .number value => value.restored?.isSome
  | 0, .array _ => False
  | depth + 1, .array items => ∀ item ∈ items, Readable depth item
  | 0, .object _ => False
  | depth + 1, .object members =>
    ∀ member ∈ members, Readable depth member.2

theorem ofSource?_number (number : Number) (depth : Nat) :
    ofSource? depth number.source = number.restored? := by
  rw [Number.restored?, Number.source]
  cases NumberText.ofChars? number.render.toList with
  | none => rw [ofSource?]
  | some text => rw [ofSource?]

theorem Readable.number {depth : Nat} {number : Number}
    (readable : Readable depth (.number number)) :
    number.restored? = some (restored (.number number)) := by
  have isSome : number.restored?.isSome = true := by
    cases depth <;> exact readable
  obtain ⟨value, found⟩ := Option.isSome_iff_exists.1 isSome
  rw [restored, found, Option.getD_some]

theorem ofSource?_source {depth : Nat} {value : Json}
    (readable : Readable depth value) :
    ofSource? depth value.source = some value.restored := by
  match depth, value with
  | _, .null => rw [source, ofSource?, restored]
  | _, .bool _ => rw [source, ofSource?, restored]
  | _, .string text =>
      rw [source, ofSource?, Piece.text?_map_ofChar, Option.map_some, restored]
  | depth, .number value =>
      rw [source, ofSource?_number, readable.number]
  | depth + 1, .array items =>
      have values : ofItems? depth (sourceItems items) =
          some (restoredItems items) := by
        rw [ofItems?_eq_some_iff, sourceItems_eq_map, restoredItems_eq_map,
          List.forall₂_map_left_iff, List.forall₂_map_right_iff,
          List.forall₂_same]
        exact fun item member => ofSource?_source (readable item member)
      rw [source, ofSource?, values, Option.map_some, restored]
  | depth + 1, .object members =>
      have values : ofMembers? depth (sourceMembers members) =
          some (restoredMembers members) := by
        rw [ofMembers?_eq_some_iff, sourceMembers_eq_map,
          restoredMembers_eq_map, List.forall₂_map_left_iff,
          List.forall₂_map_right_iff, List.forall₂_same]
        exact fun member present => ⟨Piece.text?_map_ofChar member.1,
          ofSource?_source (readable member present)⟩
      rw [source, ofSource?, values, Option.map_some, restored]

/-- The reader refuses what is nested too deeply. -/
theorem Readable.of_isSome {depth : Nat} {value : Json}
    (found : (ofSource? depth value.source).isSome = true) :
    Readable depth value := by
  match depth, value with
  | 0, .null | 0, .bool _ | 0, .string _ => trivial
  | _ + 1, .null | _ + 1, .bool _ | _ + 1, .string _ => trivial
  | 0, .number value | _ + 1, .number value =>
      rwa [source, ofSource?_number] at found
  | 0, .array items | 0, .object members =>
      rw [source, ofSource?] at found
      cases found
  | depth + 1, .array items =>
      rw [source, ofSource?, Option.isSome_map, Option.isSome_iff_exists,
        sourceItems_eq_map] at found
      simp only [ofItems?_eq_some_iff, List.forall₂_map_left_iff,
        exists_forall₂_iff] at found
      exact fun item member =>
        Readable.of_isSome (Option.isSome_iff_exists.2 (found item member))
  | depth + 1, .object members =>
      rw [source, ofSource?, Option.isSome_map, Option.isSome_iff_exists,
        sourceMembers_eq_map] at found
      simp only [ofMembers?_eq_some_iff, List.forall₂_map_left_iff,
        exists_forall₂_iff] at found
      intro member present
      obtain ⟨_, -, read⟩ := found member present
      exact Readable.of_isSome (Option.isSome_iff_exists.2 ⟨_, read⟩)

theorem isSome_ofSource?_iff {depth : Nat} {value : Json} :
    (ofSource? depth value.source).isSome = true ↔ Readable depth value :=
  ⟨Readable.of_isSome, fun readable =>
    Option.isSome_of_eq_some (ofSource?_source readable)⟩

/-- A text that can be read is read as the value with sorted objects. -/
theorem read?_render {value : Json} (readable : Readable maxDepth value) :
    read? value.render = some value.restored := by
  rw [read?, sourceRead?_render, Option.bind_some, ofSource?_source readable]

/-- A finite number is read as what the reader finds for its numeral. -/
theorem Number.restored?_finite {value : Binary64} {text : NumberText}
    {number : Number}
    (written :
      NumberText.ofChars? (Number.float value).render.toList = some text)
    (found : ofText? text = some number) :
    (Number.float value).restored? = some (.number number) := by
  rw [Number.restored?, Number.source, written]
  dsimp only
  rw [found, Option.map_some]

theorem Number.restored?_infinite {value : Binary64}
    (infinite : ¬ value.isFinite = true) :
    (Number.float value).restored? = some .null := by
  rw [Number.restored?, (Number.source_infinite infinite).2]

/-! ### Values that stay the same -/

/-- An integer of 64 bits, with or without a sign. -/
def Number.IsWord : Number → Prop
  | .integer value => -2 ^ 63 ≤ value ∧ value < 2 ^ 64
  | .float _ => False

theorem Number.IsWord.restored? {number : Number} (isWord : number.IsWord) :
    number.restored? = some (.number number) := by
  cases number with
  | integer value =>
      have read : NumberText.ofChars? (Number.integer value).render.toList =
          some _ := ofChars?_intText value
      rw [Number.restored?, Number.source, read]
      dsimp only
      rw [ofText?_intText isWord.1 isWord.2, Option.map_some]
  | float value => exact isWord.elim

/-- A value that the reader gives back: its numbers are integers of 64 bits, its
objects are sorted, and at most `depth` arrays and objects are open at once. -/
def Fits : Nat → Json → Prop
  | _, .null => True
  | _, .bool _ => True
  | _, .string _ => True
  | _, .number value => value.IsWord
  | 0, .array _ => False
  | depth + 1, .array items => ∀ item ∈ items, Fits depth item
  | 0, .object _ => False
  | depth + 1, .object members =>
    IsSorted members ∧ ∀ member ∈ members, Fits depth member.2

theorem Fits.isWord {depth : Nat} {number : Number}
    (fits : Fits depth (.number number)) : number.IsWord := by
  cases depth <;> exact fits

theorem Fits.readable {depth : Nat} {value : Json} (fits : Fits depth value) :
    Readable depth value := by
  match depth, value with
  | 0, .null => trivial
  | 0, .bool _ => trivial
  | 0, .string _ => trivial
  | 0, .number _ => exact Option.isSome_of_eq_some fits.isWord.restored?
  | _ + 1, .null => trivial
  | _ + 1, .bool _ => trivial
  | _ + 1, .string _ => trivial
  | _ + 1, .number _ => exact Option.isSome_of_eq_some fits.isWord.restored?
  | depth + 1, .array items =>
      exact fun item member => Fits.readable (fits item member)
  | depth + 1, .object members =>
      exact fun member present => Fits.readable (fits.2 member present)

theorem Fits.restored {depth : Nat} {value : Json} (fits : Fits depth value) :
    value.restored = value := by
  match depth, value with
  | _, .null => rw [Json.restored]
  | _, .bool _ => rw [Json.restored]
  | _, .string _ => rw [Json.restored]
  | _, .number _ =>
      rw [Json.restored, fits.isWord.restored?, Option.getD_some]
  | depth + 1, .array items =>
      have same : items.map Json.restored = items :=
        (List.map_congr_left fun item member =>
          Fits.restored (fits item member)).trans (List.map_id _)
      rw [Json.restored, restoredItems_eq_map, same]
  | depth + 1, .object members =>
      have same : (members.map fun member =>
          (member.1, member.2.restored)) = members := by
        refine (List.map_congr_left fun member present => ?_).trans
          (List.map_id _)
        rw [Fits.restored (fits.2 member present)]
        rfl
      rw [Json.restored, restoredMembers_eq_map, same, sortedObject,
        fits.1.sortMembers]

/-- A value that fits is read back from its text as it was. -/
theorem read?_render_of_fits {value : Json} (fits : Fits maxDepth value) :
    read? value.render = some value := by
  rw [read?_render fits.readable, fits.restored]

end Runbook.Json
