import Runbook.Proofs.Json.Correspondence
import Runbook.Proofs.Json.RoundTrip
import Runbook.Proofs.Text.Fence

/-!
# JSON text in several lines

A value may also be written with one item or member on a line.  The line breaks
and the blanks after them stand between lexemes, so this text has the same
lexemes as the one in a single line, and is read as the same tree.

The text of a value may be written in any number of lines as long as a break
stands between two lexemes and no line is blank.  Such lines are still a text of
the value after the blanks in front of each of them have been dropped.
-/

namespace Runbook.Json

variable {text : List Char} {tokens : List Token}

/-- A space may stand in front of a lexeme. -/
theorem Lexes.space {character : Char}
    (isSpace : ∀ before, Lexer.openToken before character =
      some ⟨before, .between⟩) (lexes : Lexes text tokens) :
    Lexes (character :: text) tokens := by
  intro before
  obtain ⟨lexer, read, settled⟩ := lexes before
  have here : Lexer.step ⟨before, .between⟩ character =
      some ⟨before, .between⟩ := isSpace before
  refine ⟨lexer, ?_, settled⟩
  rw [List.foldlM_cons, here]
  exact read

/-- A new line may begin in front of a lexeme. -/
theorem Lexes.newLine (level : Nat) (lexes : Lexes text tokens) :
    Lexes (newLine level ++ text) tokens := by
  refine .space (fun _ => rfl) ?_
  induction 2 * level with
  | zero => exact lexes
  | succ count ih => exact ih.space fun _ => rfl

/-- A new line ends a number. -/
theorem isNumeric_newLine (level : Nat) (text : List Char) :
    ∀ character ∈ (newLine level ++ text).head?,
      Lexer.isNumeric character = false := by
  rintro _ ⟨⟩
  rfl

/-- What is between brackets or braces ends with a new line. -/
theorem Lexes.enclosedLines {opener closer : Char} {first last : Token}
    (level : Nat) (opens : ∀ before, Lexer.openToken before opener =
      some ⟨first :: before, .between⟩)
    (closes : ∀ before, Lexer.openToken before closer =
      some ⟨last :: before, .between⟩) (lexes : Lexes text tokens) :
    Lexes (opener :: text ++ Json.newLine level ++ [closer])
      (first :: tokens ++ [last]) := by
  rw [List.cons_append, List.cons_append, List.append_assoc]
  exact .cons opens (lexes.append (.newLine level (.cons closes .nil))
    (isNumeric_newLine level _))

/-- A member on a line of its own. -/
theorem Lexes.memberLine (level : Nat) (name : String)
    (lexes : Lexes text tokens) :
    Lexes (Json.newLine level ++ quote name ++ ':' :: ' ' :: text)
      (.string (name.toList.map Piece.ofChar) :: .colon :: tokens) := by
  have value : Lexes (':' :: ' ' :: text) (.colon :: tokens) :=
    .cons (fun _ => rfl) (lexes.space fun _ => rfl)
  exact ((lexes_quote name).newLine level).append value
    (by simp [Lexer.isNumeric])

mutual

theorem lexes_indentedChars (level : Nat) (value : Json) :
    Lexes (indentedChars level value) value.source.tokens := by
  match value with
  | .null =>
      rw [indentedChars, source, Source.tokens]
      exact lexes_null
  | .bool true =>
      rw [indentedChars, source, Source.tokens]
      exact lexes_true
  | .bool false =>
      rw [indentedChars, source, Source.tokens]
      exact lexes_false
  | .number value =>
      rw [indentedChars, source]
      exact lexes_number_render value
  | .string text =>
      rw [indentedChars, source, Source.tokens]
      exact lexes_quote text
  | .array [] =>
      rw [indentedChars, source, sourceItems, Source.tokens, Source.itemTokens]
      exact .cons (fun _ => rfl) (.cons (fun _ => rfl) .nil)
  | .array (item :: rest) =>
      have others := lexes_indentedItems (level + 1) (item :: rest)
      rw [indentedChars, source, Source.tokens]
      · exact others.enclosedLines level (fun _ => rfl) (fun _ => rfl)
      · simp
  | .object [] =>
      rw [indentedChars, source, sourceMembers, Source.tokens,
        Source.memberTokens]
      exact .cons (fun _ => rfl) (.cons (fun _ => rfl) .nil)
  | .object (member :: rest) =>
      have others := lexes_indentedMembers (level + 1) (member :: rest)
      rw [indentedChars, source, Source.tokens]
      · exact others.enclosedLines level (fun _ => rfl) (fun _ => rfl)
      · simp

theorem lexes_indentedItems (level : Nat) (items : List Json) :
    Lexes (indentedItems level items)
      (Source.itemTokens (sourceItems items)) := by
  match items with
  | [] =>
      rw [indentedItems, sourceItems, Source.itemTokens]
      exact .nil
  | [item] =>
      rw [indentedItems, sourceItems, sourceItems, Source.itemTokens]
      exact (lexes_indentedChars level item).newLine level
  | item :: second :: rest =>
      have others := lexes_indentedItems level (second :: rest)
      rw [sourceItems] at others
      rw [indentedItems, sourceItems, sourceItems, Source.itemTokens]
      · exact ((lexes_indentedChars level item).newLine level).append
          (.cons (fun _ => rfl) others) (by simp [Lexer.isNumeric])
      · simp
      · simp

theorem lexes_indentedMembers (level : Nat) (members : List (String × Json)) :
    Lexes (indentedMembers level members)
      (Source.memberTokens (sourceMembers members)) := by
  match members with
  | [] =>
      rw [indentedMembers, sourceMembers, Source.memberTokens]
      exact .nil
  | [(name, value)] =>
      rw [indentedMembers, sourceMembers, sourceMembers, Source.memberTokens]
      exact (lexes_indentedChars level value).memberLine level name
  | (name, value) :: second :: rest =>
      have others := lexes_indentedMembers level (second :: rest)
      rw [sourceMembers] at others
      rw [indentedMembers, sourceMembers, sourceMembers, Source.memberTokens]
      · exact ((lexes_indentedChars level value).memberLine level name).append
          (.cons (fun _ => rfl) others) (by simp [Lexer.isNumeric])
      · simp
      · simp

end

/-- The text of a value in several lines is a text of its tree. -/
theorem sourceRead?_renderIndented (value : Json) :
    Source.read? value.renderIndented = some value.source := by
  rw [Source.read?, renderIndented, String.toList_ofList,
    (lexes_indentedChars 0 value).scan?, Option.bind_some,
    Source.ofTokens?_eq_some_iff]

end Runbook.Json

/-! ## Lines of any kind -/

namespace Runbook.Json

/-- At most `depth` arrays and objects of a tree are open at once. -/
def Source.Nests : Nat → Source → Prop
  | _, .null | _, .bool _ | _, .number _ | _, .string _ => True
  | 0, .array _ | 0, .object _ => False
  | depth + 1, .array items => ∀ item ∈ items, Nests depth item
  | depth + 1, .object members => ∀ member ∈ members, Nests depth member.2

/-- The lines of a text of a value: every line consists of whole lexemes and is
not blank, and all the lexemes together are those of a tree that stands for the
value and is not nested too deeply. -/
structure Wraps (lines : List (List Char)) (value : Json) : Prop where
  not_blank : ∀ line ∈ lines, ¬ Text.AreBlank line
  exists_tree : ∃ lexemes tree, List.Forall₂ Lexes lines lexemes ∧
    lexemes.flatten = Source.tokens tree ∧ tree.Denotes Piece.Decodes value ∧
      tree.Nests maxDepth

/-! ### The value of a tree -/

/-- The reader finds the value for which a tree stands. -/
theorem Source.Denotes.ofSource? {depth : Nat} {tree : Source} {value : Json}
    (denotes : tree.Denotes Piece.Decodes value) (nests : tree.Nests depth) :
    ofSource? depth tree = some value := by
  match depth, tree with
  | 0, .null | _ + 1, .null | 0, .bool _ | _ + 1, .bool _ =>
      cases denotes
      rw [Json.ofSource?]
  | 0, .number _ | _ + 1, .number _ =>
      cases denotes with
      | number found => rw [Json.ofSource?, found, Option.map_some]
  | 0, .string _ | _ + 1, .string _ =>
      cases denotes with
      | string read =>
          rw [Json.ofSource?, show Piece.text? _ = some _ from read,
            Option.map_some]
  | 0, .array _ | 0, .object _ => exact nests.elim
  | depth + 1, .array items =>
      cases denotes with
      | array all =>
          have read := (List.forall₂_and_left _ _).2 ⟨nests, all⟩
          rw [Json.ofSource?, ofItems?_eq_some_iff.2 (read.imp
            fun item value both => both.2.ofSource? both.1), Option.map_some]
  | depth + 1, .object members =>
      cases denotes with
      | @object _ named names values =>
          rw [List.forall₂_map_left_iff, List.forall₂_map_right_iff] at names
          rw [List.forall₂_map_left_iff, List.forall₂_map_right_iff] at values
          have read := (List.forall₂_and_left _ _).2
            ⟨nests, forall₂_and names values⟩
          rw [Json.ofSource?, ofMembers?_eq_some_iff.2 (read.imp
            fun member pair both => ⟨both.2.1, both.2.2.ofSource? both.1⟩),
            Option.map_some]

theorem Fits.nests_source {depth : Nat} {value : Json}
    (fits : Fits depth value) : value.source.Nests depth := by
  match depth, value with
  | 0, .null | _ + 1, .null | 0, .bool _ | _ + 1, .bool _ | 0, .string _
  | _ + 1, .string _ =>
      rw [source]
      trivial
  | 0, .number _ | _ + 1, .number _ =>
      rw [source, Number.source]
      split <;> trivial
  | depth + 1, .array items =>
      rw [source, sourceItems_eq_map]
      exact List.forall_mem_map.2 fun item member =>
        Fits.nests_source (fits item member)
  | depth + 1, .object members =>
      rw [source, sourceMembers_eq_map]
      exact List.forall_mem_map.2 fun member present =>
        Fits.nests_source (fits.2 member present)

/-! ### Lexemes of lines -/

variable {text : List Char} {tokens : List Token} {lines : List (List Char)}
  {value : Json}

/-- What is in front of a lexeme is dropped from a line. -/
theorem Lexes.trimLeft (lexes : Lexes text tokens) :
    Lexes (Text.trimLeft text) tokens := by
  intro before
  obtain ⟨lexer, read, settled⟩ := lexes before
  rw [← @List.takeWhile_append_dropWhile _ Text.isBlank text,
    List.foldlM_append, Option.bind_eq_bind, Option.bind_eq_some_iff] at read
  obtain ⟨middle, passed, read⟩ := read
  obtain rfl := Lexer.eq_of_foldlM
    (fun character => List.mem_takeWhile_imp) passed
  exact ⟨lexer, read, settled⟩

/-- The lexemes of lines are those of the text in which each line but the last
one ends with a line feed. -/
theorem lexes_intercalate {lexemes : List (List Token)}
    (each : List.Forall₂ Lexes lines lexemes) :
    Lexes (['\n'].intercalate lines) lexemes.flatten := by
  induction each with
  | nil => exact .nil
  | @cons line tokens rest others lexes later ih =>
      cases later with
      | nil => simpa using lexes
      | cons _ _ =>
          rw [List.intercalate_cons_cons, List.append_assoc,
            List.singleton_append, List.flatten_cons]
          exact lexes.append (ih.space fun _ => rfl)
            (by simp [Lexer.isNumeric])

/-- The lines of a text may be put together again, and the blanks in front of
each of them do not matter. -/
theorem Wraps.read? (wraps : Wraps lines value) :
    read? (String.ofList (['\n'].intercalate (lines.map Text.trimLeft))) =
      some value := by
  obtain ⟨lexemes, tree, each, whole, denotes, nests⟩ := wraps.exists_tree
  have trimmed : List.Forall₂ Lexes (lines.map Text.trimLeft) lexemes :=
    List.forall₂_map_left_iff.2 (each.imp fun line tokens => Lexes.trimLeft)
  rw [Json.read?, Source.read?, String.toList_ofList,
    (lexes_intercalate trimmed).scan?, Option.bind_some, whole,
    Source.ofTokens?_eq_some_iff.2 rfl, Option.bind_some,
    denotes.ofSource? nests]

/-- The lexemes of a value that fits may be put on lines in any way. -/
theorem Fits.wraps {lexemes : List (List Token)} (fits : Fits maxDepth value)
    (not_blank : ∀ line ∈ lines, ¬ Text.AreBlank line)
    (each : List.Forall₂ Lexes lines lexemes)
    (whole : lexemes.flatten = value.source.tokens) : Wraps lines value := by
  have found := ofSource?_source fits.readable
  rw [fits.restored] at found
  exact ⟨not_blank, lexemes, value.source, each, whole,
    denotes_of_ofSource? found, fits.nests_source⟩

end Runbook.Json
