import Runbook.Proofs.Json.Grammar
import Runbook.Proofs.Json.Members

/-!
# Texts that differ in their strings

Lexemes that differ from those of a tree in the content of strings only are the
lexemes of a tree that differs there only.  So one may change what stands
between quotes and knows what becomes of the value.
-/

namespace Runbook.Json

/-! ### Related lists -/

/-- A list that is related to two others one after the other. -/
theorem exists_of_forall₂_append {α β : Type} {related : α → β → Prop}
    {first second : List α} {others : List β}
    (all : List.Forall₂ related (first ++ second) others) :
    ∃ left right, others = left ++ right ∧
      List.Forall₂ related first left ∧ List.Forall₂ related second right := by
  induction first generalizing others with
  | nil => exact ⟨[], others, rfl, .nil, all⟩
  | cons element rest ih =>
      cases all with
      | cons here later =>
          obtain ⟨left, right, rfl, alike, alikeToo⟩ := ih later
          exact ⟨_ :: left, right, rfl, .cons here alike, alikeToo⟩

/-- Related elements of two lists have common partners. -/
theorem exists_partners {α β γ : Type} {related : α → β → Prop}
    {first : α → γ → Prop} {second : β → γ → Prop} {left : List α}
    {right : List β} (all : List.Forall₂ related left right)
    (each : ∀ element ∈ left, ∀ other, related element other →
      ∃ partner, first element partner ∧ second other partner) :
    ∃ partners, List.Forall₂ first left partners ∧
      List.Forall₂ second right partners := by
  induction all with
  | nil => exact ⟨[], .nil, .nil⟩
  | cons here _ ih =>
      rw [List.forall_mem_cons] at each
      obtain ⟨partner, isFirst, isSecond⟩ := each.1 _ here
      obtain ⟨partners, allFirst, allSecond⟩ := ih each.2
      exact ⟨partner :: partners, .cons isFirst allFirst,
        .cons isSecond allSecond⟩

/-- Two relations between the same lists hold together. -/
theorem forall₂_and {α β : Type} {first second : α → β → Prop}
    {left : List α} {right : List β} (all : List.Forall₂ first left right)
    (others : List.Forall₂ second left right) :
    List.Forall₂ (fun element other =>
      first element other ∧ second element other) left right := by
  induction all with
  | nil => exact .nil
  | cons here _ ih =>
      cases others with
      | cons hereToo later => exact .cons ⟨here, hereToo⟩ (ih later)

/-- Elements that are related to the same list. -/
theorem eq_of_forall₂ {α β : Type} {related : α → β → Prop} {left : List α}
    {right others : List β} (all : List.Forall₂ related left right)
    (allToo : List.Forall₂ related left others)
    (each : ∀ element ∈ left, ∀ first second, related element first →
      related element second → first = second) : right = others := by
  induction all generalizing others with
  | nil =>
      cases allToo
      rfl
  | cons here _ ih =>
      rw [List.forall_mem_cons] at each
      cases allToo with
      | cons hereToo laterToo =>
          rw [each.1 _ _ here hereToo, ih laterToo each.2]

theorem eq_of_pairs {α β : Type} {left right : List (α × β)}
    (firsts : left.map Prod.fst = right.map Prod.fst)
    (seconds : left.map Prod.snd = right.map Prod.snd) : left = right := by
  rw [← List.zip_unzip left, ← List.zip_unzip right, List.unzip_eq_map,
    List.unzip_eq_map, firsts, seconds]

/-! ### Trees and lexemes -/

/-- A relation between the contents of strings. -/
abbrev ContentRelation := List Piece → List Piece → Prop

/-- The same lexeme, or strings with related contents. -/
inductive Token.Corresponds (related : ContentRelation) : Token → Token → Prop
  | string {content other : List Piece} (alike : related content other) :
      Corresponds related (.string content) (.string other)
  | same {token : Token} (plain : ∀ content, token ≠ .string content) :
      Corresponds related token token

/-- The same tree, but for strings with related contents; names are strings as
well. -/
inductive Source.Corresponds (related : ContentRelation) :
    Source → Source → Prop
  | null : Corresponds related .null .null
  | bool (value : Bool) : Corresponds related (.bool value) (.bool value)
  | number (text : NumberText) :
      Corresponds related (.number text) (.number text)
  | string {content other : List Piece} (alike : related content other) :
      Corresponds related (.string content) (.string other)
  | array {items others : List Source}
      (alike : List.Forall₂ (Corresponds related) items others) :
      Corresponds related (.array items) (.array others)
  | object {members others : List (List Piece × Source)}
      (names : List.Forall₂ related (members.map Prod.fst)
        (others.map Prod.fst))
      (values : List.Forall₂ (Corresponds related) (members.map Prod.snd)
        (others.map Prod.snd)) :
      Corresponds related (.object members) (.object others)

variable {related : ContentRelation}

/-! ### From lexemes to trees -/

namespace Token

theorem Corresponds.eq {token other : Token}
    (alike : token.Corresponds related other)
    (plain : ∀ content, token ≠ .string content) : other = token := by
  cases alike with
  | string alike => exact absurd rfl (plain _)
  | same => rfl

theorem Corresponds.exists_string {content : List Piece} {other : Token}
    (alike : (Token.string content).Corresponds related other) :
    ∃ another, other = .string another ∧ related content another := by
  cases alike with
  | string alike => exact ⟨_, rfl, alike⟩
  | same plain => exact absurd rfl (plain content)

end Token

namespace Source

/-- Lexemes that correspond to a list. -/
abbrev Alike (related : ContentRelation) : List Token → List Token → Prop :=
  List.Forall₂ (Token.Corresponds related)

/-- A lexeme that is no string stands for itself. -/
theorem exists_of_alike_cons {token : Token} {rest others : List Token}
    (alike : Alike related (token :: rest) others)
    (plain : ∀ content, token ≠ .string content) :
    ∃ after, others = token :: after ∧ Alike related rest after := by
  cases alike with
  | cons here later =>
      obtain rfl := here.eq plain
      exact ⟨_, rfl, later⟩

theorem itemTokens_cons {item : Source} {rest : List Source}
    (nonempty : rest ≠ []) :
    itemTokens (item :: rest) = item.tokens ++ .comma :: itemTokens rest := by
  rw [itemTokens]
  exact nonempty

theorem memberTokens_cons {name : List Piece} {value : Source}
    {rest : List (List Piece × Source)} (nonempty : rest ≠ []) :
    memberTokens ((name, value) :: rest) =
      .string name :: .colon :: value.tokens ++
        .comma :: memberTokens rest := by
  rw [memberTokens]
  exact nonempty

mutual

theorem exists_of_alike (tree : Source) {others : List Token}
    (alike : Alike related tree.tokens others) :
    ∃ other : Source, others = other.tokens ∧
      tree.Corresponds related other := by
  cases tree with
  | null =>
      rw [tokens] at alike
      obtain ⟨_, rfl, ended⟩ := exists_of_alike_cons alike (by simp)
      cases ended
      exact ⟨.null, by rw [tokens], .null⟩
  | bool value =>
      rw [tokens] at alike
      obtain ⟨_, rfl, ended⟩ := exists_of_alike_cons alike (by simp)
      cases ended
      exact ⟨.bool value, by rw [tokens], .bool value⟩
  | number text =>
      rw [tokens] at alike
      obtain ⟨_, rfl, ended⟩ := exists_of_alike_cons alike (by simp)
      cases ended
      exact ⟨.number text, by rw [tokens], .number text⟩
  | string content =>
      rw [tokens] at alike
      cases alike with
      | cons here ended =>
          cases ended
          obtain ⟨another, rfl, related⟩ := here.exists_string
          exact ⟨.string another, by rw [tokens], .string related⟩
  | array items =>
      rw [tokens] at alike
      obtain ⟨_, rfl, opened⟩ := exists_of_alike_cons alike (by simp)
      obtain ⟨_, _, rfl, inside, closing⟩ := exists_of_forall₂_append opened
      obtain ⟨_, rfl, ended⟩ := exists_of_alike_cons closing (by simp)
      cases ended
      obtain ⟨others, rfl, correspond⟩ := exists_of_alikeItems items inside
      exact ⟨.array others, by rw [tokens, List.cons_append],
        .array correspond⟩
  | object members =>
      rw [tokens] at alike
      obtain ⟨_, rfl, opened⟩ := exists_of_alike_cons alike (by simp)
      obtain ⟨_, _, rfl, inside, closing⟩ := exists_of_forall₂_append opened
      obtain ⟨_, rfl, ended⟩ := exists_of_alike_cons closing (by simp)
      cases ended
      obtain ⟨others, rfl, names, values⟩ :=
        exists_of_alikeMembers members inside
      exact ⟨.object others, by rw [tokens, List.cons_append],
        .object names values⟩

theorem exists_of_alikeItems (items : List Source) {others : List Token}
    (alike : Alike related (itemTokens items) others) :
    ∃ another, others = itemTokens another ∧
      List.Forall₂ (Corresponds related) items another := by
  match items with
  | [] =>
      rw [itemTokens] at alike
      cases alike
      exact ⟨[], by rw [itemTokens], .nil⟩
  | [item] =>
      rw [itemTokens] at alike
      obtain ⟨other, rfl, corresponds⟩ := exists_of_alike item alike
      exact ⟨[other], by rw [itemTokens], .cons corresponds .nil⟩
  | item :: second :: rest =>
      rw [itemTokens] at alike
      · obtain ⟨_, _, rfl, here, after⟩ := exists_of_forall₂_append alike
        obtain ⟨_, rfl, later⟩ := exists_of_alike_cons after (by simp)
        obtain ⟨other, rfl, corresponds⟩ := exists_of_alike item here
        obtain ⟨another, rfl, correspond⟩ :=
          exists_of_alikeItems (second :: rest) later
        cases correspond with
        | cons first remaining =>
            exact ⟨other :: _ :: _, (itemTokens_cons (by simp)).symm,
              .cons corresponds (.cons first remaining)⟩
      · simp

theorem exists_of_alikeMembers (members : List (List Piece × Source))
    {others : List Token}
    (alike : Alike related (memberTokens members) others) :
    ∃ another, others = memberTokens another ∧
      List.Forall₂ related (members.map Prod.fst) (another.map Prod.fst) ∧
      List.Forall₂ (Corresponds related) (members.map Prod.snd)
        (another.map Prod.snd) := by
  match members with
  | [] =>
      rw [memberTokens] at alike
      cases alike
      exact ⟨[], by rw [memberTokens], .nil, .nil⟩
  | [(name, value)] =>
      rw [memberTokens] at alike
      cases alike with
      | cons here colon =>
          obtain ⟨otherName, rfl, named⟩ := here.exists_string
          obtain ⟨_, rfl, held⟩ := exists_of_alike_cons colon (by simp)
          obtain ⟨other, rfl, corresponds⟩ := exists_of_alike value held
          exact ⟨[(otherName, other)], by rw [memberTokens],
            .cons named .nil, .cons corresponds .nil⟩
  | (name, value) :: second :: rest =>
      rw [memberTokens] at alike
      · cases alike with
        | cons here colon =>
            obtain ⟨otherName, rfl, named⟩ := here.exists_string
            obtain ⟨_, rfl, held⟩ := exists_of_alike_cons colon (by simp)
            obtain ⟨_, _, rfl, inside, after⟩ := exists_of_forall₂_append held
            obtain ⟨_, rfl, later⟩ := exists_of_alike_cons after (by simp)
            obtain ⟨other, rfl, corresponds⟩ := exists_of_alike value inside
            obtain ⟨another, rfl, names, values⟩ :=
              exists_of_alikeMembers (second :: rest) later
            cases another with
            | nil => cases names
            | cons first others =>
                exact ⟨(otherName, other) :: first :: others,
                  (memberTokens_cons (by simp)).symm, .cons named names,
                  .cons corresponds values⟩
      · simp

end

/-! ### From trees to values -/

/-- What a tree stands for if the contents of its strings are read in some way:
its numbers are what their texts say, and the members of an object are sorted
by name, the last one of each. -/
inductive Denotes (reads : List Piece → String → Prop) : Source → Json → Prop
  | null : Denotes reads .null .null
  | bool (value : Bool) : Denotes reads (.bool value) (.bool value)
  | number {text : NumberText} {number : Number}
      (found : Number.ofText? text = some number) :
      Denotes reads (.number text) (.number number)
  | string {content : List Piece} {text : String} (read : reads content text) :
      Denotes reads (.string content) (.string text)
  | array {items : List Source} {values : List Json}
      (all : List.Forall₂ (Denotes reads) items values) :
      Denotes reads (.array items) (.array values)
  | object {members : List (List Piece × Source)}
      {named : List (String × Json)}
      (names : List.Forall₂ reads (members.map Prod.fst)
        (named.map Prod.fst))
      (values : List.Forall₂ (Denotes reads) (members.map Prod.snd)
        (named.map Prod.snd)) :
      Denotes reads (.object members) (sortedObject named)

end Source

/-- The usual way to read the content of a string. -/
def Piece.Decodes (content : List Piece) (text : String) : Prop :=
  Piece.text? content = some text

/-- The reader finds what a tree stands for. -/
theorem denotes_of_ofSource? {depth : Nat} {tree : Source} {value : Json}
    (found : ofSource? depth tree = some value) :
    tree.Denotes Piece.Decodes value := by
  match depth, tree with
  | 0, .null | _ + 1, .null =>
      rw [ofSource?] at found
      cases found
      exact .null
  | 0, .bool value | _ + 1, .bool value =>
      rw [ofSource?] at found
      cases found
      exact .bool value
  | 0, .number text | _ + 1, .number text =>
      rw [ofSource?, Option.map_eq_some_iff] at found
      obtain ⟨number, found, rfl⟩ := found
      exact .number found
  | 0, .string content | _ + 1, .string content =>
      rw [ofSource?, Option.map_eq_some_iff] at found
      obtain ⟨text, read, rfl⟩ := found
      exact .string read
  | 0, .array items | 0, .object members =>
      rw [ofSource?] at found
      cases found
  | depth + 1, .array items =>
      rw [ofSource?, Option.map_eq_some_iff] at found
      obtain ⟨values, found, rfl⟩ := found
      rw [ofItems?_eq_some_iff] at found
      exact .array (found.imp fun item value read => denotes_of_ofSource? read)
  | depth + 1, .object members =>
      rw [ofSource?, Option.map_eq_some_iff] at found
      obtain ⟨named, found, rfl⟩ := found
      rw [ofMembers?_eq_some_iff] at found
      refine .object ?_ ?_ <;>
        rw [List.forall₂_map_left_iff, List.forall₂_map_right_iff]
      · exact found.imp fun member pair both => both.1
      · exact found.imp fun member pair both => denotes_of_ofSource? both.2

/-- A tree that differs from a readable one in its strings can be read as well
if its strings can, and stands for the value with the other strings. -/
theorem Source.Corresponds.exists_value {reads : List Piece → String → Prop}
    (readable : ∀ content other text, related content other →
      Piece.text? content = some text →
        ∃ another, reads content another ∧ Piece.text? other = some another)
    {depth : Nat} {tree other : Source} {value : Json}
    (corresponds : tree.Corresponds related other)
    (found : ofSource? depth tree = some value) :
    ∃ another, tree.Denotes reads another ∧
      ofSource? depth other = some another := by
  match depth, corresponds with
  | 0, .null | _ + 1, .null => exact ⟨.null, .null, by rw [ofSource?]⟩
  | 0, .bool value | _ + 1, .bool value =>
      exact ⟨.bool value, .bool value, by rw [ofSource?]⟩
  | 0, .number text | _ + 1, .number text =>
      rw [ofSource?, Option.map_eq_some_iff] at found
      obtain ⟨number, found, rfl⟩ := found
      exact ⟨.number number, .number found, by
        rw [ofSource?, found, Option.map_some]⟩
  | 0, .string alike | _ + 1, .string alike =>
      rw [ofSource?, Option.map_eq_some_iff] at found
      obtain ⟨text, decoded, rfl⟩ := found
      obtain ⟨another, read, decoded⟩ := readable _ _ _ alike decoded
      exact ⟨.string another, .string read, by
        rw [ofSource?, decoded, Option.map_some]⟩
  | 0, .array _ | 0, .object _ _ =>
      rw [ofSource?] at found
      cases found
  | depth + 1, .array alike =>
      rw [ofSource?, Option.map_eq_some_iff] at found
      obtain ⟨values, found, rfl⟩ := found
      have each := exists_forall₂_iff.1 ⟨values, ofItems?_eq_some_iff.1 found⟩
      obtain ⟨others, denotes, read⟩ := exists_partners alike
        fun item member other corresponds =>
          (each item member).elim fun value found =>
            corresponds.exists_value readable found
      rw [← ofItems?_eq_some_iff] at read
      exact ⟨.array others, .array denotes, by
        rw [ofSource?, read, Option.map_some]⟩
  | depth + 1, @Corresponds.object _ members anothers names values =>
      rw [ofSource?, Option.map_eq_some_iff] at found
      obtain ⟨named, found, rfl⟩ := found
      have each := exists_forall₂_iff.1 ⟨named, ofMembers?_eq_some_iff.1 found⟩
      rw [List.forall₂_map_left_iff, List.forall₂_map_right_iff] at names values
      have partners : ∃ others : List (String × Json),
          List.Forall₂ (fun member pair =>
            reads member.1 pair.1 ∧ member.2.Denotes reads pair.2)
              members others ∧
          List.Forall₂ (fun member pair =>
            Piece.text? member.1 = some pair.1 ∧
              ofSource? depth member.2 = some pair.2) anothers others := by
        refine exists_partners (forall₂_and names values) ?_
        intro member present other corresponds
        obtain ⟨⟨text, value⟩, decoded, found⟩ := each member present
        obtain ⟨name, reads, decodes⟩ := readable _ _ _ corresponds.1 decoded
        obtain ⟨another, denotes, read⟩ :=
          corresponds.2.exists_value readable found
        exact ⟨(name, another), ⟨reads, denotes⟩, decodes, read⟩
      obtain ⟨others, denotes, read⟩ := partners
      rw [← ofMembers?_eq_some_iff] at read
      refine ⟨sortedObject others, .object ?_ ?_, by
        rw [ofSource?, read, Option.map_some]⟩ <;>
        rw [List.forall₂_map_left_iff, List.forall₂_map_right_iff]
      · exact denotes.imp fun member pair both => both.1
      · exact denotes.imp fun member pair both => both.2

/-! ### One value for a tree -/

theorem Source.sizeOf_snd_lt {members : List (List Piece × Source)}
    {member : List Piece × Source} (present : member ∈ members) :
    sizeOf member.2 < sizeOf (Source.object members) := by
  have smaller := List.sizeOf_lt_of_mem present
  obtain ⟨name, value⟩ := member
  simp only [object.sizeOf_spec, Prod.mk.sizeOf_spec] at smaller ⊢
  omega

/-- Strings that are read in one way leave a tree with one value. -/
theorem Source.Denotes.unique {reads : List Piece → String → Prop}
    (functional : ∀ content text other, reads content text →
      reads content other → text = other) {tree : Source} {value other : Json}
    (denotes : tree.Denotes reads value)
    (denotesToo : tree.Denotes reads other) : value = other := by
  match tree with
  | .null | .bool _ =>
      cases denotes
      cases denotesToo
      rfl
  | .number text =>
      cases denotes with
      | number found =>
          cases denotesToo with
          | number foundToo =>
              rw [Option.some.inj (found.symm.trans foundToo)]
  | .string content =>
      cases denotes with
      | string read =>
          cases denotesToo with
          | string readToo => rw [functional _ _ _ read readToo]
  | .array items =>
      cases denotes with
      | array all =>
          cases denotesToo with
          | array allToo =>
              rw [eq_of_forall₂ all allToo
                fun item member first second one two =>
                  one.unique functional two]
  | .object members =>
      cases denotes with
      | object names values =>
          cases denotesToo with
          | object namesToo valuesToo =>
              have sameNames := eq_of_forall₂ names namesToo
                fun name _ => functional name
              have sameValues := eq_of_forall₂ values valuesToo
                fun value present first second one two => by
                  obtain ⟨member, inside, rfl⟩ := List.mem_map.1 present
                  have smaller := sizeOf_snd_lt inside
                  exact one.unique functional two
              rw [eq_of_pairs sameNames sameValues]
termination_by sizeOf tree
decreasing_by
  · have smaller := List.sizeOf_lt_of_mem member
    simp only [array.sizeOf_spec]
    omega
  · exact smaller

end Runbook.Json
