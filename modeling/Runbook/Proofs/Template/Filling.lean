import Runbook.Proofs.Json.Lexeme
import Runbook.Proofs.Template.Laws
import Runbook.Proofs.Template.Path

/-!
# Filled strings

The content of a string in a JSON template is made of ordinary pieces and of
tokens.  It is filled by decoding the ordinary pieces between the tokens and
putting the texts in the places of the tokens, as they are.  This is what
decoding gives if the texts are escaped first.
-/

namespace Runbook.Template

open Json (Piece)

/-- A token whose reference asks for its text to be escaped. -/
def AsksEscape (body : List Char) : Prop :=
  ∃ reference, Reference.read? (String.ofList body) = some reference ∧
    reference.jsonEscape = true

/-- The text that is looked up for a token, empty if there is none. -/
def foundText (bindings : Variables) (body : List Char) : List Char :=
  ((lookup? bindings (String.ofList body)).getD "").toList

/-- The braces that begin a token, as pieces of a string. -/
def openingPieces : List Piece := [.char '{', .char '{']

/-- A token, as pieces of a string. -/
def tokenPieces (body : List Char) : List Piece :=
  (opening ++ body ++ closing).map .char

/-- The content of a string, with the texts that are looked up in the places of
its tokens.  Nothing in front of a token begins one, not even with the first
brace of the token. -/
inductive Filled (bindings : Variables) : List Piece → List Char → Prop
  | plain {content : List Piece} {text : List Char}
      (unopened : ¬ openingPieces <:+: content)
      (decoded : Piece.decode? content = some text) :
      Filled bindings content text
  | token {before after : List Piece} {body first rest : List Char}
      (unopened : ¬ openingPieces <:+: before ++ [.char '{'])
      (decoded : Piece.decode? before = some first) (asks : AsksEscape body)
      (filled : Filled bindings after rest) :
      Filled bindings (before ++ tokenPieces body ++ after)
        (first ++ foundText bindings body ++ rest)

variable {bindings : Variables} {body : List Char}
  {content other rest another run : List Piece}

/-! ### A string is filled in one way -/

theorem AsksEscape.isReferenceChar (asks : AsksEscape body) :
    ∀ character ∈ body, IsReferenceChar character := by
  obtain ⟨reference, found, -⟩ := asks
  have characters := isReferenceChar_of_read? found
  rwa [String.toList_ofList] at characters

theorem tokenPieces_eq (body : List Char) :
    tokenPieces body =
      openingPieces ++ (body.map .char ++ [.char '}', .char '}']) := by
  simp [tokenPieces, openingPieces, opening, closing]

/-- A first token does not begin later than another one. -/
theorem length_le_of_opened {first second after afterToo : List Piece}
    (unopened : ¬ openingPieces <:+: second ++ [.char '{'])
    (same : first ++ openingPieces ++ after =
      second ++ openingPieces ++ afterToo) :
    second.length ≤ first.length := by
  by_contra longer
  -- Both are the beginnings of one text, and so of each other.
  have ofFirst : first ++ openingPieces <+:
      second ++ openingPieces ++ afterToo := ⟨after, same⟩
  have ofSecond : second ++ [.char '{'] <+:
      second ++ openingPieces ++ afterToo := ⟨.char '{' :: afterToo, by
    simp [openingPieces]⟩
  have inside : first ++ openingPieces <+: second ++ [.char '{'] := by
    refine List.prefix_of_prefix_length_le ofFirst ofSecond ?_
    simp only [List.length_append, openingPieces, List.length_cons,
      List.length_nil]
    omega
  exact unopened ((List.suffix_append _ _).isInfix.trans inside.isInfix)

theorem eq_of_opened {first second after afterToo : List Piece}
    (unopened : ¬ openingPieces <:+: first ++ [.char '{'])
    (unopenedToo : ¬ openingPieces <:+: second ++ [.char '{'])
    (same : first ++ openingPieces ++ after =
      second ++ openingPieces ++ afterToo) :
    first = second ∧ after = afterToo := by
  have length : first.length = second.length :=
    Nat.le_antisymm (length_le_of_opened unopened same.symm)
      (length_le_of_opened unopenedToo same)
  obtain ⟨opened, rfl⟩ := List.append_inj same (by simp [length])
  exact ⟨List.append_cancel_right opened, rfl⟩

theorem AsksEscape.noBrace (asks : AsksEscape body) :
    Piece.char '}' ∉ body.map .char := by
  have noBrace : '}' ∉ body := fun member =>
    absurd (asks.isReferenceChar _ member) (by decide)
  simpa using noBrace

/-- There is one place where a token ends. -/
theorem eq_of_ended {first second after afterToo : List Piece} {piece : Piece}
    (unended : piece ∉ first) (unendedToo : piece ∉ second)
    (same : first ++ piece :: after = second ++ piece :: afterToo) :
    first = second ∧ after = afterToo := by
  have length : first.length = second.length := by
    have position := congrArg (List.idxOf piece) same
    rwa [List.idxOf_append_of_notMem unended,
      List.idxOf_append_of_notMem unendedToo, List.idxOf_cons_self,
      List.idxOf_cons_self] at position
  obtain ⟨rfl, ended⟩ := List.append_inj same length
  exact ⟨rfl, List.tail_eq_of_cons_eq ended⟩

/-- A string is filled in one way. -/
theorem Filled.unique {text filled : List Char}
    (first : Filled bindings content text)
    (second : Filled bindings content filled) : text = filled := by
  have opened (before after : List Piece) (body : List Char) :
      openingPieces <:+: before ++ tokenPieces body ++ after := by
    rw [tokenPieces_eq]
    exact ⟨before, body.map .char ++ [.char '}', .char '}'] ++ after, by simp⟩
  induction first generalizing filled with
  | plain unopened decoded =>
      cases second with
      | plain _ decodedToo =>
          exact Option.some.inj (decoded.symm.trans decodedToo)
      | token => exact absurd (opened _ _ _) unopened
  | token unopened decoded asks rest ih =>
      generalize same : _ ++ tokenPieces _ ++ _ = whole at second
      cases second with
      | plain unopenedToo => exact absurd (same ▸ opened _ _ _) unopenedToo
      | token unopenedToo decodedToo asksToo restToo =>
          simp only [tokenPieces_eq, List.append_assoc] at same
          simp only [← List.append_assoc _ openingPieces] at same
          obtain ⟨rfl, inside⟩ := eq_of_opened unopened unopenedToo same
          obtain ⟨sameBody, ended⟩ :=
            eq_of_ended asks.noBrace asksToo.noBrace inside
          rw [List.map_inj_right fun _ _ => Piece.char.inj] at sameBody
          cases sameBody
          cases ended
          rw [Option.some.inj (decoded.symm.trans decodedToo), ih restToo]

/-! ### Decoding what is filled -/

/-- If a string of a template can be decoded, then what is put in its place is
decoded as the filled string. -/
def Fills (bindings : Variables) (content other : List Piece) : Prop :=
  ∀ text, Piece.decode? content = some text →
    ∃ filled, Filled bindings content filled ∧
      Piece.decode? other = some filled

/-- The pieces of the text that is put in the place of a token. -/
def foundPieces (bindings : Variables) (body : List Char) : List Piece :=
  (foundText bindings body).map Piece.ofChar

theorem fills_of_unopened (unopened : ¬ openingPieces <:+: content) :
    Fills bindings content content :=
  fun text decoded => ⟨text, .plain unopened decoded, decoded⟩

theorem decode?_map_char (text : List Char) (rest : List Piece) :
    Piece.decode? (text.map .char ++ rest) =
      (Piece.decode? rest).map (text ++ ·) := by
  induction text with
  | nil => simp
  | cons character others ih =>
      rw [List.map_cons, List.cons_append, Piece.decode?_char, ih]
      simp [Function.comp_def]

/-- A token and what is in front of it. -/
theorem Fills.token {before : List Piece}
    (unopened : ¬ openingPieces <:+: before ++ [.char '{'])
    (asks : AsksEscape body) (fills : Fills bindings rest another) :
    Fills bindings (before ++ tokenPieces body ++ rest)
      (before ++ foundPieces bindings body ++ another) := by
  intro text decoded
  -- The string is cut in front of the token and after it.
  have split : before ++ tokenPieces body ++ rest = before ++ .char '{' ::
      (('{' :: (body ++ closing)).map .char ++ rest) := by
    simp [tokenPieces, opening]
  rw [split] at decoded
  obtain ⟨front, back, decodedBefore, decodedToken, -⟩ :=
    Piece.exists_of_decode?_append decoded
  rw [Piece.decode?_char, decode?_map_char, Option.map_map,
    Option.map_eq_some_iff] at decodedToken
  obtain ⟨after, decodedRest, -⟩ := decodedToken
  obtain ⟨filled, isFilled, decodedOther⟩ := fills after decodedRest
  refine ⟨_, .token unopened decodedBefore asks isFilled, ?_⟩
  rw [List.append_assoc, Piece.decode?_append decodedBefore, foundPieces,
    Piece.decode?_map_ofChar, decodedOther]
  simp

/-! ### Strings that are not closed yet -/

/-- Pieces of a string, last one first, up to the end of a token, and the
pieces that are put in their place: whatever follows them. -/
def FillsBefore (bindings : Variables) (soFar other : List Piece) : Prop :=
  ∀ rest another, Fills bindings rest another →
    Fills bindings (soFar.reverse ++ rest) (other.reverse ++ another)

/-- The pieces of a string that is still open, last one first, and the pieces
that are put in their place.  They end with the same run of ordinary pieces. -/
inductive Open (bindings : Variables) :
    List Piece → List Piece → List Piece → Prop
  | intro {run soFar other : List Piece} (unopened : ¬ openingPieces <:+: run)
      (before : FillsBefore bindings soFar other) :
      Open bindings run (run ++ soFar) (run ++ other)

theorem unopened_cons {piece : Piece} (unopened : ¬ openingPieces <:+: run)
    (single : piece = .char '{' → run.head? ≠ some (.char '{')) :
    ¬ openingPieces <:+: piece :: run := by
  intro infixed
  rcases List.infix_cons_iff.1 infixed with starts | infixed
  · obtain ⟨rfl, others, rfl⟩ := List.cons_prefix_cons.1 starts
    exact single rfl rfl
  · exact unopened infixed

/-- Nothing has been read after the last token. -/
theorem FillsBefore.isOpen (before : FillsBefore bindings content other) :
    Open bindings [] content other :=
  .intro (by simp [openingPieces]) before

theorem Open.nil : Open bindings [] [] [] :=
  FillsBefore.isOpen fun _ _ fills => fills

/-- An ordinary piece is added. -/
theorem Open.cons {piece : Piece} (isOpen : Open bindings run content other)
    (single : piece = .char '{' → run.head? ≠ some (.char '{')) :
    Open bindings (piece :: run) (piece :: content) (piece :: other) := by
  obtain ⟨unopened, before⟩ := isOpen
  exact .intro (unopened_cons unopened single) before

/-- A token is added. -/
theorem Open.token (isOpen : Open bindings run content other)
    (single : run.head? ≠ some (.char '{')) (asks : AsksEscape body) :
    Open bindings [] ((tokenPieces body).reverse ++ content)
      ((foundPieces bindings body).reverse ++ other) := by
  obtain ⟨unopened, before⟩ := isOpen
  have unbraced : ¬ openingPieces <:+: run.reverse ++ [.char '{'] := by
    rw [← List.reverse_cons, ← List.reverse_infix, List.reverse_reverse]
    exact unopened_cons unopened fun _ => single
  refine FillsBefore.isOpen fun rest another fills => ?_
  have whole := before _ _ (fills.token unbraced asks)
  simpa using whole

/-- The string is closed. -/
theorem Open.fills (isOpen : Open bindings run content other) :
    Fills bindings content.reverse other.reverse := by
  obtain ⟨unopened, before⟩ := isOpen
  rw [List.reverse_append, List.reverse_append]
  refine before _ _ (fills_of_unopened fun infixed => unopened ?_)
  exact List.reverse_infix.1 infixed

end Runbook.Template
