import Runbook.Json.Reader
import Runbook.Proofs.Expression.Split

/-!
# Lexemes one after the other

A text whose lexemes are known may stand anywhere between two lexemes, and so
texts that are written one after the other have the lexemes of both.  Only a
number goes on as long as it can, and must not be followed by more of one.  A
text that can be read has the same lexemes, and so the same value, without the
blanks around it.
-/

namespace Runbook.Json

namespace Lexer

/-- The lexemes read so far, if what is being read may end here. -/
def settled? (lexer : Lexer) : Option (List Token) :=
  match lexer.mode with
  | .between => some lexer.tokens
  | .number soFar => closeNumber lexer.tokens soFar
  | _ => none

theorem finish_eq (lexer : Lexer) :
    lexer.finish = lexer.settled?.map List.reverse := by
  obtain ⟨tokens, mode⟩ := lexer
  cases mode <;> rfl

/-- What goes on after a lexeme goes on as if nothing were being read. -/
theorem step_of_settled {lexer : Lexer} {tokens : List Token} {character : Char}
    (settled : lexer.settled? = some tokens)
    (apart : isNumeric character = false) :
    lexer.step character = openToken tokens character := by
  obtain ⟨before, mode⟩ := lexer
  cases mode with
  | between =>
      cases settled
      rfl
  | number soFar =>
      have closed : closeNumber before soFar = some tokens := settled
      simp [step, apart, closed]
  | _ => cases settled

theorem openToken_of_isNumeric {character : Char} (tokens : List Token)
    (isNumeric_ : isNumeric character = true) :
    openToken tokens character = some ⟨tokens, .number [character]⟩ := by
  unfold openToken
  split
  all_goals try (exact absurd isNumeric_ (by decide))
  have noSpace : isSpace character = false := by
    rw [Bool.eq_false_iff]
    intro space
    simp only [isSpace, Bool.or_eq_true, beq_iff_eq] at space
    rcases space with ((rfl | rfl) | rfl) | rfl <;>
      exact absurd isNumeric_ (by decide)
  simp [noSpace, isNumeric_]

theorem foldlM_number (tokens : List Token) (soFar text : List Char)
    (numeric : ∀ character ∈ text, isNumeric character = true) :
    text.foldlM step ⟨tokens, .number soFar⟩ =
      some ⟨tokens, .number (text.reverse ++ soFar)⟩ := by
  induction text generalizing soFar with
  | nil => rfl
  | cons character rest ih =>
      rw [List.forall_mem_cons] at numeric
      have here : step ⟨tokens, .number soFar⟩ character =
          some ⟨tokens, .number (character :: soFar)⟩ := if_pos numeric.1
      rw [List.foldlM_cons, here, Option.bind_eq_bind, Option.bind_some,
        ih _ numeric.2]
      simp

/-! ### Lexemes that have been read stay -/

theorem tokens_suffix_of_openToken {tokens : List Token} {character : Char}
    {next : Lexer} (opened : openToken tokens character = some next) :
    tokens <:+ next.tokens := by
  unfold openToken at opened
  split at opened
  case h_11 =>
    split at opened
    · cases opened
      exact List.suffix_rfl
    · obtain ⟨-, same⟩ := Option.ite_none_right_eq_some.1 opened
      cases same
      exact List.suffix_rfl
  all_goals
    cases opened
    first | exact List.suffix_rfl | exact List.suffix_cons _ _

theorem tokens_suffix_of_closeNumber {tokens others : List Token}
    {soFar : List Char} (closed : closeNumber tokens soFar = some others) :
    tokens <:+ others := by
  obtain ⟨number, -, rfl⟩ := Option.map_eq_some_iff.1 closed
  exact List.suffix_cons _ _

theorem tokens_suffix_of_step {lexer next : Lexer} {character : Char}
    (stepped : lexer.step character = some next) :
    lexer.tokens <:+ next.tokens := by
  obtain ⟨tokens, mode⟩ := lexer
  cases mode with
  | between => exact tokens_suffix_of_openToken stepped
  | word rest token =>
      unfold step at stepped
      dsimp only at stepped
      split at stepped
      · cases stepped
      all_goals
        obtain ⟨-, same⟩ := Option.ite_none_right_eq_some.1 stepped
        cases same
        first | exact List.suffix_rfl | exact List.suffix_cons _ _
  | number soFar =>
      unfold step at stepped
      dsimp only at stepped
      split at stepped
      · cases stepped
        exact List.suffix_rfl
      · obtain ⟨closed, found, opened⟩ := Option.bind_eq_some_iff.1 stepped
        exact (tokens_suffix_of_closeNumber found).trans
          (tokens_suffix_of_openToken opened)
  | string soFar =>
      unfold step at stepped
      dsimp only at stepped
      split at stepped
      · cases stepped
        exact List.suffix_cons _ _
      · split at stepped
        · cases stepped
          exact List.suffix_rfl
        · obtain ⟨-, same⟩ := Option.ite_none_left_eq_some.1 stepped
          cases same
          exact List.suffix_rfl
  | escape soFar =>
      unfold step at stepped
      dsimp only at stepped
      split at stepped
      · cases stepped
        exact List.suffix_rfl
      · obtain ⟨meant, -, rfl⟩ := Option.map_eq_some_iff.1 stepped
        exact List.suffix_rfl
  | unit soFar missing value =>
      obtain ⟨digit, -, rfl⟩ := Option.map_eq_some_iff.1 stepped
      split
      all_goals exact List.suffix_rfl

theorem tokens_suffix_of_foldlM {text : List Char} {lexer next : Lexer}
    (read : text.foldlM step lexer = some next) :
    lexer.tokens <:+ next.tokens := by
  induction text generalizing lexer with
  | nil =>
      cases read
      exact List.suffix_rfl
  | cons character rest ih =>
      rw [List.foldlM_cons, Option.bind_eq_bind,
        Option.bind_eq_some_iff] at read
      obtain ⟨middle, stepped, read⟩ := read
      exact (tokens_suffix_of_step stepped).trans (ih read)

theorem tokens_suffix_of_settled? {lexer : Lexer} {tokens : List Token}
    (settled : lexer.settled? = some tokens) : lexer.tokens <:+ tokens := by
  obtain ⟨before, mode⟩ := lexer
  cases mode with
  | between =>
      cases settled
      exact List.suffix_rfl
  | number soFar => exact tokens_suffix_of_closeNumber settled
  | _ => cases settled

end Lexer

/-- The lexemes of a text, wherever it stands between two lexemes. -/
def Lexes (text : List Char) (tokens : List Token) : Prop :=
  ∀ before, ∃ lexer, text.foldlM Lexer.step ⟨before, .between⟩ = some lexer ∧
    lexer.settled? = some (tokens.reverse ++ before)

variable {first second text : List Char} {tokens more : List Token}

theorem Lexes.nil : Lexes [] [] :=
  fun before => ⟨⟨before, .between⟩, rfl, rfl⟩

theorem Lexes.append (lexes : Lexes first tokens) (others : Lexes second more)
    (apart : ∀ character ∈ second.head?, Lexer.isNumeric character = false) :
    Lexes (first ++ second) (tokens ++ more) := by
  intro before
  obtain ⟨lexer, read, settled⟩ := lexes before
  obtain ⟨last, readOthers, settledOthers⟩ := others (tokens.reverse ++ before)
  cases second with
  | nil =>
      cases readOthers
      simp only [Lexer.settled?, Option.some.injEq] at settledOthers
      refine ⟨lexer, by rw [List.append_nil, read], ?_⟩
      rw [settled, settledOthers]
      simp
  | cons character rest =>
      refine ⟨last, ?_, by rw [settledOthers]; simp⟩
      have steps := Lexer.step_of_settled settled (apart character rfl)
      rw [List.foldlM_append, read, Option.bind_eq_bind, Option.bind_some,
        ← readOthers, List.foldlM_cons, List.foldlM_cons, steps]
      rfl

/-- A lexeme of one character, which may follow on anything. -/
theorem Lexes.cons {character : Char} {token : Token}
    (single : ∀ before, Lexer.openToken before character =
      some ⟨token :: before, .between⟩)
    (others : Lexes text tokens) :
    Lexes (character :: text) (token :: tokens) := by
  intro before
  obtain ⟨last, read, settled⟩ := others (token :: before)
  refine ⟨last, ?_, by rw [settled]; simp⟩
  have here : Lexer.step ⟨before, .between⟩ character =
      some ⟨token :: before, .between⟩ := single before
  rw [List.foldlM_cons, here]
  exact read

theorem Lexes.scan? (lexes : Lexes text tokens) :
    Token.scan? text = some tokens := by
  obtain ⟨lexer, read, settled⟩ := lexes []
  rw [Token.scan?, Lexer.start, read, Option.bind_some, Lexer.finish_eq,
    settled]
  simp

theorem lexes_null : Lexes ['n', 'u', 'l', 'l'] [.null] :=
  fun _ => ⟨_, rfl, rfl⟩

theorem lexes_true : Lexes ['t', 'r', 'u', 'e'] [.bool true] :=
  fun _ => ⟨_, rfl, rfl⟩

theorem lexes_false : Lexes ['f', 'a', 'l', 's', 'e'] [.bool false] :=
  fun _ => ⟨_, rfl, rfl⟩

theorem lexes_number {number : NumberText}
    (numeric : ∀ character ∈ text, Lexer.isNumeric character = true)
    (reads : NumberText.ofChars? text = some number) :
    Lexes text [.number number] := by
  intro before
  cases text with
  | nil => cases reads
  | cons character rest =>
      rw [List.forall_mem_cons] at numeric
      refine ⟨⟨before, .number (rest.reverse ++ [character])⟩, ?_, ?_⟩
      · have here := Lexer.openToken_of_isNumeric before numeric.1
        rw [List.foldlM_cons]
        change (Lexer.openToken before character >>= _) = _
        rw [here]
        exact Lexer.foldlM_number before [character] rest numeric.2
      · simp [Lexer.settled?, Lexer.closeNumber, reads]

/-! ### Strings -/

/-- The piece that stands for a character between quotes. -/
def Piece.ofChar (character : Char) : Piece :=
  match character with
  | '\n' | '\r' | '\t' | '\x08' | '\x0c' => .char character
  | other => if other.toNat < 32 then .unit other.toNat else .char other

theorem hexValue?_hexDigit :
    ∀ value < 16, Lexer.hexValue? (hexDigit value) = some value := by
  decide

/-- The escape of a character is read as the piece that stands for it. -/
theorem foldlM_escapeChar (tokens : List Token) (soFar : List Piece)
    (character : Char) :
    (escapeChar character).foldlM Lexer.step ⟨tokens, .string soFar⟩ =
      some ⟨tokens, .string (Piece.ofChar character :: soFar)⟩ := by
  unfold escapeChar Piece.ofChar
  split
  case h_8 noQuote noBackslash _ _ _ _ _ =>
    have noQuote : character ≠ '"' := noQuote
    have noBackslash : character ≠ '\\' := noBackslash
    split
    · next small =>
        have isDigit : character.toNat / 16 < 16 ∧
            character.toNat % 16 < 16 := by
          omega
        have high := hexValue?_hexDigit _ isDigit.1
        have low := hexValue?_hexDigit _ isDigit.2
        have whole : 16 * (character.toNat / 16) + character.toNat % 16 =
            character.toNat := Nat.div_add_mod _ _
        have zero : Lexer.hexValue? '0' = some 0 := rfl
        simp [Lexer.step, high, low, zero, whole, small]
    · next large =>
        simp [Lexer.step, noQuote, noBackslash, large]
  all_goals rfl

theorem foldlM_escape (tokens : List Token) (soFar : List Piece)
    (text : List Char) :
    (escape text).foldlM Lexer.step ⟨tokens, .string soFar⟩ =
      some ⟨tokens, .string ((text.map Piece.ofChar).reverse ++ soFar)⟩ := by
  induction text generalizing soFar with
  | nil => rfl
  | cons character rest ih =>
      rw [escape, List.flatMap_cons, List.foldlM_append, foldlM_escapeChar,
        Option.bind_eq_bind, Option.bind_some]
      refine (ih _).trans ?_
      simp

theorem lexes_quote (text : String) :
    Lexes (quote text) [.string (text.toList.map Piece.ofChar)] := by
  intro before
  refine ⟨⟨_ :: before, .between⟩, ?_, rfl⟩
  have opened : Lexer.step ⟨before, .between⟩ '"' =
      some ⟨before, .string []⟩ := rfl
  rw [quote, List.cons_append, List.foldlM_cons, opened, Option.bind_eq_bind,
    Option.bind_some, List.foldlM_append, foldlM_escape]
  simp [Lexer.step]

/-! ### The characters of a string -/

namespace Piece

theorem decode?_char (character : Char) (rest : List Piece) :
    decode? (.char character :: rest) =
      (decode? rest).map (character :: ·) := by
  rw [decode?]

/-- A code unit that is no half of a character stands for a character of its
own. -/
theorem decode?_unit {unit : Nat} (notLeading : isLeading unit = false)
    (notTrailing : isTrailing unit = false) (rest : List Piece) :
    decode? (.unit unit :: rest) =
      (decode? rest).map (Char.ofNat unit :: ·) := by
  rcases rest with _ | ⟨_ | second, rest⟩
  · simp [decode?, notLeading, notTrailing]
  · simp [decode?, notLeading, notTrailing]
  · rw [decode?]
    simp [notLeading, notTrailing]

/-- Two halves make a character. -/
theorem decode?_pair {leading trailing : Nat}
    (isFirst : isLeading leading = true)
    (isSecond : isTrailing trailing = true) (rest : List Piece) :
    decode? (.unit leading :: .unit trailing :: rest) =
      (decode? rest).map (Char.ofNat (0x10000 + (leading - 0xD800) * 0x400 +
        (trailing - 0xDC00)) :: ·) := by
  rw [decode?, if_pos isFirst, if_pos isSecond]

theorem decode?_ofChar (character : Char) (rest : List Piece) :
    decode? (ofChar character :: rest) =
      (decode? rest).map (character :: ·) := by
  unfold ofChar
  split
  case h_6 =>
    split
    · next small =>
        have notLeading : isLeading character.toNat = false := by
          simp [isLeading]
          omega
        have notTrailing : isTrailing character.toNat = false := by
          simp [isTrailing]
          omega
        rw [decode?_unit notLeading notTrailing, Char.ofNat_toNat]
    · exact decode?_char _ _
  all_goals exact decode?_char _ _

theorem decode?_map_ofChar (text : List Char) (rest : List Piece) :
    decode? (text.map ofChar ++ rest) = (decode? rest).map (text ++ ·) := by
  induction text with
  | nil => simp
  | cons character others ih =>
      rw [List.map_cons, List.cons_append, decode?_ofChar, ih]
      simp [Function.comp_def]

theorem text?_map_ofChar (text : String) :
    text? (text.toList.map ofChar) = some text := by
  have decoded := decode?_map_ofChar text.toList []
  rw [List.append_nil] at decoded
  simp [text?, decoded, decode?]

/-- A string may be cut after pieces that are whole characters. -/
theorem decode?_append {first : List Piece} {text : List Char}
    (decoded : decode? first = some text) (second : List Piece) :
    decode? (first ++ second) = (decode? second).map (text ++ ·) := by
  induction first using decode?.induct generalizing text with
  | case1 =>
      cases decoded
      simp
  | case2 character rest ih =>
      rw [decode?_char, Option.map_eq_some_iff] at decoded
      obtain ⟨others, decoded, rfl⟩ := decoded
      rw [List.cons_append, decode?_char, ih decoded]
      simp [Function.comp_def]
  | case3 leading trailing rest isFirst isSecond ih =>
      rw [decode?_pair isFirst isSecond, Option.map_eq_some_iff] at decoded
      obtain ⟨others, decoded, rfl⟩ := decoded
      rw [List.cons_append, List.cons_append, decode?_pair isFirst isSecond,
        ih decoded]
      simp [Function.comp_def]
  | case4 leading other rest isFirst noSecond =>
      simp [decode?, isFirst, noSecond] at decoded
  | case5 first other rest noFirst trailing =>
      simp [decode?, noFirst, trailing] at decoded
  | case6 unit other rest notLeading notTrailing ih =>
      rw [Bool.not_eq_true] at notLeading notTrailing
      rw [decode?_unit notLeading notTrailing,
        Option.map_eq_some_iff] at decoded
      obtain ⟨others, decoded, rfl⟩ := decoded
      rw [List.cons_append, decode?_unit notLeading notTrailing, ih decoded]
      simp [Function.comp_def]
  | case7 unit rest lone half =>
      rw [decode?] at decoded
      · simp [half] at decoded
      · exact lone
  | case8 unit rest lone whole ih =>
      rw [Bool.not_eq_true, Bool.or_eq_false_iff] at whole
      rw [decode?_unit whole.1 whole.2, Option.map_eq_some_iff] at decoded
      obtain ⟨others, decoded, rfl⟩ := decoded
      rw [List.cons_append, decode?_unit whole.1 whole.2, ih decoded]
      simp [Function.comp_def]

/-- The halves of a character do not stand on both sides of another
character, so a string may be cut in front of one. -/
theorem exists_of_decode?_append {first rest : List Piece} {character : Char}
    {text : List Char}
    (decoded : decode? (first ++ .char character :: rest) = some text) :
    ∃ front back, decode? first = some front ∧
      decode? (.char character :: rest) = some back ∧
        text = front ++ back := by
  induction first using decode?.induct generalizing text with
  | case1 => exact ⟨[], text, by simp [decode?], decoded, rfl⟩
  | case2 other more ih =>
      rw [List.cons_append, decode?_char, Option.map_eq_some_iff] at decoded
      obtain ⟨others, decoded, rfl⟩ := decoded
      obtain ⟨front, back, read, readBack, rfl⟩ := ih decoded
      exact ⟨other :: front, back, by rw [decode?_char, read]; rfl, readBack,
        rfl⟩
  | case3 leading trailing more isFirst isSecond ih =>
      rw [List.cons_append, List.cons_append, decode?_pair isFirst isSecond,
        Option.map_eq_some_iff] at decoded
      obtain ⟨others, decoded, rfl⟩ := decoded
      obtain ⟨front, back, read, readBack, rfl⟩ := ih decoded
      exact ⟨_ :: front, back, by rw [decode?_pair isFirst isSecond, read]; rfl,
        readBack, rfl⟩
  | case4 leading other more isFirst noSecond =>
      simp [decode?, isFirst, noSecond] at decoded
  | case5 first other more noFirst trailing =>
      simp [decode?, noFirst, trailing] at decoded
  | case6 unit other more notLeading notTrailing ih =>
      rw [Bool.not_eq_true] at notLeading notTrailing
      rw [List.cons_append, decode?_unit notLeading notTrailing,
        Option.map_eq_some_iff] at decoded
      obtain ⟨others, decoded, rfl⟩ := decoded
      obtain ⟨front, back, read, readBack, rfl⟩ := ih decoded
      exact ⟨_ :: front, back,
        by rw [decode?_unit notLeading notTrailing, read]; rfl, readBack, rfl⟩
  | case7 unit more lone half =>
      rw [List.cons_append, decode?] at decoded
      · simp [half] at decoded
      · rintro second others same
        cases more with
        | nil => cases same
        | cons piece pieces =>
            cases same
            exact lone _ _ rfl
  | case8 unit more lone whole ih =>
      rw [Bool.not_eq_true, Bool.or_eq_false_iff] at whole
      rw [List.cons_append, decode?_unit whole.1 whole.2,
        Option.map_eq_some_iff] at decoded
      obtain ⟨others, decoded, rfl⟩ := decoded
      obtain ⟨front, back, read, readBack, rfl⟩ := ih decoded
      exact ⟨_ :: front, back,
        by rw [decode?_unit whole.1 whole.2, read]; rfl, readBack, rfl⟩

end Piece

/-! ### Blanks around a text -/

open Condition (Trims trims_trimBoth)

namespace Lexer

variable {lexer next : Lexer} {tokens read : List Token} {character : Char}
  {text : List Char}

/-- What is still to come of a word has no blanks in it. -/
def KeepsWords (lexer : Lexer) : Prop :=
  ∀ rest token, lexer.mode = .word rest token →
    ∀ character ∈ rest, Text.isBlank character = false

theorem keepsWords_of_openToken
    (opened : openToken tokens character = some next) : next.KeepsWords := by
  unfold openToken at opened
  split at opened
  case h_11 =>
    split at opened
    · cases opened
      exact nofun
    · obtain ⟨-, same⟩ := Option.ite_none_right_eq_some.1 opened
      cases same
      exact nofun
  all_goals
    cases opened
    rintro rest token ⟨⟩
    try simp [Text.isBlank]

theorem KeepsWords.step (keeps : lexer.KeepsWords)
    (stepped : lexer.step character = some next) : next.KeepsWords := by
  obtain ⟨tokens, mode⟩ := lexer
  cases mode with
  | between => exact keepsWords_of_openToken stepped
  | word rest token =>
      have noBlank := keeps rest token rfl
      unfold Lexer.step at stepped
      dsimp only at stepped
      split at stepped
      · cases stepped
      · obtain ⟨-, same⟩ := Option.ite_none_right_eq_some.1 stepped
        cases same
        exact nofun
      · obtain ⟨-, same⟩ := Option.ite_none_right_eq_some.1 stepped
        cases same
        rintro rest token ⟨⟩
        exact (List.forall_mem_cons.1 noBlank).2
  | number soFar =>
      unfold Lexer.step at stepped
      dsimp only at stepped
      split at stepped
      · cases stepped
        exact nofun
      · obtain ⟨closed, -, opened⟩ := Option.bind_eq_some_iff.1 stepped
        exact keepsWords_of_openToken opened
  | string soFar =>
      unfold Lexer.step at stepped
      dsimp only at stepped
      split at stepped
      · cases stepped
        exact nofun
      · split at stepped
        · cases stepped
          exact nofun
        · obtain ⟨-, same⟩ := Option.ite_none_left_eq_some.1 stepped
          cases same
          exact nofun
  | escape soFar =>
      unfold Lexer.step at stepped
      dsimp only at stepped
      split at stepped
      · cases stepped
        exact nofun
      · obtain ⟨meant, -, rfl⟩ := Option.map_eq_some_iff.1 stepped
        exact nofun
  | unit soFar missing value =>
      obtain ⟨digit, -, rfl⟩ := Option.map_eq_some_iff.1 stepped
      dsimp only
      split
      all_goals exact nofun

theorem KeepsWords.foldlM (keeps : lexer.KeepsWords)
    (read : text.foldlM Lexer.step lexer = some next) : next.KeepsWords := by
  induction text generalizing lexer with
  | nil =>
      cases read
      exact keeps
  | cons character rest ih =>
      rw [List.foldlM_cons, Option.bind_eq_bind,
        Option.bind_eq_some_iff] at read
      obtain ⟨middle, stepped, read⟩ := read
      exact ih (keeps.step stepped) read

/-! ### Blanks between lexemes -/

theorem isNumeric_of_isBlank (blank : Text.isBlank character = true) :
    isNumeric character = false := by
  rw [← Bool.not_eq_true]
  intro numeric
  simp only [isNumeric, Bool.or_eq_true, beq_iff_eq] at numeric
  rcases numeric with ((((isDigit | rfl) | rfl) | rfl) | rfl) | rfl
  · rw [Text.isBlank_of_isDigit isDigit] at blank
    cases blank
  all_goals exact absurd blank (by decide)

/-- A blank between two lexemes is a space, and nothing comes of it. -/
theorem openToken_of_isBlank (blank : Text.isBlank character = true)
    (opened : openToken tokens character = some next) :
    next = ⟨tokens, .between⟩ := by
  unfold openToken at opened
  split at opened
  case h_11 =>
    split at opened
    · cases opened
      rfl
    · rw [isNumeric_of_isBlank blank] at opened
      cases opened
  all_goals exact absurd blank (by decide)

/-- What is settled after a blank was settled before it. -/
theorem settled?_of_step (keeps : lexer.KeepsWords)
    (blank : Text.isBlank character = true)
    (stepped : lexer.step character = some next)
    (settled : next.settled? = some read) : lexer.settled? = some read := by
  obtain ⟨tokens, mode⟩ := lexer
  cases mode with
  | between =>
      rw [openToken_of_isBlank blank stepped] at settled
      exact settled
  | number soFar =>
      unfold step at stepped
      dsimp only at stepped
      rw [isNumeric_of_isBlank blank, if_neg Bool.false_ne_true,
        Option.bind_eq_some_iff] at stepped
      obtain ⟨closed, found, opened⟩ := stepped
      rw [openToken_of_isBlank blank opened] at settled
      cases settled
      exact found
  | word rest token =>
      have noBlank := keeps rest token rfl
      unfold step at stepped
      dsimp only at stepped
      split at stepped
      · cases stepped
      · obtain ⟨rfl, -⟩ := Option.ite_none_right_eq_some.1 stepped
        rw [noBlank _ List.mem_cons_self] at blank
        cases blank
      · obtain ⟨-, same⟩ := Option.ite_none_right_eq_some.1 stepped
        cases same
        cases settled
  | string soFar =>
      unfold step at stepped
      dsimp only at stepped
      split at stepped
      · next quote =>
          subst quote
          exact absurd blank (by decide)
      · split at stepped
        · cases stepped
          cases settled
        · obtain ⟨-, same⟩ := Option.ite_none_left_eq_some.1 stepped
          cases same
          cases settled
  | escape soFar =>
      unfold step at stepped
      dsimp only at stepped
      split at stepped
      · cases stepped
        cases settled
      · obtain ⟨meant, -, rfl⟩ := Option.map_eq_some_iff.1 stepped
        cases settled
  | unit soFar missing value =>
      obtain ⟨digit, -, rfl⟩ := Option.map_eq_some_iff.1 stepped
      dsimp only at settled
      split at settled
      all_goals cases settled

theorem settled?_of_foldlM {blanks : List Char} (keeps : lexer.KeepsWords)
    (areBlank : ∀ character ∈ blanks, Text.isBlank character = true)
    (passed : blanks.foldlM Lexer.step lexer = some next)
    (settled : next.settled? = some read) : lexer.settled? = some read := by
  induction blanks generalizing lexer with
  | nil =>
      cases passed
      exact settled
  | cons character rest ih =>
      rw [List.forall_mem_cons] at areBlank
      rw [List.foldlM_cons, Option.bind_eq_bind,
        Option.bind_eq_some_iff] at passed
      obtain ⟨middle, stepped, passed⟩ := passed
      exact settled?_of_step keeps areBlank.1 stepped
        (ih (keeps.step stepped) areBlank.2 passed)

/-- Nothing comes of blanks in front of a lexeme. -/
theorem eq_of_foldlM {blanks : List Char}
    (areBlank : ∀ character ∈ blanks, Text.isBlank character = true)
    (passed : blanks.foldlM Lexer.step ⟨tokens, .between⟩ = some next) :
    next = ⟨tokens, .between⟩ := by
  induction blanks with
  | nil =>
      cases passed
      rfl
  | cons character rest ih =>
      rw [List.forall_mem_cons] at areBlank
      rw [List.foldlM_cons, Option.bind_eq_bind,
        Option.bind_eq_some_iff] at passed
      obtain ⟨middle, stepped, passed⟩ := passed
      rw [openToken_of_isBlank areBlank.1 stepped] at passed
      exact ih areBlank.2 passed

end Lexer

variable {text core : List Char} {tokens : List Token}

/-- The lexemes of a text are those of what is left without the blanks at its
ends. -/
theorem Token.scan?_of_trims (trims : Trims text core)
    (scanned : scan? text = some tokens) : scan? core = some tokens := by
  obtain ⟨front, back, rfl, blank⟩ := trims.exists_blanks
  rw [List.forall_mem_append] at blank
  obtain ⟨last, passed, finished⟩ := Option.bind_eq_some_iff.1 scanned
  rw [List.foldlM_append, List.foldlM_append, Option.bind_eq_bind,
    Option.bind_eq_some_iff] at passed
  obtain ⟨middle, passed, after⟩ := passed
  obtain ⟨first, before, passed⟩ := Option.bind_eq_some_iff.1 passed
  obtain rfl := Lexer.eq_of_foldlM blank.1 before
  have keepsAtStart : Lexer.start.KeepsWords := nofun
  have keeps := keepsAtStart.foldlM passed
  rw [Lexer.finish_eq, Option.map_eq_some_iff] at finished
  obtain ⟨read, settled, rfl⟩ := finished
  rw [Token.scan?, Lexer.start, passed, Option.bind_some, Lexer.finish_eq,
    Lexer.settled?_of_foldlM keeps blank.2 after settled]
  rfl

theorem read?_trim {text : String} {value : Json}
    (reads : read? text = some value) :
    read? (Text.trim text) = some value := by
  obtain ⟨source, parsed, valued⟩ := Option.bind_eq_some_iff.1 reads
  obtain ⟨tokens, scanned, grouped⟩ := Option.bind_eq_some_iff.1 parsed
  have scannedToo := Token.scan?_of_trims (trims_trimBoth _) scanned
  rw [read?, Source.read?, Text.trim, String.toList_ofList, scannedToo,
    Option.bind_some, grouped, Option.bind_some, valued]

end Runbook.Json
