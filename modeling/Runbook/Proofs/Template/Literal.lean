import Runbook.Proofs.Json.Correspondence
import Runbook.Proofs.Json.RoundTrip
import Runbook.Proofs.Template.Filling
import Runbook.Proofs.Template.Laws

/-!
# Templates of JSON texts

A text with escaped texts in the places of its tokens is read beside the text
with the tokens: outside of strings both readers do the same, and inside of a
string they collect its pieces and what they are filled with.  So tokens that
ask for escaping never change the lexemes of a text, except for the strings in
which they stand.
-/

namespace Runbook.Template

open Json (Lexer Mode Piece Token)

/-- The readers of a template and of the text it is resolved to are in the
middle of the same thing, after a character of the template unless a token has
just ended. -/
inductive ModesBeside (bindings : Variables) (last : Option Char) :
    Mode → Mode → Prop
  | between : ModesBeside bindings last .between .between
  | word {rest : List Char} {token : Token} (unbraced : '{' ∉ rest)
      (plain : ∀ content, token ≠ .string content) :
      ModesBeside bindings last (.word rest token) (.word rest token)
  | number (soFar : List Char) :
      ModesBeside bindings last (.number soFar) (.number soFar)
  | string {run soFar other : List Piece}
      (isOpen : Open bindings run soFar other)
      (braced : run.head? = some (.char '{') → last = some '{') :
      ModesBeside bindings last (.string soFar) (.string other)
  | escape {run soFar other : List Piece}
      (isOpen : Open bindings run soFar other) :
      ModesBeside bindings last (.escape soFar) (.escape other)
  | unit {run soFar other : List Piece} (isOpen : Open bindings run soFar other)
      (missing value : Nat) :
      ModesBeside bindings last (.unit soFar missing value)
        (.unit other missing value)

/-- The lexemes of a text and of the text it is resolved to. -/
abbrev TokensBeside (bindings : Variables) : List Token → List Token → Prop :=
  List.Forall₂ (Token.Corresponds (Fills bindings))

/-- The readers of a template and of the text it is resolved to. -/
structure LexersBeside (bindings : Variables) (last : Option Char)
    (left right : Lexer) : Prop where
  tokens : TokensBeside bindings left.tokens right.tokens
  modes : ModesBeside bindings last left.mode right.mode

variable {bindings : Variables} {last : Option Char} {left right next : Lexer}
  {tokens others : List Token} {character : Char}

/-! ### Text outside of tokens -/

theorem openToken_of_isSpace (tokens : List Token)
    (isSpace : Lexer.isSpace character = true) :
    Lexer.openToken tokens character = some ⟨tokens, .between⟩ := by
  simp only [Lexer.isSpace, Bool.or_eq_true, beq_iff_eq] at isSpace
  rcases isSpace with ((rfl | rfl) | rfl) | rfl <;> rfl

/-- Both readers begin a lexeme. -/
theorem exists_openToken (beside : TokensBeside bindings tokens others)
    (opened : Lexer.openToken tokens character = some next) :
    ∃ other, Lexer.openToken others character = some other ∧
      LexersBeside bindings (some character) next other := by
  unfold Lexer.openToken at opened
  split at opened
  -- Neither a bracket, a comma or a colon, nor a quote, nor a word.
  case h_11 =>
    split at opened
    · next isSpace =>
        cases opened
        exact ⟨_, openToken_of_isSpace others isSpace, beside, .between⟩
    · obtain ⟨isNumeric, same⟩ := Option.ite_none_right_eq_some.1 opened
      cases same
      exact ⟨_, Lexer.openToken_of_isNumeric others isNumeric, beside,
        .number _⟩
  case h_7 =>
    cases opened
    exact ⟨_, rfl, beside, .string .nil (by simp)⟩
  case h_8 | h_9 | h_10 =>
    cases opened
    exact ⟨_, rfl, beside, .word (by decide) (by simp)⟩
  all_goals
    cases opened
    exact ⟨_, rfl, .cons (.same (by simp)) beside, .between⟩

theorem exists_closeNumber {soFar : List Char} {after : List Token}
    (beside : TokensBeside bindings tokens others)
    (closed : Lexer.closeNumber tokens soFar = some after) :
    ∃ another, Lexer.closeNumber others soFar = some another ∧
      TokensBeside bindings after another := by
  obtain ⟨number, found, rfl⟩ := Option.map_eq_some_iff.1 closed
  exact ⟨.number number :: others, by rw [Lexer.closeNumber, found]; rfl,
    .cons (.same (by simp)) beside⟩

theorem shortEscape?_ne_brace {meant : Char}
    (found : Lexer.shortEscape? character = some meant) : meant ≠ '{' := by
  unfold Lexer.shortEscape? at found
  split at found
  all_goals
    cases found
    try decide

/-- Both readers go on with a string. -/
theorem exists_step_string {run soFar other : List Piece}
    (beside : TokensBeside bindings tokens others)
    (isOpen : Open bindings run soFar other)
    (braced : run.head? = some (.char '{') → last = some '{')
    (single : last = some '{' → character ≠ '{')
    (stepped : Lexer.step ⟨tokens, .string soFar⟩ character = some next) :
    ∃ another, Lexer.step ⟨others, .string other⟩ character = some another ∧
      LexersBeside bindings (some character) next another := by
  unfold Lexer.step at stepped ⊢
  dsimp only at stepped ⊢
  split at stepped
  · next isQuote =>
      cases stepped
      exact ⟨_, if_pos isQuote, .cons (.string isOpen.fills) beside, .between⟩
  · next noQuote =>
      rw [if_neg noQuote]
      split at stepped
      · next isBackslash =>
          cases stepped
          exact ⟨_, if_pos isBackslash, beside, .escape isOpen⟩
      · next noBackslash =>
          obtain ⟨large, same⟩ := Option.ite_none_left_eq_some.1 stepped
          cases same
          rw [if_neg noBackslash, if_neg large]
          -- Only here a piece may be a brace, and the one before it is not.
          refine ⟨_, rfl, beside, .string (isOpen.cons ?_) (by simp)⟩
          rintro same head
          exact single (braced head) (Piece.char.inj same)

/-- Both readers take a character, which does not make a pair of braces. -/
theorem LexersBeside.step (beside : LexersBeside bindings last left right)
    (single : last = some '{' → character ≠ '{')
    (stepped : left.step character = some next) :
    ∃ other, right.step character = some other ∧
      LexersBeside bindings (some character) next other := by
  obtain ⟨tokens, mode⟩ := left
  obtain ⟨others, otherMode⟩ := right
  obtain ⟨tokensBeside, modes⟩ := beside
  dsimp only at tokensBeside modes
  cases modes with
  | between => exact exists_openToken tokensBeside stepped
  | @word rest token unbraced plain =>
      match rest, unbraced with
      | [], _ => cases stepped
      | [expected], _ =>
          obtain ⟨rfl, same⟩ := Option.ite_none_right_eq_some.1 stepped
          cases same
          exact ⟨_, if_pos rfl, .cons (.same plain) tokensBeside, .between⟩
      | expected :: second :: more, unbraced =>
          obtain ⟨rfl, same⟩ := Option.ite_none_right_eq_some.1 stepped
          cases same
          exact ⟨_, if_pos rfl, tokensBeside,
            .word (fun member => unbraced (.tail _ member)) plain⟩
  | number soFar =>
      unfold Lexer.step at stepped ⊢
      dsimp only at stepped ⊢
      split at stepped
      · next isNumeric =>
          cases stepped
          exact ⟨_, if_pos isNumeric, tokensBeside, .number _⟩
      · next notNumeric =>
          obtain ⟨closed, found, opened⟩ := Option.bind_eq_some_iff.1 stepped
          obtain ⟨another, foundToo, closedBeside⟩ :=
            exists_closeNumber tokensBeside found
          rw [if_neg notNumeric, foundToo]
          exact exists_openToken closedBeside opened
  | string isOpen braced =>
      exact exists_step_string tokensBeside isOpen braced single stepped
  | escape isOpen =>
      unfold Lexer.step at stepped ⊢
      dsimp only at stepped ⊢
      split at stepped
      · next isUnit =>
          cases stepped
          exact ⟨_, if_pos isUnit, tokensBeside, .unit isOpen _ _⟩
      · next noUnit =>
          obtain ⟨meant, found, rfl⟩ := Option.map_eq_some_iff.1 stepped
          have noBrace := shortEscape?_ne_brace found
          rw [if_neg noUnit, found]
          exact ⟨_, rfl, tokensBeside,
            .string (isOpen.cons (by simp [noBrace])) (by simp [noBrace])⟩
  | unit isOpen missing value =>
      obtain ⟨digit, found, rfl⟩ := Option.map_eq_some_iff.1 stepped
      refine ⟨_, Option.map_eq_some_iff.2 ⟨digit, found, rfl⟩, ?_⟩
      dsimp only
      split
      · exact ⟨tokensBeside, .string (isOpen.cons (by simp)) (by simp)⟩
      · exact ⟨tokensBeside, .unit isOpen _ _⟩

/-- Both readers take a text without a token. -/
theorem LexersBeside.foldlM {text : List Char}
    (beside : LexersBeside bindings none left right)
    (unopened : ¬ opening <:+: text)
    (read : text.foldlM Lexer.step left = some next) :
    ∃ other, text.foldlM Lexer.step right = some other ∧
      LexersBeside bindings text.getLast? next other := by
  induction text using List.reverseRecOn generalizing next with
  | nil =>
      cases read
      exact ⟨right, rfl, beside⟩
  | append_singleton front character ih =>
      rw [List.foldlM_append, Option.bind_eq_bind,
        Option.bind_eq_some_iff] at read
      obtain ⟨middle, readFront, stepped⟩ := read
      rw [List.foldlM_cons, Option.bind_eq_bind,
        Option.bind_eq_some_iff] at stepped
      obtain ⟨_, stepped, ⟨⟩⟩ := stepped
      have unopenedFront : ¬ opening <:+: front := fun infixed =>
        unopened (infixed.trans (List.prefix_append _ _).isInfix)
      obtain ⟨other, readOther, besideFront⟩ := ih unopenedFront readFront
      have single : front.getLast? = some '{' → character ≠ '{' := by
        rintro braced rfl
        exact unopened (pair_infix_concat_iff.2 (.inl braced))
      obtain ⟨after, steppedOther, besideAfter⟩ :=
        besideFront.step single stepped
      refine ⟨after, ?_, by rwa [List.getLast?_concat]⟩
      rw [List.foldlM_append, readOther, Option.bind_eq_bind, Option.bind_some,
        List.foldlM_cons, steppedOther]
      rfl

/-! ### Tokens -/

/-- The characters of a string that are neither quotes nor escapes. -/
theorem foldlM_string {text : List Char} {soFar : List Piece}
    (ordinary : ∀ character ∈ text, character ≠ '"' ∧ character ≠ '\\')
    (read : text.foldlM Lexer.step ⟨tokens, .string soFar⟩ = some next) :
    next = ⟨tokens, .string ((text.map .char).reverse ++ soFar)⟩ := by
  induction text generalizing soFar with
  | nil =>
      cases read
      rfl
  | cons character rest ih =>
      rw [List.forall_mem_cons] at ordinary
      rw [List.foldlM_cons, Option.bind_eq_bind,
        Option.bind_eq_some_iff] at read
      obtain ⟨middle, stepped, read⟩ := read
      unfold Lexer.step at stepped
      dsimp only at stepped
      rw [if_neg ordinary.1.1, if_neg ordinary.1.2] at stepped
      obtain ⟨-, same⟩ := Option.ite_none_left_eq_some.1 stepped
      cases same
      rw [ih ordinary.2 read]
      simp

theorem AsksEscape.ordinary {body : List Char} (asks : AsksEscape body) :
    ∀ character ∈ opening ++ body ++ closing,
      character ≠ '"' ∧ character ≠ '\\' := by
  have characters : ∀ character ∈ body, character ≠ '"' ∧ character ≠ '\\' := by
    intro character member
    have named := asks.isReferenceChar _ member
    constructor
    all_goals
      rintro rfl
      exact absurd named (by decide)
  simp only [List.forall_mem_append]
  exact ⟨⟨by simp [opening], characters⟩, by simp [closing]⟩

/-- Where braces stand, a lexeme begins or a string is being read, for nothing
else goes on with a brace. -/
theorem ModesBeside.at_brace {mode other : Mode}
    (beside : ModesBeside bindings last mode other)
    (stepped : Lexer.step ⟨tokens, mode⟩ '{' = some next) :
    (∃ before, Lexer.settled? ⟨tokens, mode⟩ = some before) ∨
      ∃ soFar, mode = .string soFar := by
  cases beside with
  | between => exact .inl ⟨tokens, rfl⟩
  | number soFar =>
      obtain ⟨before, closed, -⟩ := Option.bind_eq_some_iff.1 stepped
      exact .inl ⟨before, closed⟩
  | string => exact .inr ⟨_, rfl⟩
  | @word rest _ unbraced =>
      match rest, unbraced with
      | [], _ => cases stepped
      | [expected], unbraced | expected :: _ :: _, unbraced =>
          obtain ⟨rfl, -⟩ := Option.ite_none_right_eq_some.1 stepped
          exact absurd List.mem_cons_self unbraced
  | escape => cases stepped
  | unit => cases stepped

/-- Outside of strings braces begin objects. -/
theorem openBraces_twice {before : List Token}
    (settled : left.settled? = some before)
    (read : opening.foldlM Lexer.step left = some next) :
    [.openBrace, .openBrace] <:+: next.tokens := by
  have braced : opening.foldlM Lexer.step left =
      some ⟨.openBrace :: .openBrace :: before, .between⟩ := by
    rw [opening, List.foldlM_cons, Lexer.step_of_settled settled (by decide)]
    rfl
  rw [braced] at read
  cases read
  exact ⟨[], before, rfl⟩

/-- One reader takes a token, which does not stand outside of strings, and the
other one takes the escaped text in its place. -/
theorem LexersBeside.token {body : List Char}
    (beside : LexersBeside bindings last left right)
    (unbraced : last ≠ some '{') (asks : AsksEscape body)
    (read : (opening ++ body ++ closing).foldlM Lexer.step left = some next)
    (single : ¬ [.openBrace, .openBrace] <:+: next.tokens) :
    ∃ other,
      (Json.escape (foundText bindings body)).foldlM Lexer.step right =
        some other ∧ LexersBeside bindings none next other := by
  obtain ⟨tokens, mode⟩ := left
  obtain ⟨others, otherMode⟩ := right
  obtain ⟨tokensBeside, modes⟩ := beside
  dsimp only at tokensBeside modes
  -- Outside of a string the braces would be two lexemes.
  have inString : ∃ soFar, mode = .string soFar := by
    rw [List.append_assoc, List.foldlM_append, Option.bind_eq_bind,
      Option.bind_eq_some_iff] at read
    obtain ⟨middle, opened, read⟩ := read
    obtain ⟨_, stepped, -⟩ := Option.bind_eq_some_iff.1 opened
    refine (modes.at_brace stepped).resolve_left ?_
    rintro ⟨before, settled⟩
    refine single ((openBraces_twice settled opened).trans ?_)
    exact (Lexer.tokens_suffix_of_foldlM read).isInfix
  obtain ⟨soFar, rfl⟩ := inString
  obtain rfl := foldlM_string asks.ordinary read
  cases modes with
  | string isOpen braced =>
      refine ⟨_, Json.foldlM_escape _ _ _, tokensBeside, ?_⟩
      exact .string (isOpen.token (fun head => unbraced (braced head)) asks)
        (by simp)

/-! ### Whole texts -/

/-- Every pair of braces in a text begins a token that asks for its text to be
escaped. -/
structure EscapesAll (text : List Char) : Prop where
  closed : EndsOutside text
  asks : ∀ body, HasToken text body → AsksEscape body

theorem resolve_asksEscape {body : List Char} (asks : AsksEscape body) :
    (Part.token body).resolve bindings =
      Json.escape (foundText bindings body) := by
  obtain ⟨reference, found, escape⟩ := asks
  rw [foundText, lookup?, found]
  simp only [Part.resolve, found, Reference.replacement, escape, if_true]
  rfl

/-- The readers of a template and of the text it is resolved to stay beside
each other. -/
theorem LexersBeside.layout {text : List Char} {parts : List Part}
    (layout : Layout text parts) (closed : ∀ rest, .unclosed rest ∉ parts)
    (asks : ∀ body, .token body ∈ parts → AsksEscape body)
    (beside : LexersBeside bindings none left right)
    (read : text.foldlM Lexer.step left = some next)
    (single : ¬ [.openBrace, .openBrace] <:+: next.tokens) :
    ∃ last other,
      (parts.flatMap (Part.resolve bindings)).foldlM Lexer.step right =
        some other ∧ LexersBeside bindings last next other := by
  -- After a token the readers are again beside each other as at the start.
  induction layout generalizing left right with
  | plain unopened =>
      rw [flatMap_plain]
      exact ⟨_, beside.foldlM unopened read⟩
  | unclosed => exact (closed _ List.mem_concat_self).elim
  | @token before body rest parts unopened unended layout ih =>
      have front := outside_of_unopened unopened
      have unopenedBefore : ¬ opening <:+: before := fun infixed =>
        unopened (infixed.trans (List.prefix_append _ _).isInfix)
      have asksBody := asks body (by simp)
      simp only [List.append_assoc] at read
      rw [List.foldlM_append, Option.bind_eq_bind,
        Option.bind_eq_some_iff] at read
      obtain ⟨atToken, readBefore, read⟩ := read
      have split : opening ++ (body ++ (closing ++ rest)) =
          (opening ++ body ++ closing) ++ rest := by simp
      rw [split, List.foldlM_append, Option.bind_eq_bind,
        Option.bind_eq_some_iff] at read
      obtain ⟨afterToken, readToken, read⟩ := read
      have singleToken : ¬ [.openBrace, .openBrace] <:+: afterToken.tokens :=
        fun infixed => single (infixed.trans
          (Lexer.tokens_suffix_of_foldlM read).isInfix)
      obtain ⟨_, readBeforeToo, besideBefore⟩ :=
        beside.foldlM unopenedBefore readBefore
      obtain ⟨_, readTokenToo, besideToken⟩ :=
        besideBefore.token front.2 asksBody readToken singleToken
      obtain ⟨last, other, readRestToo, besideRest⟩ :=
        ih (fun rest member => closed rest (by simp [member]))
          (fun body member => asks body (by simp [member])) besideToken read
      refine ⟨last, other, ?_, besideRest⟩
      rw [List.flatMap_append, List.flatMap_cons, flatMap_plain,
        resolve_asksEscape asksBody, List.foldlM_append, readBeforeToo,
        Option.bind_eq_bind, Option.bind_some, List.foldlM_append, readTokenToo]
      exact readRestToo

theorem LexersBeside.finish (beside : LexersBeside bindings last left right)
    (finished : left.finish = some tokens) :
    ∃ others, right.finish = some others ∧
      TokensBeside bindings tokens others := by
  obtain ⟨soFar, mode⟩ := left
  obtain ⟨otherSoFar, otherMode⟩ := right
  obtain ⟨tokensBeside, modes⟩ := beside
  dsimp only at tokensBeside modes
  cases modes with
  | between =>
      cases finished
      exact ⟨_, rfl, List.rel_reverse tokensBeside⟩
  | number digits =>
      obtain ⟨closed, found, rfl⟩ := Option.map_eq_some_iff.1 finished
      obtain ⟨another, foundToo, closedBeside⟩ :=
        exists_closeNumber tokensBeside found
      refine ⟨another.reverse, ?_, List.rel_reverse closedBeside⟩
      exact Option.map_eq_some_iff.2 ⟨another, foundToo, rfl⟩
  | _ => cases finished

/-- A template of a JSON text has the tree of its lexemes, and the text it is
resolved to has that tree but for strings that are filled. -/
theorem EscapesAll.exists_corresponds {text : String} {tree : Json.Source}
    (escapes : EscapesAll text.toList)
    (read : Json.Source.read? text = some tree) (bindings : Variables) :
    ∃ other, Json.Source.read? (resolve bindings text) = some other ∧
      tree.Corresponds (Fills bindings) other := by
  obtain ⟨tokens, scanned, read⟩ := Option.bind_eq_some_iff.1 read
  obtain ⟨last, readText, finished⟩ := Option.bind_eq_some_iff.1 scanned
  obtain ⟨parts, layout, closed⟩ := escapes.closed
  rw [Json.Source.ofTokens?_eq_some_iff] at read
  subst read
  have asks (body : List Char) (member : .token body ∈ parts) :
      AsksEscape body := escapes.asks body ⟨parts, layout, member⟩
  have single : ¬ [.openBrace, .openBrace] <:+: last.tokens := by
    rw [Lexer.finish_eq, Option.map_eq_some_iff] at finished
    obtain ⟨settled, ended, same⟩ := finished
    intro infixed
    refine tree.not_openBraces_twice ?_
    rw [← same, ← List.reverse_infix, List.reverse_reverse]
    exact infixed.trans (Lexer.tokens_suffix_of_settled? ended).isInfix
  have start : LexersBeside bindings none Lexer.start Lexer.start :=
    ⟨.nil, .between⟩
  obtain ⟨_, reached, readResolved, beside⟩ :=
    start.layout layout closed asks readText single
  obtain ⟨others, finishedToo, alike⟩ := beside.finish finished
  obtain ⟨other, rfl, corresponds⟩ := Json.Source.exists_of_alike tree alike
  refine ⟨other, ?_, corresponds⟩
  have resolved : (resolve bindings text).toList =
      parts.flatMap (Part.resolve bindings) := by
    rw [resolve, resolveChars, String.toList_ofList, layout.scan_eq]
  rw [Json.Source.read?, resolved, Token.scan?, readResolved, Option.bind_some,
    finishedToo, Option.bind_some, Json.Source.ofTokens?_eq_some_iff]

/-- A JSON template whose tokens ask for escaping is resolved to JSON, whatever
the variables hold: its tree stands for a value if its strings are decoded, and
for the value of the resolved text, and no other one, if they are filled.  In
particular a text that is escaped is a string with this text. -/
theorem read?_resolve (bindings : Variables) :
    (∀ text : String, Json.read? (String.ofList
      ('"' :: Json.escape text.toList ++ ['"'])) = some (.string text)) ∧
    ∀ (text : String) (value : Json), EscapesAll text.toList →
      Json.read? text = some value →
        ∃ tree filled, Json.Source.read? text = some tree ∧
          tree.Denotes Piece.Decodes value ∧
          Json.read? (resolve bindings text) = some filled ∧
          ∀ other, tree.Denotes (fun content text =>
            Filled bindings content text.toList) other ↔ other = filled := by
  refine ⟨fun text => ?_, fun text value escapes valid => ?_⟩
  · have fits : Json.Fits Json.maxDepth (.string text) := trivial
    rw [← Json.read?_render_of_fits fits, Json.render, Json.renderChars,
      Json.quote]
  · obtain ⟨tree, read, found⟩ := Option.bind_eq_some_iff.1 valid
    obtain ⟨other, readResolved, corresponds⟩ :=
      escapes.exists_corresponds read bindings
    have readable (content other : List Piece) (text : String)
        (fills : Fills bindings content other)
        (decoded : Piece.text? content = some text) :
        ∃ another : String, Filled bindings content another.toList ∧
          Piece.text? other = some another := by
      obtain ⟨characters, decodes, rfl⟩ := Option.map_eq_some_iff.1 decoded
      obtain ⟨filled, isFilled, decodedOther⟩ := fills characters decodes
      refine ⟨String.ofList filled, by rwa [String.toList_ofList], ?_⟩
      rw [Piece.text?, decodedOther, Option.map_some]
    obtain ⟨filled, denotes, foundOther⟩ :=
      corresponds.exists_value readable found
    refine ⟨tree, filled, read, Json.denotes_of_ofSource? found, ?_, ?_⟩
    · rw [Json.read?, readResolved, Option.bind_some, foundOther]
    · refine fun another => ⟨fun denotesToo => ?_, fun same => same ▸ denotes⟩
      refine denotesToo.unique (fun content first second one two => ?_) denotes
      exact String.toList_inj.1 (one.unique two)

/-- A string with a brace that is written with an escape, and two tokens. -/
def greeting : String :=
  "[\"\\u007b" ++ tokenText "x:json" ++ ", " ++ tokenText "y:json" ++ "\"]"

/-- A text that seems to end the string, and that looks like a token. -/
def unruly : Variables :=
  .ofList [("x", "\"]\n\\" ++ tokenText "y")]

theorem escapesAll_greeting : EscapesAll greeting.toList := by
  have parts : scan greeting.toList =
      "[\"\\u007b".toList.map .plain ++ .token "x:json".toList ::
        ", ".toList.map .plain ++ .token "y:json".toList ::
          "\"]".toList.map .plain := by
    decide +kernel
  refine ⟨⟨_, layout_scan _, fun rest => ?_⟩, fun body token => ?_⟩
  · simp [parts]
  · rw [hasToken_iff, parts] at token
    have either : body = "x:json".toList ∨ body = "y:json".toList := by
      simpa using token
    rcases either with rfl | rfl
    · exact ⟨⟨"x", [], true⟩, by decide +kernel, rfl⟩
    · exact ⟨⟨"y", [], true⟩, by decide +kernel, rfl⟩

/-- The text does not end the string, and nothing is found for the other
token. -/
theorem read?_resolve_greeting :
    EscapesAll greeting.toList ∧ ∃ value, Json.read? greeting = some value ∧
      ∃ tree filled, Json.Source.read? greeting = some tree ∧
        tree.Denotes Piece.Decodes value ∧
        Json.read? (resolve unruly greeting) = some filled ∧
        (∀ other, tree.Denotes (fun content text =>
          Filled unruly content text.toList) other ↔ other = filled) ∧
        filled.render =
          "[\"\x7b\\\"]\\n\\\\" ++ tokenText "y" ++ ", \"]" := by
  have readable : (Json.read? greeting).isSome = true := by decide +kernel
  obtain ⟨value, valid⟩ := Option.isSome_iff_exists.1 readable
  obtain ⟨tree, filled, read, denotes, found, only⟩ :=
    (read?_resolve unruly).2 greeting value escapesAll_greeting valid
  have rendered : (Json.read? (resolve unruly greeting)).map Json.render =
      some ("[\"\x7b\\\"]\\n\\\\" ++ tokenText "y" ++ ", \"]") := by
    decide +kernel
  rw [found] at rendered
  exact ⟨escapesAll_greeting, value, valid, tree, filled, read, denotes, found,
    only, Option.some.inj rendered⟩

end Runbook.Template
