import Mathlib.Data.List.Infix
import Runbook.Template.Resolve

/-!
# The laws of substitution

What the parts of a template are, said without a scanner: plain text runs up to
the first double brace, a token runs from there to the first closing one, and
what follows is a template again.  Every text has one layout, and scanning
finds it.

Resolving templates is a substitution from left to right: a text may be cut
wherever no token is open, a token stands for the text of its reference, and
all else stands for itself.  No other function obeys these laws, so they say
what comes of every text, however its braces overlap.

A template reads the variables that are named in its tokens and no others.
What is put in the place of a token is not looked at again, so a variable
cannot bring in another one, whatever its text is.
-/

namespace Runbook.Template

/-- The braces that begin a token. -/
def opening : List Char := ['{', '{']

/-- The braces that end a token. -/
def closing : List Char := ['}', '}']

/-- The parts of which a text consists, from left to right.  Nothing in front
of a token begins one, not even with the first brace of the token, and nothing
in a token ends it. -/
inductive Layout : List Char → List Part → Prop
  | plain {text : List Char} (unopened : ¬ opening <:+: text) :
      Layout text (text.map .plain)
  | unclosed {before rest : List Char}
      (unopened : ¬ opening <:+: before ++ ['{'])
      (unended : ¬ closing <:+: rest) :
      Layout (before ++ opening ++ rest)
        (before.map .plain ++ [.unclosed rest])
  | token {before body rest : List Char} {parts : List Part}
      (unopened : ¬ opening <:+: before ++ ['{'])
      (unended : ¬ closing <:+: body ++ ['}'])
      (layout : Layout rest parts) :
      Layout (before ++ opening ++ body ++ closing ++ rest)
        (before.map .plain ++ .token body :: parts)

/-! ### Pairs of one character -/

section Pairs

variable {character : Char} {text : List Char}

/-- A text in which a character stands twice in a row, up to the first such
place. -/
theorem exists_first_pair (paired : [character, character] <:+: text) :
    ∃ before rest, text = before ++ [character, character] ++ rest ∧
      ¬ [character, character] <:+: before ++ [character] := by
  induction text with
  | nil => simp at paired
  | cons first others ih =>
      by_cases here : [character, character] <+: first :: others
      · obtain ⟨rest, same⟩ := here
        refine ⟨[], rest, same.symm, fun infixed => ?_⟩
        simpa using infixed.length_le
      · obtain ⟨before, rest, rfl, unpaired⟩ :=
          ih ((List.infix_cons_iff.1 paired).resolve_left here)
        refine ⟨first :: before, rest, rfl, fun infixed => ?_⟩
        rw [List.cons_append, List.infix_cons_iff] at infixed
        refine infixed.elim (fun starts => here ?_) unpaired
        refine starts.trans ⟨character :: rest, ?_⟩
        simp

/-- A text does not end with a character if it could be added without making a
pair. -/
theorem pair_infix_concat_iff :
    [character, character] <:+: text ++ [character] ↔
      text.getLast? = some character ∨ [character, character] <:+: text := by
  rw [List.infix_concat_iff]
  refine or_congr_left ?_
  have pair : [character, character] = [character] ++ [character] := rfl
  rw [List.getLast?_eq_some_iff, pair, List.suffix_append_inj_of_length_eq rfl]
  constructor
  · rintro ⟨⟨others, same⟩, -⟩
    exact ⟨others, same.symm⟩
  · rintro ⟨others, rfl⟩
    exact ⟨⟨others, rfl⟩, rfl⟩

end Pairs

/-- A body without braces is not ended before its token is closed. -/
theorem unended_of_noBrace {body : List Char} (noBrace : '}' ∉ body) :
    ¬ closing <:+: body ++ ['}'] := by
  rw [closing, pair_infix_concat_iff, not_or]
  exact ⟨fun last => noBrace (List.mem_of_getLast? last),
    fun infixed => noBrace (infixed.subset (by simp))⟩

/-! ### Scanning -/

variable {before body rest text : List Char} {parts : List Part}

/-- A character that does not begin a token together with the next one. -/
theorem scan_cons {character : Char}
    (unopened : ¬ opening <+: character :: text) :
    scan (character :: text) = .plain character :: scan text :=
  scan.eq_2 character text fun rest same others =>
    unopened ⟨rest, by simp [opening, same, others]⟩

theorem scan_of_unopened (unopened : ¬ opening <:+: text) :
    scan text = text.map .plain := by
  induction text with
  | nil => rfl
  | cons character rest ih =>
      rw [scan_cons fun starts => unopened starts.isInfix,
        ih fun infixed => unopened (List.infix_cons infixed)]
      rfl

/-- What is in front of a token stands for itself. -/
theorem scan_append (unopened : ¬ opening <:+: before ++ ['{'])
    (rest : List Char) :
    scan (before ++ rest) = before.map .plain ++ scan rest := by
  induction before with
  | nil => rfl
  | cons character before ih =>
      rw [List.cons_append, scan_cons, ih fun infixed =>
        unopened (List.infix_cons infixed)]
      · rfl
      · rintro starts
        refine unopened (List.IsPrefix.isInfix ?_)
        obtain ⟨rfl, next⟩ := List.cons_prefix_cons.1 starts
        cases before with
        | nil => exact List.prefix_rfl
        | cons other before =>
            obtain ⟨rfl, -⟩ := List.cons_prefix_cons.1 next
            exact ⟨before ++ ['{'], rfl⟩

/-- Inside of a token, a character that does not end it together with the next
one. -/
theorem scanToken_cons {character : Char} (seen : List Char)
    (unended : ¬ closing <+: character :: text) :
    scanToken seen (character :: text) = scanToken (character :: seen) text :=
  scanToken.eq_2 seen character text fun rest same others =>
    unended ⟨rest, by simp [closing, same, others]⟩

theorem scanToken_of_unended (seen : List Char)
    (unended : ¬ closing <:+: text) :
    scanToken seen text = [.unclosed (seen.reverse ++ text)] := by
  induction text generalizing seen with
  | nil => simp [scanToken]
  | cons character rest ih =>
      rw [scanToken_cons seen fun starts => unended starts.isInfix,
        ih _ fun infixed => unended (List.infix_cons infixed)]
      simp

theorem scanToken_append (seen rest : List Char)
    (unended : ¬ closing <:+: body ++ ['}']) :
    scanToken seen (body ++ (closing ++ rest)) =
      .token (seen.reverse ++ body) :: scan rest := by
  induction body generalizing seen with
  | nil => simp [closing, scanToken]
  | cons character body ih =>
      rw [List.cons_append, scanToken_cons, ih _ fun infixed =>
        unended (List.infix_cons infixed)]
      · simp
      · rintro starts
        refine unended (List.IsPrefix.isInfix ?_)
        obtain ⟨rfl, next⟩ := List.cons_prefix_cons.1 starts
        cases body with
        | nil => exact List.prefix_rfl
        | cons other body =>
            obtain ⟨rfl, -⟩ := List.cons_prefix_cons.1 next
            exact ⟨body ++ ['}'], rfl⟩

/-- Scanning finds the layout of a text. -/
theorem Layout.scan_eq (layout : Layout text parts) : scan text = parts := by
  induction layout with
  | plain unopened => exact scan_of_unopened unopened
  | unclosed unopened unended =>
      rw [List.append_assoc, scan_append unopened]
      exact congrArg _ (scanToken_of_unended [] unended)
  | @token before body rest parts unopened unended layout ih =>
      have opened : scan (opening ++ (body ++ (closing ++ rest))) =
          scanToken [] (body ++ (closing ++ rest)) := rfl
      simp only [List.append_assoc]
      rw [scan_append unopened, opened, scanToken_append [] rest unended, ih]
      rfl

/-- Every text has a layout: a token begins at the first pair of braces, if
there is one, and ends at the first closing pair after it. -/
theorem layout_scan (text : List Char) : Layout text (scan text) := by
  -- What follows a token is shorter than the text.
  induction length : text.length using Nat.strong_induction_on
    generalizing text with
  | h size ih =>
      suffices exists_layout : ∃ parts, Layout text parts by
        obtain ⟨parts, layout⟩ := exists_layout
        rwa [layout.scan_eq]
      by_cases opened : opening <:+: text
      · obtain ⟨before, inside, rfl, unopened⟩ := exists_first_pair opened
        by_cases ended : closing <:+: inside
        · obtain ⟨body, rest, rfl, unended⟩ := exists_first_pair ended
          have shorter : rest.length < size := by
            rw [← length]
            simp only [List.length_append]
            simp
            omega
          have layout := Layout.token unopened unended
            (ih _ shorter rest rfl)
          simp only [List.append_assoc] at layout ⊢
          exact ⟨_, layout⟩
        · exact ⟨_, .unclosed unopened ended⟩
      · exact ⟨_, .plain opened⟩

example : scan ['{', '{', '{', 'a', '}', '}', '}'] =
    [.token ['{', 'a'], .plain '}'] := by
  decide +kernel

end Runbook.Template

/-! ## Substitution -/

namespace Runbook.Template

/-- Outside of tokens: none that is begun in a text is left open. -/
def EndsOutside (text : List Char) : Prop :=
  ∃ parts, Layout text parts ∧ ∀ rest, .unclosed rest ∉ parts

/-- The text of a token with its braces. -/
def tokenText (body : String) : String :=
  String.ofList opening ++ body ++ String.ofList closing

/-- What a token stands for: the text of its reference, which may be escaped
and is empty if it is nowhere found, or the token itself if it is no
reference. -/
def tokenValue (bindings : Variables) (body : String) : String :=
  match Reference.read? body with
  | some reference =>
    let text := (reference.lookup? bindings).getD ""
    if reference.jsonEscape then String.ofList (Json.escape text.toList)
    else text
  | none => tokenText body

/-- The laws of a function that substitutes for the tokens of a text. -/
structure Substitutes (bindings : Variables) (function : String → String) :
    Prop where
  /-- A text may be cut outside of tokens, but not within their braces. -/
  append : ∀ first second : String, EndsOutside first.toList →
    first.toList.getLast? ≠ some '{' →
    function (first ++ second) = function first ++ function second
  token : ∀ body : String, ¬ closing <:+: body.toList ++ ['}'] →
    function (tokenText body) = tokenValue bindings body
  /-- The first token is never closed. -/
  unclosed : ∀ before rest : String, ¬ opening <:+: before.toList ++ ['{'] →
    ¬ closing <:+: rest.toList →
    function (before ++ String.ofList opening ++ rest) =
      before ++ String.ofList opening ++ rest
  unopened : ∀ text : String, ¬ opening <:+: text.toList →
    function text = text

variable {bindings : Variables} {text before body : List Char}

theorem EndsOutside.of_unopened (unopened : ¬ opening <:+: text) :
    EndsOutside text :=
  ⟨_, .plain unopened, by simp⟩

theorem EndsOutside.of_token (unended : ¬ closing <:+: body ++ ['}']) :
    EndsOutside (opening ++ body ++ closing) := by
  have nothing : Layout [] [] := .plain (by simp [opening])
  have none : ¬ opening <:+: [] ++ ['{'] := by decide
  have layout := Layout.token none unended nothing
  rw [List.nil_append, List.append_nil] at layout
  exact ⟨_, layout, by simp⟩

/-- What is in front of a token holds none, and does not end with a brace that
could be taken for one of the token. -/
theorem outside_of_unopened (unopened : ¬ opening <:+: before ++ ['{']) :
    EndsOutside before ∧ before.getLast? ≠ some '{' := by
  rw [opening, pair_infix_concat_iff, not_or] at unopened
  exact ⟨.of_unopened unopened.2, unopened.1⟩

/-! ### Resolving obeys the laws -/

/-- A text that ends outside of tokens is scanned on its own. -/
theorem scan_append_of_outside (outside : EndsOutside text)
    (unbraced : text.getLast? ≠ some '{') (rest : List Char) :
    scan (text ++ rest) = scan text ++ scan rest := by
  obtain ⟨parts, layout, closed⟩ := outside
  rw [layout.scan_eq]
  induction layout with
  | plain unopened =>
      refine scan_append ?_ rest
      rw [opening, pair_infix_concat_iff, not_or]
      exact ⟨unbraced, unopened⟩
  | unclosed unopened unended =>
      exact (closed _ List.mem_concat_self).elim
  | @token before body after parts unopened unended layout ih =>
      have afterUnbraced : after.getLast? ≠ some '{' := by
        intro last
        rw [List.getLast?_append, last] at unbraced
        exact unbraced rfl
      have afterClosed : ∀ rest, .unclosed rest ∉ parts := by
        intro rest member
        exact closed rest (by simp [member])
      have whole := Layout.token unopened unended (layout_scan (after ++ rest))
      rw [← List.append_assoc] at whole
      rw [whole.scan_eq, ih afterUnbraced afterClosed]
      simp

theorem resolve_append {first : String} (outside : EndsOutside first.toList)
    (unbraced : first.toList.getLast? ≠ some '{') (second : String) :
    resolve bindings (first ++ second) =
      resolve bindings first ++ resolve bindings second := by
  simp only [resolve, resolveChars, String.toList_append,
    scan_append_of_outside outside unbraced, List.flatMap_append,
    String.ofList_append]

theorem resolve_token {body : String}
    (unended : ¬ closing <:+: body.toList ++ ['}']) :
    resolve bindings (tokenText body) = tokenValue bindings body := by
  have parts : scan (tokenText body).toList = [.token body.toList] := by
    rw [tokenText, String.toList_append, String.toList_append,
      String.toList_ofList, String.toList_ofList, List.append_assoc]
    exact scanToken_append [] [] unended
  rw [resolve, resolveChars, parts, List.flatMap_singleton, Part.resolve,
    String.ofList_toList, tokenValue]
  cases Reference.read? body with
  | none =>
      rw [← String.toList_inj]
      simp [tokenText, opening, closing]
  | some reference =>
      dsimp only [Reference.replacement]
      split
      · rfl
      · exact String.ofList_toList

/-- Plain parts stand for themselves. -/
theorem flatMap_plain (text : List Char) :
    (text.map .plain).flatMap (Part.resolve bindings) = text := by
  rw [List.flatMap_map]
  exact List.flatMap_singleton' text

theorem resolve_unclosed {before rest : String}
    (unopened : ¬ opening <:+: before.toList ++ ['{'])
    (unended : ¬ closing <:+: rest.toList) :
    resolve bindings (before ++ String.ofList opening ++ rest) =
      before ++ String.ofList opening ++ rest := by
  have parts : scan (before ++ String.ofList opening ++ rest).toList =
      before.toList.map .plain ++ [.unclosed rest.toList] := by
    rw [String.toList_append, String.toList_append, String.toList_ofList]
    exact (Layout.unclosed unopened unended).scan_eq
  rw [resolve, resolveChars, parts, List.flatMap_append, flatMap_plain,
    ← String.toList_inj]
  simp [Part.resolve, opening]

theorem resolve_unopened {text : String}
    (unopened : ¬ opening <:+: text.toList) : resolve bindings text = text := by
  rw [resolve, resolveChars, scan_of_unopened unopened, flatMap_plain,
    String.ofList_toList]

theorem substitutes_resolve (bindings : Variables) :
    Substitutes bindings (resolve bindings) where
  append _ second outside unbraced := resolve_append outside unbraced second
  token _ unended := resolve_token unended
  unclosed _ _ unopened unended := resolve_unclosed unopened unended
  unopened _ plain := resolve_unopened plain

/-! ### Nothing else obeys them -/

/-- The laws say what comes of a text, part by part. -/
theorem Substitutes.eq_of_layout {function other : String → String}
    (substitutes : Substitutes bindings function)
    (others : Substitutes bindings other) {parts : List Part}
    (layout : Layout text parts) :
    function (String.ofList text) = other (String.ofList text) := by
  induction layout with
  | @plain text unopened =>
      have plain : ¬ opening <:+: (String.ofList text).toList := by
        rwa [String.toList_ofList]
      rw [substitutes.unopened _ plain, others.unopened _ plain]
  | @unclosed before rest unopened unended =>
      have front : ¬ opening <:+: (String.ofList before).toList ++ ['{'] := by
        rwa [String.toList_ofList]
      have back : ¬ closing <:+: (String.ofList rest).toList := by
        rwa [String.toList_ofList]
      rw [String.ofList_append, String.ofList_append,
        substitutes.unclosed _ _ front back, others.unclosed _ _ front back]
  | @token before body rest _ unopened unended _ ih =>
      have front := outside_of_unopened unopened
      rw [← String.toList_ofList (l := before)] at front
      have plain : ¬ opening <:+: (String.ofList before).toList := by
        rw [String.toList_ofList]
        exact fun infixed => unopened (infixed.trans
          (List.prefix_append _ _).isInfix)
      have inside : ¬ closing <:+: (String.ofList body).toList ++ ['}'] := by
        rwa [String.toList_ofList]
      have middle : EndsOutside (tokenText (String.ofList body)).toList ∧
          (tokenText (String.ofList body)).toList.getLast? ≠ some '{' := by
        have toList_eq : (tokenText (String.ofList body)).toList =
            opening ++ body ++ closing := by
          simp [tokenText]
        rw [toList_eq, List.getLast?_append]
        exact ⟨.of_token unended, by simp [closing]⟩
      have split : String.ofList
          (before ++ opening ++ body ++ closing ++ rest) =
            String.ofList before ++
              (tokenText (String.ofList body) ++ String.ofList rest) := by
        rw [← String.toList_inj]
        simp [tokenText]
      rw [split, substitutes.append _ _ front.1 front.2,
        substitutes.append _ _ middle.1 middle.2, substitutes.token _ inside,
        substitutes.unopened _ plain, others.append _ _ front.1 front.2,
        others.append _ _ middle.1 middle.2, others.token _ inside,
        others.unopened _ plain, ih]

/-- Resolving is the one function that substitutes for tokens: it obeys the
laws, and they leave no choice on any text. -/
theorem substitutes_iff (bindings : Variables)
    (function : String → String) :
    Substitutes bindings function ↔ function = resolve bindings := by
  constructor
  · intro substitutes
    funext text
    rw [← String.ofList_toList (s := text)]
    exact substitutes.eq_of_layout (substitutes_resolve bindings)
      (layout_scan text.toList)
  · rintro rfl
    exact substitutes_resolve bindings

end Runbook.Template

/-! ## The variables that a template names -/

namespace Runbook.Template

/-- A text has a token. -/
def HasToken (text body : List Char) : Prop :=
  ∃ parts, Layout text parts ∧ .token body ∈ parts

/-- The variables that a reference reads: its root, and those that hold the
positions in its path. -/
def Reference.Reads (reference : Reference) (name : String) : Prop :=
  name = reference.root ∨ .indexFrom name ∈ reference.path

/-- A variable is named in a template: a reference in one of its tokens reads
it. -/
def Mentions (text name : String) : Prop :=
  ∃ body reference, HasToken text.toList body ∧
    Reference.read? (String.ofList body) = some reference ∧
    reference.Reads name

theorem hasToken_iff {text body : List Char} :
    HasToken text body ↔ .token body ∈ scan text := by
  constructor
  · rintro ⟨parts, layout, member⟩
    rwa [layout.scan_eq]
  · exact fun member => ⟨_, layout_scan text, member⟩

section Agreement

variable {first second : Variables}

/-- A path is the same one if it takes its positions from the same texts. -/
theorem walk?_congr {path : List Segment}
    (agree : ∀ name, .indexFrom name ∈ path →
      first.get? name = second.get? name) (value : Json) :
    path.foldlM (Segment.walk? first) value =
      path.foldlM (Segment.walk? second) value := by
  induction path generalizing value with
  | nil => rfl
  | cons segment path ih =>
      have here : Segment.walk? first value segment =
          Segment.walk? second value segment := by
        cases segment with
        | key name => rfl
        | index position => rfl
        | indexFrom name =>
            rw [Segment.walk?, Segment.walk?, agree name List.mem_cons_self]
      rw [List.foldlM_cons, List.foldlM_cons, here]
      refine congrArg _ (funext fun next => ?_)
      exact ih (fun name member => agree name (List.mem_cons_of_mem _ member))
        next

theorem Reference.lookup?_congr {reference : Reference}
    (agree : ∀ name, reference.Reads name →
      first.get? name = second.get? name) :
    reference.lookup? first = reference.lookup? second := by
  obtain ⟨root, path, escape⟩ := reference
  rw [Reference.lookup?, Reference.lookup?, agree root (.inl rfl)]
  cases path with
  | nil => rfl
  | cons segment path =>
      dsimp only
      simp only [walk?_congr fun name member => agree name (.inr member)]

/-- The parts of a template do not depend on variables that it does not
name. -/
theorem Part.resolve_congr {text : String} {part : Part}
    (agree : ∀ name, Mentions text name → first.get? name = second.get? name)
    (member : part ∈ scan text.toList) :
    part.resolve first = part.resolve second := by
  cases part with
  | plain character => rfl
  | unclosed rest => rfl
  | token body =>
      have token : HasToken text.toList body := hasToken_iff.2 member
      simp only [Part.resolve]
      cases reads : Reference.read? (String.ofList body) with
      | none => rfl
      | some reference =>
          have same := Reference.lookup?_congr fun name readsName =>
            agree name ⟨body, reference, token, reads, readsName⟩
          dsimp only
          rw [Reference.replacement, Reference.replacement, same]

end Agreement

/-- Two sets of variables that agree on the names in a template resolve it to
the same text, whatever else they hold and whatever their texts contain. -/
theorem resolve_eq_of_agree (text : String) {first second : Variables}
    (agree : ∀ name, Mentions text name →
      first.get? name = second.get? name) :
    resolve first text = resolve second text := by
  rw [resolve, resolve, resolveChars, resolveChars]
  refine congrArg _ (List.flatMap_congr fun part member => ?_)
  exact Part.resolve_congr agree member

/-- The item of a list at the position that another variable holds. -/
def chosenItem : String :=
  tokenText "x[i]"

/-- Variables for a list whose first item looks like a token. -/
def listed (hidden : String) : Variables :=
  .ofList [("x", "[\"\x7b\x7by\x7d\x7d\"]"), ("i", "0"), ("y", hidden)]

theorem mentions_chosenItem {name : String} (named : Mentions chosenItem name) :
    name = "x" ∨ name = "i" := by
  obtain ⟨body, reference, token, reads, readsName⟩ := named
  have parts : scan chosenItem.toList = [.token "x[i]".toList] := by
    decide +kernel
  rw [hasToken_iff, parts, List.mem_singleton, Part.token.injEq] at token
  have read : Reference.read? (String.ofList "x[i]".toList) =
      some ⟨"x", [.indexFrom "i"], false⟩ := by
    decide +kernel
  rw [token, read, Option.some.injEq] at reads
  subst reads
  simpa [Reference.Reads] using readsName

/-- The item is not taken for a token, and the variable that it seems to name
does not matter. -/
theorem resolve_eq_of_agree_chosenItem :
    (listed "one").get? "y" ≠ (listed "two").get? "y" ∧
      (∀ name, Mentions chosenItem name →
        (listed "one").get? name = (listed "two").get? name) ∧
      resolve (listed "one") chosenItem = tokenText "y" ∧
      resolve (listed "one") chosenItem =
        resolve (listed "two") chosenItem := by
  have agree : ∀ name, Mentions chosenItem name →
      (listed "one").get? name = (listed "two").get? name := by
    intro name named
    rcases mentions_chosenItem named with rfl | rfl <;> decide
  exact ⟨by decide, agree, by decide +kernel,
    resolve_eq_of_agree chosenItem agree⟩

end Runbook.Template
