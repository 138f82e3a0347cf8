import Runbook.Expression.Condition
import Runbook.Proofs.Number.IntText
import Runbook.Template.Resolve

/-!
# Expressions that count

What comes of the texts with which a workflow counts: a template that compares
a counter with another variable or adds one to it, and then the condition or
the arithmetic of the resolved text.
-/

namespace Runbook

/-! ### Templates -/

namespace Template

variable {bindings : Variables}

/-- There are no tokens in a text. -/
def IsTokenFree (text : List Char) : Prop :=
  ∀ body, .token body ∉ scan text

theorem resolveChars_of_isTokenFree {text : List Char}
    (tokenFree : IsTokenFree text) : resolveChars bindings text = text := by
  unfold IsTokenFree at tokenFree
  unfold resolveChars
  -- A token that is not closed stays as it is, with all that precedes it.
  refine @scan.induct
    (fun text => (∀ body, .token body ∉ scan text) →
      (scan text).flatMap (Part.resolve bindings) = text)
    (fun body text => (∀ other, .token other ∉ scanToken body text) →
      (scanToken body text).flatMap (Part.resolve bindings) =
        '{' :: '{' :: body.reverse ++ text)
    ?_ ?_ ?_ ?_ ?_ ?_ text tokenFree
  case refine_1 =>
    intro rest ih free
    rw [scan] at free ⊢
    simpa using ih free
  case refine_2 =>
    intro character rest different ih free
    rw [scan.eq_2 character rest different] at free ⊢
    rw [List.flatMap_cons, ih fun body member =>
      free body (List.mem_cons_of_mem _ member)]
    rfl
  case refine_3 => exact fun _ => rfl
  case refine_4 =>
    intro body rest _ free
    rw [scanToken] at free
    exact (free body.reverse List.mem_cons_self).elim
  case refine_5 =>
    intro body character rest different ih free
    rw [scanToken.eq_2 body character rest different] at free ⊢
    simpa using ih free
  case refine_6 =>
    intro body _
    simp [scanToken, Part.resolve]

theorem resolve_of_isTokenFree {text : String}
    (tokenFree : IsTokenFree text.toList) : resolve bindings text = text := by
  rw [resolve, resolveChars_of_isTokenFree tokenFree, String.ofList_toList]

theorem isTokenFree_of_noBrace {text : List Char} (noBrace : '{' ∉ text) :
    IsTokenFree text := by
  induction text with
  | nil => simp [IsTokenFree, scan]
  | cons character rest ih =>
      obtain ⟨different, others⟩ : character ≠ '{' ∧ '{' ∉ rest := by
        simpa [eq_comm] using noBrace
      intro body
      rw [scan.eq_2 character rest fun _ same => absurd same different]
      simpa using ih others body

@[simp]
theorem resolve_plain (character : Char) :
    Part.resolve bindings (.plain character) = [character] :=
  rfl

/-- The token of a variable stands for the text of the variable. -/
theorem resolve_variable {body : List Char} {name value : String}
    (reads : Reference.read? (String.ofList body) = some ⟨name, [], false⟩)
    (bound : bindings.get? name = some value) :
    Part.resolve bindings (.token body) = value.toList := by
  simp [Part.resolve, reads, Reference.replacement, Reference.lookup?, bound]

/-- Whether the counter is below the variable that limits it. -/
def belowLimit : String :=
  "\x7b\x7bi\x7d\x7d < \x7b\x7btimes\x7d\x7d"

/-- The counter and one. -/
def nextCount : String :=
  "\x7b\x7bi\x7d\x7d + 1"

theorem resolve_belowLimit {first second : String}
    (counter : bindings.get? "i" = some first)
    (limit : bindings.get? "times" = some second) :
    resolve bindings belowLimit = first ++ " < " ++ second := by
  have parts : scan belowLimit.toList = [.token "i".toList, .plain ' ',
      .plain '<', .plain ' ', .token "times".toList] := by
    decide +kernel
  have onLeft : Part.resolve bindings (.token "i".toList) = first.toList :=
    resolve_variable (by decide +kernel) counter
  have onRight :
      Part.resolve bindings (.token "times".toList) = second.toList :=
    resolve_variable (by decide +kernel) limit
  rw [resolve, resolveChars, parts, ← String.toList_inj]
  simp only [List.flatMap_cons, onLeft, onRight, resolve_plain]
  simp

theorem resolve_nextCount {value : String}
    (counter : bindings.get? "i" = some value) :
    resolve bindings nextCount = value ++ " + 1" := by
  have parts : scan nextCount.toList = [.token "i".toList, .plain ' ',
      .plain '+', .plain ' ', .plain '1'] := by
    decide +kernel
  have onLeft : Part.resolve bindings (.token "i".toList) = value.toList :=
    resolve_variable (by decide +kernel) counter
  rw [resolve, resolveChars, parts, ← String.toList_inj]
  simp only [List.flatMap_cons, onLeft, resolve_plain]
  simp

end Template

/-! ### Conditions -/

namespace Condition

variable {first second : Int}

/-- The characters that comparisons begin with. -/
def symbolStarts : List Char := ['=', '!', '<', '>', 'c']

theorem startOf?_eq_none {character : Char} {rest : List Char}
    (noStart : character ∉ symbolStarts) :
    Operator.startOf? (character :: rest) = none := by
  simp only [symbolStarts, List.mem_cons, List.not_mem_nil, or_false,
    not_or] at noStart
  obtain ⟨noEqual, noBang, noLess, noGreater, noC⟩ := noStart
  simp [Operator.startOf?, Operator.all, Operator.symbol, Ne.symm, *]

theorem cut?_append {before rest : List Char}
    (noStart : ∀ character ∈ before, character ∉ symbolStarts) :
    cut? (before ++ rest) =
      (cut? rest).map fun cut => (before ++ cut.1, cut.2) := by
  induction before with
  | nil => simp
  | cons character before ih =>
      have here := noStart character List.mem_cons_self
      have later : ∀ character ∈ before, character ∉ symbolStarts :=
        fun other member => noStart other (List.mem_cons_of_mem _ member)
      rw [List.cons_append, cut?, startOf?_eq_none here]
      dsimp only
      rw [ih later]
      cases cut? rest <;> rfl

theorem isEnclosed_intText {quote : Char} (noSign : quote ≠ '-')
    (noDigit : quote.isDigit = false) :
    isEnclosed quote (Decimal.intText first).toList = false := by
  rw [Bool.eq_false_iff]
  intro enclosed
  simp only [isEnclosed, Bool.and_eq_true, beq_iff_eq] at enclosed
  obtain ⟨⟨-, begins⟩, -⟩ := enclosed
  exact Reading.not_mem_intText noSign noDigit (List.mem_of_mem_head? begins)

theorem operand_intText {before after : List Char}
    (blanksBefore : ∀ character ∈ before, Text.isBlank character = true)
    (blanksAfter : ∀ character ∈ after, Text.isBlank character = true) :
    operand (before ++ (Decimal.intText first).toList ++ after) =
      Decimal.intText first := by
  rw [operand, Reading.trimBoth_intText blanksBefore blanksAfter, unquote,
    isEnclosed_intText (by decide) (by decide),
    isEnclosed_intText (by decide) (by decide)]
  exact String.ofList_toList

theorem split?_less :
    split? (Decimal.intText first ++ " < " ++ Decimal.intText second) =
      some ⟨Decimal.intText first, .less, Decimal.intText second⟩ := by
  let left := (Decimal.intText first).toList
  let right := (Decimal.intText second).toList
  have text_eq : (Decimal.intText first ++ " < " ++
      Decimal.intText second).toList =
        (left ++ [' ']) ++ ('<' :: ' ' :: right) := by
    simp [left, right]
  have ordinary : ∀ character ∈ symbolStarts,
      character ≠ '-' ∧ character.isDigit = false ∧ character ≠ ' ' := by
    simp [symbolStarts, Char.isDigit]
  have noStart : ∀ character ∈ left ++ [' '], character ∉ symbolStarts := by
    intro character member isStart
    obtain ⟨noSign, noDigit, noBlank⟩ := ordinary character isStart
    rcases List.mem_append.1 member with inLeft | isBlank
    · exact Reading.not_mem_intText noSign noDigit inLeft
    · exact noBlank (List.mem_singleton.1 isBlank)
  have symbol : cut? ('<' :: ' ' :: right) =
      some ([], .less, ' ' :: right) := rfl
  have isBlank : ∀ character ∈ [' '], Text.isBlank character = true := by
    simp [Text.isBlank]
  have onLeft := @operand_intText first [] [' '] (by simp) isBlank
  have onRight := @operand_intText second [' '] [] isBlank (by simp)
  rw [List.nil_append] at onLeft
  rw [List.append_nil, List.singleton_append] at onRight
  rw [split?, text_eq, cut?_append noStart, symbol]
  simp [onLeft, onRight, left, right]

theorem number?_intText (small : first.natAbs ≤ Binary64.exactLimit) :
    ∃ number : Binary64, number? (Decimal.intText first) = some number ∧
      number.EqualsInt first := by
  have equals :=
    @Reading.equalsInt_ofDecimal _ (decide (first < 0)) small
  rw [Binary64.signed_natAbs] at equals
  refine ⟨_, ?_, equals⟩
  have trimmed := @Reading.trimBoth_intText [] [] (by simp) (by simp) first
  rw [List.nil_append, List.append_nil] at trimmed
  rw [number?, trimmed, Reading.decimal?_intText, Option.filter_some,
    if_pos equals.isFinite]

theorem holds_less (small : first.natAbs ≤ Binary64.exactLimit)
    (smallToo : second.natAbs ≤ Binary64.exactLimit) :
    holds ⟨Decimal.intText first, .less, Decimal.intText second⟩ =
      decide (first < second) := by
  obtain ⟨left, isLeft, equals⟩ := number?_intText small
  obtain ⟨right, isRight, equalsToo⟩ := number?_intText smallToo
  simp only [holds, order, isLeft, isRight, equals.compare? equalsToo,
    Operator.accepts]
  rw [Bool.eq_iff_iff, beq_iff_eq, compare_lt_iff_lt, decide_eq_true_iff]

/-- Two texts of integers are compared as the integers are. -/
theorem evaluate_less (small : first.natAbs ≤ Binary64.exactLimit)
    (smallToo : second.natAbs ≤ Binary64.exactLimit) :
    evaluate (Decimal.intText first ++ " < " ++ Decimal.intText second) =
      decide (first < second) := by
  rw [evaluate, split?_less]
  exact holds_less small smallToo

end Condition

/-! ### Arithmetic -/

namespace Arithmetic

theorem readOperand?_intText {rest : List Char}
    (noDigit : ∀ character ∈ rest.head?, character.isDigit = false)
    (noPoint : ∀ others, rest ≠ '.' :: others) (value : Int) :
    readOperand? ((Decimal.intText value).toList ++ rest) =
      some (Binary64.ofDecimal (decide (value < 0)) value.natAbs 0, rest) := by
  have runs := @Reading.digitRun_digits (Nat.toDigits 10 value.natAbs) rest
    Reading.isDigit_toDigits noDigit
  have splits : numeral (Nat.toDigits 10 value.natAbs ++ rest) =
      (Nat.toDigits 10 value.natAbs, [], rest) := by
    unfold numeral
    rw [runs]
    dsimp only
    split
    · exact absurd rfl (noPoint _)
    · rfl
  simp only [readOperand?, Reading.trimLeft_intText, Reading.sign_intText,
    splits]
  simp [Reading.digitsValue_toDigits]

theorem read?_succ (value : Int) :
    Chain.read? (Decimal.intText value ++ " + 1").toList =
      some ⟨Binary64.ofDecimal (decide (value < 0)) value.natAbs 0,
        [(.plus, Binary64.ofDecimal false 1 0)]⟩ := by
  have first := @readOperand?_intText " + 1".toList (by simp) (by simp) value
  have others : readSteps? " + 1".toList =
      some [(.plus, Binary64.ofDecimal false 1 0)] := by
    decide +kernel
  rw [String.toList_append, Chain.read?, first]
  simp only [Option.bind_eq_bind, Option.bind_some]
  rw [others]
  rfl

/-- Adding one to the text of an integer gives the text of the next one. -/
theorem assigned_succ {value : Int}
    (small : value.natAbs ≤ Binary64.exactLimit)
    (smallToo : (value + 1).natAbs ≤ Binary64.exactLimit) :
    assigned (Decimal.intText value ++ " + 1") =
      Decimal.intText (value + 1) := by
  have left := @Reading.equalsInt_ofDecimal _ (decide (value < 0)) small
  have right := @Reading.equalsInt_ofDecimal 1 false (by decide)
  rw [Binary64.signed_natAbs] at left
  have sum := Binary64.equalsInt_add left right smallToo
  rw [assigned, evaluate?, read?_succ]
  simp only [Option.bind_some, Chain.value?, List.foldlM_cons,
    List.foldlM_nil, Operator.combine?, Option.bind_eq_bind, Option.pure_def]
  rw [resultText?_of_equalsInt sum smallToo, Option.getD_some]
  rfl

end Arithmetic

end Runbook
