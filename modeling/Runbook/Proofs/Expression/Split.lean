import Runbook.Expression.Condition
import Runbook.Proofs.Number.IntText

/-!
# Splitting and comparing conditions

A condition is split at the leftmost place where the symbol of a comparison
begins, and there the longest symbol is taken.  Hence a comparison that is
written between blanks is found again with its operands, whatever stands right
of it, if there is no symbol in the left operand.

Two operands always have an order: that of their numbers, or that of their
texts.  The order turns round when the operands are exchanged, and each
comparison only looks at it.  So of two operands either the first one is less,
or they are equal, or it is greater, and the other comparisons agree with this.
-/

namespace Runbook

namespace Condition

/-! ### Symbols -/

/-- No comparison has its symbol in a text. -/
def HasNoSymbol (text : List Char) : Prop :=
  ∀ operator : Operator, ¬ operator.symbol <:+: text

theorem Operator.mem_all (operator : Operator) : operator ∈ Operator.all := by
  cases operator <;> decide

theorem Operator.symbol_injective {first second : Operator}
    (same : first.symbol = second.symbol) : first = second := by
  cases first <;> cases second <;> first | rfl | cases same

theorem Operator.blank_not_mem_symbol (operator : Operator) :
    ' ' ∉ operator.symbol := by
  cases operator <;> decide

/-- Only `<` and `>` begin a longer symbol. -/
theorem Operator.longer_cases {shorter longer : Operator}
    (begins : shorter.symbol <+: longer.symbol)
    (less : shorter.symbol.length < longer.symbol.length) :
    shorter = .less ∧ longer = .lessOrEqual ∨
      shorter = .greater ∧ longer = .greaterOrEqual := by
  revert begins less
  cases shorter <;> cases longer <;> decide

variable {text before after : List Char} {operator : Operator}

/-- The longest symbol is taken among those with which a text begins. -/
structure Operator.Starts (operator : Operator) (text : List Char) : Prop where
  begins : operator.symbol <+: text
  longest : ∀ other : Operator, other.symbol <+: text →
    other.symbol.length ≤ operator.symbol.length

theorem Operator.Starts.unique {other : Operator}
    (starts : operator.Starts text) (startsToo : other.Starts text) :
    operator = other := by
  apply Operator.symbol_injective
  apply (List.prefix_of_prefix_length_le starts.begins startsToo.begins
    (startsToo.longest operator starts.begins)).eq_of_length_le
  exact starts.longest other startsToo.begins

theorem Operator.startOf?_eq_none_iff :
    Operator.startOf? text = none ↔
      ∀ operator : Operator, ¬ operator.symbol <+: text := by
  rw [Operator.startOf?, List.find?_eq_none]
  constructor
  · intro none operator begins
    exact none operator operator.mem_all (List.isPrefixOf_iff_prefix.2 begins)
  · intro none operator _ begins
    exact none operator (List.isPrefixOf_iff_prefix.1 begins)

theorem Operator.starts_of_startOf?
    (found : Operator.startOf? text = some operator) :
    operator.Starts text := by
  have taken : operator.symbol.isPrefixOf text = true :=
    (List.find?_eq_some_iff_append.1 found).1
  have begins := List.isPrefixOf_iff_prefix.1 taken
  refine ⟨begins, fun other beginsToo => Nat.le_of_not_lt fun less => ?_⟩
  -- A longer symbol would have been found first.
  have isPrefix := List.prefix_of_prefix_length_le begins beginsToo
    (Nat.le_of_lt less)
  rw [← List.isPrefixOf_iff_prefix] at beginsToo
  rcases Operator.longer_cases isPrefix less with ⟨rfl, rfl⟩ | ⟨rfl, rfl⟩
  all_goals
    simp only [Operator.startOf?, Operator.all, List.find?_cons,
      beginsToo] at found
    grind

/-! ### Where a text is cut -/

/-- A text is cut around a symbol: none begins before it, and no longer one
begins where it does. -/
structure CutsAt (text before : List Char) (operator : Operator)
    (after : List Char) : Prop where
  text_eq : text = before ++ operator.symbol ++ after
  leftmost : ∀ position < before.length, ∀ other : Operator,
    ¬ other.symbol <+: text.drop position
  longest : ∀ other : Operator, other.symbol <+: text.drop before.length →
    other.symbol.length ≤ operator.symbol.length

/-- A symbol stands in a text if it begins at a position of it. -/
theorem hasNoSymbol_iff :
    HasNoSymbol text ↔ ∀ (position : Nat) (operator : Operator),
      ¬ operator.symbol <+: text.drop position := by
  constructor
  · intro none position operator begins
    exact none operator (begins.isInfix.trans (List.drop_suffix _ _).isInfix)
  · rintro none operator ⟨earlier, later, rfl⟩
    exact none earlier.length operator ⟨later, by simp⟩

theorem hasNoSymbol_cons {character : Char} :
    HasNoSymbol (character :: text) ↔
      Operator.startOf? (character :: text) = none ∧ HasNoSymbol text := by
  rw [Operator.startOf?_eq_none_iff, hasNoSymbol_iff, hasNoSymbol_iff]
  constructor
  · intro none
    exact ⟨none 0, fun position => none (position + 1)⟩
  · rintro ⟨here, later⟩ position
    cases position with
    | zero => exact here
    | succ position => exact later position

theorem cut?_eq_none_iff : cut? text = none ↔ HasNoSymbol text := by
  induction text with
  | nil =>
      refine iff_of_true rfl fun operator inside => ?_
      have empty := List.infix_nil.1 inside
      cases operator <;> cases empty
  | cons character text ih =>
      rw [cut?, hasNoSymbol_cons, ← ih]
      cases Operator.startOf? (character :: text) <;> simp

theorem cutsAt_of_cut? (cut : cut? text = some (before, operator, after)) :
    CutsAt text before operator after := by
  induction text generalizing before with
  | nil => cases cut
  | cons character text ih =>
      rw [cut?] at cut
      cases starts : Operator.startOf? (character :: text) with
      | some other =>
          rw [starts] at cut
          cases cut
          have taken := Operator.starts_of_startOf? starts
          obtain ⟨rest, same⟩ := taken.begins
          refine ⟨?_, fun position less => (Nat.not_lt_zero _ less).elim,
            taken.longest⟩
          rw [← same, List.drop_left, List.nil_append]
      | none =>
          rw [starts] at cut
          obtain ⟨⟨before, other, rest⟩, cutLater, same⟩ :=
            Option.map_eq_some_iff.1 cut
          cases same
          obtain ⟨text_eq, leftmost, longest⟩ := ih cutLater
          refine ⟨congrArg (character :: ·) text_eq, ?_, longest⟩
          intro position less
          cases position with
          | zero => exact Operator.startOf?_eq_none_iff.1 starts
          | succ position =>
              exact leftmost position (Nat.lt_of_succ_lt_succ less)

theorem CutsAt.begins (cuts : CutsAt text before operator after) :
    operator.symbol <+: text.drop before.length :=
  ⟨after, by simp [cuts.text_eq]⟩

/-- There is only one place to cut a text. -/
theorem CutsAt.unique {beforeToo afterToo : List Char} {other : Operator}
    (cuts : CutsAt text before operator after)
    (cutsToo : CutsAt text beforeToo other afterToo) :
    before = beforeToo ∧ operator = other ∧ after = afterToo := by
  have length_eq : before.length = beforeToo.length := by
    apply Nat.le_antisymm <;> apply Nat.le_of_not_lt <;> intro less
    · exact cuts.leftmost _ less other cutsToo.begins
    · exact cutsToo.leftmost _ less operator cuts.begins
  have starts : operator.Starts (text.drop before.length) :=
    ⟨cuts.begins, cuts.longest⟩
  have startsToo : other.Starts (text.drop before.length) := by
    rw [length_eq]
    exact ⟨cutsToo.begins, cutsToo.longest⟩
  obtain rfl := starts.unique startsToo
  have same := cuts.text_eq.symm.trans cutsToo.text_eq
  rw [List.append_assoc, List.append_assoc] at same
  obtain ⟨rfl, rest⟩ := List.append_inj same length_eq
  exact ⟨rfl, rfl, List.append_cancel_left rest⟩

theorem cut?_eq_some_iff :
    cut? text = some (before, operator, after) ↔
      CutsAt text before operator after := by
  refine ⟨cutsAt_of_cut?, fun cuts => ?_⟩
  cases cut : cut? text with
  | none =>
      exact absurd cuts.begins
        (hasNoSymbol_iff.1 (cut?_eq_none_iff.1 cut) _ operator)
  | some found =>
      obtain ⟨rfl, rfl, rfl⟩ := (cutsAt_of_cut? cut).unique cuts
      rfl

/-! ### Operands -/

/-- A text without the blanks around it. -/
structure Trims (text core : List Char) : Prop where
  exists_blanks : ∃ before after, text = before ++ core ++ after ∧
    (∀ character ∈ before ++ after, Text.isBlank character = true)
  begins : ∀ character ∈ core.head?, Text.isBlank character = false
  ends : ∀ character ∈ core.getLast?, Text.isBlank character = false

/-- A text without one pair of double or of single quotes around it, if there
is one. -/
inductive Unquotes : List Char → List Char → Prop
  | quoted {quote : Char} (isQuote : quote = '"' ∨ quote = '\'')
      (inner : List Char) : Unquotes (quote :: (inner ++ [quote])) inner
  | plain {text : List Char}
      (unquoted : ∀ quote inner, quote = '"' ∨ quote = '\'' →
        text ≠ quote :: (inner ++ [quote])) : Unquotes text text

theorem begins_dropWhile (text : List Char) :
    ∀ character ∈ (text.dropWhile Text.isBlank).head?,
      Text.isBlank character = false := by
  intro character member
  have nonempty : text.dropWhile Text.isBlank ≠ [] := by
    intro empty
    rw [empty] at member
    cases member
  rw [List.head?_eq_some_head nonempty] at member
  obtain rfl := Option.some.inj member
  exact List.head_dropWhile_not Text.isBlank nonempty

theorem trims_trimBoth (text : List Char) :
    Trims text (Text.trimBoth text) := by
  let trimmed := Text.trimLeft text
  let blanksAfter := (trimmed.reverse.takeWhile Text.isBlank).reverse
  have onLeft : text.takeWhile Text.isBlank ++ trimmed = text :=
    List.takeWhile_append_dropWhile
  have onRight : Text.trimBoth text ++ blanksAfter = trimmed := by
    rw [Text.trimBoth, Text.trimRight, ← List.reverse_append,
      List.takeWhile_append_dropWhile, List.reverse_reverse]
  refine ⟨⟨text.takeWhile Text.isBlank, blanksAfter, ?_, ?_⟩, ?_, ?_⟩
  · rw [List.append_assoc, onRight, onLeft]
  · intro character member
    rcases List.mem_append.1 member with inside | inside
    · exact List.mem_takeWhile_imp inside
    · exact List.mem_takeWhile_imp (List.mem_reverse.1 inside)
  · intro character member
    refine begins_dropWhile text character ?_
    change character ∈ trimmed.head?
    rw [← onRight, List.head?_append, Option.mem_def,
      Option.mem_def.1 member, Option.some_or]
  · intro character member
    rw [Text.trimBoth, Text.trimRight, List.getLast?_reverse] at member
    exact begins_dropWhile _ character member

theorem trimBoth_eq_iff {core : List Char} :
    Text.trimBoth text = core ↔ Trims text core := by
  refine ⟨fun | rfl => trims_trimBoth text, fun trims => ?_⟩
  obtain ⟨before, after, rfl, blank⟩ := trims.exists_blanks
  rw [List.forall_mem_append] at blank
  exact Text.trimBoth_append blank.1 blank.2 trims.begins trims.ends

theorem isEnclosed_iff {quote : Char} :
    isEnclosed quote text = true ↔
      ∃ inner, text = quote :: (inner ++ [quote]) := by
  simp only [isEnclosed, Bool.and_eq_true, decide_eq_true_eq, beq_iff_eq]
  constructor
  · rintro ⟨⟨long, begins⟩, ends⟩
    cases text with
    | nil => cases begins
    | cons character rest =>
        obtain rfl := Option.some.inj begins
        obtain ⟨inner, last, rfl⟩ : ∃ inner last, rest = inner ++ [last] := by
          rcases List.eq_nil_or_concat rest with rfl | ⟨inner, last, same⟩
          · simp at long
          · exact ⟨inner, last, same.trans List.concat_eq_append⟩
        rw [← List.cons_append, List.getLast?_concat] at ends
        exact ⟨inner, by rw [Option.some.inj ends]⟩
  · rintro ⟨inner, rfl⟩
    refine ⟨⟨by simp, rfl⟩, ?_⟩
    rw [← List.cons_append, List.getLast?_concat]

theorem unquotes_unquote (text : List Char) :
    Unquotes text (unquote text) := by
  unfold unquote
  split
  · rename_i enclosed
    obtain ⟨quote, isQuote, inner, rfl⟩ : ∃ quote,
        (quote = '"' ∨ quote = '\'') ∧
          ∃ inner, text = quote :: (inner ++ [quote]) := by
      rw [Bool.or_eq_true, isEnclosed_iff, isEnclosed_iff] at enclosed
      rcases enclosed with enclosed | enclosed
      · exact ⟨_, .inl rfl, enclosed⟩
      · exact ⟨_, .inr rfl, enclosed⟩
    rw [List.tail_cons, List.dropLast_concat]
    exact .quoted isQuote inner
  · rename_i bare
    rw [Bool.or_eq_true, isEnclosed_iff, isEnclosed_iff, not_or] at bare
    refine .plain ?_
    rintro quote inner (rfl | rfl) rfl
    · exact bare.1 ⟨inner, rfl⟩
    · exact bare.2 ⟨inner, rfl⟩

theorem Unquotes.unique {first second : List Char}
    (unquotes : Unquotes text first) (unquotesToo : Unquotes text second) :
    first = second := by
  cases unquotes with
  | quoted isQuote inner =>
      generalize same : _ :: (first ++ [_]) = quoted at unquotesToo
      cases unquotesToo with
      | quoted isQuoteToo innerToo =>
          obtain ⟨rfl, rest⟩ := List.cons.inj same
          exact List.append_cancel_right rest
      | plain unquoted => exact absurd same.symm (unquoted _ _ isQuote)
  | plain unquoted =>
      cases unquotesToo with
      | quoted isQuote inner => exact absurd rfl (unquoted _ _ isQuote)
      | plain unquotedToo => rfl

/-- An operand is written in a text: with blanks around it, and with or without
quotes. -/
def IsOperand (text : List Char) (value : String) : Prop :=
  ∃ core, Trims text core ∧ Unquotes core value.toList

theorem operand_eq_iff {value : String} :
    operand text = value ↔ IsOperand text value := by
  constructor
  · rintro rfl
    refine ⟨_, trims_trimBoth text, ?_⟩
    rw [operand, String.toList_ofList]
    exact unquotes_unquote _
  · rintro ⟨core, trims, unquotes⟩
    rw [operand, trimBoth_eq_iff.2 trims,
      (unquotes_unquote core).unique unquotes, String.ofList_toList]

/-- Blanks around a text do not change its operand. -/
theorem operand_append {blanks blanksAfter : List Char}
    (blank : ∀ character ∈ blanks ++ blanksAfter,
      Text.isBlank character = true) :
    operand (blanks ++ text ++ blanksAfter) = operand text := by
  obtain ⟨core, trims, unquotes⟩ := operand_eq_iff.1 (rfl : operand text = _)
  refine operand_eq_iff.2 ⟨core, ⟨?_, trims.begins, trims.ends⟩, unquotes⟩
  obtain ⟨before, after, rfl, blankToo⟩ := trims.exists_blanks
  refine ⟨blanks ++ before, after ++ blanksAfter, by simp, ?_⟩
  intro character member
  simp only [List.mem_append] at member blank blankToo
  grind

/-! ### Written comparisons -/

/-- The text of a comparison, with blanks around its symbol. -/
def written (left : String) (operator : Operator) (right : String) : String :=
  left ++ " " ++ String.ofList operator.symbol ++ " " ++ right

/-- What has no blank in it ends before a blank. -/
theorem prefix_of_prefix_blank {piece rest : List Char} (noBlank : ' ' ∉ piece)
    (begins : piece <+: text ++ ' ' :: rest) : piece <+: text := by
  rcases List.prefix_or_prefix_of_prefix begins
    (List.prefix_append text (' ' :: rest)) with within | ⟨more, rfl⟩
  · exact within
  · rw [List.prefix_append_right_inj] at begins
    cases more with
    | nil => simp
    | cons character others =>
        obtain rfl := (List.cons_prefix_cons.1 begins).1
        exact absurd (by simp) noBlank

theorem cutsAt_written {left : List Char} (noSymbol : HasNoSymbol left)
    (operator : Operator) (right : List Char) :
    CutsAt (left ++ ' ' :: (operator.symbol ++ ' ' :: right)) (left ++ [' '])
      operator (' ' :: right) := by
  refine ⟨by simp, ?_, ?_⟩
  · intro position less other begins
    rw [List.length_append, List.length_singleton,
      Nat.lt_succ_iff] at less
    rw [List.drop_append_of_le_length less] at begins
    exact hasNoSymbol_iff.1 noSymbol position other
      (prefix_of_prefix_blank other.blank_not_mem_symbol begins)
  · intro other begins
    have dropped : (left ++ ' ' :: (operator.symbol ++ ' ' :: right)).drop
        (left ++ [' ']).length = operator.symbol ++ ' ' :: right := by
      simp
    rw [dropped] at begins
    exact (prefix_of_prefix_blank other.blank_not_mem_symbol
      begins).length_le

theorem split?_written {left : String} (noSymbol : HasNoSymbol left.toList)
    (operator : Operator) (right : String) :
    split? (written left operator right) =
      some ⟨operand left.toList, operator, operand right.toList⟩ := by
  have text_eq : (written left operator right).toList =
      left.toList ++ ' ' :: (operator.symbol ++ ' ' :: right.toList) := by
    simp [written]
  have onLeft := @operand_append left.toList [] [' '] (by simp [Text.isBlank])
  have onRight := @operand_append right.toList [' '] [] (by simp [Text.isBlank])
  rw [List.nil_append] at onLeft
  rw [List.append_nil, List.singleton_append] at onRight
  rw [split?, text_eq, cut?_eq_some_iff.2 (cutsAt_written noSymbol _ _),
    Option.map_some]
  dsimp only
  rw [onLeft, onRight]

/-- A comparison that is written between blanks is found with its operands, if
there is no symbol left of it.  A text has no comparison exactly if it has no
symbol, and otherwise it is split around the longest symbol at the leftmost
place where one begins. -/
theorem split?_finds_comparison :
    (∀ (left right : String) (operator : Operator),
      HasNoSymbol left.toList →
      ∃ condition, split? (written left operator right) = some condition ∧
        condition.operator = operator ∧
        IsOperand left.toList condition.left ∧
        IsOperand right.toList condition.right) ∧
      (∀ text : String, split? text = none ↔ HasNoSymbol text.toList) ∧
      ∀ (text : String) (condition : Condition),
        split? text = some condition ↔ ∃ before after,
          CutsAt text.toList before condition.operator after ∧
          IsOperand before condition.left ∧
          IsOperand after condition.right := by
  refine ⟨?_, ?_, ?_⟩
  · intro left right operator noSymbol
    exact ⟨_, split?_written noSymbol operator right, rfl,
      operand_eq_iff.1 rfl, operand_eq_iff.1 rfl⟩
  · intro text
    rw [split?, Option.map_eq_none_iff, cut?_eq_none_iff]
  · rintro text ⟨left, operator, right⟩
    rw [split?, Option.map_eq_some_iff]
    constructor
    · rintro ⟨⟨before, other, after⟩, cut, same⟩
      cases same
      exact ⟨before, after, cut?_eq_some_iff.1 cut, operand_eq_iff.1 rfl,
        operand_eq_iff.1 rfl⟩
    · rintro ⟨before, after, cuts, isLeft, isRight⟩
      refine ⟨_, cut?_eq_some_iff.2 cuts, ?_⟩
      dsimp only
      rw [operand_eq_iff.2 isLeft, operand_eq_iff.2 isRight]

theorem split?_finds_comparison_quoted :
    HasNoSymbol "'é contain' ".toList ∧
      (∃ condition,
        split? (written "'é contain' " .less "= contains") = some condition ∧
        condition.operator = .less ∧
        IsOperand "'é contain' ".toList condition.left ∧
        IsOperand "= contains".toList condition.right) ∧
      split? (written "'é contain' " .less "= contains") =
        some ⟨"é contain", .less, "= contains"⟩ := by
  obtain ⟨found, none, some_⟩ := split?_finds_comparison
  have noSymbol : HasNoSymbol "'é contain' ".toList :=
    (none _).1 (by decide +kernel)
  exact ⟨noSymbol, found _ _ .less noSymbol, by decide +kernel⟩

end Condition

end Runbook

/-! ## Consistent comparisons -/

namespace Runbook

/-- Numbers that are exchanged are ordered the other way. -/
theorem Binary64.compare?_swap (left right : Binary64) :
    right.compare? left = (left.compare? right).map Ordering.swap := by
  cases left with
  | nan => cases right <;> rfl
  | infinite negative =>
      cases right with
      | nan => rfl
      | infinite other => cases negative <;> cases other <;> rfl
      | finite other mantissa exponent canonical => cases negative <;> rfl
  | finite negative mantissa exponent canonical =>
      cases right with
      | nan => rfl
      | infinite other => cases other <;> rfl
      | finite other mantissaToo exponentToo canonicalToo =>
          rw [compare?, compare?, Int.min_comm, Option.map_some,
            Std.OrientedOrd.eq_swap]

/-- Finite numbers have an order. -/
theorem Binary64.exists_compare? {left right : Binary64}
    (leftFinite : left.isFinite = true)
    (rightFinite : right.isFinite = true) :
    ∃ found, left.compare? right = some found := by
  cases left with
  | finite negative mantissa exponent canonical =>
      cases right with
      | finite other mantissaToo exponentToo canonicalToo => exact ⟨_, rfl⟩
      | _ => cases rightFinite
  | _ => cases leftFinite

namespace Condition

/-- The comparison that accepts one order only. -/
def Operator.naming : Ordering → Operator
  | .lt => .less
  | .eq => .equal
  | .gt => .greater

theorem Operator.naming_mem (found : Ordering) :
    naming found ∈ [Operator.less, .equal, .greater] := by
  cases found <;> decide

theorem Operator.accepts_iff {operator : Operator}
    (among : operator ∈ [Operator.less, .equal, .greater])
    (found : Ordering) :
    operator.accepts found = true ↔ operator = naming found := by
  simp only [List.mem_cons, List.not_mem_nil, or_false] at among
  rcases among with rfl | rfl | rfl <;> cases found <;> decide

theorem isFinite_of_number? {text : String} {number : Binary64}
    (isNumber : number? text = some number) : number.isFinite = true :=
  (Option.filter_eq_some_iff.1 isNumber).2

/-- Any two operands have an order, and exchanging them turns it round. -/
theorem exists_order (left right : String) :
    ∃ found, order left right = some found ∧
      order right left = some found.swap := by
  unfold order
  cases isLeft : number? left with
  | none =>
      cases number? right <;>
        exact ⟨_, rfl, by rw [Std.OrientedOrd.eq_swap]⟩
  | some leftNumber =>
      cases isRight : number? right with
      | none => exact ⟨_, rfl, by rw [Std.OrientedOrd.eq_swap]⟩
      | some rightNumber =>
          obtain ⟨found, ordered⟩ := Binary64.exists_compare?
            (isFinite_of_number? isLeft) (isFinite_of_number? isRight)
          refine ⟨found, ordered, ?_⟩
          dsimp only
          rw [Binary64.compare?_swap, ordered, Option.map_some]

/-- A written comparison accepts the order of its operands, or does not. -/
theorem evaluate_written {left right : String} {operator : Operator}
    {found : Ordering} (noSymbol : HasNoSymbol left.toList)
    (ordered : order (operand left.toList) (operand right.toList) = some found)
    (compares : operator ≠ .contains) :
    evaluate (written left operator right) = operator.accepts found := by
  rw [evaluate, split?_written noSymbol]
  cases operator with
  | contains => exact absurd rfl compares
  | _ =>
      dsimp only [holds]
      rw [ordered]

/-- The comparisons of two operands without symbols are consistent: exactly
one of less, equal and greater holds, the other three are their negations, and
exchanging the operands exchanges less and greater. -/
theorem comparisons_consistent {left right : String}
    (noSymbol : HasNoSymbol left.toList)
    (noSymbolToo : HasNoSymbol right.toList) :
    let holds (first : String) (operator : Operator) (second : String) : Bool :=
      evaluate (written first operator second)
    (∃! operator, operator ∈ [Operator.less, .equal, .greater] ∧
        holds left operator right = true) ∧
      holds left .notEqual right = !holds left .equal right ∧
      holds left .lessOrEqual right = !holds left .greater right ∧
      holds left .greaterOrEqual right = !holds left .less right ∧
      holds right .greater left = holds left .less right ∧
      holds right .less left = holds left .greater right ∧
      holds right .greaterOrEqual left = holds left .lessOrEqual right ∧
      holds right .lessOrEqual left = holds left .greaterOrEqual right ∧
      holds right .equal left = holds left .equal right ∧
      holds right .notEqual left = holds left .notEqual right := by
  obtain ⟨found, ordered, swapped⟩ :=
    exists_order (operand left.toList) (operand right.toList)
  have there {operator : Operator} (compares : operator ≠ .contains) :
      evaluate (written left operator right) = operator.accepts found :=
    evaluate_written noSymbol ordered compares
  have back {operator : Operator} (compares : operator ≠ .contains) :
      evaluate (written right operator left) = operator.accepts found.swap :=
    evaluate_written noSymbolToo swapped compares
  dsimp only
  refine ⟨?_, ?_⟩
  · have compares {operator : Operator}
        (among : operator ∈ [Operator.less, .equal, .greater]) :
        operator ≠ .contains := by
      rintro rfl
      simp at among
    refine ⟨.naming found, ⟨Operator.naming_mem found, ?_⟩, ?_⟩
    · have among := Operator.naming_mem found
      rw [there (compares among), Operator.accepts_iff among]
    · rintro operator ⟨among, accepted⟩
      rwa [there (compares among), Operator.accepts_iff among] at accepted
  · simp only [there, back, ne_eq, reduceCtorEq, not_false_eq_true]
    cases found <;> decide

theorem comparisons_consistent_infinite :
    HasNoSymbol "'1e999' ".toList ∧ HasNoSymbol "-0".toList ∧
      (evaluate (written "'1e999' " .notEqual "-0") =
        !evaluate (written "'1e999' " .equal "-0")) ∧
      evaluate (written "-0" .less "'1e999' ") =
        evaluate (written "'1e999' " .greater "-0") ∧
      evaluate (written "-0" .less "'1e999' ") = true := by
  have noSymbol (text : String) (uncut : cut? text.toList = none) :
      HasNoSymbol text.toList :=
    cut?_eq_none_iff.1 uncut
  have onLeft := noSymbol "'1e999' " (by decide +kernel)
  have onRight := noSymbol "-0" (by decide +kernel)
  obtain ⟨-, negated, -, -, -, exchanged, -⟩ :=
    comparisons_consistent onLeft onRight
  exact ⟨onLeft, onRight, negated, exchanged, by decide +kernel⟩

end Condition

end Runbook
