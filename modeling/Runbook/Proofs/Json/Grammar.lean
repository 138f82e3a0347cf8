import Mathlib.Data.List.Forall2
import Runbook.Json.Source

/-!
# The grammar of JSON

The lexemes of a tree are those of its parts between braces or brackets, with
colons after names and commas between items.  A list of lexemes is read as a
tree exactly if it is the list of the tree's own lexemes, so the reader accepts
this grammar and nothing else, and takes a text in one way only.
-/

namespace Runbook.Json.Source

mutual

/-- The lexemes with which a tree is written. -/
def tokens : Source → List Token
  | .null => [.null]
  | .bool value => [.bool value]
  | .number text => [.number text]
  | .string content => [.string content]
  | .array items => .openBracket :: itemTokens items ++ [.closeBracket]
  | .object members => .openBrace :: memberTokens members ++ [.closeBrace]

/-- The lexemes of the items of an array, with commas between them. -/
def itemTokens : List Source → List Token
  | [] => []
  | [item] => tokens item
  | item :: rest => tokens item ++ .comma :: itemTokens rest

/-- The lexemes of the members of an object, with commas between them. -/
def memberTokens : List (List Piece × Source) → List Token
  | [] => []
  | [(name, value)] => .string name :: .colon :: tokens value
  | (name, value) :: rest =>
    .string name :: .colon :: tokens value ++ .comma :: memberTokens rest

end

/-- What is written of an array before one more item. -/
def itemLead (items : List Source) : List Token :=
  if items.isEmpty then [] else itemTokens items ++ [.comma]

/-- What is written of an object before one more member. -/
def memberLead (members : List (List Piece × Source)) : List Token :=
  if members.isEmpty then [] else memberTokens members ++ [.comma]

theorem itemTokens_concat (items : List Source) (item : Source) :
    itemTokens (items ++ [item]) = itemLead items ++ item.tokens := by
  induction items with
  | nil => simp [itemTokens, itemLead]
  | cons first rest ih =>
      cases rest with
      | nil => simp [itemTokens, itemLead]
      | cons second rest =>
          simp only [List.cons_append, itemTokens, itemLead,
            List.isEmpty_cons, Bool.false_eq_true, if_false] at ih ⊢
          rw [ih]
          simp

theorem memberTokens_concat (members : List (List Piece × Source))
    (name : List Piece) (value : Source) :
    memberTokens (members ++ [(name, value)]) =
      memberLead members ++ .string name :: .colon :: value.tokens := by
  induction members with
  | nil => simp [memberTokens, memberLead]
  | cons first rest ih =>
      obtain ⟨firstName, firstValue⟩ := first
      cases rest with
      | nil => simp [memberTokens, memberLead]
      | cons second rest =>
          simp only [List.cons_append, memberTokens, memberLead,
            List.isEmpty_cons, Bool.false_eq_true, if_false] at ih ⊢
          rw [ih]
          simp

/-! ### The lexemes of a tree are read as the tree -/

/-- An open array takes a value as its next item, after some others. -/
inductive AwaitsItem : Frame → List Source → Prop
  | first : AwaitsItem .arrayOpened []
  | next (before : List Source) : AwaitsItem (.arrayComma before) before

/-- An open object takes a name as that of its next member, after some
others. -/
inductive AwaitsName : Frame → List (List Piece × Source) → Prop
  | first : AwaitsName .objectOpened []
  | next (before : List (List Piece × Source)) :
      AwaitsName (.objectComma before) before

variable {frame : Frame} {outer stack : List Frame} {before : List Source}

theorem AwaitsItem.expectsValue (awaits : AwaitsItem frame before) :
    expectsValue (frame :: outer) = true := by
  cases awaits <;> rfl

theorem AwaitsItem.deliver (awaits : AwaitsItem frame before) (item : Source) :
    deliver item (frame :: outer) =
      some (.inside (.arrayItem (item :: before) :: outer)) := by
  cases awaits <;> rfl

theorem foldlM_string (expects : expectsValue stack = true)
    (content : List Piece) :
    stepInside stack (.string content) = deliver (.string content) stack := by
  cases stack with
  | nil => rfl
  | cons frame outer => cases frame <;> first | rfl | cases expects

/-- The name of a member and its colon. -/
theorem foldlM_name {members : List (List Piece × Source)}
    (awaits : AwaitsName frame members) (name : List Piece)
    (rest : List Token) :
    (.string name :: .colon :: rest).foldlM step (.inside (frame :: outer)) =
      rest.foldlM step (.inside (.objectColon members name :: outer)) := by
  cases awaits <;> rfl

theorem foldlM_token (progress : Progress) (token : Token) :
    [token].foldlM step progress = step progress token := by
  simp

mutual

theorem foldlM_tokens (tree : Source) {stack : List Frame}
    (expects : expectsValue stack = true) :
    tree.tokens.foldlM step (.inside stack) = deliver tree stack := by
  cases tree with
  | null => exact foldlM_token _ _
  | bool value => exact foldlM_token _ _
  | number text => exact foldlM_token _ _
  | string content =>
      exact (foldlM_token _ _).trans (foldlM_string expects content)
  | array items =>
      have opened : step (.inside stack) .openBracket =
          some (.inside (.arrayOpened :: stack)) := if_pos expects
      rw [tokens, List.cons_append, List.foldlM_cons, opened]
      dsimp only [Option.bind_eq_bind, Option.bind_some]
      cases items with
      | nil => exact foldlM_token _ _
      | cons item rest =>
          rw [List.foldlM_append,
            foldlM_itemTokens (item :: rest) (by simp) .first]
          refine (foldlM_token _ _).trans ?_
          simp [step, stepInside]
  | object members =>
      have opened : step (.inside stack) .openBrace =
          some (.inside (.objectOpened :: stack)) := if_pos expects
      rw [tokens, List.cons_append, List.foldlM_cons, opened]
      dsimp only [Option.bind_eq_bind, Option.bind_some]
      cases members with
      | nil => exact foldlM_token _ _
      | cons member rest =>
          rw [List.foldlM_append,
            foldlM_memberTokens (member :: rest) (by simp) .first]
          refine (foldlM_token _ _).trans ?_
          simp [step, stepInside]

theorem foldlM_itemTokens (items : List Source) (nonempty : items ≠ [])
    {frame : Frame} {before : List Source} (awaits : AwaitsItem frame before)
    (outer : List Frame) :
    (itemTokens items).foldlM step (.inside (frame :: outer)) =
      some (.inside (.arrayItem (items.reverse ++ before) :: outer)) := by
  match items with
  | [] => exact absurd rfl nonempty
  | [item] =>
      rw [itemTokens, foldlM_tokens item awaits.expectsValue, awaits.deliver]
      rfl
  | item :: second :: rest =>
      have others := foldlM_itemTokens (second :: rest) (by simp)
        (.next (item :: before)) outer
      rw [itemTokens, List.foldlM_append,
        foldlM_tokens item awaits.expectsValue, awaits.deliver]
      · refine others.trans ?_
        simp
      · simp

theorem foldlM_memberTokens (members : List (List Piece × Source))
    (nonempty : members ≠ []) {frame : Frame}
    {before : List (List Piece × Source)} (awaits : AwaitsName frame before)
    (outer : List Frame) :
    (memberTokens members).foldlM step (.inside (frame :: outer)) =
      some (.inside (.objectMember (members.reverse ++ before) :: outer)) := by
  match members with
  | [] => exact absurd rfl nonempty
  | [(name, value)] =>
      rw [memberTokens, foldlM_name awaits, foldlM_tokens value rfl]
      rfl
  | (name, value) :: second :: rest =>
      have others := foldlM_memberTokens (second :: rest) (by simp)
        (.next ((name, value) :: before)) outer
      rw [memberTokens, List.cons_append, List.cons_append,
        foldlM_name awaits, List.foldlM_append, foldlM_tokens value rfl]
      · refine others.trans ?_
        simp
      · simp

end

/-! ### What is read as a tree are its lexemes -/

/-- What is written of an array or object that is still open. -/
def Frame.written : Frame → List Token
  | .arrayOpened => [.openBracket]
  | .arrayItem items => .openBracket :: itemTokens items.reverse
  | .arrayComma items => .openBracket :: itemLead items.reverse
  | .objectOpened => [.openBrace]
  | .objectName members name =>
    .openBrace :: memberLead members.reverse ++ [.string name]
  | .objectColon members name =>
    .openBrace :: memberLead members.reverse ++ [.string name, .colon]
  | .objectMember members => .openBrace :: memberTokens members.reverse
  | .objectComma members => .openBrace :: memberLead members.reverse

/-- After an item or a member there is one. -/
def Frame.IsBegun : Frame → Prop
  | .arrayItem items => items ≠ []
  | .objectMember members => members ≠ []
  | _ => True

/-- The lexemes that have been read up to some progress. -/
inductive Progress.Reads : Progress → List Token → Prop
  | inside {stack : List Frame} (begun : ∀ frame ∈ stack, frame.IsBegun) :
      Reads (.inside stack) (stack.reverse.flatMap Frame.written)
  | whole (tree : Source) : Reads (.whole tree) tree.tokens

theorem reads_deliver (tree : Source) {stack : List Frame}
    {reached : Progress} (begun : ∀ frame ∈ stack, frame.IsBegun)
    (delivered : deliver tree stack = some reached) :
    reached.Reads (stack.reverse.flatMap Frame.written ++ tree.tokens) := by
  cases stack with
  | nil =>
      cases delivered
      exact .whole tree
  | cons frame outer =>
      rw [List.forall_mem_cons] at begun
      have goesOn (next : Frame) (isBegun : next.IsBegun)
          (written : next.written = frame.written ++ tree.tokens) :
          (Progress.inside (next :: outer)).Reads
            ((frame :: outer).reverse.flatMap Frame.written ++
              tree.tokens) := by
        have reads := Progress.Reads.inside
          (List.forall_mem_cons.2 ⟨isBegun, begun.2⟩)
        simp only [List.reverse_cons, List.flatMap_append,
          List.flatMap_singleton, written] at reads ⊢
        rwa [List.append_assoc]
      cases frame with
      | arrayOpened =>
          cases delivered
          exact goesOn _ (by simp [Frame.IsBegun])
            (by simp [Frame.written, itemTokens])
      | arrayComma items =>
          cases delivered
          refine goesOn _ (by simp [Frame.IsBegun]) ?_
          simp [Frame.written, itemTokens_concat]
      | objectColon members name =>
          cases delivered
          refine goesOn _ (by simp [Frame.IsBegun]) ?_
          simp [Frame.written, memberTokens_concat]
      | _ => cases delivered

/-- Another lexeme that the innermost open array or object takes. -/
theorem reads_exchange {frame next : Frame} {outer : List Frame}
    {token : Token} (begun : ∀ frame ∈ outer, frame.IsBegun)
    (isBegun : next.IsBegun)
    (written : next.written = frame.written ++ [token]) :
    (Progress.inside (next :: outer)).Reads
      ((frame :: outer).reverse.flatMap Frame.written ++ [token]) := by
  have reads := Progress.Reads.inside
    (List.forall_mem_cons.2 ⟨isBegun, begun⟩)
  simp only [List.reverse_cons, List.flatMap_append, List.flatMap_singleton,
    written] at reads ⊢
  rwa [List.append_assoc]

/-- An array or object that is closed. -/
theorem reads_close {frame : Frame} {outer : List Frame} {tree : Source}
    {token : Token} {reached : Progress}
    (begun : ∀ frame ∈ outer, frame.IsBegun)
    (delivered : deliver tree outer = some reached)
    (written : tree.tokens = frame.written ++ [token]) :
    reached.Reads ((frame :: outer).reverse.flatMap Frame.written ++
      [token]) := by
  have reads := reads_deliver _ begun delivered
  rw [written] at reads
  simpa using reads

theorem Progress.Reads.stepInside {stack : List Frame} {token : Token}
    {reached : Progress} (begun : ∀ frame ∈ stack, frame.IsBegun)
    (stepped : stepInside stack token = some reached) :
    reached.Reads (stack.reverse.flatMap Frame.written ++ [token]) := by
  have opens (frame : Frame) (isBegun : frame.IsBegun)
      (written : frame.written = [token]) :
      (Progress.inside (frame :: stack)).Reads
        (stack.reverse.flatMap Frame.written ++ [token]) := by
    have reads := Progress.Reads.inside
      (List.forall_mem_cons.2 ⟨isBegun, begun⟩)
    simpa [written] using reads
  cases token with
  | null => exact reads_deliver .null begun stepped
  | bool value => exact reads_deliver (.bool value) begun stepped
  | number text => exact reads_deliver (.number text) begun stepped
  | openBracket =>
      obtain ⟨-, same⟩ := Option.ite_none_right_eq_some.1 stepped
      cases same
      exact opens _ trivial rfl
  | openBrace =>
      obtain ⟨-, same⟩ := Option.ite_none_right_eq_some.1 stepped
      cases same
      exact opens _ trivial rfl
  | string content =>
      have delivers (delivered : deliver (.string content) stack =
          some reached) : reached.Reads
            (stack.reverse.flatMap Frame.written ++ [.string content]) :=
        reads_deliver _ begun delivered
      cases stack with
      | nil => exact delivers stepped
      | cons frame outer =>
          have others := (List.forall_mem_cons.1 begun).2
          cases frame with
          | objectOpened =>
              cases stepped
              exact reads_exchange others trivial rfl
          | objectComma members =>
              cases stepped
              exact reads_exchange others trivial rfl
          | _ => exact delivers stepped
  | closeBracket =>
      cases stack with
      | nil => cases stepped
      | cons frame outer =>
          have others := (List.forall_mem_cons.1 begun).2
          cases frame with
          | arrayOpened => exact reads_close others stepped rfl
          | arrayItem items => exact reads_close others stepped rfl
          | _ => cases stepped
  | closeBrace =>
      cases stack with
      | nil => cases stepped
      | cons frame outer =>
          have others := (List.forall_mem_cons.1 begun).2
          cases frame with
          | objectOpened => exact reads_close others stepped rfl
          | objectMember members => exact reads_close others stepped rfl
          | _ => cases stepped
  | comma =>
      cases stack with
      | nil => cases stepped
      | cons frame outer =>
          obtain ⟨isBegun, others⟩ := List.forall_mem_cons.1 begun
          cases frame with
          | arrayItem items =>
              cases stepped
              have isBegun : items ≠ [] := isBegun
              refine reads_exchange others trivial ?_
              simp [Frame.written, itemLead, isBegun]
          | objectMember members =>
              cases stepped
              have isBegun : members ≠ [] := isBegun
              refine reads_exchange others trivial ?_
              simp [Frame.written, memberLead, isBegun]
          | _ => cases stepped
  | colon =>
      cases stack with
      | nil => cases stepped
      | cons frame outer =>
          have others := (List.forall_mem_cons.1 begun).2
          cases frame with
          | objectName members name =>
              cases stepped
              refine reads_exchange others trivial ?_
              simp [Frame.written]
          | _ => cases stepped

theorem Progress.Reads.foldlM {progress reached : Progress}
    {seen more : List Token} (reads : progress.Reads seen)
    (folded : more.foldlM step progress = some reached) :
    reached.Reads (seen ++ more) := by
  induction more generalizing progress seen with
  | nil =>
      cases folded
      rwa [List.append_nil]
  | cons token rest ih =>
      rw [List.foldlM_cons, Option.bind_eq_bind,
        Option.bind_eq_some_iff] at folded
      obtain ⟨next, stepped, folded⟩ := folded
      have nextReads : next.Reads (seen ++ [token]) := by
        cases reads with
        | inside begun => exact stepInside begun stepped
        | whole tree => cases stepped
      simpa using ih nextReads folded

/-- Reading lexemes as a tree is the converse of writing a tree. -/
theorem ofTokens?_eq_some_iff {tokens : List Token} {tree : Source} :
    ofTokens? tokens = some tree ↔ tokens = tree.tokens := by
  constructor
  · intro read
    unfold ofTokens? at read
    split at read
    · next folded =>
        cases read
        have begun : (Progress.inside []).Reads [] := .inside (by simp)
        have reads := begun.foldlM folded
        cases reads
        rfl
    · cases read
  · rintro rfl
    rw [ofTokens?, foldlM_tokens tree rfl]
    rfl

/-- Two opening braces do not follow each other: an object begins with a
name. -/
theorem not_openBraces_twice (tree : Source) :
    ¬ [.openBrace, .openBrace] <:+: tree.tokens := by
  rintro ⟨before, after, same⟩
  have read := ofTokens?_eq_some_iff.2 (Eq.refl tree.tokens)
  have stuck (progress : Progress) :
      [Token.openBrace, .openBrace].foldlM step progress = none := by
    cases progress with
    | whole tree => rfl
    | inside stack =>
        rw [List.foldlM_cons, step, stepInside]
        split <;> rfl
  have nothing : tree.tokens.foldlM step (.inside []) = none := by
    rw [← same, List.append_assoc, List.foldlM_append]
    cases before.foldlM step (.inside []) with
    | none => rfl
    | some progress =>
        rw [Option.bind_eq_bind, Option.bind_some, List.foldlM_append,
          stuck progress]
        rfl
  rw [ofTokens?, nothing] at read
  cases read

end Runbook.Json.Source
