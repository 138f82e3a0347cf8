import Runbook.Text.Search

/-!
# Changed lines

Two texts are compared line by line.  The lines that they share at the start
are left out, and so are those that the rest share at the end; what remains is
what has been removed and what has been added.
-/

namespace Runbook.Text

def commonStart {α : Type} [DecidableEq α] : List α → List α → List α
  | left :: lefts, right :: rights =>
    if left = right then left :: commonStart lefts rights else []
  | _, _ => []

/-- What is left of two lists without their longest common end. -/
def withoutCommonEnd {α : Type} [DecidableEq α] (left right : List α) :
    List α × List α :=
  let shared := (commonStart left.reverse right.reverse).length
  (left.take (left.length - shared), right.take (right.length - shared))

/-- The lines that have been removed, and those that have been added. -/
def removedAndAdded {α : Type} [DecidableEq α] (before after : List α) :
    List α × List α :=
  let shared := (commonStart before after).length
  withoutCommonEnd (before.drop shared) (after.drop shared)

/-- The removed lines after a minus sign, then the added ones after a plus
sign. -/
def changedLines (current proposed : String) : List String :=
  let (removed, added) := removedAndAdded (lines current) (lines proposed)
  removed.map ("-" ++ ·) ++ added.map ("+" ++ ·)

end Runbook.Text
