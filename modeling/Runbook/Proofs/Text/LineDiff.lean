import Mathlib.Data.List.Infix
import Runbook.Text.LineDiff

/-!
# What changed lines tell

Two lists of lines begin with what they share, as much of it as there is, and
end with what the rest of them shares; in between are the lines that have been
removed and those that have been added.  So both texts can be put together from
what is shared and what is shown, and nothing is shown that both have at the
same end.
-/

namespace Runbook.Text

section Lists

variable {α : Type} {start ending left right rest others : List α}

/-- The longest list with which two lists begin. -/
structure IsLongestStart (start left right : List α) : Prop where
  begins_left : start <+: left
  begins_right : start <+: right
  longest : ∀ other, other <+: left → other <+: right → other <+: start

/-- The longest list with which two lists end. -/
structure IsLongestEnd (ending left right : List α) : Prop where
  ends_left : ending <:+ left
  ends_right : ending <:+ right
  longest : ∀ other, other <:+ left → other <:+ right → other <:+ ending

theorem IsLongestStart.isLongestEnd
    (isStart : IsLongestStart start left.reverse right.reverse) :
    IsLongestEnd start.reverse left right where
  ends_left := by simpa using List.reverse_suffix.2 isStart.begins_left
  ends_right := by simpa using List.reverse_suffix.2 isStart.begins_right
  longest other endsLeft endsRight := by
    have shorter := isStart.longest other.reverse
      (List.reverse_prefix.2 endsLeft) (List.reverse_prefix.2 endsRight)
    simpa using List.reverse_suffix.2 shorter

/-- After their longest start two lists go on differently. -/
theorem IsLongestStart.head?_ne {first second : α}
    (isStart : IsLongestStart start (start ++ rest) (start ++ others))
    (isFirst : rest.head? = some first) (isSecond : others.head? = some second) :
    first ≠ second := by
  rintro rfl
  obtain ⟨more, rfl⟩ := List.head?_eq_some_iff.1 isFirst
  obtain ⟨moreToo, rfl⟩ := List.head?_eq_some_iff.1 isSecond
  have longer := (isStart.longest (start ++ [first]) ⟨more, by simp⟩
    ⟨moreToo, by simp⟩).length_le
  rw [List.length_append, List.length_singleton] at longer
  omega

/-- Before their longest end two lists differ. -/
theorem IsLongestEnd.getLast?_ne {first second : α}
    (isEnd : IsLongestEnd ending (rest ++ ending) (others ++ ending))
    (isFirst : rest.getLast? = some first)
    (isSecond : others.getLast? = some second) : first ≠ second := by
  rintro rfl
  obtain ⟨more, rfl⟩ := List.getLast?_eq_some_iff.1 isFirst
  obtain ⟨moreToo, rfl⟩ := List.getLast?_eq_some_iff.1 isSecond
  have longer := (isEnd.longest (first :: ending) ⟨more, by simp⟩
    ⟨moreToo, by simp⟩).length_le
  rw [List.length_cons] at longer
  omega

variable [DecidableEq α]

theorem isLongestStart_commonStart (left right : List α) :
    IsLongestStart (commonStart left right) left right := by
  induction left generalizing right with
  | nil => exact ⟨List.nil_prefix, List.nil_prefix, fun _ begins _ => begins⟩
  | cons first lefts ih =>
      cases right with
      | nil => exact ⟨List.nil_prefix, List.nil_prefix, fun _ _ begins => begins⟩
      | cons second rights =>
          rw [commonStart]
          split
          · next same =>
            subst same
            obtain ⟨beginsLeft, beginsRight, longest⟩ := ih rights
            refine ⟨List.cons_prefix_cons.2 ⟨rfl, beginsLeft⟩,
              List.cons_prefix_cons.2 ⟨rfl, beginsRight⟩, ?_⟩
            rintro (_ | ⟨other, more⟩) inLeft inRight
            · exact List.nil_prefix
            · rw [List.cons_prefix_cons] at inLeft inRight ⊢
              exact ⟨inLeft.1, longest more inLeft.2 inRight.2⟩
          · next different =>
            refine ⟨List.nil_prefix, List.nil_prefix, ?_⟩
            rintro (_ | ⟨other, more⟩) inLeft inRight
            · exact List.nil_prefix
            · rw [List.cons_prefix_cons] at inLeft inRight
              exact (different (inLeft.1.symm.trans inRight.1)).elim

/-- Two lists are what is left of them and their longest common end. -/
theorem exists_isLongestEnd (left right : List α) :
    ∃ ending, IsLongestEnd ending left right ∧
      left = (withoutCommonEnd left right).1 ++ ending ∧
      right = (withoutCommonEnd left right).2 ++ ending := by
  let shared := commonStart left.reverse right.reverse
  have isEnd : IsLongestEnd shared.reverse left right :=
    (isLongestStart_commonStart _ _).isLongestEnd
  have takes {whole : List α} (ends : shared.reverse <:+ whole) :
      whole = whole.take (whole.length - shared.length) ++ shared.reverse := by
    obtain ⟨before, rfl⟩ := ends
    simp
  exact ⟨shared.reverse, isEnd, takes isEnd.ends_left, takes isEnd.ends_right⟩

/-- The lines that have been removed and added, between what two lists of lines
share at the start and what the rest of them shares at the end. -/
structure Splits (before after start removed added ending : List α) :
    Prop where
  before_eq : before = start ++ removed ++ ending
  after_eq : after = start ++ added ++ ending
  isStart : IsLongestStart start before after
  isEnd : IsLongestEnd ending (before.drop start.length)
    (after.drop start.length)

theorem exists_splits (before after : List α) :
    ∃ start ending, Splits before after start (removedAndAdded before after).1
      (removedAndAdded before after).2 ending := by
  let start := commonStart before after
  have isStart : IsLongestStart start before after :=
    isLongestStart_commonStart before after
  obtain ⟨ending, isEnd, before_eq, after_eq⟩ :=
    exists_isLongestEnd (before.drop start.length) (after.drop start.length)
  have whole {lines : List α} (begins : start <+: lines) :
      start ++ lines.drop start.length = lines := by
    obtain ⟨rest, rfl⟩ := begins
    simp
  refine ⟨start, ending, ⟨?_, ?_, isStart, isEnd⟩⟩
  · calc before = start ++ before.drop start.length :=
          (whole isStart.begins_left).symm
      _ = start ++ ((removedAndAdded before after).1 ++ ending) :=
          congrArg _ before_eq
      _ = _ := (List.append_assoc _ _ _).symm
  · calc after = start ++ after.drop start.length :=
          (whole isStart.begins_right).symm
      _ = start ++ ((removedAndAdded before after).2 ++ ending) :=
          congrArg _ after_eq
      _ = _ := (List.append_assoc _ _ _).symm

end Lists

section Splits

variable {α : Type} {before after start removed added ending : List α}

/-- Lists of lines that are the same share all of them. -/
theorem Splits.eq_nil_iff
    (splits : Splits before after start removed added ending) :
    removed = [] ∧ added = [] ↔ before = after := by
  constructor
  · rintro ⟨rfl, rfl⟩
    rw [splits.before_eq, splits.after_eq]
  · intro same
    have all := (splits.isStart.longest before List.prefix_rfl
      (same ▸ List.prefix_rfl)).length_le
    have removedSize := congrArg List.length splits.before_eq
    have addedSize := congrArg List.length splits.after_eq
    rw [← same] at addedSize
    simp only [List.length_append] at removedSize addedSize
    exact ⟨List.eq_nil_of_length_eq_zero (by omega),
      List.eq_nil_of_length_eq_zero (by omega)⟩

theorem Splits.head?_ne {old new : α}
    (splits : Splits before after start removed added ending)
    (isOld : removed.head? = some old) (isNew : added.head? = some new) :
    old ≠ new := by
  obtain ⟨rfl, rfl, isStart, -⟩ := splits
  rw [List.append_assoc, List.append_assoc] at isStart
  exact isStart.head?_ne (by simp [isOld]) (by simp [isNew])

theorem Splits.getLast?_ne {old new : α}
    (splits : Splits before after start removed added ending)
    (isOld : removed.getLast? = some old)
    (isNew : added.getLast? = some new) : old ≠ new := by
  obtain ⟨rfl, rfl, -, isEnd⟩ := splits
  rw [List.append_assoc, List.append_assoc, List.drop_left, List.drop_left]
    at isEnd
  exact isEnd.getLast?_ne isOld isNew

/-- What is between the shared lines is cut out at places in the lists. -/
theorem Splits.slices
    (splits : Splits before after start removed added ending) :
    start.length + ending.length ≤ before.length ∧
      start.length + ending.length ≤ after.length ∧
      removed = (before.take (before.length - ending.length)).drop
        start.length ∧
      added = (after.take (after.length - ending.length)).drop
        start.length := by
  obtain ⟨rfl, rfl, -, -⟩ := splits
  have between (middle : List α) : (start ++ middle ++ ending).length -
      ending.length = (start ++ middle).length := by
    rw [List.length_append, Nat.add_sub_cancel]
  refine ⟨?_, ?_, ?_, ?_⟩
  · simp only [List.length_append]
    omega
  · simp only [List.length_append]
    omega
  · rw [between, List.take_left, List.drop_left]
  · rw [between, List.take_left, List.drop_left]

end Splits

/-- The changed lines are the removed ones after a minus sign and the added ones
after a plus sign.  Both texts consist of the longest start that they share,
their own part of these lines, and the longest end that the rest of them shares,
so that the parts are cut out at places that exist.  Nothing is shown exactly if
the texts have the same lines; and where lines have been removed and added, the
first ones differ, and so do the last ones. -/
theorem changedLines_reconstructs (current proposed : String) :
    ∃ start removed added ending : List String,
      changedLines current proposed =
        removed.map ("-" ++ ·) ++ added.map ("+" ++ ·) ∧
      Splits (lines current) (lines proposed) start removed added ending ∧
      (start.length + ending.length ≤ (lines current).length ∧
        start.length + ending.length ≤ (lines proposed).length ∧
        removed = ((lines current).take
          ((lines current).length - ending.length)).drop start.length ∧
        added = ((lines proposed).take
          ((lines proposed).length - ending.length)).drop start.length) ∧
      (changedLines current proposed = [] ↔ lines current = lines proposed) ∧
      (∀ old new, removed.head? = some old → added.head? = some new →
        old ≠ new) ∧
      ∀ old new, removed.getLast? = some old → added.getLast? = some new →
        old ≠ new := by
  obtain ⟨start, ending, splits⟩ :=
    exists_splits (lines current) (lines proposed)
  have shown : changedLines current proposed =
      (removedAndAdded (lines current) (lines proposed)).1.map ("-" ++ ·) ++
        (removedAndAdded (lines current) (lines proposed)).2.map ("+" ++ ·) :=
    rfl
  refine ⟨start, _, _, ending, shown, splits, splits.slices, ?_,
    fun _ _ => splits.head?_ne, fun _ _ => splits.getLast?_ne⟩
  rw [← splits.eq_nil_iff, shown]
  simp

/-- Where lines repeat, what is shared at the start is not shared again at the
end. -/
example : changedLines "a\na\n" "a\na\na\n" = ["+a"] := by
  decide +kernel

end Runbook.Text
