import Mathlib.Data.List.Basic
import Runbook.Text.Search

/-!
# Pieces and lines of texts

Cutting a text at a separator and putting the separator between pieces undo
each other: a text is its pieces with the separator between them, and pieces
without the separator are found again.

A text may be written in lines in several ways: a line ends with a line feed,
or with a carriage return and a line feed, and the last one need not end.  The
lines of such a text are those it is written in.
-/

namespace Runbook.Text

variable {separator : Char}

theorem pieces_ne_nil (separator : Char) (text : List Char) :
    pieces separator text ≠ [] := by
  cases text with
  | nil => simp [pieces]
  | cons character text =>
      rw [pieces]
      split
      · simp
      · split <;> simp

theorem pieces_cons_of_ne {character : Char} (ordinary : character ≠ separator)
    {text piece : List Char} {rest : List (List Char)}
    (cut : pieces separator text = piece :: rest) :
    pieces separator (character :: text) = (character :: piece) :: rest := by
  rw [pieces, if_neg ordinary, cut]

/-- The pieces of two texts with a separator between them are those of the
first one and those of the second one. -/
theorem pieces_append (separator : Char) (first second : List Char) :
    pieces separator (first ++ separator :: second) =
      pieces separator first ++ pieces separator second := by
  induction first with
  | nil => simp [pieces]
  | cons character first ih =>
      by_cases ends : character = separator
      · subst ends
        simp only [List.cons_append, pieces, if_true, ih]
      · obtain ⟨piece, rest, cut⟩ :=
          List.exists_cons_of_ne_nil (pieces_ne_nil separator first)
        rw [cut, List.cons_append] at ih
        rw [List.cons_append, pieces_cons_of_ne ends ih,
          pieces_cons_of_ne ends cut, List.cons_append]

theorem pieces_of_not_mem {text : List Char} (whole : separator ∉ text) :
    pieces separator text = [text] := by
  induction text with
  | nil => rfl
  | cons character text ih =>
      rw [List.mem_cons, not_or] at whole
      exact pieces_cons_of_ne (Ne.symm whole.1) (ih whole.2)

theorem not_mem_of_mem_pieces {text piece : List Char}
    (member : piece ∈ pieces separator text) : separator ∉ piece := by
  induction text generalizing piece with
  | nil =>
      rw [pieces, List.mem_singleton] at member
      subst member
      exact List.not_mem_nil
  | cons character text ih =>
      by_cases ends : character = separator
      · rw [pieces, if_pos ends, List.mem_cons] at member
        rcases member with rfl | member
        · exact List.not_mem_nil
        · exact ih member
      · obtain ⟨first, rest, cut⟩ :=
          List.exists_cons_of_ne_nil (pieces_ne_nil separator text)
        rw [pieces_cons_of_ne ends cut, List.mem_cons] at member
        rw [cut] at ih
        rcases member with rfl | member
        · rw [List.mem_cons, not_or]
          exact ⟨Ne.symm ends, ih List.mem_cons_self⟩
        · exact ih (List.mem_cons_of_mem _ member)

/-- A text is its pieces with separators between them. -/
theorem intercalate_pieces (separator : Char) (text : List Char) :
    [separator].intercalate (pieces separator text) = text := by
  induction text with
  | nil => rfl
  | cons character text ih =>
      obtain ⟨first, rest, cut⟩ :=
        List.exists_cons_of_ne_nil (pieces_ne_nil separator text)
      by_cases ends : character = separator
      · subst ends
        rw [pieces, if_pos rfl, cut, List.intercalate_cons_cons, ← cut, ih]
        rfl
      · rw [pieces_cons_of_ne ends cut]
        rw [cut] at ih
        cases rest with
        | nil => simpa using ih
        | cons second rest =>
            rw [List.intercalate_cons_cons] at ih ⊢
            simpa using ih

/-- Pieces without the separator are found again. -/
theorem pieces_intercalate {parts : List (List Char)} (some_ : parts ≠ [])
    (whole : ∀ part ∈ parts, separator ∉ part) :
    pieces separator ([separator].intercalate parts) = parts := by
  induction parts with
  | nil => exact (some_ rfl).elim
  | cons part parts ih =>
      rw [List.forall_mem_cons] at whole
      cases parts with
      | nil => simpa using pieces_of_not_mem whole.1
      | cons next rest =>
          rw [List.intercalate_cons_cons, List.append_assoc,
            List.singleton_append, pieces_append, pieces_of_not_mem whole.1,
            ih (by simp) whole.2]
          rfl

/-- What follows the last separator of a text, and what precedes it, are known
from the text. -/
theorem append_separator_inj {first second after afterToo : List Char}
    (last : separator ∉ after) (lastToo : separator ∉ afterToo)
    (same : first ++ separator :: after = second ++ separator :: afterToo) :
    first = second ∧ after = afterToo := by
  have cut := congrArg (pieces separator) same
  rw [pieces_append, pieces_append, pieces_of_not_mem last,
    pieces_of_not_mem lastToo] at cut
  obtain ⟨firsts, lasts⟩ := List.append_inj' cut rfl
  refine ⟨?_, (List.cons.inj lasts).1⟩
  rw [← intercalate_pieces separator first, firsts, intercalate_pieces]

/-! ### The last piece -/

theorem cutFirst?_append {first : List Char} (whole : separator ∉ first)
    (second : List Char) :
    cutFirst? separator (first ++ separator :: second) =
      some (first, second) := by
  induction first with
  | nil => exact if_pos rfl
  | cons character first ih =>
      rw [List.mem_cons, not_or] at whole
      rw [List.cons_append, cutFirst?, if_neg (Ne.symm whole.1), ih whole.2]
      rfl

theorem cutFirst?_of_not_mem {text : List Char} (whole : separator ∉ text) :
    cutFirst? separator text = none := by
  induction text with
  | nil => rfl
  | cons character text ih =>
      rw [List.mem_cons, not_or] at whole
      rw [cutFirst?, if_neg (Ne.symm whole.1), ih whole.2]
      rfl

theorem cutLast?_append (first : List Char) {last : List Char}
    (whole : separator ∉ last) :
    cutLast? separator (first ++ separator :: last) = some (first, last) := by
  have reversed : (first ++ separator :: last).reverse =
      last.reverse ++ separator :: first.reverse := by
    simp
  rw [cutLast?, reversed, cutFirst?_append (by simpa using whole)]
  simp

theorem cutLast?_of_not_mem {text : List Char} (whole : separator ∉ text) :
    cutLast? separator text = none := by
  rw [cutLast?, cutFirst?_of_not_mem (by simpa using whole)]
  rfl

end Runbook.Text

/-! ## Lines -/

namespace Runbook.Text

/-- A line holds no line feed, and what ends it does not begin in it. -/
structure IsLine (line : List Char) : Prop where
  no_feed : '\n' ∉ line
  no_return : line.getLast? ≠ some '\r'

instance (line : List Char) : Decidable (IsLine line) :=
  decidable_of_iff ('\n' ∉ line ∧ line.getLast? ≠ some '\r')
    ⟨fun both => ⟨both.1, both.2⟩, fun isLine =>
      ⟨isLine.no_feed, isLine.no_return⟩⟩

/-- A text that is written in lines. -/
inductive InLines : List Char → List (List Char) → Prop
  | empty : InLines [] []
  | unended {line : List Char} (isLine : IsLine line) (some_ : line ≠ []) :
      InLines line [line]
  | ended {line ending text : List Char} {lines : List (List Char)}
      (isLine : IsLine line) (ends : ending = ['\n'] ∨ ending = ['\r', '\n'])
      (rest : InLines text lines) :
      InLines (line ++ ending ++ text) (line :: lines)

theorem dropReturn_concat (line : List Char) :
    dropReturn (line ++ ['\r']) = line := by
  simp [dropReturn]

theorem dropReturn_of_ne {line : List Char}
    (no_return : line.getLast? ≠ some '\r') : dropReturn line = line := by
  rw [List.getLast?_eq_head?_reverse] at no_return
  unfold dropReturn
  split
  · next rest same =>
      rw [same] at no_return
      exact (no_return rfl).elim
  · rfl

/-- What comes before the first line feed of a text is its first line. -/
theorem lineList_append {line : List Char} (whole : '\n' ∉ line)
    (text : List Char) :
    lineList (line ++ '\n' :: text) = dropReturn line :: lineList text := by
  obtain ⟨piece, rest, cut⟩ :=
    List.exists_cons_of_ne_nil (pieces_ne_nil '\n' text)
  unfold lineList
  rw [pieces_append, pieces_of_not_mem whole, cut, List.singleton_append]
  dsimp only
  rw [List.getLast?_cons_cons, List.dropLast_cons_cons, List.map_cons]
  split
  · rfl
  · rfl
  · next noLast => simp at noLast

theorem lineList_of_isLine {line : List Char} (isLine : IsLine line)
    (some_ : line ≠ []) : lineList line = [line] := by
  obtain ⟨character, rest, rfl⟩ := List.exists_cons_of_ne_nil some_
  rw [lineList, pieces_of_not_mem isLine.no_feed]
  rfl

/-- The lines of a text are those it is written in. -/
theorem InLines.lineList_eq {text : List Char} {lines : List (List Char)}
    (inLines : InLines text lines) : lineList text = lines := by
  induction inLines with
  | empty => rfl
  | unended isLine some_ => exact lineList_of_isLine isLine some_
  | @ended line ending text lines isLine ends rest ih =>
      rcases ends with rfl | rfl
      · rw [List.append_assoc, List.singleton_append,
          lineList_append isLine.no_feed, dropReturn_of_ne isLine.no_return, ih]
      · have whole : '\n' ∉ line ++ ['\r'] := by
          simpa using isLine.no_feed
        have apart : line ++ ['\r', '\n'] ++ text =
            (line ++ ['\r']) ++ '\n' :: text := by
          simp
        rw [apart, lineList_append whole, dropReturn_concat, ih]

end Runbook.Text
