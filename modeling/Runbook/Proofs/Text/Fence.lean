import Runbook.Proofs.Expression.Split
import Runbook.Proofs.Template.Name
import Runbook.Text.Fence

/-!
# The inside of fenced blocks

A text is fenced if it consists of three backticks, a tag, a body and three
backticks, with blanks around the text and around the body.  A tag is taken to
be as long as it can, and then the body is the same, but for the blanks around
it, in whatever way the text is taken apart.  What a fenced text stands for is
its body, and any other text stands for itself, in both cases without blanks at
the ends.
-/

namespace Runbook.Text

open Condition (Trims trims_trimBoth trimBoth_eq_iff)

variable {text tag body core before after : List Char}

def AreBlank (text : List Char) : Prop :=
  ∀ character ∈ text, isBlank character = true

def IsTag (text : List Char) : Prop :=
  ∀ character ∈ text, isTagChar character = true

instance (text : List Char) : Decidable (AreBlank text) :=
  List.decidableBAll _ text

instance (text : List Char) : Decidable (IsTag text) :=
  List.decidableBAll _ text

/-- One way to take a text apart as a fenced block. -/
structure Fences (text tag body : List Char) : Prop where
  isTag : IsTag tag
  exists_blanks : ∃ before opening closing after,
    AreBlank before ∧ AreBlank opening ∧ AreBlank closing ∧ AreBlank after ∧
      text = before ++ fence ++ tag ++ opening ++ body ++ closing ++ fence ++
        after

/-- What a text stands for: its body, if it is fenced, with a tag that is as
long as it can be. -/
inductive Unfences (text : List Char) : List Char → Prop
  | block {tag body : List Char} (fences : Fences text tag body)
      (longest : ∀ other inner, Fences text other inner →
        other.length ≤ tag.length) : Unfences text (trimBoth body)
  | plain (unfenced : ∀ tag body, ¬ Fences text tag body) :
      Unfences text (trimBoth text)

/-! ### Blanks around a text -/

theorem trims_append (blanksBefore : AreBlank before)
    (blanksAfter : AreBlank after) (trims : Trims text core) :
    Trims (before ++ text ++ after) core := by
  obtain ⟨front, back, rfl, blank⟩ := trims.exists_blanks
  refine ⟨⟨before ++ front, back ++ after, by simp, ?_⟩, trims.begins,
    trims.ends⟩
  rw [List.forall_mem_append] at blank
  intro character member
  simp only [List.mem_append] at member
  rcases member with (inside | inside) | inside | inside
  · exact blanksBefore character inside
  · exact blank.1 character inside
  · exact blank.2 character inside
  · exact blanksAfter character inside

/-- Blanks around a text do not matter for what is left of it. -/
theorem trimBoth_append_blanks (blanksBefore : AreBlank before)
    (blanksAfter : AreBlank after) :
    trimBoth (before ++ text ++ after) = trimBoth text :=
  trimBoth_eq_iff.2
    (trims_append blanksBefore blanksAfter (trims_trimBoth text))

theorem exists_trimRight (text : List Char) :
    ∃ after, AreBlank after ∧ text = trimRight text ++ after := by
  refine ⟨(text.reverse.takeWhile isBlank).reverse, fun character member => ?_,
    ?_⟩
  · exact List.mem_takeWhile_imp (List.mem_reverse.1 member)
  · rw [trimRight, ← List.reverse_append, List.takeWhile_append_dropWhile,
      List.reverse_reverse]

/-! ### Markers -/

theorem afterStart?_eq_some_iff {start rest : List Char} :
    afterStart? start text = some rest ↔ text = start ++ rest := by
  induction start generalizing text with
  | nil => simp [afterStart?, eq_comm]
  | cons expected start ih =>
      cases text with
      | nil => simp [afterStart?]
      | cons character text =>
          rw [afterStart?, List.cons_append, List.cons.injEq]
          by_cases same : expected = character
          · rw [if_pos same, ih, eq_comm (a := character)]
            simp [same]
          · rw [if_neg same]
            simp [Ne.symm same]

theorem ends_append_fence (text : List Char) :
    ∀ character ∈ (text ++ fence).getLast?, isBlank character = false := by
  have last : (text ++ fence).getLast? = some '\x60' := by simp [fence]
  rw [last]
  rintro _ ⟨⟩
  decide

/-- What is left of a text begins with a marker exactly if the text does after
its blanks. -/
theorem afterStart?_trimBoth_iff {rest : List Char} :
    afterStart? fence (trimBoth text) = some rest ↔
      Trims text (fence ++ rest) := by
  rw [afterStart?_eq_some_iff, trimBoth_eq_iff]

/-- The inside of a block ends with a marker, but for blanks after it. -/
theorem fencedBody?_eq_some_iff {rest inner : List Char} :
    fencedBody? rest = some inner ↔
      ∃ body after, AreBlank after ∧ inner = trimBoth body ∧
        rest.dropWhile isTagChar = body ++ fence ++ after := by
  have reversed : fence.reverse = fence := rfl
  rw [fencedBody?, Option.map_eq_some_iff]
  simp only [afterStart?_eq_some_iff]
  constructor
  · rintro ⟨found, same, rfl⟩
    obtain ⟨after, blank, whole⟩ := exists_trimRight (rest.dropWhile isTagChar)
    refine ⟨found.reverse, after, blank, rfl, ?_⟩
    rw [← List.reverse_inj, List.reverse_reverse, List.reverse_append,
      reversed] at same
    rwa [← same]
  · rintro ⟨body, after, blank, rfl, whole⟩
    refine ⟨body.reverse, ?_, by rw [List.reverse_reverse]⟩
    rw [whole, trimRight_append blank (ends_append_fence body),
      List.reverse_append, reversed]

/-! ### Taking a text apart -/

/-- What follows the first marker of a text, without the blanks at the end. -/
theorem afterStart?_trimBoth {rest : List Char} (blanksBefore : AreBlank before)
    (blanksAfter : AreBlank after) :
    afterStart? fence (trimBoth (before ++ fence ++ rest ++ fence ++ after)) =
      some (rest ++ fence) := by
  rw [afterStart?_trimBoth_iff]
  refine ⟨⟨before, after, by simp, ?_⟩, ?_, ?_⟩
  · exact List.forall_mem_append.2 ⟨blanksBefore, blanksAfter⟩
  · rintro _ ⟨⟩
    decide
  · rw [← List.append_assoc]
    exact ends_append_fence (fence ++ rest)

theorem Fences.exists_rest (fences : Fences text tag body) :
    ∃ opening closing, AreBlank opening ∧ AreBlank closing ∧
      afterStart? fence (trimBoth text) =
        some (tag ++ (opening ++ body ++ closing ++ fence)) := by
  obtain ⟨before, opening, closing, after, blank, blankToo, blankThen,
    blankLast, rfl⟩ := fences.exists_blanks
  have begins := @afterStart?_trimBoth before after
    (tag ++ opening ++ body ++ closing) blank blankLast
  exact ⟨opening, closing, blankToo, blankThen, by simpa using begins⟩

/-- A text whose inside is found is fenced. -/
theorem fences_of_dropWhile {rest : List Char}
    (begins : afterStart? fence (trimBoth text) = some rest)
    (ends : rest.dropWhile isTagChar = body ++ fence ++ after)
    (blank : AreBlank after) :
    Fences text (rest.takeWhile isTagChar) body := by
  obtain ⟨front, back, same, blanks⟩ :=
    (afterStart?_trimBoth_iff.1 begins).exists_blanks
  rw [List.forall_mem_append] at blanks
  refine ⟨fun character => List.mem_takeWhile_imp, front, [], [],
    after ++ back, blanks.1, nofun, nofun, ?_, ?_⟩
  · exact List.forall_mem_append.2 ⟨blank, blanks.2⟩
  · have whole : rest.takeWhile isTagChar ++ (body ++ fence ++ after) =
        rest := by
      rw [← ends, List.takeWhile_append_dropWhile]
    calc text = front ++ (fence ++ rest) ++ back := same
      _ = front ++ (fence ++ (rest.takeWhile isTagChar ++
            (body ++ fence ++ after))) ++ back := by rw [whole]
      _ = _ := by simp

theorem takeWhile_of_isTag {rest : List Char} (isTag : IsTag tag) :
    (tag ++ rest).takeWhile isTagChar = tag ++ rest.takeWhile isTagChar :=
  List.takeWhile_append_of_pos isTag

/-- A tag does not reach into a marker. -/
theorem dropWhile_append_fence (text : List Char) :
    (text ++ fence).dropWhile isTagChar =
      text.dropWhile isTagChar ++ fence := by
  have marker : fence.dropWhile isTagChar = fence := rfl
  rw [List.dropWhile_append, marker]
  cases text.dropWhile isTagChar <;> rfl

/-- The inside of a fenced text is what follows the longest tag. -/
theorem Fences.exists_longest (fences : Fences text tag body) :
    ∃ rest inner, afterStart? fence (trimBoth text) = some rest ∧
      fencedBody? rest = some (trimBoth inner) ∧
      Fences text (rest.takeWhile isTagChar) inner ∧
      tag.length ≤ (rest.takeWhile isTagChar).length ∧
      ((rest.takeWhile isTagChar).length ≤ tag.length →
        trimBoth inner = trimBoth body) := by
  obtain ⟨opening, closing, blank, blankToo, begins⟩ := fences.exists_rest
  have dropped : (tag ++ (opening ++ body ++ closing ++ fence)).dropWhile
      isTagChar =
        (opening ++ body ++ closing).dropWhile isTagChar ++ fence ++ [] := by
    rw [List.dropWhile_append_of_pos fences.isTag, dropWhile_append_fence,
      List.append_nil]
  refine ⟨_, _, begins, fencedBody?_eq_some_iff.2 ⟨_, [], nofun, rfl, dropped⟩,
    fences_of_dropWhile begins dropped nofun, ?_, fun short => ?_⟩
  · rw [takeWhile_of_isTag fences.isTag]
    simp
  · rw [takeWhile_of_isTag fences.isTag, List.length_append] at short
    have noMore : (opening ++ body ++ closing ++ fence).takeWhile isTagChar =
        [] := List.eq_nil_of_length_eq_zero (by omega)
    have whole := @List.takeWhile_append_dropWhile _ isTagChar
      (opening ++ body ++ closing ++ fence)
    rw [noMore, List.nil_append, dropWhile_append_fence,
      List.append_cancel_right_eq] at whole
    rw [whole, trimBoth_append_blanks blank blankToo]

/-- What is found of a text is what it stands for. -/
theorem Unfences.unfence_eq (unfences : Unfences text core) :
    unfence (String.ofList text) = String.ofList core := by
  rw [unfence, String.toList_ofList]
  cases unfences with
  | block fences longest =>
      obtain ⟨rest, inner, begins, found, fencesToo, -, same⟩ :=
        fences.exists_longest
      rw [begins, Option.bind_some, found, Option.getD_some,
        same (longest _ _ fencesToo)]
  | plain unfenced =>
      cases begins : afterStart? fence (trimBoth text) with
      | none => rfl
      | some rest =>
          cases found : fencedBody? rest with
          | none => simp [found]
          | some inner =>
              obtain ⟨body, after, blank, -, ends⟩ :=
                fencedBody?_eq_some_iff.1 found
              exact absurd (fences_of_dropWhile begins ends blank)
                (unfenced _ _)

/-- Every text stands for something. -/
theorem exists_unfences (text : List Char) : ∃ core, Unfences text core := by
  by_cases fenced : ∃ tag body, Fences text tag body
  · obtain ⟨tag, body, fences⟩ := fenced
    obtain ⟨rest, inner, begins, -, longest, -⟩ := fences.exists_longest
    refine ⟨_, .block longest fun other content fencesToo => ?_⟩
    obtain ⟨_, _, beginsToo, -, -, shorter, -⟩ := fencesToo.exists_longest
    rwa [Option.some.inj (begins.symm.trans beginsToo)]
  · exact ⟨_, .plain fun tag body fences => fenced ⟨tag, body, fences⟩⟩

/-- What is left of a text is exactly what it stands for. -/
theorem unfence_eq_iff :
    unfence (String.ofList text) = String.ofList core ↔ Unfences text core := by
  refine ⟨fun same => ?_, Unfences.unfence_eq⟩
  obtain ⟨other, unfences⟩ := exists_unfences text
  rwa [← String.ofList_injective (unfences.unfence_eq.symm.trans same)]

/-! ### Blocks -/

/-- A body in a block.  At least one blank stands between the tag and the body,
as a line feed does, and there may be more around the body and the block. -/
structure IsBlock (text tag body : List Char) : Prop where
  isTag : IsTag tag
  exists_blanks : ∃ before opening closing after,
    AreBlank before ∧ AreBlank opening ∧ AreBlank closing ∧ AreBlank after ∧
      opening ≠ [] ∧
        text = before ++ fence ++ tag ++ opening ++ body ++ closing ++ fence ++
          after

theorem isTagChar_of_isBlank {character : Char}
    (blank : isBlank character = true) : isTagChar character = false := by
  have noTag : ∀ code ∈ Template.blankCodes,
      isTagChar (Char.ofNat code) = false := by
    decide +kernel
  rw [← Char.ofNat_toNat character]
  exact noTag _ (Template.mem_blankCodes blank)

/-- A block stands for its body, whatever that is. -/
theorem IsBlock.unfences (isBlock : IsBlock text tag body) :
    Unfences text (trimBoth body) := by
  obtain ⟨isTag, before, opening, closing, after, blank, blankToo, blankThen,
    blankLast, some_, rfl⟩ := isBlock
  have fences : Fences _ tag body := ⟨isTag, before, opening, closing, after,
    blank, blankToo, blankThen, blankLast, rfl⟩
  refine .block fences fun other inner fences => ?_
  have begins := @afterStart?_trimBoth before after
    (tag ++ opening ++ body ++ closing) blank blankLast
  obtain ⟨first, rest, rfl⟩ := List.exists_cons_of_ne_nil some_
  have ends := isTagChar_of_isBlank (blankToo first List.mem_cons_self)
  obtain ⟨found, _, beginsToo, -, -, shorter, -⟩ := fences.exists_longest
  simp only [List.append_assoc] at begins beginsToo
  obtain rfl := Option.some.inj (begins.symm.trans beginsToo)
  rw [takeWhile_of_isTag isTag] at shorter
  simpa [ends] using shorter

end Runbook.Text
