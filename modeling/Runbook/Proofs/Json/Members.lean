import Mathlib.Data.List.Forall2
import Mathlib.Data.String.Basic
import Runbook.Json.Reader
import Runbook.Proofs.OrderedMap

/-!
# The members of objects

Sorting the members of an object keeps the value of every name, of two members
with one name that of the later one, and leaves sorted members as they are.
The items and members of a tree have their values one by one.
-/

namespace Runbook.Json

/-- Members in the order of their names, no name twice. -/
def IsSorted (members : List (String × Json)) : Prop :=
  (members.map Prod.fst).Pairwise (· < ·)

variable {name key : String} {value : Json}
  {members others : List (String × Json)}

theorem isSorted_cons {pair : String × Json} :
    IsSorted (pair :: members) ↔
      (∀ other ∈ members, pair.1 < other.1) ∧ IsSorted members := by
  simp [IsSorted]

theorem member?_append (members others : List (String × Json)) :
    member? key (members ++ others) =
      (member? key members).or (member? key others) := by
  induction members with
  | nil => simp [member?]
  | cons pair rest ih =>
      rw [List.cons_append, member?, member?]
      split
      · rfl
      · exact ih

theorem IsSorted.nodup (sorted : IsSorted members) :
    (members.map Prod.fst).Nodup :=
  sorted.imp ne_of_lt

theorem member?_eq_find? (members : List (String × Json)) :
    member? key members = OrderedMap.find? key members := by
  induction members with
  | nil => rfl
  | cons pair rest ih => rw [member?, OrderedMap.find?, ih]

/-- A member has its value by its name if no other one has that name. -/
theorem member?_eq_some_iff (distinct : (members.map Prod.fst).Nodup) :
    member? key members = some value ↔ (key, value) ∈ members := by
  rw [member?_eq_find?, OrderedMap.find?_eq_some_iff distinct]

/-! ### Sorting -/

theorem member?_insertSorted (members : List (String × Json)) :
    member? key (insertSorted name value members) =
      if name = key then some value else member? key members := by
  induction members with
  | nil => rfl
  | cons pair rest ih =>
      obtain ⟨other, held⟩ := pair
      rw [insertSorted]
      split
      · next same =>
          subst same
          rw [member?, member?]
          split <;> rfl
      · next different =>
          split
          · rw [member?]
          · rw [member?, member?, ih]
            split
            · next same =>
                subst same
                rw [if_neg different]
            · rfl

theorem mem_insertSorted {pair : String × Json}
    (member : pair ∈ insertSorted name value members) :
    pair = (name, value) ∨ pair ∈ members := by
  induction members with
  | nil => exact .inl (by simpa [insertSorted] using member)
  | cons other rest ih =>
      rw [insertSorted] at member
      split at member
      · exact (List.mem_cons.1 member).imp_right (List.mem_cons_of_mem _)
      · split at member
        · exact List.mem_cons.1 member
        · rcases List.mem_cons.1 member with rfl | member
          · exact .inr List.mem_cons_self
          · exact (ih member).imp_right (List.mem_cons_of_mem _)

theorem IsSorted.insertSorted (sorted : IsSorted members) :
    IsSorted (insertSorted name value members) := by
  induction members with
  | nil => simp [Json.insertSorted, IsSorted]
  | cons pair rest ih =>
      obtain ⟨other, held⟩ := pair
      have ⟨least, sortedRest⟩ := isSorted_cons.1 sorted
      rw [Json.insertSorted]
      split
      · next same =>
          subst same
          exact isSorted_cons.2 ⟨least, sortedRest⟩
      · next different =>
          split
          · next less =>
              refine isSorted_cons.2 ⟨?_, sorted⟩
              intro later member
              rcases List.mem_cons.1 member with rfl | member
              · exact less
              · exact less.trans (least later member)
          · next notLess =>
              have greater : other < name :=
                lt_of_le_of_ne (not_lt.1 notLess) (Ne.symm different)
              refine isSorted_cons.2 ⟨?_, ih sortedRest⟩
              intro later member
              rcases mem_insertSorted member with rfl | member
              · exact greater
              · exact least later member

theorem isSorted_foldl (sorted : IsSorted others) :
    IsSorted (members.foldl
      (fun sorted pair => insertSorted pair.1 pair.2 sorted) others) := by
  induction members generalizing others with
  | nil => exact sorted
  | cons pair rest ih => exact ih sorted.insertSorted

theorem isSorted_sortMembers (members : List (String × Json)) :
    IsSorted (sortMembers members) :=
  isSorted_foldl (show IsSorted [] by simp [IsSorted])

theorem member?_foldl (members others : List (String × Json)) :
    member? key (members.foldl
        (fun sorted pair => insertSorted pair.1 pair.2 sorted) others) =
      member? key (members.reverse ++ others) := by
  induction members generalizing others with
  | nil => rfl
  | cons pair rest ih =>
      rw [List.foldl_cons, ih, member?_append, member?_insertSorted,
        List.reverse_cons, List.append_assoc, member?_append]
      rfl

/-- A name has the value of the last member with this name. -/
theorem member?_sortMembers (members : List (String × Json)) :
    member? key (sortMembers members) = member? key members.reverse := by
  rw [sortMembers, member?_foldl, List.append_nil]

/-- Sorting loses nothing if no name occurs twice. -/
theorem mem_sortMembers_iff (distinct : (members.map Prod.fst).Nodup)
    {pair : String × Json} : pair ∈ sortMembers members ↔ pair ∈ members := by
  obtain ⟨name, value⟩ := pair
  have reversed : (members.reverse.map Prod.fst).Nodup := by
    rw [List.map_reverse]
    exact (List.reverse_perm _).nodup_iff.2 distinct
  rw [← member?_eq_some_iff (isSorted_sortMembers members).nodup,
    member?_sortMembers, member?_eq_some_iff reversed, List.mem_reverse]

theorem mem_of_mem_sortMembers {pair : String × Json}
    (member : pair ∈ sortMembers members) : pair ∈ members := by
  obtain ⟨name, value⟩ := pair
  rw [← member?_eq_some_iff (isSorted_sortMembers members).nodup,
    member?_sortMembers, member?_eq_find?] at member
  exact List.mem_reverse.1 (OrderedMap.mem_of_find? member)

theorem insertSorted_of_greatest
    (greatest : ∀ other ∈ members, other.1 < name) :
    insertSorted name value members = members ++ [(name, value)] := by
  induction members with
  | nil => rfl
  | cons pair rest ih =>
      rw [List.forall_mem_cons] at greatest
      rw [insertSorted, if_neg greatest.1.ne', if_neg greatest.1.not_gt,
        ih greatest.2]
      rfl

theorem foldl_insertSorted (sorted : IsSorted (others ++ members)) :
    members.foldl (fun sorted pair => insertSorted pair.1 pair.2 sorted)
      others = others ++ members := by
  induction members generalizing others with
  | nil => simp
  | cons pair rest ih =>
      have greatest : ∀ other ∈ others, other.1 < pair.1 := by
        intro other member
        rw [IsSorted, List.map_append, List.pairwise_append] at sorted
        exact sorted.2.2 _ (List.mem_map_of_mem member) _ (by simp)
      rw [List.foldl_cons, insertSorted_of_greatest greatest, ih]
      · simp
      · simpa using sorted

/-- Sorted members stay as they are. -/
theorem IsSorted.sortMembers (sorted : IsSorted members) :
    sortMembers members = members :=
  foldl_insertSorted (show IsSorted ([] ++ members) from sorted)

/-! ### Values of trees -/

/-- Each element has a partner exactly if all of them have one at once. -/
theorem exists_forall₂_iff {α β : Type} {related : α → β → Prop}
    {elements : List α} : (∃ partners, List.Forall₂ related elements partners) ↔
      ∀ element ∈ elements, ∃ partner, related element partner := by
  induction elements with
  | nil => simp
  | cons element rest ih =>
      simp only [List.forall₂_cons_left_iff, List.forall_mem_cons, ← ih]
      constructor
      · rintro ⟨_, partner, others, first, remaining, rfl⟩
        exact ⟨⟨partner, first⟩, others, remaining⟩
      · rintro ⟨⟨partner, first⟩, others, remaining⟩
        exact ⟨_, partner, others, first, remaining, rfl⟩

variable {depth : Nat} {items : List Source} {values : List Json}
  {written : List (List Piece × Source)}

theorem ofItems?_eq_some_iff :
    ofItems? depth items = some values ↔
      List.Forall₂ (fun item value => ofSource? depth item = some value) items
        values := by
  induction items generalizing values with
  | nil =>
      rw [ofItems?, List.forall₂_nil_left_iff, Option.some.injEq, eq_comm]
  | cons item rest ih =>
      simp only [ofItems?, Option.bind_eq_bind, Option.bind_eq_some_iff,
        Option.pure_def, Option.some.injEq, List.forall₂_cons_left_iff, ih]
      constructor
      · rintro ⟨value, read, others, readOthers, rfl⟩
        exact ⟨value, others, read, readOthers, rfl⟩
      · rintro ⟨value, others, read, readOthers, rfl⟩
        exact ⟨value, read, others, readOthers, rfl⟩

theorem ofMembers?_eq_some_iff :
    ofMembers? depth written = some members ↔
      List.Forall₂ (fun member pair => Piece.text? member.1 = some pair.1 ∧
        ofSource? depth member.2 = some pair.2) written members := by
  induction written generalizing members with
  | nil =>
      rw [ofMembers?, List.forall₂_nil_left_iff, Option.some.injEq, eq_comm]
  | cons member rest ih =>
      obtain ⟨name, item⟩ := member
      simp only [ofMembers?, Option.bind_eq_bind, Option.bind_eq_some_iff,
        Option.pure_def, Option.some.injEq, List.forall₂_cons_left_iff, ih]
      constructor
      · rintro ⟨text, named, value, read, others, readOthers, rfl⟩
        exact ⟨(text, value), others, ⟨named, read⟩, readOthers, rfl⟩
      · rintro ⟨⟨text, value⟩, others, ⟨named, read⟩, readOthers, rfl⟩
        exact ⟨text, named, value, read, others, readOthers, rfl⟩

end Runbook.Json
