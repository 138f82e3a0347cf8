import Runbook.OrderedMap

/-!
# Lookups in ordered maps

What is found in an ordered map after values are changed, stored or removed.
-/

namespace Runbook

namespace OrderedMap

variable {α β : Type}

theorem get?_mapValues (function : α → β) (map : OrderedMap α)
    (key : String) :
    (map.mapValues function).get? key = (map.get? key).map function := by
  obtain ⟨entries, distinct⟩ := map
  simp only [get?, mapValues]
  clear distinct
  induction entries with
  | nil => rfl
  | cons pair rest ih =>
      obtain ⟨name, value⟩ := pair
      simp only [List.map_cons, find?]
      split
      · rfl
      · exact ih

theorem find?_store (key name : String) (value : α)
    (pairs : List (String × α)) :
    find? name (store key value pairs) =
      if key = name then some value else find? name pairs := by
  induction pairs with
  | nil => rfl
  | cons pair rest ih =>
      obtain ⟨other, old⟩ := pair
      by_cases present : other = key
      · subst present
        simp only [store, if_true, find?]
        split <;> rfl
      · simp only [store, present, if_false, find?, ih]
        by_cases here : other = name
        · have different : key ≠ name := by
            rintro rfl
            exact present here
          simp [here, different]
        · simp [here]

theorem get?_insert (map : OrderedMap α) (key name : String) (value : α) :
    (map.insert key value).get? name =
      if key = name then some value else map.get? name :=
  find?_store key name value map.entries

theorem keys_insert (map : OrderedMap α) (key : String) (value : α) :
    (map.insert key value).keys =
      if key ∈ map.keys then map.keys else map.keys ++ [key] :=
  keys_store key value map.entries

theorem mem_of_find? {key : String} {value : α}
    {pairs : List (String × α)} (found : find? key pairs = some value) :
    (key, value) ∈ pairs := by
  induction pairs with
  | nil => cases found
  | cons pair rest ih =>
      obtain ⟨name, old⟩ := pair
      by_cases here : name = key
      · subst here
        simp only [find?, if_true, Option.some.injEq] at found
        exact found ▸ List.mem_cons_self
      · simp only [find?, here, if_false] at found
        exact List.mem_cons_of_mem _ (ih found)

theorem find?_eq_none_iff {key : String} {pairs : List (String × α)} :
    find? key pairs = none ↔ key ∉ pairs.map Prod.fst := by
  induction pairs with
  | nil => simp [find?]
  | cons pair rest ih =>
      obtain ⟨name, value⟩ := pair
      by_cases here : name = key
      · simp [find?, here]
      · have different : ¬ key = name := fun same => here same.symm
        simp [find?, here, different, ih]

/-- A key that is removed from pairs whose keys are distinct is gone. -/
theorem find?_remove {pairs : List (String × α)}
    (distinct : (pairs.map Prod.fst).Nodup) (key name : String) :
    find? name (remove key pairs) =
      if key = name then none else find? name pairs := by
  induction pairs with
  | nil => simp [remove, find?]
  | cons pair rest ih =>
      obtain ⟨other, value⟩ := pair
      rw [List.map_cons, List.nodup_cons] at distinct
      by_cases present : other = key
      · subst present
        rw [remove, if_pos rfl]
        by_cases here : other = name
        · subst here
          rw [if_pos rfl]
          exact find?_eq_none_iff.2 distinct.1
        · simp [find?, here]
      · simp only [remove, present, if_false, find?, ih distinct.2]
        by_cases here : other = name
        · have different : key ≠ name := by
            rintro rfl
            exact present here
          simp [here, different]
        · simp [here]

theorem get?_erase (map : OrderedMap α) (key name : String) :
    (map.erase key).get? name =
      if key = name then none else map.get? name :=
  find?_remove map.distinct key name

theorem mem_keys_iff {map : OrderedMap α} {key : String} :
    key ∈ map.keys ↔ ∃ value, map.get? key = some value := by
  have absent : map.get? key = none ↔ key ∉ map.keys := find?_eq_none_iff
  rw [← Option.ne_none_iff_exists', ne_eq, absent, Classical.not_not]

/-- What is stored under a key after pairs whose keys are distinct. -/
theorem get?_insertAll {pairs : List (String × α)}
    (distinct : (pairs.map Prod.fst).Nodup) (map : OrderedMap α)
    (name : String) :
    (map.insertAll pairs).get? name =
      (find? name pairs).or (map.get? name) := by
  unfold insertAll
  induction pairs generalizing map with
  | nil => rfl
  | cons pair rest ih =>
      obtain ⟨key, value⟩ := pair
      rw [List.map_cons, List.nodup_cons] at distinct
      rw [List.foldl_cons, ih distinct.2, get?_insert]
      by_cases here : key = name
      · subst here
        have absent : find? key rest = none :=
          find?_eq_none_iff.2 distinct.1
        simp [find?, absent]
      · simp [find?, here]

/-- Pairs are stored in order: new keys come at the end. -/
theorem keys_insertAll {pairs : List (String × α)}
    (distinct : (pairs.map Prod.fst).Nodup) (map : OrderedMap α) :
    (map.insertAll pairs).keys =
      map.keys ++ (pairs.map Prod.fst).filter (· ∉ map.keys) := by
  unfold insertAll
  induction pairs generalizing map with
  | nil => simp
  | cons pair rest ih =>
      obtain ⟨key, value⟩ := pair
      rw [List.map_cons, List.nodup_cons] at distinct
      rw [List.foldl_cons, ih distinct.2, keys_insert]
      by_cases present : key ∈ map.keys
      · simp [present]
      · have others : (rest.map Prod.fst).filter (· ∉ map.keys ++ [key]) =
            (rest.map Prod.fst).filter (· ∉ map.keys) := by
          apply List.filter_congr
          intro name member
          have different : name ≠ key := by
            rintro rfl
            exact distinct.1 member
          simp [different]
        simp only [present, if_false, others]
        simp [present]

/-- A key has a value exactly if it is paired with it, since no key occurs
twice. -/
theorem find?_eq_some_iff {key : String} {value : α}
    {pairs : List (String × α)} (distinct : (pairs.map Prod.fst).Nodup) :
    find? key pairs = some value ↔ (key, value) ∈ pairs := by
  refine ⟨mem_of_find?, fun member => ?_⟩
  induction pairs with
  | nil => cases member
  | cons pair rest ih =>
      obtain ⟨name, held⟩ := pair
      rw [List.map_cons, List.nodup_cons] at distinct
      rcases List.mem_cons.1 member with same | later
      · cases same
        exact if_pos rfl
      · have different : name ≠ key := by
          rintro rfl
          exact distinct.1 (List.mem_map.2 ⟨_, later, rfl⟩)
        exact (if_neg different).trans (ih distinct.2 later)

theorem get?_ofList {pairs : List (String × α)}
    (distinct : (pairs.map Prod.fst).Nodup) (name : String) :
    (ofList pairs).get? name = find? name pairs := by
  rw [ofList, get?_insertAll distinct]
  exact Option.or_none

theorem mem_store {key : String} {value : α} {pair : String × α}
    {pairs : List (String × α)} (member : pair ∈ store key value pairs) :
    pair = (key, value) ∨ pair ∈ pairs := by
  induction pairs with
  | nil => simpa [store] using member
  | cons first rest ih =>
      obtain ⟨name, old⟩ := first
      rw [store] at member
      split at member
      · rcases List.mem_cons.1 member with here | later
        · exact .inl here
        · exact .inr (List.mem_cons_of_mem _ later)
      · rcases List.mem_cons.1 member with here | later
        · exact .inr (List.mem_cons.2 (.inl here))
        · exact (ih later).imp_right (List.mem_cons_of_mem _)

/-- A map of a list of pairs holds no other ones. -/
theorem mem_of_mem_ofList {pair : String × α} {pairs : List (String × α)}
    (member : pair ∈ (ofList pairs).entries) : pair ∈ pairs := by
  suffices inserted : ∀ map : OrderedMap α,
      pair ∈ (map.insertAll pairs).entries →
        pair ∈ map.entries ∨ pair ∈ pairs from
    (inserted empty member).resolve_left (by simp [empty])
  clear member
  induction pairs with
  | nil => exact fun map member => .inl member
  | cons first rest ih =>
      intro map member
      rcases ih _ member with stored | later
      · rcases mem_store stored with here | before
        · exact .inr (List.mem_cons.2 (.inl here))
        · exact .inl before
      · exact .inr (List.mem_cons_of_mem _ later)

theorem find?_filterMap (function : α → Option β) {pairs : List (String × α)}
    (distinct : (pairs.map Prod.fst).Nodup) (key : String) :
    find? key (pairs.filterMap fun pair =>
        (function pair.2).map fun value => (pair.1, value)) =
      (find? key pairs).bind function := by
  induction pairs with
  | nil => rfl
  | cons pair rest ih =>
      obtain ⟨name, value⟩ := pair
      rw [List.map_cons, List.nodup_cons] at distinct
      have others := ih distinct.2
      by_cases here : name = key
      · subst here
        have absent : find? name rest = none :=
          find?_eq_none_iff.2 distinct.1
        rw [absent] at others
        cases found : function value <;> simp_all [find?]
      · cases found : function value <;> simp_all [find?]

end OrderedMap

end Runbook
