/-!
# Maps that keep the order of insertion

An ordered map is a list of pairs in which no key occurs twice.  Storing under
a new key appends the pair; storing under a present key replaces the value and
moves nothing; removing a key keeps the order of the others.
-/

namespace Runbook

namespace OrderedMap

def find? {α : Type} (key : String) : List (String × α) → Option α
  | [] => none
  | (name, value) :: rest => if name = key then some value else find? key rest

/-- Replace the value of the first pair with this key, or append a pair. -/
def store {α : Type} (key : String) (value : α) :
    List (String × α) → List (String × α)
  | [] => [(key, value)]
  | (name, old) :: rest =>
    if name = key then (key, value) :: rest
    else (name, old) :: store key value rest

/-- The keys after a store: the same ones, with a new key at the end. -/
theorem keys_store {α : Type} (key : String) (value : α)
    (pairs : List (String × α)) :
    (store key value pairs).map Prod.fst =
      if key ∈ pairs.map Prod.fst then pairs.map Prod.fst
      else pairs.map Prod.fst ++ [key] := by
  induction pairs with
  | nil => simp [store]
  | cons pair rest ih =>
    obtain ⟨name, old⟩ := pair
    by_cases same : name = key
    · simp [store, same]
    · have different : ¬ key = name := fun h => same h.symm
      simp only [store, same, if_false, List.map_cons, ih, List.mem_cons,
        different, false_or]
      split <;> simp

theorem nodup_keys_store {α : Type} {pairs : List (String × α)}
    (distinct : (pairs.map Prod.fst).Nodup) (key : String) (value : α) :
    ((store key value pairs).map Prod.fst).Nodup := by
  rw [keys_store]
  split
  · exact distinct
  · rename_i absent
    rw [List.nodup_append]
    refine ⟨distinct, by simp, ?_⟩
    intro name present other here same
    simp only [List.mem_singleton] at here
    exact absent (here ▸ same ▸ present)

def remove {α : Type} (key : String) :
    List (String × α) → List (String × α)
  | [] => []
  | (name, value) :: rest =>
    if name = key then rest else (name, value) :: remove key rest

theorem remove_sublist {α : Type} (key : String) (pairs : List (String × α)) :
    (remove key pairs).Sublist pairs := by
  induction pairs with
  | nil => exact List.Sublist.slnil
  | cons pair rest ih =>
    obtain ⟨name, value⟩ := pair
    simp only [remove]
    split
    · exact List.sublist_cons_self _ _
    · exact ih.cons_cons _

end OrderedMap

/-- Pairs of a key and a value in order of insertion, no key twice. -/
structure OrderedMap (α : Type) where
  entries : List (String × α)
  distinct : (entries.map Prod.fst).Nodup

namespace OrderedMap

variable {α β : Type}

def empty : OrderedMap α := ⟨[], List.nodup_nil⟩

instance : Inhabited (OrderedMap α) := ⟨empty⟩

instance [DecidableEq α] : DecidableEq (OrderedMap α) := fun left right =>
  if same : left.entries = right.entries then
    isTrue (by cases left; cases right; cases same; rfl)
  else isFalse fun h => same (h ▸ rfl)

def get? (map : OrderedMap α) (key : String) : Option α :=
  find? key map.entries

def contains (map : OrderedMap α) (key : String) : Bool :=
  (map.get? key).isSome

def insert (map : OrderedMap α) (key : String) (value : α) : OrderedMap α :=
  ⟨store key value map.entries, nodup_keys_store map.distinct key value⟩

/-- Remove a key; the order of the others stays. -/
def erase (map : OrderedMap α) (key : String) : OrderedMap α :=
  ⟨remove key map.entries,
    map.distinct.sublist ((remove_sublist key map.entries).map _)⟩

def insertAll (map : OrderedMap α) (pairs : List (String × α)) :
    OrderedMap α :=
  pairs.foldl (fun map pair => map.insert pair.1 pair.2) map

/-- The map of a list of pairs: a later pair replaces the value of an earlier
one with the same key. -/
def ofList (pairs : List (String × α)) : OrderedMap α :=
  empty.insertAll pairs

def keys (map : OrderedMap α) : List String :=
  map.entries.map Prod.fst

def size (map : OrderedMap α) : Nat :=
  map.entries.length

def mapValues (function : α → β) (map : OrderedMap α) : OrderedMap β :=
  ⟨map.entries.map fun pair => (pair.1, function pair.2), by
    have same : (map.entries.map fun pair => (pair.1, function pair.2)).map
        Prod.fst = map.entries.map Prod.fst := by
      simp [List.map_map, Function.comp_def]
    rw [same]
    exact map.distinct⟩

end OrderedMap

end Runbook
