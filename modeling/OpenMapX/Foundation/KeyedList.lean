import Mathlib.Data.List.Nodup

/-!
# Lists with a key

A list whose items have a key stands for a map in the order of insertion: setting an item puts
it in the place of the one with its key, or at the end.
-/

namespace OpenMapX.Foundation.KeyedList

open List

variable {Item Key : Type*} [DecidableEq Key] (key : Item → Key)

def findKey (items : List Item) (id : Key) : Option Item := items.find? fun item => key item = id

def setKey (items : List Item) (new : Item) : List Item :=
  if items.any fun other => key other = key new then
    items.map fun other => if key other = key new then new else other
  else items ++ [new]

variable {key} {items : List Item} {new : Item}

theorem mem_set_key {item : Item} (member : item ∈ setKey key items new) :
    item = new ∨ (item ∈ items ∧ key item ≠ key new) := by
  unfold setKey at member
  split at member
  · obtain ⟨other, other_member, same⟩ := mem_map.mp member
    split at same
    · exact Or.inl same.symm
    · rename_i differs
      rw [← same]
      exact Or.inr (And.intro other_member differs)
  · rename_i fresh
    rcases mem_append.mp member with old | last
    · apply Or.inr
      apply And.intro old
      intro same
      apply fresh
      exact any_eq_true.mpr ⟨item, old, decide_eq_true same⟩
    · exact Or.inl (mem_singleton.mp last)

theorem set_key_keys (items : List Item) (new : Item) : (setKey key items new).map key =
      if key new ∈ items.map key then items.map key else items.map key ++ [key new] := by
  have known : (items.any fun other => decide (key other = key new)) = true ↔
      key new ∈ items.map key := by
    simp
  unfold setKey
  by_cases there : key new ∈ items.map key
  · rw [if_pos (known.mpr there), if_pos there, map_map]
    apply map_congr_left
    intro other member
    rw [Function.comp_apply]
    split
    · rename_i same
      exact same.symm
    · rfl
  · rw [if_neg (fun found => there (known.mp found)), if_neg there]
    simp

theorem mem_set_keys {id : Key} :
    id ∈ (setKey key items new).map key ↔ id ∈ items.map key ∨ id = key new := by
  rw [set_key_keys]
  split
  · rename_i there
    constructor
    · exact Or.inl
    · intro either
      rcases either with old | same
      · exact old
      · rw [same]
        exact there
  · simp

theorem set_key_nodup (distinct : (items.map key).Nodup) :
    ((setKey key items new).map key).Nodup := by
  rw [set_key_keys]
  split
  · exact distinct
  · rename_i fresh
    rw [nodup_append]
    refine ⟨distinct, by simp, ?_⟩
    intro id old other new_id same
    rw [mem_singleton] at new_id
    rw [same, new_id] at old
    exact fresh old

theorem find_key_mem {id : Key} {item : Item} (found : findKey key items id = some item) :
    item ∈ items ∧ key item = id :=
  And.intro (mem_of_find?_eq_some found) (by simpa using find?_some found)

theorem find_key_cons (first : Item) (rest : List Item) (id : Key) :
    findKey key (first :: rest) id = if key first = id then some first else findKey key rest id := by
  unfold findKey
  rw [find?_cons]
  by_cases same : key first = id
  · rw [if_pos same, decide_eq_true same]
  · rw [if_neg same, decide_eq_false same]

theorem find_key_none {id : Key} : findKey key items id = none ↔ id ∉ items.map key := by
  simp [findKey]

theorem find_key_of_mem (distinct : (items.map key).Nodup) {item : Item} (member : item ∈ items) :
    findKey key items (key item) = some item := by
  induction items with
  | nil => cases member
  | cons first rest ih =>
    rw [map_cons, nodup_cons] at distinct
    rw [find_key_cons]
    rcases mem_cons.mp member with same | later
    · rw [same, if_pos rfl]
    · have other : key first ≠ key item := by
        intro same
        apply distinct.1
        rw [same]
        exact mem_map_of_mem later
      rw [if_neg other]
      exact ih distinct.2 later

theorem find_set_key (items : List Item) (new : Item) (id : Key) :
    findKey key (setKey key items new) id =
      if id = key new then some new else findKey key items id := by
  -- replacing an item keeps its key
  have congruent : ((fun item => decide (key item = id)) ∘
      fun other => if key other = key new then new else other) =
        fun item => decide (key item = id) := by
    funext item
    rw [Function.comp_apply]
    split
    · rename_i same
      rw [same]
    · rfl
  unfold setKey
  split
  · rename_i known
    rw [findKey, find?_map, congruent]
    by_cases own : id = key new
    · rw [if_pos own]
      obtain ⟨other, other_member, same⟩ := any_eq_true.mp known
      have present : (items.find? fun item => key item = id).isSome = true := by
        rw [find?_isSome]
        exact ⟨other, other_member, by rw [own]; exact same⟩
      obtain ⟨found, found_eq⟩ := Option.isSome_iff_exists.mp present
      have found_id : key found = id := by simpa using find?_some found_eq
      rw [found_eq, Option.map_some, if_pos (found_id.trans own)]
    · rw [if_neg own]
      cases found_eq : items.find? fun item => key item = id with
      | none => simp [findKey, found_eq]
      | some found =>
        have found_id : key found = id := by simpa using find?_some found_eq
        have other : key found ≠ key new := by
          rw [found_id]
          exact own
        rw [Option.map_some, if_neg other, findKey, found_eq]
  · rename_i fresh
    rw [findKey, find?_append]
    by_cases own : id = key new
    · rw [if_pos own]
      have absent : (items.find? fun item => key item = id) = none := by
        rw [find?_eq_none]
        intro item member same
        apply fresh
        rw [own] at same
        exact any_eq_true.mpr ⟨item, member, same⟩
      rw [absent, own]
      simp
    · rw [if_neg own]
      have differs : decide (key new = id) = false := decide_eq_false (fun same => own same.symm)
      simp [findKey, differs]

end OpenMapX.Foundation.KeyedList
