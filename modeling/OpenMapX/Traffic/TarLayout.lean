import OpenMapX.Traffic.TarIndex

/-!
# The layout of an accepted tar

The tiles of an accepted index lie behind the index, inside the file, on whole words and
apart from each other, and what the check reads is no record and no time of an update.
-/

namespace OpenMapX.Traffic.TarLayout

open Foundation.FileBytes TrafficSpeed TarIndex List

structure Placed (file : ByteFile) (size : Nat) (entry : Nat × TileEntry) : Prop where
  behind : minimumOffset size ≤ entry.2.dataOffset
  aligned : entry.2.dataOffset % USTAR_HEADER_SIZE = 0
  fits : (rangeOf entry.2).2 ≤ file.size
  header : tileHeaderValid file entry.2.dataOffset entry.1 entry.2.directedEdgeCount = true

def Apart (first second : TileEntry) : Prop :=
  (rangeOf first).2 ≤ second.dataOffset ∨ (rangeOf second).2 ≤ first.dataOffset

structure Layout (file : ByteFile) (size : Nat) (map : IndexMap) : Prop where
  placed : ∀ entry ∈ map, Placed file size entry
  keys : (map.map Prod.fst).Nodup
  apart : (map.map Prod.snd).Pairwise Apart

variable {file : ByteFile}

theorem parse_entry_placed {size base : Nat} {known entry}
    (parsed : parseEntry file size known base = .ok entry) :
    Placed file size entry ∧ entry.1 ∉ known.map Prod.fst := by
  unfold parseEntry at parsed
  dsimp only at parsed
  split at parsed
  · cases parsed
  · rename_i bounds
    split at parsed
    · cases parsed
    · rename_i header
      rw [Bool.not_eq_true, Bool.not_eq_false'] at bounds header
      unfold tileBoundsValid at bounds
      simp only [Bool.and_eq_true, decide_eq_true_eq, Bool.not_eq_true', any_eq_false] at bounds
      obtain ⟨⟨⟨⟨⟨⟨safe, behind⟩, aligned⟩, wide⟩, whole⟩, fits⟩, fresh⟩ := bounds
      cases parsed
      apply And.intro
      · apply Placed.mk
        · exact behind
        · exact aligned
        · have members := Nat.mul_div_cancel' (Nat.dvd_of_mod_eq_zero whole)
          dsimp only [rangeOf]
          omega
        · exact header
      · intro member
        obtain ⟨other, other_member, same⟩ := mem_map.mp member
        exact fresh other other_member same

theorem parse_entries_placed {size : Nat} (bases : List Nat) :
    ∀ {known map : IndexMap}, parseEntries file size bases known = .ok map →
      (∀ entry ∈ known, Placed file size entry) → (known.map Prod.fst).Nodup →
        (∀ entry ∈ map, Placed file size entry) ∧ (map.map Prod.fst).Nodup := by
  induction bases with
  | nil =>
    intro known map parsed placed distinct
    cases parsed
    exact And.intro placed distinct
  | cons base rest ih =>
    intro known map parsed placed distinct
    unfold parseEntries at parsed
    split at parsed
    · cases parsed
    · rename_i entry own
      have found := parse_entry_placed own
      apply ih parsed
      · exact forall_mem_append.mpr ⟨placed, forall_mem_singleton.mpr found.1⟩
      · rw [map_append, nodup_append]
        refine ⟨distinct, by simp, ?_⟩
        intro key old other new same
        rw [map_singleton, mem_singleton] at new
        rw [same, new] at old
        exact found.2 old

theorem not_overlapping {ranges} (free : overlapping ranges = false)
    (proper : ∀ range ∈ ranges, range.1 ≤ range.2) :
    ranges.Pairwise fun first second => first.2 ≤ second.1 := by
  induction ranges with
  | nil => exact List.Pairwise.nil
  | cons first rest ih =>
    cases rest with
    | nil => exact pairwise_singleton _ _
    | cons second rest =>
      rw [overlapping, Bool.or_eq_false_iff] at free
      have later := ih free.2 (fun range member => proper range (mem_cons_of_mem _ member))
      have next : first.2 ≤ second.1 := Nat.le_of_not_lt (of_decide_eq_false free.1)
      apply List.Pairwise.cons
      · intro range member
        rcases mem_cons.mp member with same | behind
        · rw [same]
          exact next
        · have second_proper := proper second (by simp)
          exact next.trans (second_proper.trans (rel_of_pairwise_cons later behind))
      · exact later

variable {map : IndexMap}

theorem parse_index_layout (parsed : parseIndexBin file = .ok map) :
    ∃ size : Nat, USTAR_HEADER_SIZE + size ≤ file.size ∧ Layout file size map := by
  unfold parseIndexBin at parsed
  split at parsed
  · cases parsed
  · split at parsed
    · cases parsed
    · rename_i size _
      split at parsed
      · cases parsed
      · rename_i accepted
        dsimp only at parsed
        split at parsed
        · cases parsed
        · rename_i found entries
          split at parsed
          · cases parsed
          · rename_i free
            cases parsed
            have placed := parse_entries_placed _ entries
              (fun _ member => by cases member) nodup_nil
            refine ⟨size.toNat, by omega, placed.1, placed.2, ?_⟩
            have sorted := not_overlapping (Bool.eq_false_of_not_eq_true free) (by
              intro range member
              obtain ⟨entry, _, same⟩ := mem_map.mp
                ((mergeSort_perm _ _).mem_iff.mp member)
              rw [← same]
              dsimp only [rangeOf]
              omega)
            have symmetric : ((map.map fun entry => rangeOf entry.2).mergeSort
                fun first second => first.1 ≤ second.1).Pairwise
                  fun first second => first.2 ≤ second.1 ∨ second.2 ≤ first.1 :=
              sorted.imp Or.inl
            have unsorted := (List.Perm.pairwise_iff (by
              intro first second either
              exact Or.symm either) (mergeSort_perm _ _)).mp symmetric
            rw [pairwise_map] at unsorted ⊢
            exact unsorted

theorem get_tile_some {key : ℤ} {entry}
    (found : getTile map key = some entry) : ∃ id : Nat, (id, entry) ∈ map ∧ (id : ℤ) = key := by
  obtain ⟨pair, found_pair, same⟩ := Option.map_eq_some_iff.mp found
  refine ⟨pair.1, ?_, ?_⟩
  · rw [← same]
    exact mem_of_find?_eq_some found_pair
  · simpa using find?_some found_pair

theorem get_tile_of_mem (keys : (map.map Prod.fst).Nodup) {id : Nat} {entry}
    (member : (id, entry) ∈ map) : getTile map id = some entry := by
  unfold getTile
  induction map with
  | nil => cases member
  | cons first rest ih =>
    rw [map_cons, nodup_cons] at keys
    rw [find?_cons]
    rcases mem_cons.mp member with same | later
    · rw [← same]
      simp
    · have other : first.1 ≠ id := by
        intro same
        apply keys.1
        rw [same]
        exact mem_map_of_mem later
      have differs : decide ((first.1 : ℤ) = (id : ℤ)) = false := by
        simpa using other
      rw [differs]
      exact ih keys.2 later

section

variable {id : EdgeIdentity} {offset : ResolvedOffset}
  (resolved : resolveIdentityOffset map id = .ok (.found offset))
include resolved

theorem resolved_found :
    ∃ key : ℤ, baseGraphId id = .ok key ∧ ∃ entry, getTile map key = some entry ∧
      0 ≤ id.index ∧ id.index < entry.directedEdgeCount ∧
        offset = ⟨entry.dataOffset + TRAFFIC_TILE_HEADER_SIZE +
          TRAFFIC_SPEED_RECORD_SIZE * id.index, entry.dataOffset, id⟩ := by
  unfold resolveIdentityOffset at resolved
  split at resolved
  · cases resolved
  · rename_i key based
    split at resolved
    · cases resolved
    · rename_i entry found
      split at resolved
      · cases resolved
      · rename_i inside
        cases resolved
        rw [not_or, not_lt, not_le] at inside
        exact ⟨key, based, entry, found, inside.1, inside.2, rfl⟩

theorem resolved_identity : offset.identity = id := by
  obtain ⟨_, _, _, _, _, _, shape⟩ := resolved_found resolved
  rw [shape]

end

end OpenMapX.Traffic.TarLayout
