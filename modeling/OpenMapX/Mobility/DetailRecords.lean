import Mathlib.Data.List.Nodup
import OpenMapX.Mobility.DetailStore

/-!
# The records of the detail store

A record is genuine if its token, its id and its deadline are those of one inventory
acquisition and its item is the acquired one or an enrichment made for that token. Merging
a snapshot with incoming records keeps one record of each id.
-/

namespace OpenMapX.Mobility.DetailRecords

open DetailStore List

variable {Item Id Scope : Type} [DecidableEq Id] (deps : StoreDeps Item Id Scope)

structure Acquisition (source record : Retained Item) : Prop where
  token : record.acquisitionToken = source.acquisitionToken
  id : recordId deps record = recordId deps source
  acquiredAt : record.acquiredAt = source.acquiredAt
  expiresAt : record.expiresAt = source.expiresAt

def Genuine (inventory : List (Retained Item)) (enrichments : List (Nat × Item))
    (record : Retained Item) : Prop :=
  ∃ source ∈ inventory, Acquisition deps source record ∧
    (record.item = source.item ∨ (record.acquisitionToken, record.item) ∈ enrichments)

/-- What the store has acquired: each token once, each record for the store's lifetime. -/
structure Acquired (config : StoreConfig) (clock nextToken : Nat)
    (inventory : List (Retained Item)) : Prop where
  fresh : ∀ source ∈ inventory, source.acquisitionToken < nextToken
  unique : ∀ first ∈ inventory, ∀ second ∈ inventory,
    first.acquisitionToken = second.acquisitionToken → first = second
  past : ∀ source ∈ inventory, source.acquiredAt ≤ clock
  life : ∀ source ∈ inventory, source.expiresAt = source.acquiredAt + config.ttlSeconds * 1000

omit [DecidableEq Id] in
theorem genuine_mono {inventory more enrichments further} (grown : inventory ⊆ more)
    (enriched : enrichments ⊆ further) {record}
    (genuine : Genuine deps inventory enrichments record) : Genuine deps more further record := by
  obtain ⟨source, member, acquisition, item⟩ := genuine
  exact ⟨source, grown member, acquisition, item.imp_right fun made => enriched made⟩

section

variable {config : StoreConfig} {clock nextToken : Nat} {inventory : List (Retained Item)}
  {enrichments : List (Nat × Item)} (acquired : Acquired config clock nextToken inventory)

include acquired

omit [DecidableEq Id] in
theorem same_acquisition {first second} (first_genuine : Genuine deps inventory enrichments first)
    (second_genuine : Genuine deps inventory enrichments second)
    (token : first.acquisitionToken = second.acquisitionToken) : Acquisition deps first second := by
  obtain ⟨source, member, own, _⟩ := first_genuine
  obtain ⟨source', member', own', _⟩ := second_genuine
  have one : source = source' := by
    apply acquired.unique source member source' member'
    rw [← own.token, ← own'.token]
    exact token
  subst one
  apply Acquisition.mk
  · exact token.symm
  · exact own'.id.trans own.id.symm
  · exact own'.acquiredAt.trans own.acquiredAt.symm
  · exact own'.expiresAt.trans own.expiresAt.symm

omit [DecidableEq Id] in
theorem genuine_past {record}
    (genuine : Genuine deps inventory enrichments record) : record.acquiredAt ≤ clock := by
  obtain ⟨source, member, own, _⟩ := genuine
  rw [own.acquiredAt]
  exact acquired.past source member

omit [DecidableEq Id] in
theorem expires_with {first second} (first_genuine : Genuine deps inventory enrichments first)
    (second_genuine : Genuine deps inventory enrichments second)
    (sooner : first.expiresAt ≤ second.expiresAt) : first.acquiredAt ≤ second.acquiredAt := by
  obtain ⟨source, member, own, _⟩ := first_genuine
  obtain ⟨source', member', own', _⟩ := second_genuine
  have life := acquired.life source member
  have life' := acquired.life source' member'
  rw [own.expiresAt, own'.expiresAt, life, life'] at sooner
  rw [own.acquiredAt, own'.acquiredAt]
  omega

end

variable {byId : List (Retained Item)}

theorem set_by_id_mem {record other}
    (member : other ∈ setById deps byId record) : other ∈ byId ∨ other = record := by
  unfold setById at member
  split at member
  · obtain ⟨old, old_member, same⟩ := mem_map.mp member
    split at same
    · exact Or.inr same.symm
    · rw [← same]
      exact Or.inl old_member
  · rcases mem_append.mp member with old | new
    · exact Or.inl old
    · exact Or.inr (mem_singleton.mp new)

theorem set_by_id_keeps (record : Retained Item) {id : Id}
    (there : (∃ old ∈ byId, recordId deps old = id) ∨ recordId deps record = id) :
    ∃ kept ∈ setById deps byId record, recordId deps kept = id := by
  unfold setById
  split
  · rename_i present
    rcases there with old_there | own
    · obtain ⟨old, member, own⟩ := old_there
      by_cases same : recordId deps old = recordId deps record
      · apply Exists.intro record
        apply And.intro
        · exact mem_map.mpr ⟨old, member, if_pos same⟩
        · rw [← same]
          exact own
      · apply Exists.intro old
        apply And.intro
        · exact mem_map.mpr ⟨old, member, if_neg same⟩
        · exact own
    · obtain ⟨old, member, same⟩ := any_eq_true.mp present
      apply Exists.intro record
      apply And.intro
      · exact mem_map.mpr ⟨old, member, if_pos (of_decide_eq_true same)⟩
      · exact own
  · rcases there with old_there | own
    · obtain ⟨old, member, own⟩ := old_there
      exact ⟨old, mem_append_left _ member, own⟩
    · exact ⟨record, by simp, own⟩

theorem set_by_id_ids (byId) (record : Retained Item) (distinct : (byId.map (recordId deps)).Nodup)
    : ((setById deps byId record).map (recordId deps)).Nodup := by
  unfold setById
  split
  · rw [map_map]
    have same : (recordId deps ∘ fun other : Retained Item =>
        if recordId deps other = recordId deps record then record else other) = recordId deps := by
      funext other
      simp only [Function.comp_apply]
      split
      · rename_i own
        exact own.symm
      · rfl
    rw [same]
    exact distinct
  · rename_i absent
    rw [map_append, nodup_append]
    apply And.intro distinct
    apply And.intro
    · simp
    · intro id member other own
      obtain ⟨old, old_member, named⟩ := mem_map.mp member
      rw [map_singleton, mem_singleton] at own
      rw [own, ← named]
      intro same
      apply absent
      exact any_eq_true.mpr ⟨old, old_member, decide_eq_true same⟩

theorem merge_by_id_snoc (records) (record : Retained Item) :
    mergeById deps (records ++ [record]) = setById deps (mergeById deps records) record := by
  simp [mergeById, foldl_append]

variable {records : List (Retained Item)}

theorem merge_by_id_mem : ∀ record ∈ mergeById deps records, record ∈ records := by
  induction records using reverseRecOn with
  | nil => simp [mergeById]
  | append_singleton earlier last ih =>
    intro record member
    rw [merge_by_id_snoc] at member
    rcases set_by_id_mem deps member with old | same
    · exact mem_append_left _ (ih record old)
    · simp [same]

theorem merge_by_id_keeps : ∀ record ∈ records, ∃ kept ∈ mergeById deps records,
      recordId deps kept = recordId deps record := by
  induction records using reverseRecOn with
  | nil => simp
  | append_singleton earlier last ih =>
    intro record member
    rw [merge_by_id_snoc]
    apply set_by_id_keeps
    rcases mem_append.mp member with old | same
    · exact Or.inl (ih record old)
    · exact Or.inr (by rw [mem_singleton.mp same])

theorem merge_by_id_ids (records) : ((mergeById deps records).map (recordId deps)).Nodup := by
  induction records using reverseRecOn with
  | nil => simp [mergeById]
  | append_singleton earlier last ih =>
    rw [merge_by_id_snoc]
    exact set_by_id_ids deps _ last ih

def InOrder (records : List (Retained Item)) : Prop :=
  records.Pairwise fun earlier later => earlier.acquiredAt ≤ later.acquiredAt

theorem set_by_id_in_order {record}
    (ordered : InOrder byId) (newest : ∀ other ∈ byId, other.acquiredAt ≤ record.acquiredAt)
    (replaces : ∀ other ∈ byId, recordId deps other = recordId deps record →
      other.acquiredAt = record.acquiredAt) : InOrder (setById deps byId record) := by
  unfold setById
  split
  · have moments : ∀ other ∈ byId,
        (if recordId deps other = recordId deps record then record else other).acquiredAt =
          other.acquiredAt := by
      intro other member
      split
      · rename_i own
        exact (replaces other member own).symm
      · rfl
    apply pairwise_map.mpr
    apply List.Pairwise.imp_of_mem _ ordered
    intro first second first_member second_member le
    rw [moments first first_member, moments second second_member]
    exact le
  · apply pairwise_append.mpr
    apply And.intro ordered
    apply And.intro (pairwise_singleton _ _)
    intro other member last own
    rw [mem_singleton.mp own]
    exact newest other member

theorem merge_by_id_distinct (ordered : InOrder records)
    (distinct : (records.map (recordId deps)).Nodup) : InOrder (mergeById deps records) := by
  induction records using reverseRecOn with
  | nil => exact List.Pairwise.nil
  | append_singleton before last ih =>
    rw [map_append, nodup_append] at distinct
    have parts := pairwise_append.mp ordered
    rw [merge_by_id_snoc]
    apply set_by_id_in_order deps (ih parts.1 distinct.1)
    · intro other member
      exact parts.2.2 other (merge_by_id_mem deps other member) last (by simp)
    · intro other member same
      exact absurd same (distinct.2.2 _
        (mem_map_of_mem (merge_by_id_mem deps other member)) _ (by simp))

theorem merge_by_id_in_order {earlier incoming} (ordered : InOrder earlier)
    (later : ∀ old ∈ earlier, ∀ new ∈ incoming, old.acquiredAt ≤ new.acquiredAt)
    (others : ∀ old ∈ earlier, ∀ new ∈ incoming, recordId deps old ≠ recordId deps new)
    (together : ∀ first ∈ incoming, ∀ second ∈ incoming, first.acquiredAt = second.acquiredAt)
    (distinct : (earlier.map (recordId deps)).Nodup) :
    InOrder (mergeById deps (earlier ++ incoming)) := by
  induction incoming using reverseRecOn with
  | nil =>
    rw [append_nil]
    exact merge_by_id_distinct deps ordered distinct
  | append_singleton before last ih =>
    have member_last : last ∈ before ++ [last] := by simp
    rw [← append_assoc, merge_by_id_snoc]
    apply set_by_id_in_order deps
    · apply ih
      · intro old old_member new new_member
        exact later old old_member new (mem_append_left _ new_member)
      · intro old old_member new new_member
        exact others old old_member new (mem_append_left _ new_member)
      · intro first first_member second second_member
        exact together first (mem_append_left _ first_member) second
          (mem_append_left _ second_member)
    · intro other member
      rcases mem_append.mp (merge_by_id_mem deps other member) with old | new
      · exact later other old last member_last
      · exact Nat.le_of_eq
          (together other (mem_append_left _ new) last member_last)
    · intro other member same
      rcases mem_append.mp (merge_by_id_mem deps other member) with old | new
      · exact absurd same (others other old last member_last)
      · exact together other (mem_append_left _ new) last member_last

variable {items : List (Retained Item)} {max : Nat}

omit [DecidableEq Id] in
theorem last_items_mem {record} (member : record ∈ lastItems max items) : record ∈ items := by
  unfold lastItems at member
  split at member
  · exact member
  · exact mem_of_mem_drop member

omit [DecidableEq Id] in
theorem last_items_all (fits : max = 0 ∨ items.length ≤ max) : lastItems max items = items := by
  unfold lastItems
  split
  · rfl
  · rename_i positive
    have none_dropped : items.length - max = 0 := by omega
    rw [none_dropped, drop_zero]

omit [DecidableEq Id] in
theorem last_items_full {max : Nat} {items : List (Retained Item)} (positive : max ≠ 0)
    (exceeds : max ≤ items.length) : (lastItems max items).length = max := by
  unfold lastItems
  rw [if_neg positive, length_drop]
  omega

omit [DecidableEq Id] in
theorem dropped_not_later (ordered : InOrder items) {dropped kept} (member : dropped ∈ items)
    (gone : dropped ∉ lastItems max items) (rest : kept ∈ lastItems max items) :
    dropped.acquiredAt ≤ kept.acquiredAt := by
  unfold lastItems at gone rest
  split at gone
  · exact absurd member gone
  · rename_i positive
    rw [if_neg positive] at rest
    rw [← take_append_drop (items.length - max) items] at member ordered
    have parts := pairwise_append.mp ordered
    rcases mem_append.mp member with front | back
    · exact parts.2.2 dropped front kept rest
    · exact absurd back gone

end OpenMapX.Mobility.DetailRecords
