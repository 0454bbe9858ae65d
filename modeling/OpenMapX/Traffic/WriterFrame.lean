import OpenMapX.Traffic.WrittenRanges

/-!
# What the writer leaves alone

A call writes whole records of listed tiles and their times of update, and no other byte of
the file, if and only if the indexes that it computes offsets from are whole numbers. The
entries of the identity list are only checked to be finite, those of the journal to be whole.
-/

namespace OpenMapX.Traffic.WriterFrame

open Foundation.FileBytes Foundation.JsonValue TrafficSpeed TarIndex TarLayout WriteLive
  PlannedWrites WrittenRanges List

theorem clear_record_length {record} (length : record.length = 8) :
    (clearRecord record).length = 8 := by
  unfold clearRecord
  split
  · exact encode_length none
  · exact length

theorem flat_map_records {records : List (List UInt8)}
    (lengths : ∀ record ∈ records, record.length = 8) :
    (records.flatMap clearRecord).length = 8 * records.length := by
  induction records with
  | nil => rfl
  | cons first rest ih =>
    rw [forall_mem_cons] at lengths
    rw [flatMap_cons, length_append, clear_record_length lengths.1, ih lengths.2,
      length_cons]
    omega

theorem clear_block_allowed {tar : ByteFile} {map : IndexMap} {tileId : Nat} {entry : TileEntry}
    (listed : (tileId, entry) ∈ map) {block : Nat}
    (begins : RECORDS_PER_BLOCK * block < entry.directedEdgeCount) :
    ∀ op ∈ clearBlock tar entry block, AllowedOp map op := by
  intro op member
  unfold clearBlock at member
  dsimp only at member
  split at member
  · rw [mem_singleton.mp member]
    refine ⟨_, rfl, ?_⟩
    rw [flat_map_records (by
      intro record inside
      obtain ⟨i, _, same⟩ := mem_map.mp inside
      rw [← same]
      exact read_length _ _ _), length_map, length_range]
    apply AllowedRange.records listed
    · apply lt_min
      · exact Nat.lt_of_sub_eq_succ rfl
      · omega
    · omega
  · cases member

theorem clear_ops_allowed {tar map} {clearAll : Bool} :
    ∀ op ∈ clearOps tar map clearAll, AllowedOp map op := by
  intro op member
  unfold clearOps at member
  split at member
  · obtain ⟨⟨tileId, entry⟩, listed, own⟩ := mem_flatMap.mp member
    obtain ⟨block, block_member, own⟩ := mem_flatMap.mp own
    apply clear_block_allowed listed _ op own
    have bound := mem_range.mp block_member
    dsimp only [RECORDS_PER_BLOCK] at bound ⊢
    omega
  · cases member

theorem stamps_allowed {map} {stampNow : Nat} {dataOffsets}
    (tiles : ∀ offset ∈ dataOffsets, ∃ tileId entry, (tileId, entry) ∈ map ∧
      entry.dataOffset = offset) : ∀ op ∈ stampTiles stampNow dataOffsets, AllowedOp map op := by
  intro op member
  obtain ⟨offset, offset_member, same⟩ := mem_map.mp member
  obtain ⟨tileId, entry, listed, own⟩ := tiles offset offset_member
  rw [← same]
  refine ⟨_, rfl, ?_⟩
  rw [little_endian_length, ← own]
  exact AllowedRange.lastUpdate listed

theorem commit_ops_allowed {map around written pending} (resolved : ∀ write ∈ written,
      resolveIdentityOffset map write.offset.identity = .ok (.found write.offset)) :
    ∀ op ∈ commitOps around written pending, AllowedOp map op := by
  intro op member
  rcases mem_append.mp member with stamp | saved
  · apply stamps_allowed _ op stamp
    intro offset offset_member
    obtain ⟨write, write_member, same⟩ := mem_map.mp (mem_eraseDups.mp offset_member)
    obtain ⟨_, _, entry, listed, _, _, shape⟩ := resolved_found (resolved write write_member)
    obtain ⟨tileId, entry_member, _⟩ := get_tile_some listed
    refine ⟨tileId, entry, entry_member, ?_⟩
    rw [← same, shape]
  · simp only [mem_cons, not_mem_nil, or_false] at saved
    rcases saved with same | same | same
    · rw [same]
      trivial
    · rw [same]
      trivial
    · rw [same]
      trivial

theorem mem_clear_stale {map written} {op : FileOp} (previous : List EdgeIdentity) :
    op ∈ (clearStale map written previous).1 ↔
      ∃ id ∈ previous.takeWhile fun id => decide (id ∈ written) || hasKey id, id ∉ written ∧
        ∃ offset, resolveIdentityOffset map id = .ok (.found offset) ∧
          op = .tarWrite offset.recordOffset clearedRecord := by
  induction previous with
  | nil => simp [clearStale]
  | cons id rest ih =>
    unfold clearStale
    by_cases again : id ∈ written
    · rw [if_pos again, takeWhile_cons, if_pos (by simp [again]), ih]
      simp only [mem_cons, exists_eq_or_imp]
      simp [again]
    · rw [if_neg again, takeWhile_cons]
      have key := @resolve_ok_iff map id
      cases resolved : resolveIdentityOffset map id with
      | error message =>
        rw [resolved] at key
        have none : hasKey id = false := by simpa using key
        simp [again, none]
      | ok resolution =>
        rw [resolved] at key
        have named : hasKey id = true := key.mp ⟨_, rfl⟩
        rw [if_pos (by simp [named])]
        simp only [mem_cons, exists_eq_or_imp]
        cases resolution with
        | missingTile =>
          dsimp only
          rw [ih]
          simp [resolved]
        | outOfBounds =>
          dsimp only
          rw [ih]
          simp [resolved]
        | found offset =>
          dsimp only
          rw [mem_cons, ih]
          simp [resolved, again]

section

variable (toNumber : List Char → Option ℚ)
  (digest : Nat × Nat × Option String × IndexMap → String)

structure Ready (deps : WriteLiveTrafficDeps) (around : Surroundings) (disk : Disk)
    (map : IndexMap) (requested : ℤ) : Prop where
  free : around.maintenance = false
  index : parseIndexBin disk.tar = .ok map
  keys : KeysWhole toNumber deps
  deadline : requestedDeadline deps around = some requested
  unchanged : around.graphChanged = false

variable {toNumber} {digest} {deps : WriteLiveTrafficDeps} {around : Surroundings} {disk : Disk}

theorem locked_ready {map} {requested : ℤ} (ready : Ready toNumber deps around disk map requested) :
    ∃ planning, planAll toNumber deps map = .ok planning ∧
      writeLiveTrafficLocked toNumber digest deps around disk =
        writeAll deps around disk map (generationOf digest deps.graphGeneration disk map) planning
          (deadlineOf around requested) := by
  obtain ⟨planning, planned⟩ := (@plan_ok_iff toNumber deps map).mpr ready.keys
  refine ⟨planning, planned, ?_⟩
  unfold writeLiveTrafficLocked
  simp only [ready.free, ready.index, planned, ready.deadline, ready.unchanged,
    Bool.false_eq_true, if_false]

theorem locked_not_ready
    (not_ready : ∀ map requested, ¬Ready toNumber deps around disk map requested) :
    ∃ message, writeLiveTrafficLocked toNumber digest deps around disk = ([], .error message) := by
  unfold writeLiveTrafficLocked
  split
  · exact ⟨_, rfl⟩
  · rename_i free
    split
    · exact ⟨_, rfl⟩
    · rename_i map index
      split
      · exact ⟨_, rfl⟩
      · rename_i planning planned
        split
        · exact ⟨_, rfl⟩
        · rename_i requested deadline
          split
          · exact ⟨_, rfl⟩
          · rename_i unchanged
            apply absurd _ (not_ready map requested)
            apply Ready.mk
            · exact Bool.eq_false_of_not_eq_true free
            · exact index
            · exact plan_ok_iff.mp ⟨planning, planned⟩
            · exact deadline
            · exact Bool.eq_false_of_not_eq_true unchanged

/-- Each written range is allowed by the index, and at each point of the operations the other
bytes and the size of the file are as they were. -/
structure Undamaged (disk : Disk) (ops : List FileOp) : Prop where
  ranges : ∀ range ∈ writtenRanges ⟨disk, 0⟩ ops, ∃ map, parseIndexBin disk.tar = .ok map ∧
    AllowedRange map range.1 range.2
  others : ∀ done, done <+: ops → (applyOps ⟨disk, 0⟩ done).disk.tar.size = disk.tar.size ∧
    ∀ p, Outside (writtenRanges ⟨disk, 0⟩ done) p →
      (applyOps ⟨disk, 0⟩ done).disk.tar.byte p = disk.tar.byte p

theorem undamaged_iff {map} (index : parseIndexBin disk.tar = .ok map)
    (ops : List FileOp) : Undamaged disk ops ↔ ∀ op ∈ ops, AllowedOp map op := by
  obtain ⟨size, _, layout⟩ := parse_index_layout index
  have allowed := @ranges_allowed_iff _ _ _ layout ops ⟨disk, 0⟩ rfl
  constructor
  · intro undamaged
    apply allowed.mp
    intro range member
    obtain ⟨found, found_eq, own⟩ := undamaged.ranges range member
    rw [index] at found_eq
    cases found_eq
    exact own
  · intro each
    have ranges := allowed.mpr each
    apply Undamaged.mk
    · intro range member
      exact ⟨map, index, ranges range member⟩
    · intro done before
      apply And.intro
      · apply apply_ops_size
        intro range member
        apply allowed_inside layout
        apply ranges
        obtain ⟨rest, same⟩ := before
        rw [← same, written_ranges_append]
        exact mem_append_left _ member
      · intro p outside
        exact apply_ops_outside done outside

variable (toNumber) (digest) (deps) (around) (disk)

def clearable (map : IndexMap) : List EdgeIdentity :=
  (priorIdentities disk around.journalNow
    (generationOf digest deps.graphGeneration disk map)).1.getD []

/-- Whatever a call computes an offset from has a whole index: the edges of the rows' ways and
of the closures, unless the deadline has passed, and the identities to clear, up to the first
that names no tile. -/
def WholeIndexes : Prop :=
  ∀ map requested, Ready toNumber deps around disk map requested →
    (¬deadlineOf around requested ≤ around.writeNow → ∀ id,
      RowTarget deps map ((dataLines deps.csv).filterMap (parseRow toNumber)) id ∨
        ClosureTarget map deps.overrides id → id.index.den = 1) ∧
    ∀ id ∈ (clearable digest deps around disk map).takeWhile hasKey,
      (∃ offset, resolveIdentityOffset map id = .ok (.found offset)) → id.index.den = 1

variable {toNumber} {digest} {deps} {around} {disk}

theorem found_has_key {map id offset}
    (resolved : resolveIdentityOffset map id = .ok (.found offset)) : hasKey id = true :=
  resolve_ok_iff.mp ⟨_, resolved⟩

theorem write_all_allowed_iff {map : IndexMap} {generation : String} {planning : Planning}
    {validUntil : ℤ} {size : Nat} (layout : Layout disk.tar size map)
    (ok : PlanOk map planning.planned) :
    (∀ op ∈ (writeAll deps around disk map generation planning validUntil).1, AllowedOp map op) ↔
      (∀ write ∈ writtenOf around planning.planned validUntil,
        write.offset.identity.index.den = 1) ∧
      ∀ id ∈ ((priorIdentities disk around.journalNow generation).1.getD []).takeWhile hasKey,
        (∃ offset, resolveIdentityOffset map id = .ok (.found offset)) → id.index.den = 1 := by
  let written := writtenOf around planning.planned validUntil
  let previous := (priorIdentities disk around.journalNow generation).1.getD []
  let stale := clearStale map (identitiesOf written) previous
  have resolved : ∀ write ∈ written,
      resolveIdentityOffset map write.offset.identity = .ok (.found write.offset) := by
    intro write member
    apply ok.resolved
    dsimp only [written, writtenOf] at member
    split at member
    · cases member
    · exact member
  have record (write : PlannedWrite) (member : write ∈ written) :
      AllowedOp map (writePlanned write) ↔ write.offset.identity.index.den = 1 := by
    apply record_allowed_iff layout _ (resolved write member)
    unfold recordFor
    split
    · exact encode_closed_length
    · exact encode_length _
  have named (id : EdgeIdentity) (member : id ∈ identitiesOf written) : hasKey id = true := by
    obtain ⟨write, write_member, same⟩ := mem_map.mp member
    rw [← same]
    exact found_has_key (resolved write write_member)
  have reached : (fun id => decide (id ∈ identitiesOf written) || hasKey id) = hasKey := by
    funext id
    by_cases member : id ∈ identitiesOf written
    · simp [named id member]
    · simp [member]
  have stale_ops := @mem_clear_stale map (identitiesOf written)
  have begun : (∀ op ∈ (writeAll deps around disk map generation planning validUntil).1,
      AllowedOp map op) ↔
        (∀ write ∈ written, AllowedOp map (writePlanned write)) ∧
          ∀ op ∈ stale.1, AllowedOp map op := by
    have opening (rest : List FileOp) (finished : ∀ op ∈ rest, AllowedOp map op) :
        (∀ op ∈ FileOp.saveJournal (pendingJournal generation
            (priorIdentities disk around.journalNow generation) planning.planned validUntil) ::
          (clearOps disk.tar map (priorIdentities disk around.journalNow generation).2 ++
            written.map writePlanned ++ stale.1) ++ rest, AllowedOp map op) ↔
          (∀ write ∈ written, AllowedOp map (writePlanned write)) ∧
            ∀ op ∈ stale.1, AllowedOp map op := by
      simp only [forall_mem_append, forall_mem_cons, forall_mem_map]
      constructor
      · intro each
        exact And.intro each.1.2.1.2 each.1.2.2
      · intro each
        exact ⟨⟨trivial, ⟨clear_ops_allowed, each.1⟩, each.2⟩, finished⟩
    unfold writeAll
    dsimp only
    cases failure : (clearStale map (identitiesOf (writtenOf around planning.planned validUntil))
        ((priorIdentities disk around.journalNow generation).1.getD [])).2 with
    | some message =>
      have alone := opening [] (fun _ member => by cases member)
      rw [append_nil] at alone
      exact alone
    | none => exact opening _ (commit_ops_allowed resolved)
  rw [begun]
  constructor
  · rintro ⟨planned, cleared⟩
    have whole : ∀ write ∈ written, write.offset.identity.index.den = 1 := by
      intro write member
      exact (record write member).mp (planned write member)
    apply And.intro whole
    rintro id member ⟨offset, found⟩
    by_cases again : id ∈ identitiesOf written
    · obtain ⟨write, write_member, same⟩ := mem_map.mp again
      rw [← same]
      exact whole write write_member
    · apply (record_allowed_iff layout (encode_length none) found).mp
      apply cleared
      apply (stale_ops previous).mpr
      rw [reached]
      exact ⟨id, member, again, offset, found, rfl⟩
  · rintro ⟨planned, cleared⟩
    apply And.intro
    · intro write member
      exact (record write member).mpr (planned write member)
    · intro op member
      obtain ⟨id, id_member, _, offset, found, same⟩ := (stale_ops previous).mp member
      rw [reached] at id_member
      rw [same]
      exact (record_allowed_iff layout (encode_length none) found).mpr
        (cleared id id_member ⟨offset, found⟩)

/-- A call leaves everything but whole records and times of update alone if and only if it
computes no offset from an index that is not whole. -/
theorem tar_undamaged_iff (toNumber : List Char → Option ℚ)
    (digest : Nat × Nat × Option String × IndexMap → String) (deps : WriteLiveTrafficDeps)
    (around : Surroundings) (disk : Disk) :
    Undamaged disk (writeLiveTrafficLocked toNumber digest deps around disk).1 ↔
      WholeIndexes toNumber digest deps around disk := by
  by_cases gets : ∃ map requested, Ready toNumber deps around disk map requested
  · obtain ⟨map, requested, ready⟩ := gets
    obtain ⟨planning, planned, ops⟩ := @locked_ready toNumber digest _ _ _ _ _ ready
    obtain ⟨size, _, layout⟩ := parse_index_layout ready.index
    obtain ⟨ok, targets⟩ := plan_identities planned
    rw [ops, undamaged_iff ready.index, write_all_allowed_iff layout ok]
    have due : (∀ write ∈ writtenOf around planning.planned (deadlineOf around requested),
        write.offset.identity.index.den = 1) ↔
          (¬deadlineOf around requested ≤ around.writeNow → ∀ id,
            RowTarget deps map ((dataLines deps.csv).filterMap (parseRow toNumber)) id ∨
              ClosureTarget map deps.overrides id → id.index.den = 1) := by
      unfold writtenOf
      split
      · rename_i passed
        simp [passed]
      · rename_i open_still
        simp only [open_still, not_false_eq_true, true_implies, ← targets]
        simp [identitiesOf, plannedEdge]
    rw [due]
    constructor
    · intro whole other_map other_requested other
      have same_map := ready.index.symm.trans other.index
      have same_deadline := ready.deadline.symm.trans other.deadline
      cases same_map
      cases same_deadline
      exact whole
    · intro whole
      exact whole map requested ready
  · have never : ∀ map requested, ¬Ready toNumber deps around disk map requested := by
      intro map requested ready
      exact gets ⟨map, requested, ready⟩
    obtain ⟨message, stopped⟩ := @locked_not_ready toNumber digest deps around disk never
    rw [stopped]
    constructor
    · intro _ map requested ready
      exact absurd ready (never map requested)
    · intro _
      apply Undamaged.mk
      · intro range member
        cases member
      · intro done before
        rw [prefix_nil.mp before]
        exact And.intro rfl (fun _ _ => rfl)

end

def smallTar : ByteFile where
  size := 3072
  byte := fun p =>
    if p < 9 then [105, 110, 100, 101, 120, 46, 98, 105, 110].getD p 0
    else if 124 ≤ p ∧ p < 133 then 48
    else
      match p with
      | 133 => 50
      | 134 => 48
      | 513 => 6
      | 524 => 40
      | 1552 => 1
      | 1556 => 3
      | _ => 0

def smallMap : IndexMap := [(0, ⟨1536, 1⟩)]

def halfIdentity : EdgeIdentity := ⟨0, 0, 1 / 2⟩

def halfDisk : Disk where
  tar := smallTar
  tarIdentity := 0
  state := .text (some (.array [identityJson halfIdentity]))
  journal := .missing

def aroundAt (now : Nat) : Surroundings := ⟨false, false, now, now, now, now, now⟩

theorem small_map_index : parseIndexBin smallTar = .ok smallMap := by
  decide +kernel

theorem half_index_damages : ¬Undamaged halfDisk
      (writeLiveTrafficLocked (fun _ => none) (fun _ => "generation") expireDeps (aroundAt 0)
        halfDisk).1 := by
  have ready : Ready (fun _ => none) expireDeps (aroundAt 0) halfDisk smallMap
      TRAFFIC_LEASE_MAX_MS := by
    apply Ready.mk
    · rfl
    · exact small_map_index
    · exact KeysWhole.mk (by decide) (by decide)
    · rfl
    · rfl
  obtain ⟨planning, planned, ops⟩ := @locked_ready _ (fun _ => "generation") _ _ _ _ _ ready
  obtain ⟨size, _, layout⟩ := parse_index_layout ready.index
  rw [ops, undamaged_iff ready.index, write_all_allowed_iff layout (plan_identities planned).1]
  intro whole
  have listed : halfIdentity ∈ ((priorIdentities halfDisk 0 "generation").1.getD []).takeWhile
      hasKey := by
    decide +kernel
  have half := whole.2 halfIdentity listed ⟨⟨1572, 1536, halfIdentity⟩, by
    decide +kernel⟩
  exact absurd half (by decide +kernel)

end OpenMapX.Traffic.WriterFrame
