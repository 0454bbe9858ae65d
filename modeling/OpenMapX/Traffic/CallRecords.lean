import OpenMapX.Traffic.RecordSlots

/-!
# The records after a call

A call that knows what may hold a live speed leaves exactly the records of its writes, and at
each point before its end no record holds a live speed that the call does not know of.
-/

namespace OpenMapX.Traffic.CallRecords

open Foundation.FileBytes Foundation.KeyedList TrafficSpeed TarIndex TarLayout WriteLive
  PlannedWrites WrittenRanges WriterFrame RecordSlots List

def Blank (record : List UInt8) : Prop := breakpointOf record = 0

theorem cleared_length : clearedRecord.length = 8 := encode_length none

theorem cleared_blank : Blank clearedRecord := breakpoint_cleared

theorem clear_record_blank (record : List UInt8) : Blank (clearRecord record) := by
  unfold clearRecord Blank
  split
  · exact breakpoint_cleared
  · rename_i blank
    exact not_not.mp blank

theorem clear_record_of_blank {record} (blank : Blank record) : clearRecord record = record :=
  if_neg (not_not.mpr blank)

theorem record_for_length (write : PlannedWrite) : (recordFor write).length = 8 := by
  unfold recordFor
  split
  · exact encode_closed_length
  · exact encode_length _

theorem record_for_blank_iff (write : PlannedWrite) :
    Blank (recordFor write) ↔ ¬(write.closed = true ∨ isUnknown write.kph = false) := by
  unfold Blank recordFor
  cases closed : write.closed with
  | true => simp [breakpoint_closed, WHOLE_EDGE_BREAKPOINT]
  | false =>
    cases unknown : isUnknown write.kph with
    | true => simp [breakpoint_unknown unknown]
    | false => simp [(known_record unknown).1, WHOLE_EDGE_BREAKPOINT]

section

variable {map : IndexMap} {file : ByteFile} {size : Nat}

theorem single_write (layout : Layout file size map) (slot : Slot map) {id} (formed : WellFormed id)
    {offset} (resolved : resolveIdentityOffset map id = .ok (.found offset)) {record}
    (length : record.length = 8) (handle : Handle) :
    recordAt (applyOp handle (.tarWrite offset.recordOffset record)).disk.tar slot =
      if identityOf slot = id then record else recordAt handle.disk.tar slot := by
  obtain ⟨target, target_id, start⟩ := resolved_slot formed resolved
  have lengths : ∀ one ∈ [record], one.length = 8 := by
    intro one member
    rw [mem_singleton.mp member]
    exact length
  have shape : FileOp.tarWrite offset.recordOffset record =
      recordsWrite target.entry target.index [record] := by
    unfold recordsWrite
    rw [start, flatten_singleton]
    rfl
  rw [shape]
  split
  · rename_i own
    have same := slot_unique layout (own.trans target_id.symm)
    rw [← same]
    exact records_write_own slot lengths (j := 0) Nat.one_pos rfl handle
  · rename_i other
    apply records_write_other layout slot target.listed lengths target.inside
    intro tile
    by_contra near
    rw [not_or, not_lt, not_le, length_singleton] at near
    apply other
    rw [← target_id]
    unfold identityOf
    have index : slot.index = target.index := by omega
    rw [tile, index]

def blockRecords (tar : ByteFile) (entry : TileEntry) (block : Nat) : List (List UInt8) :=
  (List.range (min RECORDS_PER_BLOCK (entry.directedEdgeCount - RECORDS_PER_BLOCK * block))).map
    fun i => read tar (recordsStart entry + TRAFFIC_SPEED_RECORD_SIZE * (RECORDS_PER_BLOCK * block) +
      TRAFFIC_SPEED_RECORD_SIZE * i) TRAFFIC_SPEED_RECORD_SIZE

section

variable (tar : ByteFile) (entry : TileEntry) (block : Nat)

theorem clear_block_eq : clearBlock tar entry block =
      if (blockRecords tar entry block).any fun record => breakpointOf record ≠ 0 then
        [recordsWrite entry (RECORDS_PER_BLOCK * block)
          ((blockRecords tar entry block).map clearRecord)] else [] := by
  unfold clearBlock recordsWrite
  dsimp only
  rw [flatMap_def]
  rfl

theorem cleared_lengths :
    ∀ record ∈ (blockRecords tar entry block).map clearRecord, record.length = 8 := by
  intro record member
  obtain ⟨old, old_member, same⟩ := mem_map.mp member
  obtain ⟨i, _, old_same⟩ := mem_map.mp old_member
  rw [← same]
  apply clear_record_length
  rw [← old_same]
  exact read_length _ _ _

end

theorem block_record (tar : ByteFile) (slot : Slot map) {block : Nat}
    (from_block : RECORDS_PER_BLOCK * block ≤ slot.index)
    (bound : slot.index - RECORDS_PER_BLOCK * block < (blockRecords tar slot.entry block).length) :
    (blockRecords tar slot.entry block)[slot.index - RECORDS_PER_BLOCK * block] =
      recordAt tar slot := by
  simp only [blockRecords, getElem_map, getElem_range]
  unfold recordAt slotStart
  congr 1
  dsimp only [TRAFFIC_SPEED_RECORD_SIZE]
  omega

theorem block_write_sets (slot : Slot map) (tar : ByteFile) {block : Nat}
    (from_block : RECORDS_PER_BLOCK * block ≤ slot.index)
    (in_block : slot.index < RECORDS_PER_BLOCK * block + RECORDS_PER_BLOCK)
    {P : List UInt8 → Prop} (cleared : P (clearRecord (recordAt tar slot))) :
    SetsRecord slot P (recordsWrite slot.entry (RECORDS_PER_BLOCK * block)
      ((blockRecords tar slot.entry block).map clearRecord)) := by
  intro handle
  have inside := slot.inside
  have bound : slot.index - RECORDS_PER_BLOCK * block <
      (blockRecords tar slot.entry block).length := by
    rw [blockRecords, length_map, length_range]
    omega
  have mapped : slot.index - RECORDS_PER_BLOCK * block <
      ((blockRecords tar slot.entry block).map clearRecord).length := by
    rw [length_map]
    exact bound
  rw [records_write_own slot (cleared_lengths tar slot.entry block) mapped (by omega) handle,
    getElem_map, block_record tar slot from_block bound]
  exact cleared

theorem clear_op_keeps (layout : Layout file size map) (slot : Slot map) (tar : ByteFile)
    {clearAll : Bool} {P : List UInt8 → Prop} (cleared : P (clearRecord (recordAt tar slot))) :
    ∀ op ∈ clearOps tar map clearAll, KeepsRecord slot P op := by
  intro op member
  unfold clearOps at member
  split at member
  · obtain ⟨⟨tileId, entry⟩, listed, own⟩ := mem_flatMap.mp member
    obtain ⟨block, block_member, own⟩ := mem_flatMap.mp own
    rw [clear_block_eq] at own
    split at own
    · rw [mem_singleton.mp own]
      by_cases near : tileId = slot.tileId ∧ RECORDS_PER_BLOCK * block ≤ slot.index ∧
          slot.index < RECORDS_PER_BLOCK * block + RECORDS_PER_BLOCK
      · have entry_same : entry = slot.entry := by
          have first := get_tile_of_mem layout.keys listed
          rw [near.1, get_tile_of_mem layout.keys slot.listed, Option.some.injEq] at first
          exact first.symm
        rw [entry_same]
        exact keeps_of_sets (block_write_sets slot tar near.2.1 near.2.2 cleared)
      · apply keeps_of_same
        have bound := mem_range.mp block_member
        have count : ((blockRecords tar entry block).map clearRecord).length =
            min RECORDS_PER_BLOCK (entry.directedEdgeCount - RECORDS_PER_BLOCK * block) := by
          rw [length_map, blockRecords, length_map, length_range]
        apply records_write_other layout slot listed (cleared_lengths tar entry block)
        · rw [count]
          dsimp only [RECORDS_PER_BLOCK] at bound ⊢
          omega
        · intro tile
          rw [count]
          rw [not_and, not_and, not_lt] at near
          have beside := near tile
          omega
    · cases own
  · cases member

theorem clear_op_sets (slot : Slot map) {tar} (live : ¬Blank (recordAt tar slot))
    {P : List UInt8 → Prop} (cleared : P (clearRecord (recordAt tar slot))) :
    ∃ op ∈ clearOps tar map true, SetsRecord slot P op := by
  let block := slot.index / RECORDS_PER_BLOCK
  have inside := slot.inside
  have from_block : RECORDS_PER_BLOCK * block ≤ slot.index := Nat.mul_div_le _ _
  have in_block : slot.index < RECORDS_PER_BLOCK * block + RECORDS_PER_BLOCK :=
    Nat.lt_mul_div_succ _ (by decide)
  refine ⟨recordsWrite slot.entry (RECORDS_PER_BLOCK * block)
    ((blockRecords tar slot.entry block).map clearRecord), ?_,
    block_write_sets slot tar from_block in_block cleared⟩
  unfold clearOps
  rw [if_pos rfl, mem_flatMap]
  refine ⟨(slot.tileId, slot.entry), slot.listed, ?_⟩
  unfold clearTile
  rw [mem_flatMap]
  refine ⟨block, ?_, ?_⟩
  · rw [mem_range]
    dsimp only [block, RECORDS_PER_BLOCK] at from_block in_block ⊢
    omega
  · rw [clear_block_eq, if_pos]
    · exact mem_singleton_self _
    · have bound : slot.index - RECORDS_PER_BLOCK * block <
          (blockRecords tar slot.entry block).length := by
        rw [blockRecords, length_map, length_range]
        omega
      rw [any_eq_true]
      refine ⟨recordAt tar slot, ?_, by simpa [Blank] using live⟩
      rw [← block_record tar slot from_block bound]
      exact getElem_mem bound

theorem clear_ops_record (layout : Layout file size map) (slot : Slot map) {tar}
    (clearAll : Bool) {handle : Handle} (same : handle.disk.tar = tar) :
    recordAt (applyOps handle (clearOps tar map clearAll)).disk.tar slot =
      if clearAll then clearRecord (recordAt tar slot) else recordAt tar slot := by
  cases clearAll with
  | false =>
    rw [if_neg Bool.false_ne_true, ← same]
    rfl
  | true =>
    rw [if_pos rfl]
    have keeps := @clear_op_keeps map file size layout slot tar true
      (fun record => record = clearRecord (recordAt tar slot)) rfl
    by_cases blank : Blank (recordAt tar slot)
    · apply keeps_all _ keeps
      rw [same, clear_record_of_blank blank]
    · exact sets_some _ keeps (clear_op_sets slot blank rfl)

def closingOps (around : Surroundings) (written : List PlannedWrite) : List FileOp :=
  stampTiles around.stampNow (written.map fun write => write.offset.dataOffset).eraseDups ++
    [.fsync, .saveIdentities (identitiesOf written)]

theorem closing_op_keeps (layout : Layout file size map) (slot : Slot map) {around written}
    (resolved : ∀ write ∈ written,
      resolveIdentityOffset map write.offset.identity = .ok (.found write.offset))
    (P : List UInt8 → Prop) : ∀ op ∈ closingOps around written, KeepsRecord slot P op := by
  intro op member
  apply keeps_of_same
  rcases mem_append.mp member with stamp | saved
  · obtain ⟨offset, offset_member, same⟩ := mem_map.mp stamp
    obtain ⟨write, write_member, own⟩ := mem_map.mp (mem_eraseDups.mp offset_member)
    obtain ⟨_, _, entry, listed, _, _, shape⟩ := resolved_found (resolved write write_member)
    obtain ⟨tileId, entry_member, _⟩ := get_tile_some listed
    have tile : offset = entry.dataOffset := by
      rw [← own, shape]
    rw [← same, tile]
    exact stamp_keeps_record layout slot entry_member (little_endian_length _ _)
  · simp only [mem_cons, not_mem_nil, or_false] at saved
    intro handle
    rcases saved with same | same
    · rw [same]
      rfl
    · rw [same]
      rfl

theorem clear_stale_ends {written} (previous : List EdgeIdentity)
    (named : ∀ id ∈ previous, hasKey id = true) : (clearStale map written previous).2 = none := by
  induction previous with
  | nil => rfl
  | cons id rest ih =>
    rw [forall_mem_cons] at named
    have later := ih named.2
    obtain ⟨resolution, resolved⟩ := (@resolve_ok_iff map id).mpr named.1
    unfold clearStale
    split
    · exact later
    · rw [resolved]
      cases resolution with
      | missingTile => exact later
      | outOfBounds => exact later
      | found offset => exact later

end

def Covered (tar : ByteFile) (map : IndexMap) (ids : List EdgeIdentity) : Prop :=
  ∀ slot : Slot map, ¬Blank (recordAt tar slot) → identityOf slot ∈ ids

structure CallKnows (disk : Disk) (map : IndexMap) (prior : Option (List EdgeIdentity) × Bool)
    (planned : List PlannedWrite) : Prop where
  ok : PlanOk map planned
  formed : ∀ write ∈ planned, WellFormed write.offset.identity
  prior_formed : ∀ id ∈ prior.1.getD [], WellFormed id
  covered : prior.2 = false → Covered disk.tar map (prior.1.getD [])

/-- The operations of a call once the tar is cleared, if it is: it writes, it clears what is
stale and it saves what it has written. -/
def laterOps (around : Surroundings) (map : IndexMap) (previous : List EdgeIdentity)
    (written : List PlannedWrite) : List FileOp :=
  written.map writePlanned ++
    ((clearStale map (identitiesOf written) previous).1 ++ closingOps around written)

def bodyOps (around : Surroundings) (disk : Disk) (map : IndexMap)
    (prior : Option (List EdgeIdentity) × Bool) (written : List PlannedWrite) : List FileOp :=
  clearOps disk.tar map prior.2 ++ laterOps around map (prior.1.getD []) written

def committedJournal (pending : TrafficJournal) (written : List PlannedWrite) : TrafficJournal :=
  { pending with
    phase := .committed
    identities := identitiesOf written
    uncertain := false }

/-- The records of a tar are those of the writes, and every other record is blank. -/
structure HoldsExactly (tar : ByteFile) (map : IndexMap) (written : List PlannedWrite) : Prop where
  placed : ∀ write ∈ written, ∃ slot : Slot map, identityOf slot = write.offset.identity ∧
    recordAt tar slot = recordFor write
  live : ∀ slot : Slot map, ¬Blank (recordAt tar slot) ↔ ∃ write ∈ written,
    write.offset.identity = identityOf slot ∧ (write.closed = true ∨ isUnknown write.kph = false)

section

variable {map : IndexMap} {disk : Disk} {size : Nat} {around : Surroundings}
  {prior : Option (List EdgeIdentity) × Bool} {planned : List PlannedWrite} {validUntil : ℤ}

theorem written_planned {write}
    (member : write ∈ writtenOf around planned validUntil) : write ∈ planned := by
  unfold writtenOf at member
  split at member
  · cases member
  · exact member

variable (layout : Layout disk.tar size map)
include layout

section

variable (knows : CallKnows disk map prior planned) (slot : Slot map)
  (absent : identityOf slot ∉ identitiesOf (writtenOf around planned validUntil))
include knows absent

theorem later_keeps
    {P : List UInt8 → Prop} (stale_record : identityOf slot ∈ prior.1.getD [] → P clearedRecord) :
    ∀ op ∈ laterOps around map (prior.1.getD []) (writtenOf around planned validUntil),
      KeepsRecord slot P op := by
  intro op member
  unfold laterOps at member
  simp only [mem_append] at member
  rcases member with planned_op | stale | closing
  · obtain ⟨write, write_member, same⟩ := mem_map.mp planned_op
    have known := written_planned write_member
    rw [← same]
    apply keeps_of_same
    intro handle
    unfold writePlanned
    rw [single_write layout slot (knows.formed write known) (knows.ok.resolved write known)
      (record_for_length write), if_neg]
    intro own
    apply absent
    rw [own]
    exact mem_map_of_mem write_member
  · obtain ⟨id, id_member, _, offset, resolved, same⟩ := (mem_clear_stale _).mp stale
    have known := (takeWhile_sublist _).subset id_member
    have formed := knows.prior_formed id known
    rw [same]
    intro handle holds
    rw [single_write layout slot formed resolved cleared_length]
    split
    · rename_i own
      apply stale_record
      rw [own]
      exact known
    · exact holds
  · exact closing_op_keeps layout slot
      (fun write write_member => knows.ok.resolved write (written_planned write_member)) P op
      closing

theorem later_clears
    (known : identityOf slot ∈ prior.1.getD []) {P : List UInt8 → Prop} (cleared : P clearedRecord) :
    ∃ op ∈ laterOps around map (prior.1.getD []) (writtenOf around planned validUntil),
      SetsRecord slot P op := by
  obtain ⟨formed, offset, resolved, _⟩ := slot_resolves layout slot
  refine ⟨.tarWrite offset.recordOffset clearedRecord, ?_, ?_⟩
  · unfold laterOps
    simp only [mem_append]
    apply Or.inr
    apply Or.inl
    apply (mem_clear_stale _).mpr
    refine ⟨identityOf slot, ?_, absent, offset, resolved, rfl⟩
    rw [takeWhile_eq_self_iff.mpr]
    · exact known
    · intro id member
      simp [well_formed_has_key (knows.prior_formed id member)]
  · intro before
    rw [single_write layout slot formed resolved cleared_length, if_pos rfl]
    exact cleared

theorem body_keeps_blank :
    ∀ op ∈ bodyOps around disk map prior (writtenOf around planned validUntil),
      KeepsRecord slot Blank op := by
  intro op member
  rcases mem_append.mp member with cleared | later
  · exact clear_op_keeps layout slot disk.tar (clear_record_blank _) op cleared
  · exact later_keeps layout knows slot absent (fun _ => cleared_blank) op later

end

omit layout

def unwrittenRecord (disk : Disk) (prior : Option (List EdgeIdentity) × Bool) (slot : Slot map) :
    List UInt8 :=
  if identityOf slot ∈ prior.1.getD [] then clearedRecord
  else if prior.2 then clearRecord (recordAt disk.tar slot)
  else recordAt disk.tar slot

section

variable (layout : Layout disk.tar size map) (knows : CallKnows disk map prior planned)
include layout knows

theorem body_unwritten (slot : Slot map)
    (absent : identityOf slot ∉ identitiesOf (writtenOf around planned validUntil))
    {handle : Handle} (same : handle.disk.tar = disk.tar) : recordAt (applyOps handle
      (bodyOps around disk map prior (writtenOf around planned validUntil))).disk.tar slot =
        unwrittenRecord disk prior slot := by
  have cleared := clear_ops_record layout slot prior.2 same
  unfold bodyOps
  rw [apply_ops_append]
  unfold unwrittenRecord
  by_cases known : identityOf slot ∈ prior.1.getD []
  · rw [if_pos known]
    apply @sets_some map slot (fun record => record = clearedRecord)
    · exact later_keeps layout knows slot absent (fun _ => rfl)
    · exact later_clears layout knows slot absent known rfl
  · rw [if_neg known]
    apply @keeps_all map slot (fun record => record =
      if prior.2 then clearRecord (recordAt disk.tar slot) else recordAt disk.tar slot)
    · exact later_keeps layout knows slot absent (fun member => absurd member known)
    · exact cleared

theorem body_sets_record {write} (member : write ∈ writtenOf around planned validUntil)
    (slot : Slot map) (own : identityOf slot = write.offset.identity) (handle : Handle) :
    recordAt (applyOps handle
      (bodyOps around disk map prior (writtenOf around planned validUntil))).disk.tar slot =
        recordFor write := by
  unfold bodyOps
  rw [apply_ops_append]
  unfold laterOps
  apply @sets_some map slot (fun record => record = recordFor write)
  · intro op op_member
    simp only [mem_append] at op_member
    rcases op_member with planned_op | stale | closing
    · obtain ⟨other, other_member, same⟩ := mem_map.mp planned_op
      have known := written_planned other_member
      rw [← same]
      intro before holds
      unfold writePlanned
      rw [single_write layout slot (knows.formed other known) (knows.ok.resolved other known)
        (record_for_length other)]
      split
      · rename_i same_id
        have first : findKey plannedEdge planned other.offset.identity = some other :=
          find_key_of_mem knows.ok.distinct known
        have second : findKey plannedEdge planned write.offset.identity = some write :=
          find_key_of_mem knows.ok.distinct (written_planned member)
        rw [← same_id, own, second, Option.some.injEq] at first
        rw [first]
      · exact holds
    · obtain ⟨id, id_member, fresh, offset, resolved, same⟩ := (mem_clear_stale _).mp stale
      have formed := knows.prior_formed id ((takeWhile_sublist _).subset id_member)
      rw [same]
      apply keeps_of_same
      intro before
      rw [single_write layout slot formed resolved cleared_length, if_neg]
      intro same_id
      apply fresh
      rw [← same_id, own]
      exact mem_map_of_mem member
    · exact closing_op_keeps layout slot
        (fun write write_member => knows.ok.resolved write (written_planned write_member)) _ op
        closing
  · refine ⟨writePlanned write, mem_append_left _ (mem_map_of_mem member), ?_⟩
    intro before
    have known := written_planned member
    unfold writePlanned
    rw [single_write layout slot (knows.formed write known) (knows.ok.resolved write known)
      (record_for_length write), if_pos own]

theorem body_blanks (slot : Slot map)
    (absent : identityOf slot ∉ identitiesOf (writtenOf around planned validUntil))
    {handle : Handle} (same : handle.disk.tar = disk.tar) : Blank (recordAt (applyOps handle
      (bodyOps around disk map prior (writtenOf around planned validUntil))).disk.tar slot) := by
  rw [body_unwritten layout knows slot absent same]
  unfold unwrittenRecord
  split
  · exact cleared_blank
  · rename_i unknown
    split
    · exact clear_record_blank _
    · rename_i certain
      by_contra live
      exact unknown (knows.covered (Bool.eq_false_of_not_eq_true certain) slot live)

theorem body_holds_exactly {handle : Handle} (same : handle.disk.tar = disk.tar) :
    HoldsExactly (applyOps handle
      (bodyOps around disk map prior (writtenOf around planned validUntil))).disk.tar map
        (writtenOf around planned validUntil) := by
  apply HoldsExactly.mk
  · intro write member
    have known := written_planned member
    obtain ⟨slot, own, _⟩ := resolved_slot (knows.formed write known) (knows.ok.resolved write known)
    exact ⟨slot, own, body_sets_record layout knows member slot own handle⟩
  · intro slot
    constructor
    · intro live
      by_cases present : identityOf slot ∈ identitiesOf (writtenOf around planned validUntil)
      · obtain ⟨write, member, own⟩ := mem_map.mp present
        refine ⟨write, member, own, ?_⟩
        rw [body_sets_record layout knows member slot own.symm handle, record_for_blank_iff,
          not_not] at live
        exact live
      · exact absurd (body_blanks layout knows slot present same) live
    · rintro ⟨write, member, own, speed⟩
      rw [body_sets_record layout knows member slot own.symm handle, record_for_blank_iff, not_not]
      exact speed

theorem body_covered (certain : prior.2 = false) {part}
    (before : part <+: bodyOps around disk map prior (writtenOf around planned validUntil))
    {handle : Handle} (same : handle.disk.tar = disk.tar) :
    Covered (applyOps handle part).disk.tar map (prior.1.getD [] ++ identitiesOf planned) := by
  intro slot live
  by_contra absent
  rw [mem_append, not_or] at absent
  apply live
  have fresh : identityOf slot ∉ identitiesOf (writtenOf around planned validUntil) := by
    intro member
    obtain ⟨write, write_member, own⟩ := mem_map.mp member
    exact absent.2 (mem_map.mpr ⟨write, written_planned write_member, own⟩)
  apply keeps_all
  · intro op member
    exact body_keeps_blank layout knows slot fresh op (before.subset member)
  · rw [same]
    by_contra old
    exact absent.1 (knows.covered certain slot old)

end

end

end OpenMapX.Traffic.CallRecords
