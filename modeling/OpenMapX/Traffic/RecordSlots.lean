import OpenMapX.Traffic.WriterFrame

/-!
# Records by slot

A slot is a record of a listed tile. An edge as the graph numbers it, whole and with a level
below eight, names one slot, and no other edge names it. What an operation makes of a slot is
said once; a run of operations keeps what each of them keeps.
-/

namespace OpenMapX.Traffic.RecordSlots

open Foundation.FileBytes TrafficSpeed TarIndex TarLayout WriteLive PlannedWrites WrittenRanges
  WriterFrame List

structure Slot (map : IndexMap) where
  tileId : Nat
  entry : TileEntry
  index : Nat
  listed : (tileId, entry) ∈ map
  inside : index < entry.directedEdgeCount

variable {map : IndexMap}

def slotStart (slot : Slot map) : Nat :=
  recordsStart slot.entry + TRAFFIC_SPEED_RECORD_SIZE * slot.index

def recordAt (tar : ByteFile) (slot : Slot map) : List UInt8 :=
  read tar (slotStart slot) TRAFFIC_SPEED_RECORD_SIZE

def identityOf (slot : Slot map) : EdgeIdentity where
  level := (slot.tileId % 8 : Nat)
  tile := (slot.tileId / 8 : Nat)
  index := (slot.index : Nat)

def WellFormed (id : EdgeIdentity) : Prop :=
  ∃ level tile index : Nat, level < 8 ∧ id = ⟨level, tile, index⟩

theorem well_formed_has_key {id} (formed : WellFormed id) : hasKey id = true := by
  obtain ⟨level, tile, index, _, same⟩ := formed
  rw [same]
  simp [hasKey]

theorem well_formed_key {level tile : Nat} (index : ℚ) (below : level < 8) :
    baseGraphId ⟨level, tile, index⟩ = .ok ((8 * tile + level : Nat) : ℤ) := by
  have joined : (tile <<< 3 ||| level) = 8 * tile + level := by
    rw [← Nat.shiftLeft_add_eq_or_of_lt (by simpa using below), Nat.shiftLeft_eq]
    omega
  have lor : Int.lor ((tile : ℤ) <<< (3 : Nat)) (level : ℤ) = ((tile <<< 3 ||| level : Nat) : ℤ) := rfl
  unfold baseGraphId toBigInt
  dsimp only
  rw [if_pos (Rat.den_natCast tile), if_pos (Rat.den_natCast level), Rat.num_natCast,
    Rat.num_natCast]
  dsimp only
  rw [lor, joined]

theorem resolved_slot {id} (formed : WellFormed id) {offset}
    (resolved : resolveIdentityOffset map id = .ok (.found offset)) :
    ∃ slot : Slot map, identityOf slot = id ∧ offset.recordOffset = (slotStart slot : Nat) := by
  obtain ⟨level, tile, index, below, same⟩ := formed
  obtain ⟨key, based, entry, listed, lower, upper, shape⟩ := resolved_found resolved
  obtain ⟨tileId, member, own_key⟩ := get_tile_some listed
  rw [same, well_formed_key _ below, Except.ok.injEq] at based
  have own : tileId = 8 * tile + level := by
    have both := own_key.trans based.symm
    exact_mod_cast both
  rw [same] at upper
  dsimp only at upper
  have inside : index < entry.directedEdgeCount := by exact_mod_cast upper
  refine ⟨⟨tileId, entry, index, member, inside⟩, ?_, ?_⟩
  · rw [same]
    dsimp only [identityOf]
    have low : tileId % 8 = level := by omega
    have high : tileId / 8 = tile := by omega
    rw [low, high]
  · rw [shape, same]
    dsimp only [slotStart, recordsStart]
    push_cast
    ring

theorem slot_resolves {file} {size : Nat} (layout : Layout file size map) (slot : Slot map) :
    WellFormed (identityOf slot) ∧
      ∃ offset, resolveIdentityOffset map (identityOf slot) = .ok (.found offset) ∧
        offset.recordOffset = (slotStart slot : Nat) := by
  have below : slot.tileId % 8 < 8 := Nat.mod_lt _ (by decide)
  apply And.intro
  · exact ⟨_, _, _, below, rfl⟩
  · have whole : 8 * (slot.tileId / 8) + slot.tileId % 8 = slot.tileId := Nat.div_add_mod _ _
    have inside : ((slot.index : Nat) : ℚ) < (slot.entry.directedEdgeCount : ℚ) := by
      exact_mod_cast slot.inside
    unfold resolveIdentityOffset
    rw [identityOf, well_formed_key _ below, whole]
    dsimp only
    rw [get_tile_of_mem layout.keys slot.listed]
    dsimp only
    rw [if_neg (by
      rw [not_or, not_lt, not_le]
      exact And.intro (Nat.cast_nonneg _) inside)]
    refine ⟨_, rfl, ?_⟩
    dsimp only [slotStart, recordsStart]
    push_cast
    ring

theorem slot_unique {file : ByteFile} {size : Nat} (layout : Layout file size map)
    {slot other : Slot map} (same : identityOf slot = identityOf other) : slot = other := by
  obtain ⟨tileId, entry, index, listed, inside⟩ := slot
  obtain ⟨otherId, otherEntry, otherIndex, otherListed, otherInside⟩ := other
  simp only [identityOf, EdgeIdentity.mk.injEq, Nat.cast_inj] at same
  obtain ⟨low, high, index_same⟩ := same
  have id_same : tileId = otherId := by omega
  cases id_same
  cases index_same
  have entry_same : entry = otherEntry := by
    have first := get_tile_of_mem layout.keys listed
    rw [get_tile_of_mem layout.keys otherListed, Option.some.injEq] at first
    exact first.symm
  cases entry_same
  rfl

theorem apply_write (handle : Handle) (start : Nat) (data : List UInt8) :
    (applyOp handle (.tarWrite (start : ℚ) data)).disk.tar = write handle.disk.tar start data := by
  show write handle.disk.tar (writeStart handle (start : ℚ)) data = _
  rw [write_start_whole]

def recordsWrite (entry : TileEntry) (first : Nat) (records : List (List UInt8)) : FileOp :=
  .tarWrite ((recordsStart entry + TRAFFIC_SPEED_RECORD_SIZE * first : Nat) : ℚ) records.flatten

section

variable {records : List (List UInt8)} (lengths : ∀ record ∈ records, record.length = 8)
include lengths

theorem flatten_length : records.flatten.length = 8 * records.length := by
  induction records with
  | nil => rfl
  | cons first rest ih =>
    rw [forall_mem_cons] at lengths
    rw [flatten_cons, length_append, lengths.1, ih lengths.2, length_cons]
    omega

theorem flatten_part : ∀ {j : Nat} (bound : j < records.length),
      (records.flatten.drop (8 * j)).take 8 = records[j] := by
  induction records with
  | nil =>
    intro j bound
    cases bound
  | cons first rest ih =>
    intro j bound
    rw [forall_mem_cons] at lengths
    rw [flatten_cons]
    cases j with
    | zero =>
      rw [Nat.mul_zero, drop_zero, take_left' lengths.1]
      rfl
    | succ j =>
      have next : 8 * (j + 1) = first.length + 8 * j := by
        rw [lengths.1]
        omega
      rw [next, drop_append, drop_eq_nil_of_le (Nat.le_add_right _ _),
        Nat.add_sub_cancel_left, nil_append]
      exact ih lengths.2 (Nat.lt_of_succ_lt_succ bound)

end

section

variable {file : ByteFile} {size : Nat}

theorem records_write_other (layout : Layout file size map) (slot : Slot map) {tileId : Nat} {entry}
    (listed : (tileId, entry) ∈ map) {first : Nat} {records}
    (lengths : ∀ record ∈ records, record.length = 8)
    (inside : first + records.length ≤ entry.directedEdgeCount)
    (other : tileId = slot.tileId → slot.index < first ∨ first + records.length ≤ slot.index)
    (handle : Handle) : recordAt (applyOp handle (recordsWrite entry first records)).disk.tar slot =
      recordAt handle.disk.tar slot := by
  unfold recordsWrite recordAt
  rw [apply_write]
  apply read_write_apart
  have own := slot.inside
  rw [flatten_length lengths]
  dsimp only [slotStart, recordsStart, TRAFFIC_TILE_HEADER_SIZE, TRAFFIC_SPEED_RECORD_SIZE]
  rcases listed_apart layout listed slot.listed with same | apart
  · rw [Prod.mk.injEq] at same
    have beside := other same.1
    rw [same.2]
    omega
  · dsimp only [Apart, rangeOf, TRAFFIC_TILE_HEADER_SIZE, TRAFFIC_SPEED_RECORD_SIZE] at apart
    omega

theorem records_write_own (slot : Slot map) {first j : Nat} {records}
    (lengths : ∀ record ∈ records, record.length = 8) (bound : j < records.length)
    (own : slot.index = first + j) (handle : Handle) :
    recordAt (applyOp handle (recordsWrite slot.entry first records)).disk.tar slot =
      records[j] := by
  have start : slotStart slot = recordsStart slot.entry + TRAFFIC_SPEED_RECORD_SIZE * first +
      8 * j := by
    dsimp only [slotStart, TRAFFIC_SPEED_RECORD_SIZE]
    rw [own]
    omega
  unfold recordsWrite recordAt
  rw [apply_write, start]
  dsimp only [TRAFFIC_SPEED_RECORD_SIZE]
  rw [read_write_part _ (by
    rw [flatten_length lengths]
    omega), flatten_part lengths bound]

theorem stamp_keeps_record (layout : Layout file size map) (slot : Slot map) {tileId : Nat} {entry}
    (listed : (tileId, entry) ∈ map) {data} (length : data.length = 8) (handle : Handle) :
    recordAt (applyOp handle
      (.tarWrite ((entry.dataOffset + TRAFFIC_TILE_LAST_UPDATE_OFFSET : Nat) : ℚ)
        data)).disk.tar slot = recordAt handle.disk.tar slot := by
  unfold recordAt
  rw [apply_write]
  apply read_write_apart
  have own := slot.inside
  rw [length]
  dsimp only [slotStart, recordsStart, TRAFFIC_TILE_HEADER_SIZE, TRAFFIC_SPEED_RECORD_SIZE,
    TRAFFIC_TILE_LAST_UPDATE_OFFSET]
  rcases listed_apart layout listed slot.listed with same | apart
  · rw [Prod.mk.injEq] at same
    rw [same.2]
    omega
  · dsimp only [Apart, rangeOf, TRAFFIC_TILE_HEADER_SIZE, TRAFFIC_SPEED_RECORD_SIZE] at apart
    omega

end

def KeepsRecord (slot : Slot map) (P : List UInt8 → Prop) (op : FileOp) : Prop :=
  ∀ handle : Handle, P (recordAt handle.disk.tar slot) →
    P (recordAt (applyOp handle op).disk.tar slot)

def SetsRecord (slot : Slot map) (P : List UInt8 → Prop) (op : FileOp) : Prop :=
  ∀ handle : Handle, P (recordAt (applyOp handle op).disk.tar slot)

section

variable {slot : Slot map} {P : List UInt8 → Prop}

theorem keeps_of_sets {op : FileOp}
    (sets : SetsRecord slot P op) : KeepsRecord slot P op := fun handle _ => sets handle

theorem keeps_of_same {op : FileOp}
    (same : ∀ handle : Handle, recordAt (applyOp handle op).disk.tar slot =
      recordAt handle.disk.tar slot) : KeepsRecord slot P op := by
  intro handle holds
  rw [same]
  exact holds

theorem keeps_all (ops : List FileOp) : ∀ {handle : Handle}, (∀ op ∈ ops, KeepsRecord slot P op) →
      P (recordAt handle.disk.tar slot) → P (recordAt (applyOps handle ops).disk.tar slot) := by
  induction ops with
  | nil =>
    intro handle each holds
    exact holds
  | cons op rest ih =>
    intro handle each holds
    rw [forall_mem_cons] at each
    rw [apply_ops_cons]
    exact ih each.2 (each.1 handle holds)

theorem sets_some (ops : List FileOp) : ∀ {handle : Handle}, (∀ op ∈ ops, KeepsRecord slot P op) →
      (∃ op ∈ ops, SetsRecord slot P op) → P (recordAt (applyOps handle ops).disk.tar slot) := by
  induction ops with
  | nil =>
    rintro handle each ⟨op, member, _⟩
    cases member
  | cons first rest ih =>
    rintro handle each ⟨op, member, sets⟩
    rw [forall_mem_cons] at each
    rw [apply_ops_cons]
    rcases mem_cons.mp member with same | later
    · rw [same] at sets
      exact keeps_all rest each.2 (sets handle)
    · exact ih each.2 ⟨op, later, sets⟩

end

end OpenMapX.Traffic.RecordSlots
