import OpenMapX.Traffic.PlannedWrites

/-!
# The ranges a call writes

Every write of a call is to whole records of a listed tile, or to its time of update, if the
indexes it is computed from are whole numbers. A position that is not whole is no position:
such a write goes to the place where the file stands, which is its beginning.
-/

namespace OpenMapX.Traffic.WrittenRanges

open Foundation.FileBytes TrafficSpeed TarIndex TarLayout WriteLive PlannedWrites List

inductive AllowedRange (map : IndexMap) : Nat → Nat → Prop where
  | records {tileId : Nat} {entry : TileEntry} (listed : (tileId, entry) ∈ map)
      (first count : Nat) (some : 0 < count) (inside : first + count ≤ entry.directedEdgeCount) :
      AllowedRange map (recordsStart entry + TRAFFIC_SPEED_RECORD_SIZE * first)
        (TRAFFIC_SPEED_RECORD_SIZE * count)
  | lastUpdate {tileId : Nat} {entry : TileEntry} (listed : (tileId, entry) ∈ map) :
      AllowedRange map (entry.dataOffset + TRAFFIC_TILE_LAST_UPDATE_OFFSET) 8

def writtenRanges : Handle → List FileOp → List (Nat × Nat)
  | _, [] => []
  | handle, .tarWrite position data :: rest =>
    (writeStart handle position, data.length) ::
      writtenRanges (applyOp handle (.tarWrite position data)) rest
  | handle, op :: rest => writtenRanges (applyOp handle op) rest

def AllowedOp (map : IndexMap) : FileOp → Prop
  | .tarWrite position data => ∃ start : Nat, position = start ∧ AllowedRange map start data.length
  | _ => True

def Outside (ranges : List (Nat × Nat)) (p : Nat) : Prop :=
  ∀ range ∈ ranges, p < range.1 ∨ range.1 + range.2 ≤ p

theorem write_start_whole (handle : Handle) (start : Nat) :
    writeStart handle (start : ℚ) = start := by
  unfold writeStart
  rw [if_pos (Rat.den_natCast start), Rat.num_natCast, Int.toNat_natCast]

theorem apply_ops_cons (handle : Handle) (op : FileOp) (rest : List FileOp) :
    applyOps handle (op :: rest) = applyOps (applyOp handle op) rest := rfl

theorem apply_ops_append (handle : Handle) (first second : List FileOp) :
    applyOps handle (first ++ second) = applyOps (applyOps handle first) second :=
  foldl_append

theorem written_ranges_append (first second : List FileOp) :
    ∀ handle : Handle, writtenRanges handle (first ++ second) =
      writtenRanges handle first ++ writtenRanges (applyOps handle first) second := by
  induction first with
  | nil =>
    intro handle
    rfl
  | cons op rest ih =>
    intro handle
    cases op with
    | tarWrite position data => exact congrArg (List.cons _) (ih _)
    | fsync => exact ih _
    | saveIdentities identities => exact ih _
    | saveJournal journal => exact ih _

theorem apply_ops_outside (ops : List FileOp) :
    ∀ {handle : Handle} {p : Nat}, Outside (writtenRanges handle ops) p →
      (applyOps handle ops).disk.tar.byte p = handle.disk.tar.byte p := by
  induction ops with
  | nil =>
    intro handle p outside
    rfl
  | cons op rest ih =>
    intro handle p outside
    rw [apply_ops_cons]
    cases op with
    | tarWrite position data =>
      have later := ih fun range member => outside range (mem_cons_of_mem _ member)
      exact later.trans (write_outside (outside _ mem_cons_self))
    | fsync => exact ih outside
    | saveIdentities identities => exact ih outside
    | saveJournal journal => exact ih outside

theorem apply_ops_size (ops : List FileOp) : ∀ {handle : Handle},
      (∀ range ∈ writtenRanges handle ops, range.1 + range.2 ≤ handle.disk.tar.size) →
        (applyOps handle ops).disk.tar.size = handle.disk.tar.size := by
  induction ops with
  | nil =>
    intro handle inside
    rfl
  | cons op rest ih =>
    intro handle inside
    rw [apply_ops_cons]
    cases op with
    | tarWrite position data =>
      have same := @write_size handle.disk.tar (writeStart handle position) data
        (inside _ mem_cons_self)
      have later := @ih (applyOp handle (.tarWrite position data)) (by
        intro range member
        exact (inside range (mem_cons_of_mem _ member)).trans_eq same.symm)
      exact later.trans same
    | fsync => exact ih inside
    | saveIdentities identities => exact ih inside
    | saveJournal journal => exact ih inside

section

variable {file : ByteFile} {size : Nat} {map : IndexMap}

section

variable (layout : Layout file size map)
include layout

theorem allowed_start {start length : Nat}
    (allowed : AllowedRange map start length) : start % 8 = 0 ∧ 0 < start := by
  have shape (tileId : Nat) (entry : TileEntry) (listed : (tileId, entry) ∈ map) :
      entry.dataOffset % 512 = 0 ∧ 512 ≤ entry.dataOffset := by
    have placed := layout.placed _ listed
    apply And.intro placed.aligned
    have behind := placed.behind
    dsimp only [minimumOffset, USTAR_HEADER_SIZE] at behind
    omega
  cases allowed with
  | @records tileId entry listed first count some inside =>
    have own := shape _ _ listed
    dsimp only [recordsStart, TRAFFIC_TILE_HEADER_SIZE, TRAFFIC_SPEED_RECORD_SIZE]
    omega
  | @lastUpdate tileId entry listed =>
    have own := shape _ _ listed
    dsimp only [TRAFFIC_TILE_LAST_UPDATE_OFFSET]
    omega

theorem allowed_inside {start length : Nat}
    (allowed : AllowedRange map start length) : start + length ≤ file.size := by
  cases allowed with
  | @records tileId entry listed first count some inside =>
    have fits := (layout.placed _ listed).fits
    dsimp only [rangeOf, TRAFFIC_TILE_HEADER_SIZE, TRAFFIC_SPEED_RECORD_SIZE] at fits
    dsimp only [recordsStart, TRAFFIC_TILE_HEADER_SIZE, TRAFFIC_SPEED_RECORD_SIZE]
    omega
  | @lastUpdate tileId entry listed =>
    have fits := (layout.placed _ listed).fits
    dsimp only [rangeOf, TRAFFIC_TILE_HEADER_SIZE, TRAFFIC_SPEED_RECORD_SIZE] at fits
    dsimp only [TRAFFIC_TILE_LAST_UPDATE_OFFSET]
    omega

/-- From the beginning of the file, the ranges are allowed if and only if each operation is:
the first write at a number that is not whole would be to the beginning itself. -/
theorem ranges_allowed_iff (ops : List FileOp) : ∀ {handle : Handle}, handle.position = 0 →
      ((∀ range ∈ writtenRanges handle ops, AllowedRange map range.1 range.2) ↔
        ∀ op ∈ ops, AllowedOp map op) := by
  induction ops with
  | nil =>
    intro handle rewound
    simp [writtenRanges]
  | cons op rest ih =>
    intro handle rewound
    rw [forall_mem_cons]
    cases op with
    | tarWrite position data =>
      rw [writtenRanges, forall_mem_cons]
      by_cases whole : position.den = 1
      · rw [@ih (applyOp handle (.tarWrite position data)) (by
          show (if position.den = 1 then _ else _) = 0
          rw [if_pos whole, rewound])]
        apply and_congr_left'
        unfold writeStart
        rw [if_pos whole]
        constructor
        · intro allowed
          have positive := (allowed_start layout allowed).2
          refine ⟨position.num.toNat, ?_, allowed⟩
          rw [← Int.cast_natCast, Int.toNat_of_nonneg (by omega)]
          exact (Rat.coe_int_num_of_den_eq_one whole).symm
        · rintro ⟨start, same, allowed⟩
          rw [same, Rat.num_natCast, Int.toNat_natCast]
          exact allowed
      · constructor
        · intro allowed
          have start := allowed_start layout allowed.1
          unfold writeStart at start
          rw [if_neg whole, rewound] at start
          exact absurd start.2 (Nat.lt_irrefl 0)
        · rintro ⟨⟨start, same, _⟩, _⟩
          rw [same] at whole
          exact absurd (Rat.den_natCast start) whole
    | fsync => exact (ih rewound).trans (iff_of_eq (true_and _)).symm
    | saveIdentities identities =>
      have later := @ih (applyOp handle (.saveIdentities identities)) rewound
      exact later.trans (iff_of_eq (true_and _)).symm
    | saveJournal journal =>
      have later := @ih (applyOp handle (.saveJournal journal)) rewound
      exact later.trans (iff_of_eq (true_and _)).symm

theorem record_allowed_iff {id offset data} (length : data.length = 8)
    (resolved : resolveIdentityOffset map id = .ok (.found offset)) :
    AllowedOp map (.tarWrite offset.recordOffset data) ↔ id.index.den = 1 := by
  obtain ⟨key, based, entry, listed, lower, upper, shape⟩ := resolved_found resolved
  obtain ⟨tileId, member, _⟩ := get_tile_some listed
  rw [shape]
  dsimp only [AllowedOp]
  constructor
  · rintro ⟨start, same, allowed⟩
    obtain ⟨word, word_eq⟩ := Nat.dvd_of_mod_eq_zero (allowed_start layout allowed).1
    obtain ⟨block, block_eq⟩ := Nat.dvd_of_mod_eq_zero (layout.placed _ member).aligned
    have index_eq : id.index = ((word : ℤ) - 64 * block - 4 : ℤ) := by
      rw [word_eq] at same
      dsimp only at block_eq
      rw [block_eq] at same
      dsimp only [TRAFFIC_TILE_HEADER_SIZE, TRAFFIC_SPEED_RECORD_SIZE, USTAR_HEADER_SIZE] at same
      push_cast at same ⊢
      linarith only [same]
    rw [index_eq]
    exact Rat.den_intCast _
  · intro whole
    have index_eq := Rat.coe_int_num_of_den_eq_one whole
    obtain ⟨i, natural⟩ : ∃ i : Nat, id.index = i := by
      refine ⟨id.index.num.toNat, ?_⟩
      rw [← Int.cast_natCast, Int.toNat_of_nonneg (Rat.num_nonneg.mpr lower)]
      exact index_eq.symm
    refine ⟨recordsStart entry + TRAFFIC_SPEED_RECORD_SIZE * i, ?_, ?_⟩
    · rw [natural]
      dsimp only [recordsStart]
      push_cast
      ring
    · rw [length]
      apply AllowedRange.records member i 1 Nat.one_pos
      rw [natural] at upper
      exact_mod_cast upper

theorem listed_apart {first second} (first_listed : first ∈ map) (second_listed : second ∈ map) :
    first = second ∨ Apart first.2 second.2 := by
  have pairwise := layout.apart
  rw [pairwise_map] at pairwise
  by_cases same : first = second
  · exact Or.inl same
  · have symmetric : Std.Symm fun one two : Nat × TileEntry => Apart one.2 two.2 :=
      Std.Symm.mk fun _ _ either => Or.symm either
    exact Or.inr (pairwise.forall first_listed second_listed same)

def Untouched (map : IndexMap) (p : Nat) : Prop :=
  ∀ start length, AllowedRange map start length → p < start ∨ start + length ≤ p

theorem untouched_before {p : Nat} (before : p < minimumOffset size) : Untouched map p := by
  intro start length allowed
  apply Or.inl
  cases allowed with
  | @records tileId entry listed first count some inside =>
    have behind : minimumOffset size ≤ entry.dataOffset := (layout.placed _ listed).behind
    dsimp only [recordsStart]
    omega
  | @lastUpdate tileId entry listed =>
    have behind : minimumOffset size ≤ entry.dataOffset := (layout.placed _ listed).behind
    omega

theorem untouched_header {tile} (listed : tile ∈ map) {p : Nat}
    (header : tile.2.dataOffset ≤ p ∧ p < tile.2.dataOffset + 8 ∨
      tile.2.dataOffset + 16 ≤ p ∧ p < tile.2.dataOffset + 32) : Untouched map p := by
  intro start length allowed
  cases allowed with
  | @records tileId entry other first count some inside =>
    dsimp only [recordsStart, TRAFFIC_TILE_HEADER_SIZE, TRAFFIC_SPEED_RECORD_SIZE]
    rcases listed_apart layout listed other with same | apart
    · rw [same] at header
      dsimp only at header
      omega
    · dsimp only [Apart, rangeOf, TRAFFIC_TILE_HEADER_SIZE, TRAFFIC_SPEED_RECORD_SIZE] at apart
      omega
  | @lastUpdate tileId entry other =>
    dsimp only [TRAFFIC_TILE_LAST_UPDATE_OFFSET]
    rcases listed_apart layout listed other with same | apart
    · rw [same] at header
      dsimp only at header
      omega
    · dsimp only [Apart, rangeOf, TRAFFIC_TILE_HEADER_SIZE, TRAFFIC_SPEED_RECORD_SIZE] at apart
      omega

end

structure SameIndex (map : IndexMap) (file other : ByteFile) : Prop where
  size : other.size = file.size
  bytes : ∀ p, Untouched map p → other.byte p = file.byte p

variable {other : ByteFile}

theorem parse_entry_unchanged (layout : Layout file size map) (same : SameIndex map file other)
    {known} {base : Nat} {entry} (bound : base + 16 ≤ size)
    (listed : entry ∈ map) (parsed : parseEntry file size known base = .ok entry) :
    parseEntry other size known base = .ok entry := by
  have low (start count : Nat) (before : start + count ≤ 512 + size) :
      read other start count = read file start count := by
    apply read_congr
    intro p lower upper
    apply same.bytes p
    apply untouched_before layout
    dsimp only [minimumOffset, USTAR_HEADER_SIZE]
    omega
  have offset_same : readBigUInt64LE other (USTAR_HEADER_SIZE + base) =
      readBigUInt64LE file (USTAR_HEADER_SIZE + base) := by
    unfold readBigUInt64LE
    rw [low _ _ (by dsimp only [USTAR_HEADER_SIZE]; omega)]
  have id_same : readUInt32LE other (USTAR_HEADER_SIZE + base + 8) =
      readUInt32LE file (USTAR_HEADER_SIZE + base + 8) := by
    unfold readUInt32LE
    rw [low _ _ (by dsimp only [USTAR_HEADER_SIZE]; omega)]
  have member_same : readUInt32LE other (USTAR_HEADER_SIZE + base + 12) =
      readUInt32LE file (USTAR_HEADER_SIZE + base + 12) := by
    unfold readUInt32LE
    rw [low _ _ (by dsimp only [USTAR_HEADER_SIZE]; omega)]
  unfold parseEntry at parsed ⊢
  dsimp only at parsed ⊢
  rw [offset_same, id_same, member_same]
  have bounds_same (offset tileId memberSize : Nat) :
      tileBoundsValid other size known offset tileId memberSize =
        tileBoundsValid file size known offset tileId memberSize := by
    unfold tileBoundsValid
    rw [same.size]
  rw [bounds_same]
  split at parsed
  · cases parsed
  · split at parsed
    · cases parsed
    · rename_i bounds header
      cases parsed
      have high (start count : Nat) (within : readBigUInt64LE file (USTAR_HEADER_SIZE + base) ≤ start ∧
          start + count ≤ readBigUInt64LE file (USTAR_HEADER_SIZE + base) + 8 ∨
            readBigUInt64LE file (USTAR_HEADER_SIZE + base) + 16 ≤ start ∧
              start + count ≤ readBigUInt64LE file (USTAR_HEADER_SIZE + base) + 32) :
          read other start count = read file start count := by
        apply read_congr
        intro p lower upper
        apply same.bytes p
        apply untouched_header layout listed
        dsimp only
        omega
      have header_same (tileId count : Nat) :
          tileHeaderValid other (readBigUInt64LE file (USTAR_HEADER_SIZE + base)) tileId count =
            tileHeaderValid file (readBigUInt64LE file (USTAR_HEADER_SIZE + base)) tileId count := by
        have first := high (readBigUInt64LE file (USTAR_HEADER_SIZE + base)) 8 (by omega)
        have second := high (readBigUInt64LE file (USTAR_HEADER_SIZE + base) + 16) 4 (by omega)
        have third := high (readBigUInt64LE file (USTAR_HEADER_SIZE + base) + 20) 4 (by omega)
        unfold tileHeaderValid
        rw [readBigUInt64LE, first, readUInt32LE, second, readUInt32LE, third]
        rfl
      rw [if_neg bounds, header_same, if_neg header]

theorem parse_entries_known {bases} :
    ∀ {known found : IndexMap}, parseEntries file size bases known = .ok found →
      ∀ entry ∈ known, entry ∈ found := by
  induction bases with
  | nil =>
    intro known found parsed entry member
    cases parsed
    exact member
  | cons base rest ih =>
    intro known found parsed entry member
    unfold parseEntries at parsed
    split at parsed
    · cases parsed
    · exact ih parsed entry (mem_append_left _ member)

theorem parse_entries_unchanged (layout : Layout file size map) (same : SameIndex map file other)
    {bases} (bounds : ∀ base ∈ bases, base + 16 ≤ size) :
    ∀ {known : IndexMap}, parseEntries file size bases known = .ok map →
      parseEntries other size bases known = .ok map := by
  induction bases with
  | nil =>
    intro known parsed
    exact parsed
  | cons base rest ih =>
    intro known parsed
    rw [forall_mem_cons] at bounds
    unfold parseEntries at parsed ⊢
    split at parsed
    · cases parsed
    · rename_i entry own
      have listed := parse_entries_known parsed entry (by simp)
      rw [parse_entry_unchanged layout same bounds.1 listed own]
      exact ih bounds.2 parsed

end

theorem parse_index_unchanged {file other map} (parsed : parseIndexBin file = .ok map)
    (same : SameIndex map file other) : parseIndexBin other = .ok map := by
  obtain ⟨_, _, found_layout⟩ := parse_index_layout parsed
  have low (start count : Nat) (before : start + count ≤ 512) :
      read other start count = read file start count := by
    apply read_congr
    intro p lower upper
    apply same.bytes p
    apply untouched_before found_layout
    dsimp only [minimumOffset, USTAR_HEADER_SIZE]
    omega
  unfold parseIndexBin at parsed ⊢
  have name_same : memberName other = memberName file := by
    unfold memberName
    rw [low 0 100 (by omega)]
  have size_same : readOctalField other USTAR_SIZE_FIELD_OFFSET USTAR_SIZE_FIELD_LENGTH =
      readOctalField file USTAR_SIZE_FIELD_OFFSET USTAR_SIZE_FIELD_LENGTH := by
    unfold readOctalField
    rw [low _ _ (by decide)]
  rw [name_same, size_same, same.size]
  split at parsed
  · cases parsed
  · rename_i named
    rw [if_neg named]
    split at parsed
    · cases parsed
    · rename_i size _
      split at parsed
      · cases parsed
      · rename_i accepted
        dsimp only at parsed ⊢
        rw [if_neg accepted]
        split at parsed
        · cases parsed
        · rename_i found entries
          split at parsed
          · cases parsed
          · rename_i free
            cases parsed
            have placed := parse_entries_placed _ entries (fun _ member => by cases member)
              nodup_nil
            have layout : Layout file size.toNat map :=
              Layout.mk placed.1 placed.2 found_layout.apart
            rw [parse_entries_unchanged layout same (by
              intro base member
              obtain ⟨i, bound, same_base⟩ := mem_map.mp member
              have inside := mem_range.mp bound
              rw [← same_base]
              dsimp only [INDEX_BIN_ENTRY_SIZE] at inside ⊢
              omega) entries]
            dsimp only
            rw [if_neg free]

end OpenMapX.Traffic.WrittenRanges
