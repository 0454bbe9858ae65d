import OpenMapX.Artifacts.RetentionWrites

/-!
# Deleting a retained record

The surplus of the books is the same before and after a deletion and at each place where one
can be cut or can throw: a record file that is gone is counted until the counter has been
lowered, and lowered once.
-/

namespace OpenMapX.Artifacts.RetentionDeletes

open Foundation.CrashPrograms Foundation.CrashPrograms.Program ControlRetention RetentionBooks
  RetentionWrites

section

variable (recordDigest : List UInt8 → String) (counterDigest : Counter → String)

def Matches (item : RetentionDeletion) (maximumBytes : Nat) (dir : Directory) : Prop :=
  ∃ record, findRecord dir item.name = some record ∧ record.inode = item.inode ∧
    record.bytes.length ≤ maximumBytes ∧ recordDigest record.bytes = item.digest

def Uncut (t : Transaction) : Prop :=
  counter t.after = true ∧ ∀ phase, fits (some { t with phase := phase }) = true

/-- The transaction can be read back in every phase, or `need` operations are left to clear it
from the phase it is in. -/
def Covered (itemDone : Option Failure) (t : Transaction) (phase : Phase) (need left : Nat) :
    Prop :=
  Readable t ∨ (need ≤ left ∧ Uncut t ∧ itemDone = none ∧ t.phase = phase)

variable {itemDone : Option Failure} {t : Transaction} {phase : Phase}

theorem Covered.readable
    {need : Nat} (covered : Covered itemDone t phase (need + 1) 0) : Readable t := by
  rcases covered with readable | finishes
  · exact readable
  · exact absurd finishes.1 (Nat.not_succ_le_zero need)

variable {need left : Nat}

theorem covered_phase {before phase : Phase}
    (covered : Covered itemDone t before (need + 1) (left + 1)) :
    Covered itemDone { t with phase := phase } phase need left := by
  rcases covered with readable | finishes
  · exact Or.inl readable
  · exact Or.inr ⟨Nat.le_of_succ_le_succ finishes.1, finishes.2.1, finishes.2.2.1, rfl⟩

theorem Covered.room {before : Phase} (covered : Covered itemDone t before need left)
    (full : fits (some { t with phase := phase }) = false) : Readable t := by
  rcases covered with readable | finishes
  · exact readable
  · rw [finishes.2.1.2 phase] at full
    cases full

theorem Covered.after_valid (covered : Covered itemDone t phase need left)
    (room : fits (some t) = true) : counter t.after = true := by
  rcases covered with readable | finishes
  · have checked := readable.legible room
    unfold legible at checked
    simp only [Bool.decide_and, Bool.and_eq_true, decide_eq_true_eq] at checked
    exact checked.2.2.2.1
  · exact finishes.2.1.1

variable {item : RetentionDeletion} {maximumBytes : Nat}

theorem check_record_triple {property : Nat → Directory → Prop} {cut : Directory → Prop} :
    Triple (Holds property) (checkRecord recordDigest item maximumBytes)
      (fun _ => Holds fun left dir => property left dir ∧
        Matches recordDigest item maximumBytes dir)
      (fun failure => Holds fun left dir => property left dir ∧
        ¬Matches recordDigest item maximumBytes dir ∧
        (failure = .absent → findRecord dir item.name = none))
      cut := by
  have unique : ∀ {dir : Directory} {record : Record}, findRecord dir item.name = some record →
      Matches recordDigest item maximumBytes dir → record.inode = item.inode ∧
        record.bytes.length ≤ maximumBytes ∧ recordDigest record.bytes = item.digest := by
    intro dir record found named
    obtain ⟨other, present, rest⟩ := named
    rw [found] at present
    cases present
    exact rest
  unfold checkRecord
  apply @Triple.bind _ _ _ _ _ _ _ _ _ (fun inode => Holds fun left dir => property left dir ∧
    ∃ record, findRecord dir item.name = some record ∧ record.inode = inode)
  · apply Triple.look
    · intro machine inode start seen
      refine And.intro start ?_
      change ∃ record, findRecord machine.store item.name = some record ∧ record.inode = inode
      split at seen
      · cases seen
      · rename_i record found
        cases seen
        exact ⟨record, found, rfl⟩
    · intro machine failure start missed
      split at missed
      · rename_i found
        cases missed
        refine ⟨start, ?_, fun _ => found⟩
        intro named
        obtain ⟨record, present, rest⟩ := named
        have absent : findRecord (contents machine.store) item.name = none := found
        rw [absent] at present
        cases present
      · cases missed
  · intro inode
    apply Triple.ite
    · intro differs
      apply Triple.fail
      intro machine start
      obtain ⟨holds, record, found, own⟩ := start
      refine ⟨holds, ?_, fun impossible => by cases impossible⟩
      intro named
      rw [← own] at differs
      exact differs (unique found named).1
    · intro same
      apply @Triple.bind _ _ _ _ _ _ _ _ _ (fun bytes => Holds fun left dir =>
        property left dir ∧ ∃ record, findRecord dir item.name = some record ∧
          record.inode = item.inode ∧ record.bytes.length ≤ maximumBytes ∧ record.bytes = bytes)
      · apply Triple.look
        · intro machine bytes start seen
          obtain ⟨holds, record, found, own⟩ := start
          have stored : findRecord machine.store item.name = some record := found
          simp only [stored] at seen
          split at seen
          · cases seen
          · rename_i small
            cases seen
            exact And.intro holds ⟨record, found, own.trans (not_not.mp same),
              Nat.le_of_not_lt small, rfl⟩
        · intro machine failure start missed
          obtain ⟨holds, record, found, own⟩ := start
          have stored : findRecord machine.store item.name = some record := found
          simp only [stored] at missed
          split at missed
          · rename_i large
            cases missed
            refine ⟨holds, ?_, fun impossible => by cases impossible⟩
            intro named
            exact Nat.not_lt_of_le (unique found named).2.1 large
          · cases missed
      · intro bytes
        apply Triple.ite
        · intro differs
          apply Triple.fail
          intro machine start
          obtain ⟨holds, record, found, own, small, read⟩ := start
          refine ⟨holds, ?_, fun impossible => by cases impossible⟩
          intro named
          rw [← read] at differs
          exact differs (unique found named).2.2
        · intro equal
          apply Triple.ret
          intro machine start
          obtain ⟨holds, record, found, own, small, read⟩ := start
          rw [← read] at equal
          exact And.intro holds ⟨record, found, own, small, not_not.mp equal⟩

theorem replace_transaction_triple {value : Option Transaction}
    {property result : Nat → Directory → Prop} {thrown : Failure → Machine Directory → Prop}
    {cut : Directory → Prop}
    (full : fits value = false → ∀ machine, Holds property machine → thrown .refused machine)
    (lost : ∀ dir, property 0 dir → cut dir)
    (made : fits value = true → ∀ left dir, property (left + 1) dir →
      result left { dir with transaction := some (.stored value) }) :
    Triple (Holds property) (replaceTransaction value) (fun _ => Holds result) thrown
      (Cut cut) := by
  unfold replaceTransaction
  apply Triple.ite
  · intro no_room
    exact Triple.fail (full no_room)
  · intro room
    apply change_holds
    · exact fun _ => rfl
    · exact lost
    · exact made (by simpa using room)

theorem write_phase_triple {t : Transaction} {phase : Phase}
    {property : Nat → Directory → Prop} {result : Transaction → Nat → Directory → Prop}
    {kept : Directory → Prop}
    (full : fits (some { t with phase := phase }) = false →
      ∀ left dir, property left dir → kept dir)
    (lost : ∀ dir, property 0 dir → kept dir)
    (made : fits (some { t with phase := phase }) = true → ∀ left dir, property (left + 1) dir →
      result { t with phase := phase } left
        { dir with transaction := some (.stored (some { t with phase := phase })) }) :
    Triple (Holds property) (writePhase t phase) (fun next => Holds (result next))
      (fun _ => Holds fun _ => kept) (Cut kept) := by
  unfold writePhase
  apply @Triple.bind _ _ _ _ _ _ _ _ _ (fun _ => Holds (result { t with phase := phase }))
  · exact replace_transaction_triple
      (fun no_room machine start => full no_room machine.left (contents machine.store) start)
      lost made
  · intro written
    exact Triple.ret fun machine start => start

variable {limit surplus : Nat} {dir : Directory} {current prior : Counter}

variable (books : Books limit surplus current prior (some t) dir)
include books

theorem phase_books (phase : Phase) (staged : Staged current { t with phase := phase })
    (owes : owing dir current (some { t with phase := phase }) = owing dir current (some t)) :
    Books limit surplus current prior (some { t with phase := phase })
      { dir with transaction := some (.stored (some { t with phase := phase })) } := by
  refine { books with cell := ?_, staged := ?_, balance := ?_ }
  · rfl
  · intro other same
    rw [← Option.some.inj same]
    exact staged
  · have balance := books.balance
    rw [← owes] at balance
    exact balance

theorem remove_books (planned : t.phase = .planned) {record : Record}
    (present : findRecord dir t.name = some record) : Books limit surplus current prior (some t)
      { dir with records := removeRecord dir.records t.name } := by
  refine { books with distinct := ?_, balance := ?_ }
  · exact remove_distinct books.distinct
  · have balance := books.balance
    have named := List.find?_some present
    have fewer := @remove_length t.name dir.records books.distinct
      ⟨record, List.mem_of_find?_eq_some present, by simpa using named⟩
    simp only [owing, planned, present] at balance
    simp only [owing, planned, find_removed]
    simp only [reduceCtorEq, if_false, if_true] at balance ⊢
    omega

omit books in
theorem lower_books {current : Counter} (books : Books limit surplus current current (some t) dir)
    (unlinked : t.phase = .unlinked) (valid : counter t.after = true) :
    Books limit surplus t.after current (some t) { dir with count := some t.after } := by
  have staged := books.staged t rfl
  have differ : t.after ≠ t.before := by
    intro same
    have count := staged.count
    rw [same] at count
    omega
  have balance := books.balance
  simp only [owing, unlinked] at balance
  apply Books.mk
  · rfl
  · exact books.highwater
  · exact books.cell
  · exact valid
  · exact books.current_valid
  · rcases staged.unlinked unlinked with before | after
    · apply Or.inr
      rw [before, staged.sequence]
      exact Nat.lt_succ_self _
    · exact Or.inl after
  · exact books.distinct
  · intro other same
    rw [← Option.some.inj same]
    refine { staged with planned := ?_, unlinked := ?_, done := ?_ }
    · intro planned
      rw [unlinked] at planned
      cases planned
    · exact fun _ => Or.inr rfl
    · exact fun _ => rfl
  · simp only [owing, unlinked, if_neg differ]
    have count := staged.count
    rcases staged.unlinked unlinked with before | after
    · rw [if_pos before, before] at balance
      omega
    · rw [after, if_neg differ] at balance
      omega
  · have bounded := books.bounded
    have count := staged.count
    rcases staged.unlinked unlinked with before | after
    · rw [before] at bounded
      omega
    · rw [after] at bounded
      exact bounded

theorem clear_books (done : t.phase = .counted ∨ t.phase = .item_done) :
    Books limit surplus current prior none { dir with transaction := some (.stored none) } := by
  refine { books with cell := ?_, staged := ?_, balance := ?_ }
  · rfl
  · intro other impossible
    cases impossible
  · have balance := books.balance
    rcases done with counted | item_done
    · simp only [owing, counted] at balance ⊢
      exact balance
    · simp only [owing, item_done] at balance ⊢
      exact balance

theorem pending_kept
    (readable : Readable t) : Kept limit surplus dir := Books.kept books (readables_some readable)

omit books

/-- The pending transaction on an open namespace, with what is left to finish it. -/
def Underway (limit surplus : Nat) (item : RetentionDeletion) (itemDone : Option Failure)
    (t : Transaction) (phase : Phase) (need left : Nat) (dir : Directory) : Prop :=
  (∃ current, Books limit surplus current current (some t) dir) ∧ t.name = item.name ∧
    Covered itemDone t phase need left

theorem Underway.kept
    (underway : Underway limit surplus item itemDone t phase need left dir)
    (readable : Readable t) : Kept limit surplus dir := by
  obtain ⟨⟨current, books⟩, rest⟩ := underway
  exact pending_kept books readable

theorem mark_unlinked_triple (planned : t.phase = .planned) : Triple
      (Holds fun left dir => (Underway limit surplus item itemDone t .planned 6 left dir ∧
        findRecord dir item.name = none))
      (writePhase t .unlinked)
      (fun next => Holds fun left dir => next.phase ≠ .planned ∧
        Underway limit surplus item itemDone next .unlinked 5 left dir)
      (fun _ => Holds fun _ => Kept limit surplus) (Cut (Kept limit surplus)) := by
  apply @write_phase_triple t .unlinked _ (fun next left dir => next.phase ≠ .planned ∧
    Underway limit surplus item itemDone next .unlinked 5 left dir)
  · intro full left dir start
    exact start.1.kept (start.1.2.2.room full)
  · intro dir start
    exact start.1.kept start.1.2.2.readable
  · intro room left dir start
    obtain ⟨⟨⟨current, books⟩, named, covered⟩, absent⟩ := start
    have staged := books.staged t rfl
    have before := staged.planned planned
    refine ⟨(fun impossible => by cases impossible),
      ⟨current, phase_books books .unlinked ?_ ?_⟩, named, covered_phase covered⟩
    · apply Staged.mk
      · exact staged.sequence
      · exact staged.count
      · exact room
      · intro impossible
        cases impossible
      · exact fun _ => Or.inl before
      · intro impossible
        rcases impossible with counted | item_done
        · cases counted
        · cases item_done
    · rw [← named] at absent
      simp only [owing, planned, absent, if_true]
      rw [if_pos before]

theorem unlink_triple
    (planned : t.phase = .planned) :
    Triple
      (Holds fun left dir => Underway limit surplus item itemDone t .planned 7 left dir ∧
        (Readable t ∨ Matches recordDigest item maximumBytes dir))
      (attempt (do
        checkRecord recordDigest item maximumBytes
        change fun dir => { dir with records := removeRecord dir.records item.name })
        fun failure =>
          match failure with
          | .refused => fail .refused
          | .absent => pure ())
      (fun _ => Holds fun left dir => Underway limit surplus item itemDone t .planned 6 left dir ∧
        findRecord dir item.name = none)
      (fun _ => Holds fun _ => Kept limit surplus) (Cut (Kept limit surplus)) := by
  apply @Triple.attempt _ _ _ _ _ _ _ _ _ (fun failure => Holds fun left dir =>
    Underway limit surplus item itemDone t .planned 7 left dir ∧ Readable t ∧
      (failure = .absent → findRecord dir item.name = none))
  · apply @Triple.bind _ _ _ _ _ _ _ _ _ (fun _ => Holds fun left dir =>
      Underway limit surplus item itemDone t .planned 7 left dir ∧
        Matches recordDigest item maximumBytes dir)
    · apply Triple.weaken (check_record_triple recordDigest)
      · exact fun machine start => start
      · exact fun value machine holds => And.intro holds.1.1 holds.2
      · intro failure machine holds
        obtain ⟨⟨underway, either⟩, other, absent⟩ := holds
        exact ⟨underway, either.resolve_right other, absent⟩
      · exact fun store holds => holds
    · intro checked
      apply change_holds
      · exact fun _ => rfl
      · intro dir start
        exact start.1.kept start.1.2.2.readable
      · intro left dir start
        obtain ⟨⟨⟨current, books⟩, named, covered⟩, record, present, rest⟩ := start
        rw [← named] at present ⊢
        refine And.intro ⟨⟨current, remove_books books planned present⟩, named, ?_⟩
          (find_removed dir t.name)
        rcases covered with readable | finishes
        · exact Or.inl readable
        · exact Or.inr ⟨Nat.le_of_succ_le_succ finishes.1, finishes.2⟩
  · intro failure
    cases failure with
    | refused => exact Triple.fail fun machine start => start.1.kept start.2.1
    | absent =>
      apply Triple.ret
      intro machine start
      obtain ⟨⟨books, named, covered⟩, readable, absent⟩ := start
      exact And.intro ⟨books, named, Or.inl readable⟩ (absent rfl)

theorem unlink_planned_triple : Triple
      (Holds fun left dir => Underway limit surplus item itemDone t .planned 7 left dir ∧
        (Readable t ∨ Matches recordDigest item maximumBytes dir))
      (unlinkPlanned recordDigest counterDigest item t maximumBytes)
      (fun next => Holds fun left dir => next.phase ≠ .planned ∧
        Underway limit surplus item itemDone next .unlinked 5 left dir)
      (fun _ => Holds fun _ => Kept limit surplus) (Cut (Kept limit surplus)) := by
  unfold unlinkPlanned
  apply Triple.ite
  · intro further
    apply Triple.ret
    intro machine start
    obtain ⟨⟨books, named, covered⟩, either⟩ := start
    refine ⟨further, books, named, ?_⟩
    rcases covered with readable | finishes
    · exact Or.inl readable
    · exact absurd finishes.2.2.2 further
  · intro first
    have planned : t.phase = .planned := not_not.mp first
    constructor
    intro machine start
    obtain ⟨⟨⟨current, books⟩, named, covered⟩, either⟩ := start
    have before := (books.staged t rfl).planned planned
    have no_repair : ¬0 < repairs current current := by simp [repairs]
    have read := @read_counter_triple limit surplus current current (some t)
      (fun _ => Holds fun _ => Kept limit surplus)
      (fun left dir => Covered itemDone t .planned 7 left ∧
        (Readable t ∨ Matches recordDigest item maximumBytes dir))
      (fun _ _ holds => holds) (fun impossible => absurd impossible no_repair)
    refine (Triple.known read ?_).ends machine (And.intro books (And.intro covered either))
    rw [if_neg (fun differs => differs (congrArg counterDigest before))]
    apply Triple.bind
    · apply Triple.since (unlink_triple recordDigest planned)
      intro machine holds
      have level : repairs current current = 0 := by simp [repairs]
      obtain ⟨books, covered, either⟩ := holds
      rw [level] at covered
      exact ⟨⟨⟨current, books⟩, named, covered⟩, either⟩
    · intro unlinked
      exact mark_unlinked_triple planned

theorem covered_spend (covered : Covered itemDone t phase (need + 1) (left + 1)) :
    Covered itemDone t phase need left := by
  rcases covered with readable | finishes
  · exact Or.inl readable
  · exact Or.inr ⟨Nat.le_of_succ_le_succ finishes.1, finishes.2⟩

theorem mark_counted_triple (unlinked : t.phase = .unlinked) : Triple
      (Holds fun left dir => Books limit surplus t.after t.after (some t) dir ∧
        t.name = item.name ∧ Covered itemDone t .unlinked 3 left)
      (writePhase t .counted)
      (fun next => Holds fun left dir => (next.phase = .counted ∨ next.phase = .item_done) ∧
        Underway limit surplus item itemDone next .counted 2 left dir)
      (fun _ => Holds fun _ => Kept limit surplus) (Cut (Kept limit surplus)) := by
  apply @write_phase_triple t .counted _ (fun next left dir =>
    (next.phase = .counted ∨ next.phase = .item_done) ∧
      Underway limit surplus item itemDone next .counted 2 left dir)
  · intro full left dir start
    exact pending_kept start.1 (start.2.2.room full)
  · intro dir start
    exact pending_kept start.1 start.2.2.readable
  · intro room left dir start
    obtain ⟨books, named, covered⟩ := start
    have staged := books.staged t rfl
    have differ : t.after ≠ t.before := by
      intro same
      have count := staged.count
      rw [same] at count
      omega
    refine ⟨Or.inl rfl, ⟨t.after, phase_books books .counted ?_ ?_⟩, named, covered_phase covered⟩
    · exact staged.later room (.inl rfl) rfl
    · simp only [owing, unlinked]
      rw [if_neg differ]

theorem lower_triple {current : Counter} (unlinked : t.phase = .unlinked) : Triple
      (Holds fun left dir => Books limit surplus current current (some t) dir ∧
        t.name = item.name ∧ Covered itemDone t .unlinked 5 left)
      (writeCounter t.after)
      (fun _ => Holds fun left dir => Books limit surplus t.after t.after (some t) dir ∧
        t.name = item.name ∧ Covered itemDone t .unlinked 3 left)
      (fun _ => Holds fun _ => Kept limit surplus) (Cut (Kept limit surplus)) := by
  unfold writeCounter
  apply Triple.knowing (fun machine start => start.2.2.after_valid (start.1.staged t rfl).room)
  intro valid
  rw [if_neg (by simp [valid])]
  apply @Triple.bind _ _ _ _ _ _ _ _ _ (fun _ => Holds fun left dir =>
    Books limit surplus t.after current (some t) dir ∧ t.name = item.name ∧
      Covered itemDone t .unlinked 4 left)
  · apply change_holds
    · exact fun _ => rfl
    · intro dir start
      exact pending_kept start.1 start.2.2.readable
    · intro left dir start
      exact ⟨lower_books start.1 unlinked valid, start.2.1, covered_spend start.2.2⟩
  · intro counted
    apply change_holds
    · exact fun _ => rfl
    · intro dir start
      exact pending_kept start.1 start.2.2.readable
    · intro left dir start
      exact ⟨start.1.mk_prior, start.2.1, covered_spend start.2.2⟩

theorem count_unlinked_triple : Triple (Holds fun left dir => t.phase ≠ .planned ∧
        Underway limit surplus item itemDone t .unlinked 5 left dir)
      (countUnlinked counterDigest t)
      (fun next => Holds fun left dir => (next.phase = .counted ∨ next.phase = .item_done) ∧
        Underway limit surplus item itemDone next .counted 2 left dir)
      (fun _ => Holds fun _ => Kept limit surplus) (Cut (Kept limit surplus)) := by
  unfold countUnlinked
  apply Triple.ite
  · intro further
    apply Triple.ret
    intro machine start
    obtain ⟨not_planned, books, named, covered⟩ := start
    have done : t.phase = .counted ∨ t.phase = .item_done := by
      cases phase : t.phase with
      | planned => exact absurd phase not_planned
      | unlinked => exact absurd phase further
      | counted => exact Or.inl rfl
      | item_done => exact Or.inr rfl
    refine ⟨done, books, named, ?_⟩
    rcases covered with readable | finishes
    · exact Or.inl readable
    · exact absurd finishes.2.2.2 further
  · intro first
    have unlinked : t.phase = .unlinked := not_not.mp first
    constructor
    intro machine start
    obtain ⟨not_planned, ⟨current, books⟩, named, covered⟩ := start
    have no_repair : ¬0 < repairs current current := by simp [repairs]
    have read := @read_counter_triple limit surplus current current (some t)
      (fun _ => Holds fun _ => Kept limit surplus)
      (fun left dir => t.name = item.name ∧ Covered itemDone t .unlinked 5 left)
      (fun _ _ holds => holds) (fun impossible => absurd impossible no_repair)
    have level : repairs current current = 0 := by simp [repairs]
    rw [level] at read
    have at_stage := (books.staged t rfl).unlinked unlinked
    refine (Triple.known read ?_).ends machine (And.intro books (And.intro named covered))
    dsimp only
    apply Triple.ite
    · intro before
      exact Triple.bind (lower_triple unlinked) fun _ => mark_counted_triple unlinked
    · intro not_before
      have after : current = t.after := by
        rcases at_stage with same | same
        · exact absurd (congrArg counterDigest same) not_before
        · exact same
      rw [if_neg (fun differs => differs (congrArg counterDigest after))]
      apply Triple.since (mark_counted_triple unlinked)
      intro machine holds
      obtain ⟨kept, same_name, still⟩ := holds
      rw [after] at kept
      refine ⟨kept, same_name, ?_⟩
      rcases still with readable | finishes
      · exact Or.inl readable
      · exact Or.inr ⟨(by omega : 3 ≤ 5).trans finishes.1, finishes.2⟩

theorem settle_triple : Triple (Holds fun left dir => (t.phase = .counted ∨ t.phase = .item_done) ∧
        Underway limit surplus item itemDone t .counted 2 left dir)
      (do
        if t.phase ≠ .counted then fail .refused else
          publishes itemDone
          replaceTransaction (some { t with phase := .item_done })
          replaceTransaction none)
      (fun _ => Holds fun _ => Kept limit surplus)
      (fun _ => Holds fun _ => Kept limit surplus) (Cut (Kept limit surplus)) := by
  apply Triple.ite
  · intro further
    apply Triple.fail
    intro machine start
    obtain ⟨done, underway⟩ := start
    apply underway.kept
    rcases underway.2.2 with readable | finishes
    · exact readable
    · exact absurd finishes.2.2.2 further
  · intro first
    have counted : t.phase = .counted := not_not.mp first
    apply Triple.bind (publishes_triple _)
    · intro published
      apply @Triple.bind _ _ _ _ _ _ _ _ _ (fun _ => Holds fun left dir =>
        Underway limit surplus item itemDone { t with phase := .item_done } .item_done 1 left dir)
      · apply @replace_transaction_triple _ (fun left dir => itemDone = none ∧
          (t.phase = .counted ∨ t.phase = .item_done) ∧
            Underway limit surplus item itemDone t .counted 2 left dir)
        · intro full machine start
          exact start.2.2.kept (start.2.2.2.2.room full)
        · intro dir start
          exact start.2.2.kept start.2.2.2.2.readable
        · intro room left dir start
          obtain ⟨done, phase, ⟨current, books⟩, named, covered⟩ := start
          have staged := books.staged t rfl
          have after := staged.done phase
          refine ⟨⟨current, phase_books books .item_done ?_ ?_⟩, named, covered_phase covered⟩
          · exact staged.later room (.inr rfl) after
          · simp only [owing, counted]
      · intro marked
        apply replace_transaction_triple
        · intro full
          exact absurd full (by decide)
        · intro dir start
          exact start.kept start.2.2.readable
        · intro room left dir start
          obtain ⟨⟨current, books⟩, named, covered⟩ := start
          exact Books.kept (clear_books books (Or.inr rfl)) readables_none
    · intro failure machine raised start
      apply start.2.kept
      rcases start.2.2.2 with readable | finishes
      · exact readable
      · rw [finishes.2.2.1] at raised
        cases raised

/-- What a plan can come to: its transaction can always be read back, or the crash comes before
it is written, or nothing stops the deletion before its transaction is cleared. -/
def Plannable (item : RetentionDeletion) (itemDone : Option Failure) (maximumBytes : Nat)
    (before : Counter) (soon enough left : Nat) (dir : Directory) : Prop :=
  Matches recordDigest item maximumBytes dir → 1 ≤ before.count →
    fits (some (planFor item before)) = true →
    Readable (planFor item before) ∨ left ≤ soon ∨
      (Uncut (planFor item before) ∧ itemDone = none ∧ enough ≤ left)

theorem plan_books {current : Counter} (books : Books limit surplus current current none dir)
    (named : Matches recordDigest item maximumBytes dir) (counted : 1 ≤ current.count)
    (room : fits (some (planFor item current)) = true) :
    Books limit surplus current current (some (planFor item current))
      { dir with transaction := some (.stored (some (planFor item current))) } := by
  obtain ⟨record, present, rest⟩ := named
  refine { books with cell := ?_, staged := ?_, balance := ?_ }
  · rfl
  · intro t same
    rw [← Option.some.inj same]
    apply Staged.mk
    · rfl
    · exact Nat.sub_add_cancel counted
    · exact room
    · exact fun _ => rfl
    · intro impossible
      cases impossible
    · intro impossible
      rcases impossible with counted | item_done
      · cases counted
      · cases item_done
  · have balance := books.balance
    have there : findRecord { dir with
        transaction := some (.stored (some (planFor item current))) }
        (planFor item current).name = some record := present
    have phase : (planFor item current).phase = .planned := rfl
    simp only [owing] at balance
    simp only [owing, phase, there, reduceCtorEq, if_false]
    exact balance

theorem plan_triple {current : Counter} : Triple
      (Holds fun left dir => Books limit surplus current current none dir ∧
        Plannable recordDigest item itemDone maximumBytes current 0 8 left dir)
      (plan recordDigest item maximumBytes)
      (fun t => Holds fun left dir =>
        Underway limit surplus item itemDone t .planned 7 left dir ∧
          (Readable t ∨ Matches recordDigest item maximumBytes dir))
      (fun _ => Holds fun _ => Kept limit surplus) (Cut (Kept limit surplus)) := by
  unfold plan
  apply Triple.bind
  · apply Triple.weaken (check_record_triple recordDigest)
    · exact fun machine start => start
    · exact fun value machine holds => holds
    · exact fun failure machine holds => Books.kept holds.1.1 readables_none
    · exact fun store holds => holds
  · intro checked
    have read := @read_counter_triple limit surplus current current none
      (fun _ => Holds fun _ => Kept limit surplus)
      (fun left dir => Plannable recordDigest item itemDone maximumBytes current 0 8 left dir ∧
        Matches recordDigest item maximumBytes dir)
      (fun _ _ holds => holds) (fun _ _ _ => readables_none)
    have level : repairs current current = 0 := by simp [repairs]
    rw [level] at read
    apply Triple.known (Triple.weaken read
      (fun machine holds => And.intro holds.1.1 (And.intro holds.1.2 holds.2))
      (fun value machine holds => holds) (fun failure machine holds => holds)
      (fun store holds => holds))
    apply Triple.ite
    · intro underflow
      exact Triple.fail fun machine holds => Books.kept holds.1 readables_none
    · intro counted
      apply @Triple.bind _ _ _ _ _ _ _ _ _ (fun _ => Holds fun left dir =>
        Underway limit surplus item itemDone (planFor item current) .planned 7 left dir ∧
          (Readable (planFor item current) ∨ Matches recordDigest item maximumBytes dir))
      · apply replace_transaction_triple
        · exact fun full machine holds => Books.kept holds.1 readables_none
        · exact fun dir holds => Books.kept holds.1 readables_none
        · intro room left dir holds
          obtain ⟨books, plannable, named⟩ := holds
          have positive : 1 ≤ current.count := Nat.le_of_not_lt counted
          refine And.intro ⟨⟨current, plan_books recordDigest books named positive room⟩, rfl, ?_⟩
            (Or.inr named)
          rcases plannable named positive room with readable | rest
          · exact Or.inl readable
          · rcases rest with soon | finishes
            · omega
            · obtain ⟨uncut, done, enough⟩ := finishes
              exact Or.inr ⟨by omega, uncut, done, rfl⟩
      · intro written
        exact Triple.ret fun machine holds => holds

end

end OpenMapX.Artifacts.RetentionDeletes
