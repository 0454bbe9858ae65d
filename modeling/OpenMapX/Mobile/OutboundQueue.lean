import OpenMapX.Mobile.NativeBridge

/-!
# The queue of outbound messages

The queue of the bridge by itself: it is bounded, a snapshot is replaced by a newer one, and
every other message stays in the order in which it came.
-/

namespace OpenMapX.Mobile.OutboundQueue

open NativeBridge List

def isSnapshot (draft : OutboundDraft) : Bool := decide (draft.type = .snapshotUpdate)

def isCritical (draft : OutboundDraft) : Bool := !isSnapshot draft

/-- What a queue holds of the messages that were offered to it, of which it took some. -/
structure Holds (queue offered held : List OutboundDraft) : Prop where
  bounded : queue.length ≤ MAX_QUEUED_OUTBOUND
  inOrder : queue.Sublist held
  critical : queue.filter isCritical = held.filter isCritical
  snapshot : queue.filter isSnapshot = [] ∨ ∃ newest,
    queue.filter isSnapshot = [newest] ∧ (offered.filter isSnapshot).getLast? = some newest

theorem nothing_held : Holds [] [] [] := ⟨Nat.zero_le _, List.Sublist.refl _, rfl, Or.inl rfl⟩

theorem critical_of_snapshot {draft} (given : isSnapshot draft = true) :
    isCritical draft = false := by
  simp [isCritical, given]

theorem critical_of_other {draft} (other : isSnapshot draft = false) : isCritical draft = true := by
  simp [isCritical, other]

variable (queue : List OutboundDraft)

theorem snapshots_of_critical : (queue.filter isCritical).filter isSnapshot = [] := by
  rw [filter_filter, filter_eq_nil_iff]
  intro draft _
  cases given : isSnapshot draft with
  | true => simp [critical_of_snapshot given]
  | false => simp

theorem find_snapshot_none {queue : List OutboundDraft}
    (none_found : (queue.findIdx? fun entry => entry.type = .snapshotUpdate) = none) :
    queue.filter isSnapshot = [] := by
  rw [filter_eq_nil_iff]
  intro draft member
  have other := findIdx?_eq_none_iff.mp none_found draft member
  unfold isSnapshot
  rw [other]
  exact Bool.false_ne_true

theorem erase_snapshot {queue : List OutboundDraft} {index : Nat}
    (found : (queue.findIdx? fun entry => entry.type = .snapshotUpdate) = some index) :
    (queue.eraseIdx index).filter isCritical = queue.filter isCritical ∧
      (queue.filter isSnapshot).length = ((queue.eraseIdx index).filter isSnapshot).length + 1 ∧
      (queue.eraseIdx index).length + 1 = queue.length := by
  induction queue generalizing index with
  | nil => simp at found
  | cons draft later ih =>
    rw [findIdx?_cons] at found
    cases given : isSnapshot draft with
    | true =>
      have first : decide (draft.type = .snapshotUpdate) = true := given
      rw [first, if_pos rfl] at found
      cases found
      rw [eraseIdx_cons_zero, filter_cons_of_neg (by
        rw [critical_of_snapshot given]
        exact Bool.false_ne_true), filter_cons_of_pos given]
      exact ⟨rfl, rfl, rfl⟩
    | false =>
      have other : decide (draft.type = .snapshotUpdate) = false := given
      rw [other, if_neg Bool.false_ne_true] at found
      obtain ⟨before, foundLater, same⟩ := Option.map_eq_some_iff.mp found
      have rest := ih foundLater
      rw [← same, eraseIdx_cons_succ, filter_cons_of_pos (critical_of_other given),
        filter_cons_of_pos (critical_of_other given), rest.1,
        filter_cons_of_neg (by rw [given]; exact Bool.false_ne_true),
        filter_cons_of_neg (by rw [given]; exact Bool.false_ne_true)]
      exact ⟨rfl, rest.2.1, congrArg Nat.succ rest.2.2⟩

/-- `enqueue` on the queue alone. -/
def enqueueDraft (queue : List OutboundDraft) (message : OutboundDraft) :
    List OutboundDraft × SendOutcome :=
  let superseded := if message.type = .snapshotUpdate then
      queue.filter fun entry => entry.type ≠ .snapshotUpdate
    else queue
  if MAX_QUEUED_OUTBOUND ≤ superseded.length then
    match superseded.findIdx? fun entry => entry.type = .snapshotUpdate with
    | none => (superseded, .dropped)
    | some droppable => (superseded.eraseIdx droppable ++ [message], .queued)
  else (superseded ++ [message], .queued)

theorem enqueue_eq (state : BridgeState) (message : OutboundDraft) : enqueue state message =
      ({ state with queue := (enqueueDraft state.queue message).1 },
        (enqueueDraft state.queue message).2) := by
  unfold enqueue enqueueDraft
  dsimp only
  generalize (if message.type = .snapshotUpdate then _ else _) = superseded
  split
  · cases superseded.findIdx? fun entry => entry.type = .snapshotUpdate with
    | none => rfl
    | some droppable => rfl
  · rfl

theorem filter_critical_eq :
    (queue.filter fun entry => entry.type ≠ .snapshotUpdate) = queue.filter isCritical := by
  apply filter_congr
  intro draft _
  unfold isCritical isSnapshot
  exact decide_not

variable {message : OutboundDraft}

theorem enqueue_snapshot (given : isSnapshot message = true) :
    ((queue.filter isCritical).length < MAX_QUEUED_OUTBOUND ∧
        enqueueDraft queue message = (queue.filter isCritical ++ [message], .queued)) ∨
      enqueueDraft queue message = (queue.filter isCritical, .dropped) := by
  have type : message.type = .snapshotUpdate := of_decide_eq_true given
  unfold enqueueDraft
  rw [if_pos type, filter_critical_eq]
  dsimp only
  split
  · cases found : (queue.filter isCritical).findIdx? fun entry =>
        entry.type = .snapshotUpdate with
    | none => exact Or.inr rfl
    | some index =>
      have erased := (erase_snapshot found).2.1
      rw [snapshots_of_critical] at erased
      simp at erased
  · rename_i room
    exact Or.inl ⟨not_le.mp room, rfl⟩

theorem enqueue_critical (other : isSnapshot message = false) :
    (queue.length < MAX_QUEUED_OUTBOUND ∧
        enqueueDraft queue message = (queue ++ [message], .queued)) ∨
      (∃ index, (queue.findIdx? fun entry => entry.type = .snapshotUpdate) = some index ∧
        enqueueDraft queue message = (queue.eraseIdx index ++ [message], .queued)) ∨
      (queue.filter isSnapshot = [] ∧ enqueueDraft queue message = (queue, .dropped)) := by
  have type : message.type ≠ .snapshotUpdate := of_decide_eq_false other
  unfold enqueueDraft
  rw [if_neg type]
  dsimp only
  split
  · cases found : queue.findIdx? fun entry => entry.type = .snapshotUpdate with
    | none => exact Or.inr (Or.inr ⟨find_snapshot_none found, rfl⟩)
    | some index => exact Or.inr (Or.inl ⟨index, rfl, rfl⟩)
  · rename_i room
    exact Or.inl ⟨not_le.mp room, rfl⟩

def heldAfter (queue held : List OutboundDraft) (message : OutboundDraft) : List OutboundDraft :=
  if (enqueueDraft queue message).2 = .queued then held ++ [message] else held

theorem filter_snoc_snapshot (list) (given : isSnapshot message = true) :
    (list ++ [message]).filter isSnapshot = list.filter isSnapshot ++ [message] ∧
      (list ++ [message]).filter isCritical = list.filter isCritical := by
  simp [given, critical_of_snapshot given]

theorem filter_snoc_critical (list) (other : isSnapshot message = false) :
    (list ++ [message]).filter isSnapshot = list.filter isSnapshot ∧
      (list ++ [message]).filter isCritical = list.filter isCritical ++ [message] := by
  simp [other, critical_of_other other]

theorem enqueue_holds {queue offered held : List OutboundDraft} (message : OutboundDraft)
    (holds : Holds queue offered held) : Holds (enqueueDraft queue message).1 (offered ++ [message])
      (heldAfter queue held message) := by
  unfold heldAfter
  cases given : isSnapshot message with
  | true =>
    have criticals : (queue.filter isCritical).Sublist held :=
      filter_sublist.trans holds.inOrder
    have again : (queue.filter isCritical).filter isCritical = queue.filter isCritical := by
      rw [filter_filter]
      simp
    rcases enqueue_snapshot queue given with room | refused
    · rw [room.2, if_pos rfl]
      constructor
      · rw [length_append, length_singleton]
        exact room.1
      · exact List.Sublist.append_right criticals [message]
      · rw [(filter_snoc_snapshot _ given).2, (filter_snoc_snapshot held given).2, again,
          holds.critical]
      · apply Or.inr
        refine ⟨message, ?_, ?_⟩
        · rw [(filter_snoc_snapshot _ given).1, snapshots_of_critical, nil_append]
        · rw [(filter_snoc_snapshot offered given).1, getLast?_concat]
    · rw [refused, if_neg (by simp)]
      exact
        { bounded := le_trans (length_filter_le _ _) holds.bounded
          inOrder := criticals
          critical := again.trans holds.critical
          snapshot := Or.inl (snapshots_of_critical queue) }
  | false =>
    have sameOffered := (filter_snoc_critical offered given).1
    obtain ⟨room, taken⟩ | ⟨index, found, taken⟩ | ⟨noSnapshot, refused⟩ :=
      enqueue_critical queue given
    · rw [taken, if_pos rfl]
      constructor
      · rw [length_append, length_singleton]
        exact room
      · exact List.Sublist.append_right holds.inOrder [message]
      · rw [(filter_snoc_critical queue given).2, (filter_snoc_critical held given).2,
          holds.critical]
      · rw [(filter_snoc_critical queue given).1, sameOffered]
        exact holds.snapshot
    · have erased := erase_snapshot found
      rw [taken, if_pos rfl]
      constructor
      · rw [length_append, length_singleton, erased.2.2]
        exact holds.bounded
      · exact List.Sublist.append_right
          ((eraseIdx_sublist queue index).trans holds.inOrder) [message]
      · rw [(filter_snoc_critical _ given).2, (filter_snoc_critical held given).2, erased.1,
          holds.critical]
      · apply Or.inl
        rw [(filter_snoc_critical _ given).1]
        apply length_eq_zero_iff.mp
        rcases holds.snapshot with empty | one
        · rw [empty] at erased
          have none_left := erased.2.1
          simp at none_left
        · obtain ⟨newest, single, -⟩ := one
          have one_left := erased.2.1
          rw [single, length_singleton] at one_left
          omega
    · rw [refused, if_neg (by simp)]
      exact
        { bounded := holds.bounded
          inOrder := holds.inOrder
          critical := holds.critical
          snapshot := Or.inl noSnapshot }

theorem enqueue_sublist (message : OutboundDraft) :
    (enqueueDraft queue message).1.Sublist (heldAfter queue queue message) := by
  unfold heldAfter
  cases given : isSnapshot message with
  | true =>
    rcases enqueue_snapshot queue given with room | refused
    · rw [room.2, if_pos rfl]
      exact List.Sublist.append_right filter_sublist [message]
    · rw [refused, if_neg (by simp)]
      exact filter_sublist
  | false =>
    obtain ⟨-, taken⟩ | ⟨index, -, taken⟩ | ⟨-, refused⟩ := enqueue_critical queue given
    · rw [taken, if_pos rfl]
    · rw [taken, if_pos rfl]
      exact List.Sublist.append_right (eraseIdx_sublist queue index) [message]
    · rw [refused, if_neg (by simp)]

end OpenMapX.Mobile.OutboundQueue
