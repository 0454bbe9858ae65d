import Mathlib.Data.Nat.Bitwise
import OpenMapX.Foundation.JsText

/-!
# Local notifications

Identifiers of alerts, and the operating system's set of pending requests as
`ExpoNotificationScheduler` changes it.
-/

namespace OpenMapX.Mobile.Notifications

open Foundation.JsText List

inductive NotificationCategory where
  | alight | transfer | departure | critical
  deriving DecidableEq

def NotificationCategory.text : NotificationCategory → String
  | .alight => "alight"
  | .transfer => "transfer"
  | .departure => "departure"
  | .critical => "critical"

def MAX_NOTIFICATION_ID_LENGTH : Nat := 48

def base36Digit (value : Nat) : Char :=
  if value < 10 then Char.ofNat ('0'.toNat + value) else Char.ofNat ('a'.toNat + (value - 10))

/-- `hash.toString(36).padStart(7, "0")`; a 32-bit hash has at most seven digits. -/
def base36 (hash : Nat) : List Char :=
  (range 7).map fun place => base36Digit (hash / 36 ^ (6 - place) % 36)

def fnv1a (input : String) (seed : Nat) : List Char :=
  base36 ((codeUnits input).foldl
    (fun hash unit => Nat.xor hash unit * 0x01000193 % 2 ^ 32) (seed % 2 ^ 32))

def digest (input : String) : List Char := fnv1a input 0x811c9dc5 ++ fnv1a input 0x9e3779b9

def notificationIdFor (sessionId : String) (category : NotificationCategory) (eventKey : String) :
    Except String String :=
  if sessionId = "" ∨ eventKey = "" then
    .error "notification id needs a session and an event key"
  else
    .ok (String.ofList ((("omx-" ++ category.text ++ "-").toList
      ++ digest (sessionId ++ "\x00" ++ category.text ++ "\x00" ++ eventKey)).take
        MAX_NOTIFICATION_ID_LENGTH))

def idLetter (c : Char) : Bool := ('0' ≤ c && c ≤ '9') || ('a' ≤ c && c ≤ 'z')

def isOpenMapXNotificationId (value : String) : Bool :=
  [NotificationCategory.alight, .transfer, .departure, .critical].any fun category =>
    let stem := ("omx-" ++ category.text ++ "-").toList
    let rest := value.toList.drop stem.length
    stem.isPrefixOf value.toList && rest.length == 14 && rest.all idLetter

structure ScheduledNotification where
  id : String
  category : NotificationCategory
  triggerAtMs : ℤ
  title : String
  body : String
  deriving DecidableEq

structure PendingNotification where
  identifier : String
  triggerAtMs : ℤ
  deriving DecidableEq

abbrev System := List PendingNotification

def System.pending (system : System) : List String := system.map (·.identifier)

def schedule (request : ScheduledNotification) (system : System) : System :=
  system.filter (·.identifier != request.id)
    ++ [{ identifier := request.id, triggerAtMs := request.triggerAtMs }]

def cancel (id : String) (system : System) : System := system.filter (·.identifier != id)

def cancelSession (ids : List String) (system : System) : System :=
  ids.foldl (fun system id => cancel id system) system

structure ReconcilePlan where
  toSchedule : List ScheduledNotification
  toCancel : List String
  orphans : List String

def planReconciliation (desired : List ScheduledNotification) (pending : List String)
    (isOurs : String → Bool) : ReconcilePlan :=
  let desiredIds := desired.map (·.id)
  let toCancel := (pending.filter isOurs).filter fun id => !desiredIds.contains id
  { toSchedule := desired.filter fun record => !pending.contains record.id
    toCancel := toCancel
    orphans := toCancel }

structure ReconcileResult where
  scheduled : Nat
  cancelled : Nat
  orphans : Nat
  deriving DecidableEq

def reconcile (records : List ScheduledNotification) (system : System) : ReconcileResult × System :=
  let plan := planReconciliation records system.pending isOpenMapXNotificationId
  ({ scheduled := plan.toSchedule.length, cancelled := plan.toCancel.length,
     orphans := plan.orphans.length },
    plan.toSchedule.foldl (fun system record => schedule record system)
      (plan.toCancel.foldl (fun system id => cancel id system) system))

theorem mem_pending_cancel (system : System) (id other : String) :
    other ∈ (cancel id system).pending ↔ other ∈ system.pending ∧ other ≠ id := by
  simp only [System.pending, cancel, mem_map, mem_filter, bne_iff_ne]
  constructor
  · rintro ⟨entry, ⟨member, differs⟩, rfl⟩
    exact ⟨⟨entry, member, rfl⟩, differs⟩
  · rintro ⟨⟨entry, member, rfl⟩, differs⟩
    exact ⟨entry, ⟨member, differs⟩, rfl⟩

theorem mem_pending_cancelSession (ids : List String) (system : System) (other : String) :
    other ∈ (cancelSession ids system).pending ↔ other ∈ system.pending ∧ other ∉ ids := by
  induction ids generalizing system with
  | nil => simp [cancelSession]
  | cons id ids ih =>
    have step : cancelSession (id :: ids) system = cancelSession ids (cancel id system) := rfl
    rw [step, ih, mem_pending_cancel, mem_cons, not_or]
    tauto

end OpenMapX.Mobile.Notifications
