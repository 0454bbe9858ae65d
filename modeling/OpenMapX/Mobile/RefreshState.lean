import OpenMapX.Mobile.SessionStore

/-!
# The state of a live refresh

When a refresh may be sent, and what each outcome makes of its record.
-/

namespace OpenMapX.Mobile.RefreshState

open SessionStore

def REFRESH_INTERVAL_MS : ℤ := 30000

def REQUEST_TIMEOUT_MS : ℤ := 15000

def RETRY_DELAYS_MS : List ℤ := [30000, 60000, 120000, 240000, 300000]

def MAX_CONSECUTIVE_FAILURES : Nat := RETRY_DELAYS_MS.length

def REPLAY_WINDOW_MS : ℤ := 120000

inductive RefreshHold where
  | inFlight | tooSoon | offline | noToken | broken | terminal
  deriving DecidableEq

structure RefreshContext where
  runtime : RefreshRuntime
  hasToken : Bool
  connectivity : Connectivity
  status : SessionStatus
  nowMs : ℤ

def ambiguousOf (runtime : RefreshRuntime) : Nat := runtime.ambiguousAttempts.getD 0

def replayExpired (runtime : RefreshRuntime) (nowMs : ℤ) : Bool :=
  match runtime.firstAttemptAtMs with
  | some first => decide (0 < ambiguousOf runtime) && decide (REPLAY_WINDOW_MS ≤ nowMs - first)
  | none => false

def tooSoon (runtime : RefreshRuntime) (nowMs : ℤ) : Bool :=
  match runtime.nextAttemptAtMs with
  | some next => decide (nowMs < next)
  | none => false

def shouldRefresh (context : RefreshContext) : Option RefreshHold :=
  if context.status ≠ .active ∧ context.status ≠ .preparing then some .terminal
  else if !context.hasToken then some .noToken
  else if context.runtime.status = .inFlight then some .inFlight
  else if replayExpired context.runtime context.nowMs then some .broken
  else if context.runtime.status = .broken then some .broken
  else if context.connectivity = .offline then some .offline
  else if tooSoon context.runtime context.nowMs then some .tooSoon
  else none

def onRefreshRequested (runtime : RefreshRuntime) (requestId : String) (nowMs : ℤ) :
    RefreshRuntime where
  status := .inFlight
  generation := runtime.generation + 1
  requestId := some requestId
  nextAttemptAtMs := some (nowMs + REQUEST_TIMEOUT_MS + 5000)
  attempts := runtime.attempts
  firstAttemptAtMs := if 0 < ambiguousOf runtime then runtime.firstAttemptAtMs else some nowMs
  ambiguousAttempts := runtime.ambiguousAttempts

def onRefreshSucceeded (runtime : RefreshRuntime) (nowMs : ℤ) : RefreshRuntime where
  status := .ready
  generation := runtime.generation
  requestId := none
  nextAttemptAtMs := some (nowMs + REFRESH_INTERVAL_MS)
  attempts := 0
  firstAttemptAtMs := none
  ambiguousAttempts := none

inductive RefreshFailure where
  | rejected | ambiguous | offline | retryable
  deriving DecidableEq

def onRefreshUnreachable (runtime : RefreshRuntime) (nowMs : ℤ) : RefreshRuntime :=
  let attempts := min 64 (runtime.attempts + 1)
  let replaying := decide (0 < ambiguousOf runtime)
  { status := if MAX_CONSECUTIVE_FAILURES ≤ attempts then .stale else .ready,
    generation := runtime.generation,
    requestId := none,
    nextAttemptAtMs := some (nowMs + (if replaying then REFRESH_INTERVAL_MS else
      (RETRY_DELAYS_MS[min attempts RETRY_DELAYS_MS.length - 1]?).getD 0)),
    attempts := attempts,
    firstAttemptAtMs := if replaying then runtime.firstAttemptAtMs else none,
    ambiguousAttempts := if replaying then runtime.ambiguousAttempts else none }

def onRefreshFailed (runtime : RefreshRuntime) (failure : RefreshFailure) (nowMs : ℤ)
    (hasToken : Bool) : RefreshRuntime :=
  if !hasToken then
    onRefreshUnreachable { runtime with ambiguousAttempts := none, firstAttemptAtMs := none } nowMs
  else if failure = .offline then { runtime with status := .stale }
  else if failure = .retryable then onRefreshUnreachable runtime nowMs
  else
    let firstAttemptAtMs := runtime.firstAttemptAtMs.getD nowMs
    let ambiguousAttempts := min 3 (ambiguousOf runtime + 1)
    { status :=
        if failure = .rejected ∨ 3 ≤ ambiguousAttempts ∨
          REPLAY_WINDOW_MS ≤ nowMs - firstAttemptAtMs then .broken else .ready,
      generation := runtime.generation,
      requestId := none,
      nextAttemptAtMs := some (nowMs + 30000),
      attempts := min 64 (runtime.attempts + 1),
      firstAttemptAtMs := some firstAttemptAtMs,
      ambiguousAttempts := some ambiguousAttempts }

@[simp] theorem failed_generation (runtime : RefreshRuntime) (failure : RefreshFailure)
    (nowMs : ℤ) (hasToken : Bool) :
    (onRefreshFailed runtime failure nowMs hasToken).generation = runtime.generation := by
  unfold onRefreshFailed
  split
  · rfl
  · split
    · rfl
    · split
      · rfl
      · rfl

theorem failed_not_in_flight (runtime : RefreshRuntime) (failure : RefreshFailure) (nowMs : ℤ)
    (hasToken : Bool) : (onRefreshFailed runtime failure nowMs hasToken).status ≠ .inFlight := by
  have unreachable_lands : ∀ record : RefreshRuntime,
      (onRefreshUnreachable record nowMs).status ≠ .inFlight := by
    intro record
    unfold onRefreshUnreachable
    dsimp only
    split <;> simp
  unfold onRefreshFailed
  split
  · exact unreachable_lands _
  · split
    · simp
    · split
      · exact unreachable_lands _
      · dsimp only
        split <;> simp

end OpenMapX.Mobile.RefreshState
