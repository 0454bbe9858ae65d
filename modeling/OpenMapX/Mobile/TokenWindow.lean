import OpenMapX.Mobile.RefreshMoves
import OpenMapX.Mobile.RefreshWire

/-!
# Tokens within their window

The record of a refresh counts the ambiguous outcomes of the token that the session
holds, and since when. A token is sent only while the record allows it, and a token that
has been given up never comes back.
-/

namespace OpenMapX.Mobile.TokenWindow

open Foundation.Runs Navigation.TransitTrip SessionStore RefreshState TransitBatch TransitProcessor
  RefreshMoves RefreshWire List

structure Allowed (log : List Entry) (request : RefreshRequest) (token : String) : Prop where
  notRejected : ∀ earlier, earlier.token = some token → .settled earlier .rejected ∉ log
  notConsumed : ∀ earlier, earlier.token = some token → .settled earlier .consumed ∉ log
  fewAmbiguous : ambiguousCount token log < 3
  inWindow : ∀ earlier, earlier.token = some token → .settled earlier .ambiguous ∈ log →
    request.sentAtMs - earlier.sentAtMs < REPLAY_WINDOW_MS

/-- Each request was allowed when it was sent, and was the only one that waited. -/
structure KeepsWindow (log : List Entry) : Prop where
  allowed : ∀ before request, before ++ [.sent request] <+: log →
    ∀ token, request.token = some token → Allowed before request token
  single : ∀ before, before <+: log → (outstanding before).length ≤ 1

theorem keeps_window_snoc {log} {entry : Entry} (keeps : KeepsWindow log)
    (allowed : ∀ request, entry = .sent request → ∀ token, request.token = some token →
      Allowed log request token)
    (single : (outstanding (log ++ [entry])).length ≤ 1) : KeepsWindow (log ++ [entry]) where
  allowed := by
    intro before request within
    rcases prefix_concat_iff.mp within with same | earlier
    · have parts := append_inj' same rfl
      cases parts.2
      rw [parts.1]
      exact allowed request rfl
    · exact keeps.allowed before request earlier
  single := by
    intro before within
    rcases prefix_concat_iff.mp within with same | earlier
    · rw [same]
      exact single
    · exact keeps.single before earlier

/-- The record counts the ambiguous outcomes of the token, and nothing has spent it. -/
structure Unspent (log : List Entry) (token : String) (refresh : RefreshRuntime) : Prop where
  notRejected : ∀ earlier, earlier.token = some token → .settled earlier .rejected ∉ log
  notConsumed : ∀ earlier, earlier.token = some token → .settled earlier .consumed ∉ log
  counted : ambiguousCount token log = ambiguousOf refresh
  few : ambiguousOf refresh < 3
  since : ∀ earlier, earlier.token = some token → .settled earlier .ambiguous ∈ log →
    ∃ first, refresh.firstAttemptAtMs = some first ∧ first ≤ earlier.sentAtMs

structure Waits (log : List Entry) (held : Option String) (refresh : RefreshRuntime)
    (request : RefreshRequest) : Prop where
  alone : outstanding log = [request]
  sent : .sent request ∈ log
  numbered : request.generation = refresh.generation
  carries : request.token = held
  last : ∀ other, .sent other ∈ log → other.generation = refresh.generation → other = request
  since : ∀ token, held = some token →
    ∃ first, refresh.firstAttemptAtMs = some first ∧ first ≤ request.sentAtMs

structure Tracks (log : List Entry) (held : Option String) (refresh : RefreshRuntime)
    (clockMs : ℤ) : Prop where
  unspent : ∀ token, held = some token → refresh.status = .broken ∨ Unspent log token refresh
  flying : refresh.status = .inFlight → ∃ request, Waits log held refresh request
  landed : refresh.status ≠ .inFlight → outstanding log = []
  past : ∀ first, refresh.firstAttemptAtMs = some first → first ≤ clockMs
  older : ∀ request, .sent request ∈ log → request.generation ≤ refresh.generation
  settledSent : ∀ request settlement, .settled request settlement ∈ log → .sent request ∈ log
  keeps : KeepsWindow log

theorem Tracks.later {log} {held} {refresh}
    {clockMs nowMs : ℤ} (tracks : Tracks log held refresh clockMs) (later : clockMs ≤ nowMs) :
    Tracks log held refresh nowMs where
  unspent := tracks.unspent
  flying := tracks.flying
  landed := tracks.landed
  past := fun first known => le_trans (tracks.past first known) later
  older := tracks.older
  settledSent := tracks.settledSent
  keeps := tracks.keeps

section

variable {log : List Entry} {held : Option String} {refresh next : RefreshRuntime} {clockMs : ℤ}

theorem Tracks.uncounted (tracks : Tracks log none refresh clockMs)
    (same : next.generation = refresh.generation)
    (flies : next.status = .inFlight ↔ refresh.status = .inFlight)
    (past : ∀ first, next.firstAttemptAtMs = some first → first ≤ clockMs) :
    Tracks log none next clockMs where
  unspent := by
    intro token absent
    cases absent
  flying := by
    intro flying
    obtain ⟨request, waits⟩ := tracks.flying (flies.mp flying)
    exact Exists.intro request {
      alone := waits.alone
      sent := waits.sent
      numbered := waits.numbered.trans same.symm
      carries := waits.carries
      last := by
        rw [same]
        exact waits.last
      since := by
        intro token absent
        cases absent }
  landed := by
    intro landed
    exact tracks.landed (fun flying => landed (flies.mpr flying))
  past := past
  older := by
    rw [same]
    exact tracks.older
  settledSent := tracks.settledSent
  keeps := tracks.keeps

theorem Tracks.retire (tracks : Tracks log held refresh clockMs)
    (landed : refresh.status ≠ .inFlight) (same : next.generation = refresh.generation)
    (nextLanded : next.status ≠ .inFlight)
    (past : ∀ first, next.firstAttemptAtMs = some first → first ≤ clockMs) :
    Tracks log none next clockMs where
  unspent := by
    intro token absent
    cases absent
  flying := fun flying => absurd flying nextLanded
  landed := fun _ => tracks.landed landed
  past := past
  older := by
    rw [same]
    exact tracks.older
  settledSent := tracks.settledSent
  keeps := tracks.keeps

variable {request : RefreshRequest}

theorem Tracks.settle {nextHeld}
    {settlement} (tracks : Tracks log held refresh clockMs)
    (waits : Waits log held refresh request) (same : next.generation = refresh.generation)
    (landed : next.status ≠ .inFlight)
    (past : ∀ first, next.firstAttemptAtMs = some first → first ≤ clockMs)
    (unspent : ∀ token, nextHeld = some token →
      next.status = .broken ∨ Unspent (log ++ [.settled request settlement]) token next) :
    Tracks (log ++ [.settled request settlement]) nextHeld next clockMs where
  unspent := unspent
  flying := fun flying => absurd flying landed
  landed := by
    intro _
    rw [outstanding_snoc, waits.alone]
    simp [RefreshWire.settle]
  past := past
  older := by
    intro other sent
    rw [same]
    apply tracks.older
    simpa using sent
  settledSent := by
    intro other outcome settled
    rw [mem_append, mem_singleton] at settled
    apply mem_append_left
    rcases settled with before | now
    · exact tracks.settledSent other outcome before
    · cases now
      exact waits.sent
  keeps := by
    apply keeps_window_snoc tracks.keeps
    · intro other absent
      cases absent
    · rw [outstanding_snoc, waits.alone]
      simp [RefreshWire.settle]

theorem ambiguous_count_snoc (token : String) (log : List Entry) (entry : Entry) :
    ambiguousCount token (log ++ [entry]) =
      ambiguousCount token log + if isAmbiguous token entry then 1 else 0 := by
  simp [ambiguousCount, countP_append, countP_singleton]

variable {token : String}

theorem Unspent.known {earlier}
    (unspent : Unspent log token refresh) (carries : earlier.token = some token)
    (settled : .settled earlier .ambiguous ∈ log) : 0 < ambiguousOf refresh := by
  rw [← unspent.counted]
  unfold ambiguousCount
  rw [countP_pos_iff]
  exact Exists.intro _ (And.intro settled (by simp [isAmbiguous, carries]))

section

variable (unspent : Unspent log token refresh)
include unspent

theorem Unspent.started
    (some' : 0 < ambiguousOf refresh) : ∃ first, refresh.firstAttemptAtMs = some first := by
  rw [← unspent.counted] at some'
  unfold ambiguousCount at some'
  rw [countP_pos_iff] at some'
  rcases some' with ⟨entry, member, counts⟩
  cases entry with
  | sent request => cases counts
  | settled request settlement =>
    cases settlement with
    | ambiguous =>
      have carries : request.token = some token := by simpa [isAmbiguous] using counts
      obtain ⟨first, known⟩ := unspent.since request carries member
      exact Exists.intro first known.1
    | rejected => cases counts
    | consumed => cases counts
    | spared => cases counts

theorem unspent_allowed (replays : replayExpired refresh clockMs = false)
    (now : request.sentAtMs = clockMs) : Allowed log request token where
  notRejected := unspent.notRejected
  notConsumed := unspent.notConsumed
  fewAmbiguous := by
    rw [unspent.counted]
    exact unspent.few
  inWindow := by
    intro earlier carries settled
    have some' := unspent.known carries settled
    obtain ⟨first, known⟩ := unspent.since earlier carries settled
    unfold replayExpired at replays
    rw [known.1] at replays
    simp only [some', decide_true, Bool.true_and, decide_eq_false_iff_not, not_le] at replays
    rw [now]
    have started := known.2
    omega

theorem Unspent.spared (counts : ambiguousOf next = ambiguousOf refresh)
    (since : 0 < ambiguousOf refresh → next.firstAttemptAtMs = refresh.firstAttemptAtMs) :
    Unspent (log ++ [.settled request .spared]) token next where
  notRejected := by
    intro earlier carries settled
    exact unspent.notRejected earlier carries (by simpa using settled)
  notConsumed := by
    intro earlier carries settled
    exact unspent.notConsumed earlier carries (by simpa using settled)
  counted := by
    rw [ambiguous_count_snoc, counts, ← unspent.counted]
    rfl
  few := by
    rw [counts]
    exact unspent.few
  since := by
    intro earlier carries settled
    have before : .settled earlier .ambiguous ∈ log := by simpa using settled
    rw [since (unspent.known carries before)]
    exact unspent.since earlier carries before

end

theorem unreachable_counts (refresh : RefreshRuntime) (nowMs : ℤ) :
    ambiguousOf (onRefreshUnreachable refresh nowMs) = ambiguousOf refresh ∧
      (0 < ambiguousOf refresh →
        (onRefreshUnreachable refresh nowMs).firstAttemptAtMs = refresh.firstAttemptAtMs) := by
  unfold onRefreshUnreachable
  by_cases replaying : 0 < ambiguousOf refresh
  · simp [ambiguousOf] at replaying ⊢
    simp [replaying]
  · have none' : ambiguousOf refresh = 0 := by omega
    constructor
    · simp only [replaying, decide_false, Bool.false_eq_true, if_false]
      rw [none']
      rfl
    · intro some'
      exact absurd some' replaying

theorem unspent_ambiguous (nowMs : ℤ)
    (unspent : Unspent log token refresh) (carries : request.token = some token)
    (since : ∃ first, refresh.firstAttemptAtMs = some first ∧ first ≤ request.sentAtMs) :
    (onRefreshFailed refresh .ambiguous nowMs true).status = .broken ∨
      Unspent (log ++ [.settled request .ambiguous]) token
        (onRefreshFailed refresh .ambiguous nowMs true) := by
  obtain ⟨first, known⟩ := since
  by_cases many : 3 ≤ ambiguousOf refresh + 1
  · apply Or.inl
    have full : min 3 (ambiguousOf refresh + 1) = 3 := by omega
    simp [onRefreshFailed, full]
  · have counts : ambiguousOf (onRefreshFailed refresh .ambiguous nowMs true) =
        ambiguousOf refresh + 1 := by
      have few : min 3 (ambiguousOf refresh + 1) = ambiguousOf refresh + 1 := by omega
      unfold onRefreshFailed
      simp only [Bool.not_true, Bool.false_eq_true, if_false, reduceCtorEq]
      exact few
    have starts : (onRefreshFailed refresh .ambiguous nowMs true).firstAttemptAtMs =
        some first := by
      simp [onRefreshFailed, known.1]
    apply Or.inr
    exact {
      notRejected := by
        intro earlier holds settled
        exact unspent.notRejected earlier holds (by simpa using settled)
      notConsumed := by
        intro earlier holds settled
        exact unspent.notConsumed earlier holds (by simpa using settled)
      counted := by
        rw [ambiguous_count_snoc, counts, unspent.counted]
        simp [isAmbiguous, carries]
      few := by
        rw [counts]
        omega
      since := by
        intro earlier holds settled
        apply Exists.intro first
        apply And.intro starts
        rw [mem_append, mem_singleton] at settled
        rcases settled with before | now
        · obtain ⟨other, started⟩ := unspent.since earlier holds before
          have same : other = first := by
            rw [known.1, Option.some.injEq] at started
            exact started.1.symm
          rw [← same]
          exact started.2
        · cases now
          exact known.2 }

theorem unspent_failed (failure : RefreshFailure)
    (nowMs : ℤ) (unspent : Unspent log token refresh) (carries : request.token = some token)
    (since : ∃ first, refresh.firstAttemptAtMs = some first ∧ first ≤ request.sentAtMs) :
    (onRefreshFailed refresh failure nowMs true).status = .broken ∨
      Unspent (log ++ [.settled request (settlementOf (.failure failure))]) token
        (onRefreshFailed refresh failure nowMs true) := by
  cases failure with
  | rejected =>
    apply Or.inl
    simp [onRefreshFailed]
  | ambiguous => exact unspent_ambiguous nowMs unspent carries since
  | offline =>
    apply Or.inr
    apply unspent.spared
    · rfl
    · intro _
      rfl
  | retryable =>
    apply Or.inr
    have counts := unreachable_counts refresh nowMs
    exact unspent.spared counts.1 counts.2

theorem failed_past (failure : RefreshFailure) (nowMs : ℤ) (hasToken : Bool)
    (past : ∀ first, refresh.firstAttemptAtMs = some first → first ≤ nowMs) :
    ∀ first, (onRefreshFailed refresh failure nowMs hasToken).firstAttemptAtMs = some first →
      first ≤ nowMs := by
  have unreachable : ∀ record : RefreshRuntime,
      (∀ first, record.firstAttemptAtMs = some first → first ≤ nowMs) →
      ∀ first, (onRefreshUnreachable record nowMs).firstAttemptAtMs = some first →
        first ≤ nowMs := by
    intro record before first known
    unfold onRefreshUnreachable at known
    dsimp only at known
    split at known
    · exact before first known
    · cases known
  intro first known
  unfold onRefreshFailed at known
  split at known
  · apply unreachable _ _ first known
    intro other absent
    cases absent
  · split at known
    · exact past first known
    · split at known
      · exact unreachable refresh past first known
      · dsimp only at known
        rw [Option.some.injEq] at known
        rw [← known]
        cases started : refresh.firstAttemptAtMs with
        | none => exact le_refl _
        | some before => exact past before started

theorem Tracks.failed (tracks : Tracks log held refresh clockMs)
    (flying : refresh.status = .inFlight) (waits : Waits log held refresh request)
    (failure : RefreshFailure) (settlement : Settlement)
    (told : failure = .rejected ∨ settlement = settlementOf (.failure failure)) :
    Tracks (log ++ [.settled request settlement]) held
      (onRefreshFailed refresh failure clockMs held.isSome) clockMs := by
  apply tracks.settle waits
  · exact failed_generation refresh failure clockMs held.isSome
  · exact failed_not_in_flight refresh failure clockMs held.isSome
  · exact failed_past failure clockMs held.isSome tracks.past
  · intro token holds
    have notBroken : refresh.status ≠ .broken := by
      rw [flying]
      simp
    rw [holds]
    rcases told with rejected | same
    · apply Or.inl
      rw [rejected]
      simp [onRefreshFailed]
    · rw [same]
      exact unspent_failed failure clockMs ((tracks.unspent token holds).resolve_left notBroken)
        (waits.carries.trans holds) (waits.since token holds)

theorem Tracks.succeeded {nextHeld} (tracks : Tracks log held refresh clockMs)
    (waits : Waits log held refresh request) (settlement : Settlement)
    (fresh : ∀ token, nextHeld = some token → ∀ earlier, .sent earlier ∈ log →
      earlier.token ≠ some token) :
    Tracks (log ++ [.settled request settlement]) nextHeld (onRefreshSucceeded refresh clockMs)
      clockMs := by
  have sentBefore : ∀ earlier outcome,
      .settled earlier outcome ∈ log ++ [.settled request settlement] → .sent earlier ∈ log := by
    intro earlier outcome settled
    rw [mem_append, mem_singleton] at settled
    rcases settled with before | now
    · exact tracks.settledSent earlier outcome before
    · cases now
      exact waits.sent
  have same : (onRefreshSucceeded refresh clockMs).generation = refresh.generation := rfl
  apply tracks.settle waits same
  · simp [onRefreshSucceeded]
  · intro first absent
    cases absent
  · intro token holds
    have unknown : ∀ earlier outcome, earlier.token = some token →
        .settled earlier outcome ∉ log ++ [.settled request settlement] := by
      intro earlier outcome carries settled
      exact fresh token holds earlier (sentBefore earlier outcome settled) carries
    apply Or.inr
    exact {
      notRejected := fun earlier carries => unknown earlier .rejected carries
      notConsumed := fun earlier carries => unknown earlier .consumed carries
      counted := by
        unfold ambiguousCount
        rw [countP_eq_zero.mpr]
        · rfl
        · intro entry member counts
          cases entry with
          | sent earlier => cases counts
          | settled earlier outcome =>
            cases outcome with
            | ambiguous =>
              exact unknown earlier .ambiguous (by simpa [isAmbiguous] using counts) member
            | rejected => cases counts
            | consumed => cases counts
            | spared => cases counts
      few := by
        have none' : ambiguousOf (onRefreshSucceeded refresh clockMs) = 0 := rfl
        rw [none']
        decide
      since := by
        intro earlier carries settled
        exact absurd settled (unknown earlier .ambiguous carries) }

theorem Tracks.requested (tracks : Tracks log held refresh clockMs)
    (landed : refresh.status ≠ .inFlight) (notBroken : refresh.status ≠ .broken)
    (replays : replayExpired refresh clockMs = false) (requestId : String) :
    Tracks (log ++ [.sent {
        requestId := requestId,
        generation := refresh.generation + 1,
        token := held,
        sentAtMs := clockMs }]) held (onRefreshRequested refresh requestId clockMs) clockMs where
  unspent := by
    intro token holds
    apply Or.inr
    have unspent := (tracks.unspent token holds).resolve_left notBroken
    exact {
      notRejected := by
        intro earlier carries settled
        exact unspent.notRejected earlier carries (by simpa using settled)
      notConsumed := by
        intro earlier carries settled
        exact unspent.notConsumed earlier carries (by simpa using settled)
      counted := by
        rw [ambiguous_count_snoc, unspent.counted]
        rfl
      few := unspent.few
      since := by
        intro earlier carries settled
        have before : .settled earlier .ambiguous ∈ log := by simpa using settled
        have some' := unspent.known carries before
        have keeps : (onRefreshRequested refresh requestId clockMs).firstAttemptAtMs =
            refresh.firstAttemptAtMs := if_pos some'
        rw [keeps]
        exact unspent.since earlier carries before }
  flying := by
    intro _
    apply Exists.intro _
    exact {
      alone := by
        rw [outstanding_snoc, tracks.landed landed]
        rfl
      sent := by
        rw [mem_append, mem_singleton]
        exact Or.inr rfl
      numbered := rfl
      carries := rfl
      last := by
        intro other sent numbered
        rw [mem_append, mem_singleton] at sent
        rcases sent with before | now
        · have older := tracks.older other before
          rw [numbered] at older
          exact absurd older (Nat.not_succ_le_self _)
        · cases now
          rfl
      since := by
        intro token holds
        have unspent := (tracks.unspent token holds).resolve_left notBroken
        by_cases replaying : 0 < ambiguousOf refresh
        · obtain ⟨first, known⟩ := unspent.started replaying
          apply Exists.intro first
          exact And.intro ((if_pos replaying).trans known) (tracks.past first known)
        · exact Exists.intro clockMs (And.intro (if_neg replaying) (le_refl _)) }
  landed := fun landed => absurd rfl landed
  past := by
    intro first known
    unfold onRefreshRequested at known
    dsimp only at known
    split at known
    · exact tracks.past first known
    · rw [Option.some.injEq] at known
      exact le_of_eq known.symm
  older := by
    intro other sent
    rw [mem_append, mem_singleton] at sent
    rcases sent with before | now
    · exact Nat.le_succ_of_le (tracks.older other before)
    · cases now
      exact le_refl _
  settledSent := by
    intro other settlement settled
    apply mem_append_left
    exact tracks.settledSent other settlement (by simpa using settled)
  keeps := by
    apply keeps_window_snoc tracks.keeps
    · intro request now token carries
      cases now
      exact unspent_allowed ((tracks.unspent token carries).resolve_left notBroken) replays rfl
    · rw [outstanding_snoc, tracks.landed landed]
      exact Nat.le_refl 1

end

theorem token_truthy (payload : TransitPayload) :
    truthy payload.refreshToken = (tokenOf payload).isSome := by
  unfold truthy tokenOf
  cases payload.refreshToken with
  | none => rfl
  | some token =>
    rw [Option.filter_some]
    cases written : (token != "") with
    | true => simpa using written
    | false => simpa using written

theorem refresh_not_held {context} (free : shouldRefresh context = none) :
    (context.status = .active ∨ context.status = .preparing) ∧
      context.runtime.status ≠ .inFlight ∧ context.runtime.status ≠ .broken ∧
      replayExpired context.runtime context.nowMs = false := by
  unfold shouldRefresh at free
  split at free
  · cases free
  · rename_i running
    split at free
    · cases free
    · split at free
      · cases free
      · rename_i landed
        split at free
        · cases free
        · rename_i replays
          split at free
          · cases free
          · rename_i notBroken
            apply And.intro
            · by_contra stopped
              rw [not_or] at stopped
              exact running stopped
            · exact And.intro landed (And.intro notBroken (by simpa using replays))

theorem broken_has_landed {context} (held : shouldRefresh context = some .broken) :
    context.runtime.status ≠ .inFlight := by
  unfold shouldRefresh at held
  split at held
  · cases held
  · split at held
    · cases held
    · split at held
      · cases held
      · rename_i landed
        exact landed

section

variable {log : List Entry} {payload : TransitPayload} {clockMs : ℤ}

theorem tokenless_tracks (tracks : Tracks log (tokenOf payload) payload.refresh clockMs) :
    Tracks log (tokenOf payload) (tokenlessRefresh payload) clockMs := by
  cases holds : tokenOf payload with
  | some token =>
    have kept : tokenlessRefresh payload = payload.refresh := by
      unfold tokenlessRefresh
      rw [token_truthy, holds]
      rfl
    rw [kept, ← holds]
    exact tracks
  | none =>
    rw [holds] at tracks
    have without : truthy payload.refreshToken = false := by
      rw [token_truthy, holds]
      rfl
    have moved : (tokenlessRefresh payload).generation = payload.refresh.generation ∧
        ((tokenlessRefresh payload).status = .inFlight ↔ payload.refresh.status = .inFlight) ∧
        (tokenlessRefresh payload).firstAttemptAtMs = none := by
      unfold tokenlessRefresh
      rw [without, if_neg Bool.false_ne_true]
      dsimp only
      split
      · rename_i stuck
        exact And.intro rfl (And.intro (iff_of_false (by simp) (by simp [stuck.1])) rfl)
      · exact And.intro rfl (And.intro Iff.rfl rfl)
    apply tracks.uncounted moved.1 moved.2.1
    intro first known
    rw [moved.2.2] at known
    cases known

theorem tokenless_times_out (nowMs : ℤ) :
    timesOut (tokenlessRefresh payload) nowMs = timesOut payload.refresh nowMs := by
  unfold tokenlessRefresh
  split
  · rfl
  · dsimp only
    split
    · rename_i stuck
      unfold timesOut
      dsimp only
      rw [stuck.1]
      rfl
    · rfl

theorem timed_out_tracks {refresh} (tracks : Tracks log (tokenOf payload) refresh clockMs) :
    Tracks (log ++ timedOutBy refresh clockMs log) (tokenOf payload)
      (timedOutRefresh payload refresh clockMs) clockMs := by
  unfold timedOutBy timedOutRefresh
  cases expires : timesOut refresh clockMs with
  | true =>
    unfold timesOut at expires
    cases deadline : refresh.nextAttemptAtMs with
    | none =>
      rw [deadline] at expires
      cases expires
    | some deadline' =>
      rw [deadline] at expires
      simp only [Bool.and_eq_true, beq_iff_eq, decide_eq_true_eq] at expires
      obtain ⟨request, waits⟩ := tracks.flying expires.1
      rw [waits.alone]
      simp only [if_true, map_cons, map_nil]
      rw [if_pos expires, token_truthy]
      exact tracks.failed expires.1 waits .ambiguous .ambiguous (Or.inr rfl)
  | false =>
    simp only [Bool.false_eq_true, if_false, append_nil]
    cases deadline : refresh.nextAttemptAtMs with
    | none => exact tracks
    | some deadline' =>
      dsimp only
      unfold timesOut at expires
      rw [deadline] at expires
      simp only [Bool.and_eq_false_iff, beq_eq_false_iff_ne, decide_eq_false_iff_not]
        at expires
      rw [if_neg (by
        intro both
        rcases expires with landed | early
        · exact landed both.1
        · exact early both.2)]
      exact tracks

def decidedSend (next : TransitPayload) (requestId : Option String) (nowMs : ℤ) : List Entry :=
  (requestId.map fun requestId => Entry.sent {
    requestId := requestId,
    generation := next.refresh.generation,
    token := tokenOf next,
    sentAtMs := nowMs }).toList

theorem decided_tracks (session) (arrived : Bool)
    (tracks : Tracks log (tokenOf payload) payload.refresh clockMs) :
    Tracks (log ++ timedOutBy payload.refresh clockMs log ++
        decidedSend (decideRefresh session payload arrived clockMs).1
          (decideRefresh session payload arrived clockMs).2 clockMs)
      (tokenOf (decideRefresh session payload arrived clockMs).1)
      (decideRefresh session payload arrived clockMs).1.refresh clockMs := by
  have settled := timed_out_tracks (tokenless_tracks tracks)
  have same : timedOutBy (tokenlessRefresh payload) clockMs log =
      timedOutBy payload.refresh clockMs log := by
    unfold timedOutBy
    rw [tokenless_times_out]
  rw [same] at settled
  unfold decideRefresh
  dsimp only
  split
  · rename_i broken
    have landed := broken_has_landed broken.1
    rw [decidedSend, Option.map_none, Option.toList_none, append_nil]
    have same : (onRefreshSucceeded
        (timedOutRefresh payload (tokenlessRefresh payload) clockMs) clockMs).generation =
          (timedOutRefresh payload (tokenlessRefresh payload) clockMs).generation := rfl
    apply settled.retire landed same
    · simp [onRefreshSucceeded]
    · intro first absent
      cases absent
  · split
    · rename_i sends
      have free := refresh_not_held sends.2
      exact settled.requested free.2.1 free.2.2.1 free.2.2.2 _
    · rw [decidedSend, Option.map_none, Option.toList_none, append_nil]
      exact settled

end

end OpenMapX.Mobile.TokenWindow
