import OpenMapX.Foundation.DirectedTrails
import OpenMapX.Isochrone.MarchingSquares

/-!
# Chains of balanced segments

Of balanced segments the walk along shared endpoints can only end where it began: away
from its start the unused segments lack one end at its tail, so that one of them starts
there. Every round of the walk uses up a segment, and the guard counts more rounds than
there are segments.
-/

namespace OpenMapX.Isochrone.RingStitching

open Foundation.DirectedTrails MarchingSquares List Prod

variable {Key : Type*} [DecidableEq Key] {key : Point → Key} {segments : List Segment}

def remaining (segments : List Segment) (used : List Nat) : List Segment :=
  (segments.zipIdx.filter fun candidate => candidate.2 ∉ used).map fst

theorem places_nodup : (segments.zipIdx.map snd).Nodup := by
  rw [zipIdx_map_snd]
  exact nodup_range'

theorem placed_nodup : segments.zipIdx.Nodup := List.Nodup.of_map snd places_nodup

theorem same_place {first second} (inFirst : first ∈ segments.zipIdx)
    (inSecond : second ∈ segments.zipIdx) (same : first.2 = second.2) : first = second :=
  inj_on_of_nodup_map places_nodup inFirst inSecond same

theorem remaining_use {used candidate} (placed : candidate ∈ segments.zipIdx)
    (unused : candidate.2 ∉ used) :
    (remaining segments used).Perm (candidate.1 :: remaining segments (used ++ [candidate.2])) := by
  unfold remaining
  rw [← map_cons (f := fst)]
  apply List.Perm.map
  have apart : candidate ∉ segments.zipIdx.filter fun other =>
      decide (other.2 ∉ used ++ [candidate.2]) := by
    intro member
    rw [mem_filter, decide_eq_true_eq] at member
    exact member.2 (mem_append_right _ mem_cons_self)
  rw [perm_ext_iff_of_nodup (placed_nodup.filter _)
    (nodup_cons.mpr ⟨apart, placed_nodup.filter _⟩)]
  intro other
  rw [mem_cons, mem_filter, mem_filter, decide_eq_true_eq, decide_eq_true_eq,
    mem_append, mem_singleton]
  constructor
  · intro given
    by_cases same : other.2 = candidate.2
    · exact Or.inl (same_place given.1 placed same)
    · apply Or.inr
      apply And.intro given.1
      intro either
      rcases either with member | equal
      · exact given.2 member
      · exact same equal
  · intro either
    rcases either with same | given
    · rw [same]
      exact ⟨placed, unused⟩
    · exact ⟨given.1, fun member => given.2 (Or.inl member)⟩

theorem remaining_mem {used} {segment : Segment} (member : segment ∈ remaining segments used) :
    ∃ candidate ∈ segments.zipIdx, candidate.1 = segment ∧ candidate.2 ∉ used := by
  unfold remaining at member
  rw [mem_map] at member
  obtain ⟨candidate, given⟩ := member
  have kept := mem_filter.mp given.1
  exact ⟨candidate, kept.1, given.2, of_decide_eq_true kept.2⟩

theorem remaining_none : remaining segments [] = segments := by
  unfold remaining
  rw [filter_eq_self.mpr (fun candidate _ => by simp), zipIdx_map_fst]

theorem last_point (first : Point) (rest : List Point) :
    lastPoint (first :: rest) = (first :: rest).getLast (cons_ne_nil first rest) := by
  unfold lastPoint
  rw [getLastD_eq_getLast?, getLast?_eq_some_getLast (cons_ne_nil first rest)]
  rfl

structure Completes (segments : List Segment) (first : Point) (rest : List Point)
    (used : List Nat) (more : List (Segment × Nat)) : Prop where
  placed : ∀ candidate ∈ more, candidate ∈ segments.zipIdx
  fresh : used.Nodup → (used ++ more.map snd).Nodup
  edges : walkEdges (first :: (rest ++ more.map fun candidate => candidate.1.2)) =
    walkEdges (first :: rest) ++ more.map fst
  closed : (first :: (rest ++ more.map fun candidate => candidate.1.2)).getLast
    (cons_ne_nil _ _) = first
  still : ∀ potential, flow (remaining segments (used ++ more.map snd)) potential = 0

section

variable {first : Point} {rest : List Point} {used : List Nat}

theorem completes_none (balance : ∀ potential, flow (remaining segments used) potential =
      potential (lastPoint (first :: rest)) - potential first)
    (closed : lastPoint (first :: rest) = first) : Completes segments first rest used [] := by
  apply Completes.mk
  · intro candidate member
    cases member
  · intro nodup
    rw [map_nil, append_nil]
    exact nodup
  · rw [map_nil, map_nil, append_nil, append_nil]
  · simp only [map_nil, append_nil]
    rw [← last_point]
    exact closed
  · intro potential
    rw [map_nil, append_nil, balance, closed, sub_self]

theorem completes_push {next more} (placed : next ∈ segments.zipIdx) (unused : next.2 ∉ used)
    (joins : next.1.1 = lastPoint (first :: rest))
    (completed : Completes segments first (rest ++ [next.1.2]) (used ++ [next.2]) more) :
    Completes segments first rest used (next :: more) := by
  have points : rest ++ [next.1.2] ++ (more.map fun candidate => candidate.1.2) =
      rest ++ ((next :: more).map fun candidate => candidate.1.2) := by
    rw [append_assoc, map_cons]
    rfl
  have places : used ++ [next.2] ++ more.map snd = used ++ (next :: more).map snd := by
    rw [append_assoc, map_cons]
    rfl
  apply Completes.mk
  · intro candidate member
    rw [mem_cons] at member
    rcases member with same | later
    · rw [same]
      exact placed
    · exact completed.placed candidate later
  · intro nodup
    rw [← places]
    apply completed.fresh
    rw [nodup_append]
    apply And.intro nodup
    apply And.intro (nodup_singleton _)
    intro place member other same
    rw [mem_singleton] at same
    rw [same]
    intro equal
    rw [equal] at member
    exact unused member
  · rw [← points, completed.edges, ← cons_append, walk_edges_push, ← last_point, ← joins,
      append_assoc, map_cons]
    rfl
  · have closed := completed.closed
    simp only [points] at closed
    exact closed
  · intro potential
    rw [← places]
    exact completed.still potential

end

theorem follow_closes (injective : Function.Injective key) (guard : Nat) (first : Point)
    (rest : List Point) (used : List Nat) (few : (remaining segments used).length < guard)
    (balance : ∀ potential, flow (remaining segments used) potential =
      potential (lastPoint (first :: rest)) - potential first) :
    ∃ more, follow key segments guard (first :: rest) used =
        (first :: (rest ++ more.map fun candidate => candidate.1.2), used ++ more.map snd) ∧
      Completes segments first rest used more := by
  induction guard generalizing rest used with
  | zero => omega
  | succ guard ih =>
    have start : firstPoint (first :: rest) = first := rfl
    have stops : lastPoint (first :: rest) = first →
        ∃ more, (first :: rest, used) =
          (first :: (rest ++ more.map fun candidate : Segment × Nat => candidate.1.2),
            used ++ more.map snd) ∧ Completes segments first rest used more := by
      intro closed
      apply Exists.intro []
      rw [map_nil, map_nil, append_nil, append_nil]
      exact ⟨rfl, completes_none balance closed⟩
    unfold follow
    dsimp only
    rw [start]
    split
    · rename_i closes
      exact stops (injective closes.1)
    · split
      · rename_i nowhere
        apply stops
        -- a tail away from the start would have an unused segment
        by_contra open_
        have missing : 0 < flow (remaining segments used) (only (lastPoint (first :: rest))) := by
          rw [balance]
          unfold only
          rw [if_pos rfl, if_neg (Ne.symm open_)]
          decide
        obtain ⟨segment, starts⟩ := start_of_flow missing
        obtain ⟨candidate, given⟩ := remaining_mem starts.1
        rw [find?_eq_none] at nowhere
        apply nowhere candidate _ (decide_eq_true given.2.2)
        unfold startsAt
        rw [mem_filter, decide_eq_true_eq, given.2.1, starts.2]
        exact ⟨given.1, rfl⟩
      · rename_i next found
        have member := mem_of_find?_eq_some found
        have unused := find?_some found
        rw [decide_eq_true_eq] at unused
        unfold startsAt at member
        rw [mem_filter, decide_eq_true_eq] at member
        have joins := injective member.2
        have taken := remaining_use member.1 unused
        have fewer : (remaining segments (used ++ [next.2])).length < guard := by
          have count := taken.length_eq
          rw [length_cons] at count
          omega
        have onward : lastPoint (first :: (rest ++ [next.1.2])) = next.1.2 := by
          unfold lastPoint
          rw [← cons_append, getLastD_concat]
        cases ih (rest ++ [next.1.2]) (used ++ [next.2]) fewer (by
            intro potential
            have all := balance potential
            rw [flow_perm taken, flow_cons, joins] at all
            rw [onward]
            omega) with
        | intro more walked =>
          apply Exists.intro (next :: more)
          have completed := completes_push member.1 unused joins walked.2
          rw [cons_append, walked.1]
          simp only [append_assoc, map_cons, singleton_append]
          exact ⟨trivial, completed⟩

def Closes (chain : List Point) : Prop :=
  ∃ first rest, rest ≠ [] ∧ chain = first :: rest ∧ lastPoint chain = first

def TracedBy (part : List (Segment × Nat)) (chain : List Point) : Prop :=
  walkEdges chain = part.map fst

/-- Between two chains: the parts behind the chains are the used segments, and the unused
ones are balanced. -/
structure Stitched (segments : List Segment) (state : Stitching)
    (parts : List (List (Segment × Nat))) : Prop where
  used : parts.flatten.map snd = state.used
  once : state.used.Nodup
  placed : ∀ candidate ∈ parts.flatten, candidate ∈ segments.zipIdx
  traced : List.Forall₂ TracedBy parts state.chains
  closed : ∀ chain ∈ state.chains, Closes chain
  still : ∀ potential, flow (remaining segments state.used) potential = 0

variable (injective : Function.Injective key)
include injective

theorem chain_stitched {state parts} (stitched : Stitched segments state parts) {segment}
    (placed : segment ∈ segments.zipIdx) :
    ∃ parts', Stitched segments (traceChain key segments state segment) parts' ∧
      segment.2 ∈ (traceChain key segments state segment).used ∧
      ∀ place ∈ state.used, place ∈ (traceChain key segments state segment).used := by
  unfold traceChain
  split
  · rename_i known
    exact ⟨parts, stitched, known, fun place member => member⟩
  · rename_i unused
    have taken := remaining_use placed unused
    have few : (remaining segments (state.used ++ [segment.2])).length < segments.length + 1 := by
      unfold remaining
      rw [length_map]
      have fewer := length_filter_le
        (fun candidate : Segment × Nat => decide (candidate.2 ∉ state.used ++ [segment.2]))
        segments.zipIdx
      rw [length_zipIdx] at fewer
      omega
    have nodup : (state.used ++ [segment.2]).Nodup := by
      rw [nodup_append]
      apply And.intro stitched.once
      apply And.intro (nodup_singleton _)
      intro place member other same equal
      rw [mem_singleton] at same
      rw [equal, same] at member
      exact unused member
    cases follow_closes injective (segments.length + 1) segment.1.1 [segment.1.2]
        (state.used ++ [segment.2]) few (by
          intro potential
          have all := stitched.still potential
          rw [flow_perm taken, flow_cons] at all
          have tail : lastPoint [segment.1.1, segment.1.2] = segment.1.2 := rfl
          rw [tail]
          omega) with
    | intro more walked =>
      dsimp only
      rw [walked.1]
      apply Exists.intro (parts ++ [segment :: more])
      have flat : (parts ++ [segment :: more]).flatten = parts.flatten ++ segment :: more := by
        rw [flatten_append, flatten_singleton]
      refine ⟨?_, ?_, ?_⟩
      · apply Stitched.mk
        · rw [flat, map_append, map_cons, stitched.used, append_assoc]
          rfl
        · exact walked.2.fresh nodup
        · intro candidate member
          rw [flat, mem_append, mem_cons] at member
          rcases member with earlier | here
          · exact stitched.placed candidate earlier
          · rcases here with same | later
            · rw [same]
              exact placed
            · exact walked.2.placed candidate later
        · apply rel_append stitched.traced
          apply List.Forall₂.cons _ List.Forall₂.nil
          exact walked.2.edges
        · refine forall_mem_append.mpr ⟨stitched.closed, forall_mem_singleton.mpr ?_⟩
          apply Exists.intro segment.1.1
          apply Exists.intro ([segment.1.2] ++ more.map fun candidate => candidate.1.2)
          refine ⟨cons_ne_nil _ _, rfl, ?_⟩
          rw [last_point]
          exact walked.2.closed
        · exact walked.2.still
      · exact mem_append_left _ (mem_append_right _ mem_cons_self)
      · intro place member
        exact mem_append_left _ (mem_append_left _ member)

theorem chains_stitched (rest : List (Segment × Nat))
    (inside : ∀ segment ∈ rest, segment ∈ segments.zipIdx) (state : Stitching)
    (parts : List (List (Segment × Nat))) (stitched : Stitched segments state parts) :
    ∃ parts', Stitched segments (rest.foldl (traceChain key segments) state) parts' ∧
      (∀ segment ∈ rest, segment.2 ∈ (rest.foldl (traceChain key segments) state).used) ∧
      ∀ place ∈ state.used, place ∈ (rest.foldl (traceChain key segments) state).used := by
  induction rest generalizing state parts with
  | nil =>
    apply Exists.intro parts
    apply And.intro stitched
    apply And.intro
    · intro segment member
      cases member
    · intro place member
      exact member
  | cons segment rest ih =>
    rw [foldl_cons]
    obtain ⟨parts', here⟩ := chain_stitched injective stitched (inside segment mem_cons_self)
    cases ih (fun other member => inside other (mem_cons_of_mem segment member)) _ parts'
        here.1 with
    | intro parts'' onward =>
      apply Exists.intro parts''
      apply And.intro onward.1
      apply And.intro
      · intro other member
        rw [mem_cons] at member
        rcases member with same | later
        · rw [same]
          exact onward.2.2 _ here.2.1
        · exact onward.2.1 other later
      · intro place member
        exact onward.2.2 _ (here.2.2 place member)

theorem traced_chains (still : ∀ potential, flow segments potential = 0) :
    (∃ parts, parts.flatten.Perm segments.zipIdx ∧
      List.Forall₂ TracedBy parts (traceChains key segments).chains) ∧
    ∀ chain ∈ (traceChains key segments).chains, Closes chain := by
  have nothing : Stitched segments { used := [], chains := [] } [] := by
    apply Stitched.mk
    · rfl
    · exact nodup_nil
    · intro candidate member
      cases member
    · exact List.Forall₂.nil
    · intro chain member
      cases member
    · intro potential
      rw [remaining_none, still]
  obtain ⟨parts, traced⟩ := chains_stitched injective segments.zipIdx (fun segment member => member) _ [] nothing
  have nodup : parts.flatten.Nodup := by
    apply List.Nodup.of_map snd
    rw [traced.1.used]
    exact traced.1.once
  apply And.intro _ traced.1.closed
  apply Exists.intro parts
  apply And.intro _ traced.1.traced
  rw [perm_ext_iff_of_nodup nodup placed_nodup]
  intro candidate
  constructor
  · intro member
    exact traced.1.placed candidate member
  · intro member
    have known := traced.2.1 candidate member
    rw [← traced.1.used, mem_map] at known
    obtain ⟨other, given⟩ := known
    rw [← same_place (traced.1.placed other given.1) member given.2]
    exact given.1

omit injective

theorem short_chain_flat {chain} (closes : Closes chain) (short : chain.length < 4) :
    signedArea chain = 0 := by
  obtain ⟨first, rest⟩ := closes
  obtain ⟨rest, given⟩ := rest
  cases rest with
  | nil => exact absurd rfl given.1
  | cons second rest =>
    cases rest with
    | nil =>
      have closed := given.2.2
      rw [given.2.1] at closed ⊢
      have same : second = first := closed
      rw [same]
      simp [signedArea]
    | cons third rest =>
      cases rest with
      | nil =>
        have closed := given.2.2
        rw [given.2.1] at closed ⊢
        have same : third = first := closed
        rw [same]
        simp [signedArea]
      | cons fourth rest =>
        rw [given.2.1] at short
        simp only [length_cons] at short
        omega

theorem finish_closed {chain} (closes : Closes chain) (spacing : ℚ) :
    finishRing key spacing chain = if chain.length < 4 then none else some chain := by
  obtain ⟨first, rest, given⟩ := closes
  have together : key (firstPoint chain) = key (lastPoint chain) := by
    rw [given.2.2, given.2.1]
    rfl
  unfold finishRing
  rw [if_neg (not_not.mpr together)]

theorem rings_are_chains {spacing : ℚ} (chains : List (List Point))
    (closed : ∀ chain ∈ chains, Closes chain) :
    chains.filterMap (finishRing key spacing) = chains.filter fun chain => 4 ≤ chain.length := by
  rw [← filterMap_eq_filter]
  apply filterMap_congr
  intro chain member
  rw [finish_closed (closed chain member), Option.guard]
  by_cases short : chain.length < 4
  · rw [if_pos short, if_neg]
    simp
    omega
  · rw [if_neg short, if_pos]
    simp
    omega

end OpenMapX.Isochrone.RingStitching
