import OpenMapX.Foundation.KeyedList
import OpenMapX.Isochrone.LatticePlan

/-!
# Thinning a reachability surface

`thinTransitReachabilitySurface`: of the seeds in one cell of a grid the earliest
is kept, and the grid is doubled until few enough are left. Numbers are exact
reals, and whole numbers of the source are cast.
-/

namespace OpenMapX.Transit.ReachabilityThinning

open Foundation.KeyedList Isochrone.LatticePlan List

noncomputable section

def INITIAL_TRANSIT_SEED_GRID_METRES : ℝ := (100 : ℕ)

def MAX_TRANSIT_REACHABILITY_SEEDS : ℕ := 4096

structure Seed (Details : Type) where
  lng : ℝ
  lat : ℝ
  arrivalSeconds : ℝ
  details : Details

structure Surface (Details : Type) where
  seeds : List (Seed Details)
  originalSeedCount : ℕ
  seedCount : ℕ
  gridMetres : ℝ

variable {Details : Type}

def preferSeed (a b : Seed Details) : Seed Details :=
  if a.arrivalSeconds ≠ b.arrivalSeconds then if a.arrivalSeconds < b.arrivalSeconds then a else b
  else if a.lng ≠ b.lng then if a.lng < b.lng then a else b
  else if a.lat ≤ b.lat then a else b

def cellOf (gridMetres : ℝ) (seed : Seed Details) : ℤ × ℤ :=
  let place := toWebMercator seed.lng seed.lat
  (⌊place.1 / gridMetres⌋, ⌊place.2 / gridMetres⌋)

def putSeed (gridMetres : ℝ) (cells : List (Seed Details)) (seed : Seed Details) :
    List (Seed Details) :=
  match findKey (cellOf gridMetres) cells (cellOf gridMetres seed) with
  | none => setKey (cellOf gridMetres) cells seed
  | some current => setKey (cellOf gridMetres) cells (preferSeed current seed)

def comesFirst (a b : Seed Details) : Bool :=
  let arrival := a.arrivalSeconds - b.arrivalSeconds
  let lng := a.lng - b.lng
  decide ((if arrival ≠ 0 then arrival else if lng ≠ 0 then lng else a.lat - b.lat) ≤ 0)

def thinAtGrid (seeds : List (Seed Details)) (gridMetres : ℝ) : List (Seed Details) :=
  (seeds.foldl (putSeed gridMetres) []).mergeSort comesFirst

def thinLoop (seeds : List (Seed Details)) : ℕ → ℝ → Option (List (Seed Details) × ℝ)
  | 0, _ => none
  | rounds + 1, gridMetres =>
    let thinned := thinAtGrid seeds gridMetres
    if MAX_TRANSIT_REACHABILITY_SEEDS < thinned.length then
      thinLoop seeds rounds (gridMetres * (2 : ℕ))
    else some (thinned, gridMetres)

def thinTransitReachabilitySurface (rounds : ℕ) (seeds : List (Seed Details)) :
    Option (Surface Details) :=
  (thinLoop seeds rounds INITIAL_TRANSIT_SEED_GRID_METRES).map fun thinned =>
    { seeds := thinned.1, originalSeedCount := seeds.length, seedCount := thinned.1.length
      gridMetres := thinned.2 }

def rank (seed : Seed Details) : ℝ ×ₗ ℝ ×ₗ ℝ :=
  toLex (seed.arrivalSeconds, toLex (seed.lng, seed.lat))

theorem rank_le {a b : Seed Details} : rank a ≤ rank b ↔
    a.arrivalSeconds < b.arrivalSeconds ∨ a.arrivalSeconds = b.arrivalSeconds ∧
      (a.lng < b.lng ∨ a.lng = b.lng ∧ a.lat ≤ b.lat) := by
  simp only [rank, Prod.Lex.toLex_le_toLex]

theorem preferSeed_eq (a b : Seed Details) : preferSeed a b = if rank a ≤ rank b then a else b := by
  unfold preferSeed
  rcases lt_trichotomy a.arrivalSeconds b.arrivalSeconds with sooner | same | later
  · simp [rank_le, sooner, sooner.ne]
  · rcases lt_trichotomy a.lng b.lng with west | line | east
    · simp [rank_le, same, west, west.ne]
    · simp [rank_le, same, line]
    · simp [rank_le, same, east.ne', east.not_gt]
  · simp [rank_le, later.ne', later.not_gt]

theorem comesFirst_eq (a b : Seed Details) : comesFirst a b = decide (rank a ≤ rank b) := by
  unfold comesFirst
  simp only
  rw [decide_eq_decide]
  rcases lt_trichotomy a.arrivalSeconds b.arrivalSeconds with sooner | same | later
  · simp [rank_le, sooner, sub_eq_zero, sooner.ne, sooner.le]
  · rcases lt_trichotomy a.lng b.lng with west | line | east
    · simp [rank_le, same, west, sub_eq_zero, west.ne, west.le]
    · simp [rank_le, same, line]
    · simp [rank_le, same, sub_eq_zero, east.ne', east.not_gt, east.not_ge]
  · simp [rank_le, sub_eq_zero, later.ne', later.not_gt, later.not_ge]

variable (seeds : List (Seed Details)) (gridMetres : ℝ)

theorem cellOf_of_rank {a b : Seed Details} (same : rank a = rank b) :
    cellOf gridMetres a = cellOf gridMetres b := by
  have place : a.lng = b.lng ∧ a.lat = b.lat := by
    have parts := Prod.mk.inj (toLex.injective same)
    exact Prod.mk.inj (toLex.injective parts.2)
  simp only [cellOf, place.1, place.2]

structure Held (gridMetres : ℝ) (seen cells : List (Seed Details)) : Prop where
  distinct : (cells.map (cellOf gridMetres)).Nodup
  first : ∀ kept ∈ cells, kept ∈ seen ∧
    ∀ seed ∈ seen, cellOf gridMetres seed = cellOf gridMetres kept → rank kept ≤ rank seed
  covered : ∀ seed ∈ seen, cellOf gridMetres seed ∈ cells.map (cellOf gridMetres)

section

variable {gridMetres : ℝ} {seen cells : List (Seed Details)}

theorem held_set {seed new} (held : Held gridMetres seen cells) (member : new ∈ seen ++ [seed])
    (there : cellOf gridMetres new = cellOf gridMetres seed) (least : ∀ other ∈ seen ++ [seed],
      cellOf gridMetres other = cellOf gridMetres new → rank new ≤ rank other) :
    Held gridMetres (seen ++ [seed]) (setKey (cellOf gridMetres) cells new) := by
  constructor
  · exact set_key_nodup held.distinct
  · intro kept kept_member
    rcases mem_set_key kept_member with rfl | ⟨old, apart⟩
    · exact ⟨member, least⟩
    · refine ⟨mem_append_left _ (held.first kept old).1, ?_⟩
      refine forall_mem_append.mpr ⟨(held.first kept old).2, forall_mem_singleton.mpr ?_⟩
      intro same
      rw [← there] at same
      exact absurd same.symm apart
  · intro other other_member
    rw [mem_set_keys]
    rcases mem_append.mp other_member with before | last
    · exact Or.inl (held.covered other before)
    · rw [mem_singleton.mp last]
      exact Or.inr there.symm

theorem held_put (seed : Seed Details) (held : Held gridMetres seen cells) :
    Held gridMetres (seen ++ [seed]) (putSeed gridMetres cells seed) := by
  unfold putSeed
  split
  · rename_i absent
    refine held_set held (by simp) rfl ?_
    intro other member same
    rcases mem_append.mp member with before | last
    · have known := held.covered other before
      rw [same] at known
      exact absurd known (find_key_none.mp absent)
    · rw [mem_singleton.mp last]
  · rename_i current found
    obtain ⟨member, there⟩ := find_key_mem found
    have first := held.first current member
    rw [preferSeed_eq]
    split_ifs with before
    · refine held_set held (mem_append_left _ first.1) there ?_
      intro other other_member same
      rcases mem_append.mp other_member with old | last
      · exact first.2 other old same
      · rwa [mem_singleton.mp last]
    · refine held_set held (by simp) rfl ?_
      intro other other_member same
      rcases mem_append.mp other_member with old | last
      · exact (not_le.mp before).le.trans (first.2 other old (same.trans there.symm))
      · rw [mem_singleton.mp last]

end

theorem held_fold (seeds) : ∀ {seen cells : List (Seed Details)}, Held gridMetres seen cells →
      Held gridMetres (seen ++ seeds) (seeds.foldl (putSeed gridMetres) cells) := by
  induction seeds with
  | nil =>
    intro seen cells held
    simpa using held
  | cons seed rest ih =>
    intro seen cells held
    have after := ih (held_put seed held)
    simpa using after

theorem held_thin : Held gridMetres seeds (thinAtGrid seeds gridMetres) := by
  have empty : Held gridMetres ([] : List (Seed Details)) [] := ⟨by simp, by simp, by simp⟩
  have held := held_fold gridMetres seeds empty
  rw [nil_append] at held
  have same : (thinAtGrid seeds gridMetres).Perm (seeds.foldl (putSeed gridMetres) []) :=
    mergeSort_perm _ _
  constructor
  · exact ((same.map _).nodup_iff).mpr held.distinct
  · exact fun kept member => held.first kept (same.mem_iff.mp member)
  · exact fun seed member => (same.map _).mem_iff.mpr (held.covered seed member)

theorem mem_ranks (r) : r ∈ (thinAtGrid seeds gridMetres).map rank ↔
      ∃ seed ∈ seeds, rank seed = r ∧ ∀ other ∈ seeds,
        cellOf gridMetres other = cellOf gridMetres seed → rank seed ≤ rank other := by
  have held := held_thin seeds gridMetres
  constructor
  · intro member
    obtain ⟨kept, kept_member, rfl⟩ := mem_map.mp member
    have first := held.first kept kept_member
    exact ⟨kept, first.1, rfl, first.2⟩
  · rintro ⟨seed, member, rfl, least⟩
    obtain ⟨kept, kept_member, there⟩ := mem_map.mp (held.covered seed member)
    have first := held.first kept kept_member
    have same : rank kept = rank seed :=
      le_antisymm (first.2 seed member there.symm) (least kept first.1 there)
    rw [← same]
    exact mem_map_of_mem kept_member

theorem ranks_sorted : ((thinAtGrid seeds gridMetres).map rank).Pairwise (· < ·) := by
  have held := held_thin seeds gridMetres
  have ordered : (thinAtGrid seeds gridMetres).Pairwise fun a b => comesFirst a b = true :=
    pairwise_mergeSort
      (fun a b c ab bc => by
        rw [comesFirst_eq, decide_eq_true_eq] at ab bc ⊢
        exact ab.trans bc)
      (fun a b => by
        rw [comesFirst_eq, comesFirst_eq, Bool.or_eq_true, decide_eq_true_eq, decide_eq_true_eq]
        exact le_total _ _) _
  have apart := pairwise_map.mp held.distinct
  rw [pairwise_map]
  refine (ordered.and apart).imp ?_
  rintro a b ⟨before, other⟩
  rw [comesFirst_eq, decide_eq_true_eq] at before
  exact lt_of_le_of_ne before fun same => other (cellOf_of_rank gridMetres same)

theorem ranks_perm {seeds shuffled : List (Seed Details)} (perm : shuffled.Perm seeds)
    (gridMetres : ℝ) :
    (thinAtGrid shuffled gridMetres).map rank = (thinAtGrid seeds gridMetres).map rank := by
  refine List.Perm.eq_of_pairwise ?_ (ranks_sorted shuffled gridMetres)
    (ranks_sorted seeds gridMetres) ?_
  · exact fun a b _ _ ab ba => absurd ab ba.not_gt
  rw [perm_ext_iff_of_nodup]
  · intro r
    rw [mem_ranks, mem_ranks]
    simp only [perm.mem_iff]
  · exact (ranks_sorted shuffled gridMetres).imp fun before => before.ne
  · exact (ranks_sorted seeds gridMetres).imp fun before => before.ne

theorem thinLoop_ends (n : ℕ) : ∀ gridMetres, (thinAtGrid seeds (gridMetres * 2 ^ n)).length ≤
        MAX_TRANSIT_REACHABILITY_SEEDS →
      ∃ last, (thinAtGrid seeds last).length ≤ MAX_TRANSIT_REACHABILITY_SEEDS ∧
        ∀ rounds, n < rounds →
          thinLoop seeds rounds gridMetres = some (thinAtGrid seeds last, last) := by
  induction n with
  | zero =>
    intro gridMetres few
    rw [pow_zero, mul_one] at few
    refine ⟨gridMetres, few, fun rounds enough => ?_⟩
    obtain ⟨rounds, rfl⟩ := Nat.exists_eq_succ_of_ne_zero enough.ne'
    rw [thinLoop, if_neg few.not_gt]
  | succ n ih =>
    intro gridMetres few
    by_cases here : (thinAtGrid seeds gridMetres).length ≤ MAX_TRANSIT_REACHABILITY_SEEDS
    · refine ⟨gridMetres, here, fun rounds enough => ?_⟩
      obtain ⟨rounds, rfl⟩ := Nat.exists_eq_succ_of_ne_zero (Nat.zero_lt_of_lt enough).ne'
      rw [thinLoop, if_neg here.not_gt]
    · have later : gridMetres * 2 ^ (n + 1) = gridMetres * (2 : ℕ) * 2 ^ n := by
        push_cast
        ring
      rw [later] at few
      obtain ⟨last, enough_thin, loop⟩ := ih (gridMetres * (2 : ℕ)) few
      refine ⟨last, enough_thin, fun rounds enough => ?_⟩
      obtain ⟨rounds, rfl⟩ := Nat.exists_eq_succ_of_ne_zero (Nat.zero_lt_of_lt enough).ne'
      rw [thinLoop, if_pos (not_le.mp here)]
      exact loop rounds (by omega)

theorem floor_small {x grid : ℝ} (inside : |x| < grid) : ⌊x / grid⌋ = -1 ∨ ⌊x / grid⌋ = 0 := by
  have positive : 0 < grid := (abs_nonneg x).trans_lt inside
  have bounds := abs_lt.mp inside
  have lower : -1 ≤ ⌊x / grid⌋ := by
    rw [Int.le_floor, le_div_iff₀ positive]
    push_cast
    linarith
  have upper : ⌊x / grid⌋ < 1 := by
    rw [Int.floor_lt, div_lt_iff₀ positive]
    push_cast
    linarith
  omega

theorem coarse_few {gridMetres : ℝ}
    (inside : ∀ seed ∈ seeds, |(toWebMercator seed.lng seed.lat).1| < gridMetres ∧
      |(toWebMercator seed.lng seed.lat).2| < gridMetres) :
    (thinAtGrid seeds gridMetres).length ≤ 4 := by
  have held := held_thin seeds gridMetres
  have few : (thinAtGrid seeds gridMetres).map (cellOf gridMetres) ⊆
      [(-1, -1), (-1, 0), (0, -1), (0, 0)] := by
    intro cell member
    obtain ⟨kept, kept_member, rfl⟩ := mem_map.mp member
    have near := inside kept (held.first kept kept_member).1
    simp only [cellOf]
    rcases floor_small near.1 with x | x <;> rcases floor_small near.2 with y | y <;> simp [x, y]
  have count := (held.distinct.subperm few).length_le
  simpa using count

theorem exists_bound : ∃ bound : ℝ, ∀ seed ∈ seeds, |(toWebMercator seed.lng seed.lat).1| ≤ bound ∧
      |(toWebMercator seed.lng seed.lat).2| ≤ bound := by
  induction seeds with
  | nil => exact ⟨0, by simp⟩
  | cons seed rest ih =>
    obtain ⟨bound, holds⟩ := ih
    refine ⟨max bound (max |(toWebMercator seed.lng seed.lat).1|
      |(toWebMercator seed.lng seed.lat).2|), ?_⟩
    intro other member
    rcases mem_cons.mp member with rfl | later
    · exact ⟨le_max_of_le_right (le_max_left _ _), le_max_of_le_right (le_max_right _ _)⟩
    · exact ⟨le_max_of_le_left (holds other later).1, le_max_of_le_left (holds other later).2⟩

theorem doubled_few : ∃ n : ℕ,
    (thinAtGrid seeds (INITIAL_TRANSIT_SEED_GRID_METRES * 2 ^ n)).length ≤
      MAX_TRANSIT_REACHABILITY_SEEDS := by
  obtain ⟨bound, holds⟩ := exists_bound seeds
  obtain ⟨n, above⟩ := pow_unbounded_of_one_lt bound (one_lt_two : (1 : ℝ) < 2)
  have wide : bound < INITIAL_TRANSIT_SEED_GRID_METRES * 2 ^ n := by
    have positive : (0 : ℝ) < 2 ^ n := by positivity
    simp only [INITIAL_TRANSIT_SEED_GRID_METRES]
    push_cast
    linarith
  have few := coarse_few seeds fun seed member =>
    ⟨(holds seed member).1.trans_lt wide, (holds seed member).2.trans_lt wide⟩
  exact ⟨n, few.trans (by decide)⟩

theorem thinLoop_perm {seeds shuffled : List (Seed Details)} (perm : shuffled.Perm seeds)
    (rounds : ℕ) (gridMetres : ℝ) :
    (thinLoop shuffled rounds gridMetres).map (fun thinned => (thinned.1.map rank, thinned.2)) =
      (thinLoop seeds rounds gridMetres).map fun thinned => (thinned.1.map rank, thinned.2) := by
  induction rounds generalizing gridMetres with
  | zero => rfl
  | succ rounds ih =>
    have ranks := ranks_perm perm gridMetres
    have size : (thinAtGrid shuffled gridMetres).length = (thinAtGrid seeds gridMetres).length := by
      simpa using congrArg List.length ranks
    simp only [thinLoop, size]
    split_ifs
    · exact ih (gridMetres * (2 : ℕ))
    · simp [ranks]

/-- Thinning ends, keeps few seeds of the input, the earliest of every cell, and keeps the same
times and places whatever the order of the input. -/
theorem thinning_safe (seeds : List (Seed Details)) : ∃ enough, ∃ surface : Surface Details,
    (∀ rounds, enough < rounds → thinTransitReachabilitySurface rounds seeds = some surface) ∧
    surface.seeds.length ≤ MAX_TRANSIT_REACHABILITY_SEEDS ∧ (∀ kept ∈ surface.seeds, kept ∈ seeds) ∧
    (∀ seed ∈ seeds, ∃ kept ∈ surface.seeds,
      cellOf surface.gridMetres kept = cellOf surface.gridMetres seed ∧
      kept.arrivalSeconds ≤ seed.arrivalSeconds) ∧
    ∀ shuffled : List (Seed Details), shuffled.Perm seeds → ∀ rounds, enough < rounds →
      ∃ other : Surface Details, thinTransitReachabilitySurface rounds shuffled = some other ∧
        (other.seeds.map fun seed => (seed.arrivalSeconds, seed.lng, seed.lat)) =
          surface.seeds.map fun seed => (seed.arrivalSeconds, seed.lng, seed.lat) := by
  obtain ⟨n, few⟩ := doubled_few seeds
  obtain ⟨last, small, loop⟩ := thinLoop_ends seeds n INITIAL_TRANSIT_SEED_GRID_METRES few
  have held := held_thin seeds last
  refine ⟨n, ⟨thinAtGrid seeds last, seeds.length, (thinAtGrid seeds last).length, last⟩, ?_,
    small, fun kept member => (held.first kept member).1, ?_, ?_⟩
  · intro rounds enough
    rw [thinTransitReachabilitySurface, loop rounds enough]
    rfl
  · intro seed member
    obtain ⟨kept, kept_member, there⟩ := mem_map.mp (held.covered seed member)
    refine ⟨kept, kept_member, there, ?_⟩
    rcases rank_le.mp ((held.first kept kept_member).2 seed member there.symm) with sooner | same
    · exact sooner.le
    · exact same.1.le
  · intro shuffled perm rounds enough
    have same := thinLoop_perm perm rounds INITIAL_TRANSIT_SEED_GRID_METRES
    rw [loop rounds enough, Option.map_some] at same
    obtain ⟨thinned, found, ranks⟩ := Option.map_eq_some_iff.mp same
    refine ⟨⟨thinned.1, shuffled.length, thinned.1.length, thinned.2⟩, ?_, ?_⟩
    · rw [thinTransitReachabilitySurface, found]
      rfl
    · have read := congrArg (List.map fun r : ℝ ×ₗ ℝ ×ₗ ℝ =>
        ((ofLex r).1, (ofLex (ofLex r).2).1, (ofLex (ofLex r).2).2)) (Prod.mk.inj ranks).1
      simpa [map_map, rank, Function.comp_def] using read

theorem thin_twins (first second : String) :
    thinTransitReachabilitySurface 1 [⟨0, 0, 0, first⟩, ⟨0, 0, 0, second⟩] =
      some ⟨[⟨0, 0, 0, first⟩], 2, 1, INITIAL_TRANSIT_SEED_GRID_METRES⟩ := by
  simp [thinTransitReachabilitySurface, thinLoop, thinAtGrid, putSeed, findKey, setKey, cellOf,
    preferSeed, MAX_TRANSIT_REACHABILITY_SEEDS]

/-- Of two stops at one place and time the first of the input is kept. -/
theorem first_stop_kept :
    thinTransitReachabilitySurface 1 [⟨0, 0, 0, "platform 1"⟩, ⟨0, 0, 0, "platform 2"⟩] ≠
        thinTransitReachabilitySurface 1 [⟨0, 0, 0, "platform 2"⟩, ⟨0, 0, 0, "platform 1"⟩] ∧
      [(⟨0, 0, 0, "platform 1"⟩ : Seed String), ⟨0, 0, 0, "platform 2"⟩].Perm
        [⟨0, 0, 0, "platform 2"⟩, ⟨0, 0, 0, "platform 1"⟩] := by
  constructor
  · rw [thin_twins, thin_twins]
    simp
  · exact List.Perm.swap _ _ _

end

end OpenMapX.Transit.ReachabilityThinning
