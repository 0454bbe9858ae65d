import OpenMapX.Places.PoiAssignment
import OpenMapX.Places.PoiFusion

/-!
# Conservation of records

The fusion neither loses nor duplicates a record: the records behind its results are
those of its two inputs, each once. A canonical id fuses with its own record only, and a
link is followed unless one of its two ends has been taken before.
-/

namespace OpenMapX.Places.FusionConservation

open PoiConflation ComponentOptimality PoiAssignment Conflate PoiFusion List
open Prod (fst snd)

section

variable {Item : Type*} (key : Item → String)

theorem taken_and_left (whole taken : List Item) (distinct : (whole.map key).Nodup)
    (once : (taken.map key).Nodup) (inside : ∀ item ∈ taken, item ∈ whole) :
    (taken ++ whole.filter fun item => decide (key item ∉ taken.map key)).Perm whole := by
  have wholeNodup : whole.Nodup := List.Nodup.of_map key distinct
  have takenNodup : taken.Nodup := List.Nodup.of_map key once
  have parts : (taken ++ whole.filter fun item => decide (key item ∉ taken.map key)).Nodup := by
    rw [nodup_append]
    apply And.intro takenNodup
    apply And.intro (wholeNodup.filter _)
    intro item member other left same
    rw [mem_filter, decide_eq_true_eq] at left
    rw [same] at member
    exact left.2 (mem_map_of_mem member)
  rw [perm_ext_iff_of_nodup parts wholeNodup]
  intro item
  rw [mem_append, mem_filter, decide_eq_true_eq]
  constructor
  · rintro (member | left)
    · exact inside item member
    · exact left.1
  · intro member
    by_cases known : key item ∈ taken.map key
    · rw [mem_map] at known
      obtain ⟨other, given⟩ := known
      have equal := inj_on_of_nodup_map distinct (inside other given.1) member given.2
      rw [← equal]
      exact Or.inl given.1
    · exact Or.inr ⟨member, known⟩

end

theorem by_id_mem {records} {id : String} {record}
    (found : byId records id = some record) : record ∈ records ∧ record.id = id := by
  unfold byId at found
  have member := mem_of_find?_eq_some found
  have same := find?_some found
  rw [decide_eq_true_eq] at same
  exact ⟨mem_reverse.mp member, same⟩

theorem by_id_of_mem {records record} (distinct : (records.map (·.id)).Nodup)
    (member : record ∈ records) : byId records record.id = some record := by
  cases found : byId records record.id with
  | none =>
    unfold byId at found
    rw [find?_eq_none] at found
    exact absurd (decide_eq_true rfl) (found record (mem_reverse.mpr member))
  | some other =>
    have known := by_id_mem found
    rw [inj_on_of_nodup_map distinct known.1 member known.2]

section

variable {measures : Measures} {a b : ConflationPoint} {t : ConflationThresholds}

def Proper : ScoreOutcome → Prop
  | .rejected => True
  | .notANumber => False
  | .scored score => 0 ≤ score.matchConfidence ∧ score.matchConfidence ≤ 1

theorem make_score_proper (method : ConflationMethod) (confidence : ℚ)
    (evidence : List String) : Proper (makeScore measures a b method confidence evidence) := by
  unfold makeScore Proper clampConfidence
  exact ⟨le_max_left _ _, max_le zero_le_one (min_le_left _ _)⟩

variable (window : t.softWindowM ≠ 0)
include window

theorem by_name_proper : Proper (scoreByName measures a b t) := by
  unfold scoreByName
  dsimp only
  generalize (if distanceOf measures a b ≤ t.alwaysMergeM then CLOSE_BAND_NAME_FLOOR
    else t.nameDiceFloor) = floor
  split
  · trivial
  · exact make_score_proper _ _ _

theorem by_website_proper : Proper (scoreByWebsite measures a b t) := by
  unfold scoreByWebsite
  split
  · split
    · exact make_score_proper _ _ _
    · exact by_name_proper window
  · exact by_name_proper window

theorem by_address_proper : Proper (scoreByAddress measures a b t) := by
  unfold scoreByAddress
  split
  · trivial
  · split
    · exact make_score_proper _ _ _
    · split
      · exact make_score_proper _ _ _
      · trivial
  · exact by_website_proper window

theorem score_proper : Proper (scoreConflationPair measures a b t) := by
  unfold scoreConflationPair
  split
  · trivial
  · split
    · exact make_score_proper _ _ _
    · dsimp only
      split
      · trivial
      · split
        · exact make_score_proper _ _ _
        · exact by_address_proper window

omit window

end

section

variable (measures : Measures) (localeCompare : String → String → Int)
variable {a b : List ConflationPoint} {t : ConflationThresholds}

structure Joins (a b : List ConflationPoint) (edge : ScoredConflationPair) : Prop where
  a : edge.a ∈ a
  b : edge.b ∈ b
  unit : 0 ≤ edge.score.matchConfidence ∧ edge.score.matchConfidence ≤ 1

theorem neighbour_pairs_mem {pair}
    (member : pair ∈ neighbourPairs measures a b t) : pair.1 ∈ a ∧ pair.2 ∈ b := by
  unfold neighbourPairs at member
  rw [mem_flatMap] at member
  obtain ⟨point, given⟩ := member
  have rest := given.2
  rw [mem_flatMap] at rest
  obtain ⟨key, near⟩ := rest
  have other := near.2
  rw [mem_map] at other
  obtain ⟨second, same⟩ := other
  rw [← same.2]
  exact ⟨given.1, (mem_filter.mp same.1).1⟩

theorem candidates_join (window : t.softWindowM ≠ 0) :
    ∃ edges, candidateEdges measures a b t = some edges ∧ ∀ edge ∈ edges, Joins a b edge := by
  have folded : ∀ (pairs : List (ConflationPoint × ConflationPoint))
      (before : List ScoredConflationPair),
      (∀ pair ∈ pairs, pair.1 ∈ a ∧ pair.2 ∈ b) → (∀ edge ∈ before, Joins a b edge) →
      ∃ edges, pairs.foldlM (fun edges pair =>
        match scoreConflationPair measures pair.1 pair.2 t with
        | .rejected => some edges
        | .notANumber => none
        | .scored score => some (edges ++ [{ a := pair.1, b := pair.2, score := score }]))
        before = some edges ∧ ∀ edge ∈ edges, Joins a b edge := by
    intro pairs
    induction pairs with
    | nil =>
      intro before _ joined
      exact ⟨before, rfl, joined⟩
    | cons pair pairs ih =>
      intro before members joined
      have here := members pair mem_cons_self
      have later : ∀ other ∈ pairs, other.1 ∈ a ∧ other.2 ∈ b :=
        fun other member => members other (mem_cons_of_mem pair member)
      have proper : Proper (scoreConflationPair measures pair.1 pair.2 t) := score_proper window
      rw [foldlM_cons]
      cases outcome : scoreConflationPair measures pair.1 pair.2 t with
      | rejected => exact ih before later joined
      | notANumber =>
        rw [outcome] at proper
        exact absurd proper id
      | scored score =>
        rw [outcome] at proper
        apply ih _ later
        exact forall_mem_append.mpr ⟨joined, forall_mem_singleton.mpr ⟨here.1, here.2, proper⟩⟩
  apply folded _ [] _ _
  · intro pair member
    exact neighbour_pairs_mem measures member
  · intro edge member
    cases member

structure Conflated (a b : List ConflationPoint) (result : ConflationResult) : Prop where
  within : ∀ edge ∈ result.matched, edge.a ∈ a ∧ edge.b ∈ b
  oneToOne : OneToOne result.matched
  restA : result.unmatchedA = a.filter fun point =>
    decide (point.id ∉ result.matched.map (·.a.id))
  restB : result.unmatchedB = b.filter fun point =>
    decide (point.id ∉ result.matched.map (·.b.id))

theorem conflate_ends (window : t.softWindowM ≠ 0) (readableA : ∀ point ∈ a, SeparatorFree point.id)
    (readableB : ∀ point ∈ b, SeparatorFree point.id) : ∃ bound result, (∀ fuel, bound ≤ fuel →
        conflate measures localeCompare a b t fuel = some result) ∧ Conflated a b result := by
  have trivially : ∀ result, (∀ fuel, conflate measures localeCompare a b t fuel = some result) →
      result = { matched := [], unmatchedA := a, unmatchedB := b } →
      ∃ bound result, (∀ fuel, bound ≤ fuel →
        conflate measures localeCompare a b t fuel = some result) ∧ Conflated a b result := by
    intro result ends same
    refine ⟨0, result, fun fuel _ => ends fuel, ?_⟩
    rw [same]
    apply Conflated.mk
    · intro edge member
      cases member
    · exact ⟨nodup_nil, nodup_nil⟩
    · simp
    · simp
  by_cases emptyA : a = []
  · by_cases emptyB : b = []
    · apply trivially _ (fun fuel => by
        unfold conflate
        rw [if_pos ⟨emptyA, emptyB⟩])
      rw [emptyA, emptyB]
    · apply trivially _ (fun fuel => by
        unfold conflate
        rw [if_neg (fun both => emptyB both.2), if_pos emptyA])
      rw [emptyA]
  · by_cases emptyB : b = []
    · apply trivially _ (fun fuel => by
        unfold conflate
        rw [if_neg (fun both => emptyA both.1), if_neg emptyA, if_pos emptyB])
      rw [emptyB]
    · cases candidates_join measures (a := a) (b := b) window with
      | intro edges candidates =>
        have joins := candidates.2
        cases pairs_assigned localeCompare edges
            (fun edge member => ⟨readableA _ (joins edge member).a,
              readableB _ (joins edge member).b⟩)
            (fun edge member => (joins edge member).unit) with
        | intro bound rest =>
          obtain ⟨matched, assigned⟩ := rest
          apply Exists.intro bound
          apply Exists.intro
            { matched := matched
              unmatchedA := a.filter fun point => point.id ∉ matched.map (·.a.id)
              unmatchedB := b.filter fun point => point.id ∉ matched.map (·.b.id) }
          constructor
          · intro fuel enough
            unfold conflate
            rw [if_neg (fun both => emptyA both.1), if_neg emptyA, if_neg emptyB,
              candidates.1, Option.bind_some, assigned.1 fuel enough]
            rfl
          · apply Conflated.mk
            · intro edge member
              have joined := joins edge (assigned.2.within edge member)
              exact ⟨joined.a, joined.b⟩
            · exact assigned.2.oneToOne
            · rfl
            · rfl

end

section

variable {osm overture : List PoiSearchResult}

/-- The pairs join records of the two lists, each at most once, and a canonical record
with its own only. -/
structure Paired (osm overture : List PoiSearchResult) (pairs : Pairs) : Prop where
  left : ∀ pair ∈ pairs, pair.1 ∈ osm
  right : ∀ pair ∈ pairs, pair.2 ∈ overture
  osmOnce : (pairs.map (·.1.id)).Nodup
  overtureOnce : (pairs.map (·.2.id)).Nodup
  canonical : ∀ pair ∈ pairs, (osmResultLinkKey pair.2.id).isSome → pair.2.id = pair.1.id

variable {pair : PoiSearchResult × PoiSearchResult}

theorem identity_pair (member : pair ∈ identityStage osm overture) :
    pair.1 ∈ osm ∧ pair.2 ∈ overture ∧ pair.1.id = pair.2.id ∧
      (osmResultLinkKey pair.2.id).isSome := by
  unfold identityStage at member
  rw [mem_filterMap] at member
  obtain ⟨overtR, given⟩ := member
  have found := given.2
  split at found
  · cases found
  · rename_i canonical
    obtain ⟨osmR, same⟩ := Option.map_eq_some_iff.mp found
    have known := by_id_mem same.1
    rw [← same.2]
    refine ⟨known.1, given.1, known.2, ?_⟩
    cases key : osmResultLinkKey overtR.id with
    | none =>
      rw [key] at canonical
      exact absurd rfl canonical
    | some value => rfl

theorem identity_paired (distinct : (overture.map (·.id)).Nodup) :
    Paired osm overture (identityStage osm overture) := by
  have once : ((identityStage osm overture).map (·.2.id)).Nodup := by
    unfold identityStage
    rw [map_filterMap]
    rw [nodup_iff_pairwise_ne, pairwise_map] at distinct
    rw [nodup_iff_pairwise_ne, pairwise_filterMap]
    apply distinct.imp
    intro first second different id atFirst id' atSecond same
    have idOf : ∀ (record : PoiSearchResult) (value : String),
        ((if (osmResultLinkKey record.id).isNone then none
          else (byId osm record.id).map fun osmR => (osmR, record)).map
            fun pair : PoiSearchResult × PoiSearchResult => pair.2.id) = some value →
        value = record.id := by
      intro record value given
      split at given
      · cases given
      · cases found : byId osm record.id with
        | none =>
          rw [found] at given
          cases given
        | some osmR =>
          rw [found] at given
          exact (Option.some.inj given).symm
    rw [idOf first id atFirst, idOf second id' atSecond] at same
    exact different same
  apply Paired.mk
  · intro pair member
    exact (identity_pair member).1
  · intro pair member
    exact (identity_pair member).2.1
  · have same : (identityStage osm overture).map (·.1.id) =
        (identityStage osm overture).map (·.2.id) := by
      apply map_congr_left
      intro pair member
      exact (identity_pair member).2.2.1
    rw [same]
    exact once
  · exact once
  · intro pair member _
    exact (identity_pair member).2.2.1.symm

theorem consumed_osm_iff (pairs : Pairs) (id : String) :
    consumedOsm pairs id = true ↔ id ∈ pairs.map (·.1.id) := by
  unfold consumedOsm
  rw [any_eq_true, mem_map]
  simp only [beq_iff_eq]

theorem consumed_overture_iff (pairs : Pairs) (id : String) :
    consumedOverture pairs id = true ↔ id ∈ pairs.map (·.2.id) := by
  unfold consumedOverture
  rw [any_eq_true, mem_map]
  simp only [beq_iff_eq]

theorem by_gers_mem {gersId : String} {record}
    (found : overtureByGers overture gersId = some record) :
    record ∈ overture ∧ record.gersId = some gersId := by
  unfold overtureByGers at found
  have member := mem_of_find?_eq_some found
  have same := find?_some found
  rw [decide_eq_true_eq] at same
  rw [mem_reverse, mem_filter] at member
  exact ⟨member.1, same⟩

theorem link_record_cases (link) (pairs : Pairs) (osmR : PoiSearchResult) :
    linkRecord overture link pairs osmR = pairs ∨
    ∃ overtR, linkRecord overture link pairs osmR = pairs ++ [(osmR, overtR)] ∧
      overtR ∈ overture ∧ osmR.id ∉ pairs.map (·.1.id) ∧ overtR.id ∉ pairs.map (·.2.id) ∧
      ((osmResultLinkKey overtR.id).isSome → overtR.id = osmR.id) := by
  unfold linkRecord
  split
  · exact Or.inl rfl
  · rename_i freshOsm
    split
    · exact Or.inl rfl
    · split
      · exact Or.inl rfl
      · split
        · exact Or.inl rfl
        · rename_i overtR linked
          split
          · exact Or.inl rfl
          · rename_i freshOverture
            split
            · exact Or.inl rfl
            · rename_i allowed
              apply Or.inr
              refine ⟨overtR, rfl, (by_gers_mem linked).1, ?_, ?_, ?_⟩
              · rw [← consumed_osm_iff]
                exact freshOsm
              · rw [← consumed_overture_iff]
                exact freshOverture
              · intro canonical
                by_contra different
                exact allowed ⟨canonical, different⟩

theorem link_record_paired {link} {pairs : Pairs} (paired : Paired osm overture pairs) {osmR}
    (member : osmR ∈ osm) : Paired osm overture (linkRecord overture link pairs osmR) := by
  rcases link_record_cases link pairs osmR with same | added
  · rw [same]
    exact paired
  · obtain ⟨overtR, given⟩ := added
    rw [given.1]
    apply Paired.mk
    · exact forall_mem_append.mpr ⟨paired.left, forall_mem_singleton.mpr member⟩
    · exact forall_mem_append.mpr ⟨paired.right, forall_mem_singleton.mpr given.2.1⟩
    · rw [map_append, nodup_append]
      refine ⟨paired.osmOnce, by simp, ?_⟩
      intro id inside id' last same
      rw [map_singleton, mem_singleton] at last
      rw [same, last] at inside
      exact given.2.2.1 inside
    · rw [map_append, nodup_append]
      refine ⟨paired.overtureOnce, by simp, ?_⟩
      intro id inside id' last same
      rw [map_singleton, mem_singleton] at last
      rw [same, last] at inside
      exact given.2.2.2.1 inside
    · exact forall_mem_append.mpr ⟨paired.canonical, forall_mem_singleton.mpr given.2.2.2.2⟩

theorem link_fold_paired (link : List (String × String)) (records : List PoiSearchResult)
    (inside : ∀ record ∈ records, record ∈ osm) (pairs : Pairs) (paired : Paired osm overture pairs)
    : Paired osm overture (records.foldl (linkRecord overture link) pairs) := by
  induction records generalizing pairs with
  | nil => exact paired
  | cons record records ih =>
    rw [foldl_cons]
    apply ih (fun other member => inside other (mem_cons_of_mem record member))
    exact link_record_paired paired (inside record mem_cons_self)

theorem link_stage_paired (distinct : (overture.map (·.id)).Nodup)
    (link : Option (List (String × String))) :
    Paired osm overture (linkStage osm overture link (identityStage osm overture)) := by
  have identity : Paired osm overture (identityStage osm overture) := identity_paired distinct
  unfold linkStage
  split
  · exact identity
  · exact identity
  · exact link_fold_paired _ osm (fun record member => member) _ identity

section

variable (link : List (String × String)) (records : List PoiSearchResult) (pairs : Pairs)

theorem link_fold_keeps (member : pair ∈ pairs) :
    pair ∈ records.foldl (linkRecord overture link) pairs := by
  induction records generalizing pairs with
  | nil => exact member
  | cons record records ih =>
    rw [foldl_cons]
    apply ih
    rcases link_record_cases link pairs record with same | added
    · rw [same]
      exact member
    · obtain ⟨overtR, given⟩ := added
      rw [given.1]
      exact mem_append_left _ member

theorem link_fold_from (member : pair ∈ records.foldl (linkRecord overture link) pairs) :
    pair ∈ pairs ∨ pair.1 ∈ records := by
  induction records generalizing pairs with
  | nil => exact Or.inl member
  | cons record records ih =>
    rw [foldl_cons] at member
    rcases ih _ member with before | later
    · rcases link_record_cases link pairs record with same | added
      · rw [same] at before
        exact Or.inl before
      · obtain ⟨overtR, given⟩ := added
        rw [given.1, mem_append, mem_singleton] at before
        rcases before with earlier | last
        · exact Or.inl earlier
        · rw [last]
          exact Or.inr mem_cons_self
    · exact Or.inr (mem_cons_of_mem record later)

end

end

section

variable (deps : FusionDeps) {whole part : List PoiSearchResult}

theorem points_records (distinct : (whole.map (·.id)).Nodup)
    (inside : ∀ record ∈ part, record ∈ whole) (taken : List String) :
    (((part.map (conflationPoint deps)).filter fun point =>
        decide (point.id ∉ taken)).filterMap fun point => byId whole point.id) =
      part.filter fun record => decide (record.id ∉ taken) := by
  rw [filter_map, filterMap_map]
  have known : ∀ record ∈ part.filter ((fun point : ConflationPoint =>
        decide (point.id ∉ taken)) ∘ conflationPoint deps),
      ((fun point : ConflationPoint => byId whole point.id) ∘ conflationPoint deps) record =
        some record := by
    intro record member
    exact by_id_of_mem distinct (inside record (mem_filter.mp member).1)
  rw [filterMap_congr known, filterMap_some]
  rfl

theorem matched_records {others : List PoiSearchResult} {pool : List PoiSearchResult}
    (distinct : (whole.map (·.id)).Nodup) (otherDistinct : (pool.map (·.id)).Nodup)
    (inside : ∀ record ∈ part, record ∈ whole) (otherInside : ∀ record ∈ others, record ∈ pool)
    (matched : List ScoredConflationPair)
    (within : ∀ edge ∈ matched, edge.a ∈ part.map (conflationPoint deps) ∧
      edge.b ∈ others.map (conflationPoint deps)) : ∃ pairs : Pairs,
      matched.filterMap (fuseMatched Origin.fused whole pool) =
        pairs.map (fun pair => Origin.fused pair.1 pair.2) ∧
      (∀ pair ∈ pairs, pair.1 ∈ part ∧ pair.2 ∈ others) ∧
      pairs.map (·.1.id) = matched.map (·.a.id) ∧ pairs.map (·.2.id) = matched.map (·.b.id) := by
  induction matched with
  | nil =>
    apply Exists.intro []
    refine ⟨rfl, ?_, rfl, rfl⟩
    intro pair member
    cases member
  | cons edge matched ih =>
    obtain ⟨pairs, rest⟩ := ih (fun other member => within other (mem_cons_of_mem edge member))
    have here := within edge mem_cons_self
    rw [mem_map, mem_map] at here
    obtain ⟨osmR, osmPoint⟩ := here.1
    obtain ⟨overtR, overtPoint⟩ := here.2
    have osmId : edge.a.id = osmR.id := by rw [← osmPoint.2]; rfl
    have overtId : edge.b.id = overtR.id := by rw [← overtPoint.2]; rfl
    apply Exists.intro ((osmR, overtR) :: pairs)
    refine ⟨?_, ?_, ?_, ?_⟩
    · have one : fuseMatched Origin.fused whole pool edge =
          some (Origin.fused osmR overtR) := by
        unfold fuseMatched
        rw [osmId, overtId, by_id_of_mem distinct (inside osmR osmPoint.1),
          by_id_of_mem otherDistinct (otherInside overtR overtPoint.1)]
      rw [filterMap_cons_some one, rest.1, map_cons]
    · intro pair member
      rw [mem_cons] at member
      rcases member with first | later
      · rw [first]
        exact ⟨osmPoint.1, overtPoint.1⟩
      · exact rest.2.1 pair later
    · rw [map_cons, map_cons, rest.2.2.1, osmId]
    · rw [map_cons, map_cons, rest.2.2.2, overtId]

end

theorem stages_from_origins {Result : Type*} (deps : FusionDeps) (made : Origin → Result)
    (fuel : Nat) (osm overture thresholds link) :
    fuseStages deps (fun record => made (.alone record))
        (fun osmR overtR => made (.fused osmR overtR)) fuel osm overture thresholds link =
      (originsOf deps fuel osm overture thresholds link).map (List.map made) := by
  unfold originsOf fuseStages
  split
  · rw [Option.map_some, map_map]
    rfl
  · dsimp only
    split
    · simp only [Option.map_some, map_append, map_map]
      rfl
    · rw [Option.map_map]
      congr 1
      funext result
      simp only [Function.comp_apply, map_append, map_map]
      congr 4
      rw [map_filterMap]
      apply filterMap_congr
      intro pair _
      unfold fuseMatched
      cases byId osm pair.a.id with
      | none => rfl
      | some osmR =>
        cases byId (overture.filter fun record =>
          !consumedOverture (linkStage osm overture link (identityStage osm overture)) record.id &&
            (osmResultLinkKey record.id).isNone) pair.b.id with
        | none => rfl
        | some overtR => rfl

theorem pairs_records (pairs : Pairs) :
    ((pairs.map fun pair => Origin.fused pair.1 pair.2).flatMap Origin.records).Perm
      (pairs.map fst ++ pairs.map snd) := by
  induction pairs with
  | nil => exact List.Perm.refl []
  | cons pair pairs ih =>
    rw [map_cons, flatMap_cons, map_cons, map_cons]
    apply List.Perm.cons
    exact (List.Perm.cons pair.2 ih).trans perm_middle.symm

theorem alone_records (records : List PoiSearchResult) :
    (records.map Origin.alone).flatMap Origin.records = records := by
  induction records with
  | nil => rfl
  | cons record records ih =>
    rw [map_cons, flatMap_cons, ih]
    rfl

section

variable (deps : FusionDeps) {osm overture : List PoiSearchResult}
variable {thresholds : ConflationThresholds} {link : Option (List (String × String))}

/-- The origins use every record once, follow the pairs of the first two stages, and pair
no canonical Overture record otherwise. -/
structure Traced (osm overture : List PoiSearchResult) (pairs : Pairs)
    (origins : List Origin) : Prop where
  records : (origins.flatMap Origin.records).Perm (osm ++ overture)
  fused : ∀ osmR overtR, Origin.fused osmR overtR ∈ origins →
    osmR ∈ osm ∧ overtR ∈ overture ∧ ((osmR, overtR) ∈ pairs ∨ osmResultLinkKey overtR.id = none)
  paired : ∀ pair ∈ pairs, Origin.fused pair.1 pair.2 ∈ origins

theorem fused_of_map {pairs : Pairs} {osmR overtR}
    (member : Origin.fused osmR overtR ∈ pairs.map fun pair => Origin.fused pair.1 pair.2) :
    (osmR, overtR) ∈ pairs := by
  rw [mem_map] at member
  obtain ⟨pair, given⟩ := member
  cases given.2
  exact given.1

theorem fused_not_alone {records : List PoiSearchResult} {osmR overtR : PoiSearchResult} :
    Origin.fused osmR overtR ∉ records.map Origin.alone := by
  intro member
  rw [mem_map] at member
  obtain ⟨record, given⟩ := member
  cases given.2

theorem side_and_left {pairs : Pairs} {records}
    (side : PoiSearchResult × PoiSearchResult → PoiSearchResult)
    (distinct : (records.map (·.id)).Nodup) (once : (pairs.map fun pair => (side pair).id).Nodup)
    (inside : ∀ pair ∈ pairs, side pair ∈ records) : (pairs.map side ++ records.filter fun record =>
      decide (record.id ∉ pairs.map fun pair => (side pair).id)).Perm records := by
  have ids : (pairs.map side).map (fun record => record.id) =
      pairs.map fun pair => (side pair).id := by
    rw [map_map]
    rfl
  have parts := taken_and_left (fun record => record.id) records (pairs.map side) distinct
    (by rw [ids]; exact once) (by
      intro record member
      rw [mem_map] at member
      obtain ⟨pair, given⟩ := member
      rw [← given.2]
      exact inside pair given.1)
  rw [ids] at parts
  exact parts

theorem remaining_osm (pairs : Pairs) : (osm.filter fun record => !consumedOsm pairs record.id) =
      osm.filter fun record => decide (record.id ∉ pairs.map (·.1.id)) := by
  apply filter_congr
  intro record _
  rw [Bool.eq_iff_iff, Bool.not_eq_true', decide_eq_true_eq, ← Bool.not_eq_true,
    consumed_osm_iff]

theorem remaining_overture (pairs : Pairs) : ((overture.filter fun record =>
        !consumedOverture pairs record.id && (osmResultLinkKey record.id).isSome) ++
      overture.filter fun record =>
        !consumedOverture pairs record.id && (osmResultLinkKey record.id).isNone).Perm
      (overture.filter fun record => decide (record.id ∉ pairs.map (·.2.id))) := by
  have split := filter_append_perm (fun record => (osmResultLinkKey record.id).isSome)
    (overture.filter fun record => decide (record.id ∉ pairs.map (·.2.id)))
  rw [filter_filter, filter_filter] at split
  have same : ∀ record : PoiSearchResult,
      (!consumedOverture pairs record.id) = decide (record.id ∉ pairs.map (·.2.id)) := by
    intro record
    rw [Bool.eq_iff_iff, Bool.not_eq_true', decide_eq_true_eq, ← Bool.not_eq_true,
      consumed_overture_iff]
  refine List.Perm.trans (List.Perm.of_eq ?_) split
  congr 1
  · apply filter_congr
    intro record _
    rw [same, Bool.and_comm]
  · apply filter_congr
    intro record _
    rw [same, Bool.and_comm]
    cases osmResultLinkKey record.id with
    | none => rfl
    | some key => rfl

theorem parts_perm {identity union : Pairs}
    {osmOnly canonicalOnly overtureOnly remainingOsm remainingOverture : List PoiSearchResult}
    (osmTaken : (identity.map fst ++ remainingOsm).Perm osm)
    (osmUnion : (union.map fst ++ osmOnly).Perm remainingOsm)
    (overtureTaken : (identity.map snd ++ (canonicalOnly ++ remainingOverture)).Perm overture)
    (overtureUnion : (union.map snd ++ overtureOnly).Perm remainingOverture) :
    ((identity.map (fun pair => Origin.fused pair.1 pair.2) ++
        union.map (fun pair => Origin.fused pair.1 pair.2) ++ osmOnly.map Origin.alone ++
        canonicalOnly.map Origin.alone ++
        overtureOnly.map Origin.alone).flatMap Origin.records).Perm (osm ++ overture) := by
  rw [flatMap_append, flatMap_append, flatMap_append, flatMap_append,
    alone_records, alone_records, alone_records]
  have identityRecords := pairs_records identity
  have unionRecords := pairs_records union
  rw [← Multiset.coe_eq_coe] at *
  simp only [← Multiset.coe_add] at *
  rw [identityRecords, unionRecords, ← osmTaken, ← osmUnion, ← overtureTaken, ← overtureUnion]
  abel

theorem origins_traced (link : Option (List (String × String))) (present : overture ≠ []) (window : thresholds.softWindowM ≠ 0)
    (osmDistinct : (osm.map (·.id)).Nodup) (overtureDistinct : (overture.map (·.id)).Nodup)
    (osmReadable : ∀ record ∈ osm, SeparatorFree record.id)
    (overtureReadable : ∀ record ∈ overture, SeparatorFree record.id) :
    ∃ bound origins, (∀ fuel, bound ≤ fuel →
        originsOf deps fuel osm overture thresholds link = some origins) ∧
      Traced osm overture (linkStage osm overture link (identityStage osm overture)) origins := by
  have paired : Paired osm overture (linkStage osm overture link (identityStage osm overture)) :=
    link_stage_paired overtureDistinct link
  unfold originsOf fuseStages
  simp only [if_neg present]
  generalize linkStage osm overture link (identityStage osm overture) = pairs at paired ⊢
  have osmTaken := side_and_left fst osmDistinct paired.osmOnce paired.left
  have overtureTaken := side_and_left snd overtureDistinct paired.overtureOnce paired.right
  rw [← remaining_osm] at osmTaken
  have overtureSplit := ((remaining_overture pairs).append_left (pairs.map snd)).trans
    overtureTaken
  have osmInside : ∀ record ∈ osm.filter fun record => !consumedOsm pairs record.id,
      record ∈ osm := fun record member => mem_of_mem_filter member
  have restInside : ∀ record ∈ overture.filter (fun record =>
        !consumedOverture pairs record.id && (osmResultLinkKey record.id).isNone),
      record ∈ overture ∧ osmResultLinkKey record.id = none := by
    intro record member
    rw [mem_filter, Bool.and_eq_true, Option.isNone_iff_eq_none] at member
    exact ⟨member.1, member.2.2⟩
  have restDistinct : ((overture.filter fun record =>
      !consumedOverture pairs record.id && (osmResultLinkKey record.id).isNone).map
        (·.id)).Nodup :=
    overtureDistinct.sublist (filter_sublist.map _)
  have osmRestDistinct : ((osm.filter fun record =>
      !consumedOsm pairs record.id).map (·.id)).Nodup :=
    osmDistinct.sublist (filter_sublist.map _)
  generalize (overture.filter fun record => !consumedOverture pairs record.id &&
    (osmResultLinkKey record.id).isNone) = remainingOverture at *
  generalize (overture.filter fun record => !consumedOverture pairs record.id &&
    (osmResultLinkKey record.id).isSome) = canonicalOnly at *
  generalize (osm.filter fun record => !consumedOsm pairs record.id) = remainingOsm at *
  by_cases none_ : remainingOverture = []
  · simp only [if_pos none_]
    refine ⟨0, _, fun fuel _ => rfl, ?_⟩
    apply Traced.mk
    · have parts := @parts_perm osm overture pairs [] remainingOsm canonicalOnly [] remainingOsm
        remainingOverture osmTaken (List.Perm.refl _) overtureSplit
        (by rw [none_]; exact List.Perm.refl _)
      simpa using parts
    · intro osmR overtR member
      rw [mem_append, mem_append] at member
      rcases member with before | alone
      · rcases before with identity | alone
        · have pair := fused_of_map identity
          exact ⟨paired.left _ pair, paired.right _ pair, Or.inl pair⟩
        · exact absurd alone fused_not_alone
      · exact absurd alone fused_not_alone
    · intro pair member
      rw [mem_append, mem_append]
      exact Or.inl (Or.inl (mem_map_of_mem member))
  · simp only [if_neg none_]
    have readableA : ∀ point ∈ remainingOsm.map (conflationPoint deps), SeparatorFree point.id := by
      intro point member
      rw [mem_map] at member
      obtain ⟨record, given⟩ := member
      rw [← given.2]
      exact osmReadable record (osmInside record given.1)
    have readableB : ∀ point ∈ remainingOverture.map (conflationPoint deps),
        SeparatorFree point.id := by
      intro point member
      rw [mem_map] at member
      obtain ⟨record, given⟩ := member
      rw [← given.2]
      exact overtureReadable record (restInside record given.1).1
    obtain ⟨bound, rest⟩ := conflate_ends deps.measures deps.localeCompare window readableA readableB
    obtain ⟨result, conflated⟩ := rest
    cases matched_records deps osmDistinct restDistinct osmInside
        (fun record member => member) result.matched conflated.2.within with
    | intro union made =>
      apply Exists.intro bound
      apply Exists.intro
        (pairs.map (fun pair => Origin.fused pair.1 pair.2) ++
          union.map (fun pair => Origin.fused pair.1 pair.2) ++
          (remainingOsm.filter fun record =>
            decide (record.id ∉ result.matched.map (·.a.id))).map Origin.alone ++
          canonicalOnly.map Origin.alone ++
          (remainingOverture.filter fun record =>
            decide (record.id ∉ result.matched.map (·.b.id))).map Origin.alone)
      constructor
      · intro fuel enough
        rw [conflated.1 fuel enough, Option.map_some, made.1, conflated.2.restA,
          conflated.2.restB, points_records deps osmDistinct osmInside,
          points_records deps restDistinct (fun record member => member)]
      · apply Traced.mk
        · rw [← made.2.2.1, ← made.2.2.2]
          apply parts_perm osmTaken _ overtureSplit _
          · apply side_and_left fst osmRestDistinct
            · rw [made.2.2.1]
              exact conflated.2.oneToOne.1
            · exact fun pair member => (made.2.1 pair member).1
          · apply side_and_left snd restDistinct
            · rw [made.2.2.2]
              exact conflated.2.oneToOne.2
            · exact fun pair member => (made.2.1 pair member).2
        · intro osmR overtR member
          simp only [mem_append, fused_not_alone, or_false] at member
          rcases member with identity | fused
          · have pair := fused_of_map identity
            exact ⟨paired.left _ pair, paired.right _ pair, Or.inl pair⟩
          · have pair := made.2.1 _ (fused_of_map fused)
            have rest := restInside _ pair.2
            exact ⟨osmInside _ pair.1, rest.1, Or.inr rest.2⟩
        · intro pair member
          simp only [mem_append]
          exact Or.inl (Or.inl (Or.inl (Or.inl (mem_map_of_mem member))))

end

theorem present_text_some {text : String} (present : text ≠ "") :
    presentText (some text) = some text := if_neg present

theorem item_of_key {Item Key : Type*} (key : Item → Option Key) {items : List Item}
    (distinct : (items.filterMap key).Nodup) {first second : Item} {value : Key}
    (inFirst : first ∈ items) (inSecond : second ∈ items) (ofFirst : key first = some value)
    (ofSecond : key second = some value) : first = second := by
  induction items with
  | nil => cases inFirst
  | cons item items ih =>
    have known : ∀ other ∈ items, key other = some value → value ∈ items.filterMap key :=
      fun other member own => mem_filterMap.mpr ⟨other, member, own⟩
    rw [mem_cons] at inFirst inSecond
    cases own : key item with
    | none =>
      rw [filterMap_cons_none own] at distinct
      rcases inFirst with head | inFirst
      · rw [head, own] at ofFirst
        cases ofFirst
      · rcases inSecond with head | inSecond
        · rw [head, own] at ofSecond
          cases ofSecond
        · exact ih distinct inFirst inSecond
    | some other =>
      rw [filterMap_cons_some own, nodup_cons] at distinct
      rcases inFirst with head | inFirst
      · rcases inSecond with head' | inSecond
        · rw [head, head']
        · rw [head, own] at ofFirst
          cases ofFirst
          exact absurd (known second inSecond ofSecond) distinct.1
      · rcases inSecond with head | inSecond
        · rw [head, own] at ofSecond
          cases ofSecond
          exact absurd (known first inFirst ofFirst) distinct.1
        · exact ih distinct.2 inFirst inSecond

theorem by_gers_of_mem {overture : List PoiSearchResult} {record : PoiSearchResult}
    {gersId : String} (distinct : (overture.filterMap (·.gersId)).Nodup)
    (member : record ∈ overture) (own : record.gersId = some gersId) (present : gersId ≠ "") :
    overtureByGers overture gersId = some record := by
  have shown : (presentText record.gersId).isSome := by
    rw [own, present_text_some present]
    rfl
  cases found : overtureByGers overture gersId with
  | none =>
    unfold overtureByGers at found
    rw [find?_eq_none] at found
    apply absurd (decide_eq_true own)
    apply found record
    rw [mem_reverse, mem_filter]
    exact ⟨member, shown⟩
  | some other =>
    have known := by_gers_mem found
    rw [item_of_key (fun record => record.gersId) distinct known.1 member known.2 own]

section

variable {osm overture : List PoiSearchResult} {earlier later : List PoiSearchResult}
variable {osmR overtR : PoiSearchResult} {entries : List (String × String)}
variable {key gersId : String}

/-- What a link asks for: the record it leads to is there, is not canonical for another
entity, and the OSM record has no Overture record of its own. -/
structure Linked (overture : List PoiSearchResult) (entries : List (String × String))
    (osmR overtR : PoiSearchResult) : Prop where
  entry : ∃ key gersId, osmResultLinkKey osmR.id = some key ∧
    entryOf entries key = some gersId ∧ gersId ≠ "" ∧ overtR.gersId = some gersId
  present : overtR ∈ overture
  allowed : osmResultLinkKey overtR.id = none ∨ overtR.id = osmR.id
  own : ∀ other ∈ overture, other.id = osmR.id → other = overtR

theorem link_followed (osmDistinct : (osm.map (·.id)).Nodup)
    (overtureDistinct : (overture.map (·.id)).Nodup)
    (gersDistinct : (overture.filterMap (·.gersId)).Nodup) (parts : osm = earlier ++ osmR :: later)
    (linked : Linked overture entries osmR overtR) (fresh : ∀ other ∈ earlier, (other, overtR) ∉
      linkStage osm overture (some entries) (identityStage osm overture)) :
    (osmR, overtR) ∈ linkStage osm overture (some entries) (identityStage osm overture) := by
  have here : osmR ∈ osm := by
    rw [parts]
    exact mem_append_right _ mem_cons_self
  have notEarlier : osmR ∉ earlier := by
    intro member
    rw [parts, map_append, nodup_append] at osmDistinct
    exact osmDistinct.2.2 osmR.id (mem_map_of_mem member) osmR.id
      (mem_map_of_mem mem_cons_self) rfl
  have earlierInside : ∀ record ∈ earlier, record ∈ osm := by
    intro record member
    rw [parts]
    exact mem_append_left _ member
  obtain ⟨key, gersId, asked⟩ := linked.entry
  have stage : linkStage osm overture (some entries) (identityStage osm overture) =
      osm.foldl (linkRecord overture entries) (identityStage osm overture) := by
    unfold linkStage
    split
    · rename_i absent
      cases absent
    · rename_i empty
      cases empty
      cases asked.2.1
    · rename_i _ same
      cases same
      rfl
  rw [stage] at fresh ⊢
  generalize atRecord : earlier.foldl (linkRecord overture entries)
    (identityStage osm overture) = before
  have paired : Paired osm overture before := by
    rw [← atRecord]
    exact link_fold_paired entries earlier earlierInside _ (identity_paired overtureDistinct)
  have source : ∀ pair ∈ before, pair ∈ identityStage osm overture ∨ pair.1 ∈ earlier := by
    rw [← atRecord]
    intro pair member
    exact link_fold_from entries earlier _ member
  have folded : osm.foldl (linkRecord overture entries) (identityStage osm overture) =
      later.foldl (linkRecord overture entries) (linkRecord overture entries before osmR) := by
    conv_lhs => rw [parts]
    rw [foldl_append, foldl_cons, ← parts, atRecord]
  have kept : ∀ pair ∈ before,
      pair ∈ osm.foldl (linkRecord overture entries) (identityStage osm overture) := by
    intro pair member
    rw [folded]
    apply link_fold_keeps
    exact link_fold_keeps entries [osmR] before member
  by_cases taken : consumedOsm before osmR.id = true
  · -- only the identity stage can have taken the record, with the linked one
    rw [consumed_osm_iff, mem_map] at taken
    obtain ⟨pair, given⟩ := taken
    have first := inj_on_of_nodup_map osmDistinct (paired.left pair given.1) here given.2
    rcases source pair given.1 with identity | passed
    · have facts := identity_pair identity
      have second := linked.own pair.2 facts.2.1 (facts.2.2.1.symm.trans given.2)
      rw [← first, ← second]
      exact kept pair given.1
    · rw [first] at passed
      exact absurd passed notEarlier
  · have free : consumedOverture before overtR.id ≠ true := by
      intro consumed
      rw [consumed_overture_iff, mem_map] at consumed
      obtain ⟨pair, given⟩ := consumed
      have second := inj_on_of_nodup_map overtureDistinct
        (paired.right pair given.1) linked.present given.2
      rcases source pair given.1 with identity | passed
      · have facts := identity_pair identity
        rw [second] at facts
        rcases linked.allowed with noKey | same
        · have canonical := facts.2.2.2
          rw [noKey] at canonical
          cases canonical
        · apply taken
          rw [consumed_osm_iff, ← same, ← facts.2.2.1]
          exact mem_map_of_mem given.1
      · apply fresh pair.1 passed
        rw [← second]
        exact kept pair given.1
    have added : linkRecord overture entries before osmR = before ++ [(osmR, overtR)] := by
      have allowed : ¬ ((osmResultLinkKey overtR.id).isSome ∧ overtR.id ≠ osmR.id) := by
        intro both
        rcases linked.allowed with noKey | same
        · rw [noKey] at both
          cases both.1
        · exact both.2 same
      have text : presentText (entryOf entries key) = some gersId := by
        rw [asked.2.1, present_text_some asked.2.2.1]
      unfold linkRecord
      simp only [if_neg taken, asked.1, text,
        by_gers_of_mem gersDistinct linked.present asked.2.2.2 asked.2.2.1, if_neg free,
        if_neg allowed]
    rw [folded]
    apply link_fold_keeps
    rw [added]
    exact mem_append_right _ mem_cons_self

end

/-- Every record is behind one result, a canonical id fuses with its own record only, and
a link is followed unless its record was taken before. -/
theorem fusion_conserves (deps : FusionDeps) (osm overture : List PoiSearchResult)
    (thresholds : ConflationThresholds) (link : Option (List (String × String)))
    (osmDistinct : (osm.map (·.id)).Nodup) (overtureDistinct : (overture.map (·.id)).Nodup)
    (gersDistinct : (overture.filterMap (·.gersId)).Nodup) (window : thresholds.softWindowM ≠ 0)
    (osmReadable : ∀ record ∈ osm, SeparatorFree record.id)
    (overtureReadable : ∀ record ∈ overture, SeparatorFree record.id) : (∃ bound origins,
      (∀ fuel, bound ≤ fuel → originsOf deps fuel osm overture thresholds link = some origins ∧
        fusePoiResults deps fuel osm overture thresholds link =
          some (origins.map (Origin.result deps))) ∧
      (origins.flatMap Origin.records).Perm (osm ++ overture) ∧
      (∀ osmR overtR, Origin.fused osmR overtR ∈ origins → osmR ∈ osm ∧ overtR ∈ overture ∧
          ((osmResultLinkKey overtR.id).isSome → overtR.id = osmR.id)) ∧
      ∀ entries earlier osmR later overtR, link = some entries → osm = earlier ++ osmR :: later →
        Linked overture entries osmR overtR →
        (∀ other ∈ earlier, Origin.fused other overtR ∉ origins) →
        Origin.fused osmR overtR ∈ origins) ∧
    ∀ fuel, fusePoiResults deps fuel osm overture thresholds none =
      fusePoiResults deps fuel osm overture thresholds (some []) := by
  constructor
  · by_cases present : overture = []
    · refine ⟨0, osm.map Origin.alone, ?_, ?_, ?_, ?_⟩
      · intro fuel _
        unfold originsOf fusePoiResults fuseStages
        simp only [if_pos present, map_map]
        exact ⟨trivial, rfl⟩
      · rw [alone_records, present, append_nil]
      · intro osmR overtR member
        exact absurd member fused_not_alone
      · intro entries earlier osmR later overtR _ _ linked
        have inside := linked.present
        rw [present] at inside
        cases inside
    · cases origins_traced deps link present window osmDistinct overtureDistinct osmReadable
          overtureReadable with
      | intro bound rest =>
        obtain ⟨origins, traced⟩ := rest
        refine ⟨bound, origins, ?_, traced.2.records, ?_, ?_⟩
        · intro fuel enough
          have ends := traced.1 fuel enough
          apply And.intro ends
          have made := stages_from_origins deps (Origin.result deps) fuel osm overture
            thresholds link
          rw [ends] at made
          exact made
        · intro osmR overtR member
          have facts := traced.2.fused osmR overtR member
          refine ⟨facts.1, facts.2.1, ?_⟩
          intro canonical
          rcases facts.2.2 with pair | noKey
          · exact (link_stage_paired overtureDistinct link).canonical _ pair canonical
          · rw [noKey] at canonical
            cases canonical
        · intro entries earlier osmR later overtR given parts linked fresh
          apply traced.2.paired (osmR, overtR)
          rw [given]
          apply link_followed osmDistinct overtureDistinct gersDistinct parts linked
          intro other member pair
          rw [← given] at pair
          exact fresh other member (traced.2.paired (other, overtR) pair)
  · intro fuel
    rfl

def onePlace : FusionDeps :=
  { measures := { haversineMeters := fun _ _ _ _ => 0, nameSimilarity := fun _ _ => 1
                  cosDegrees := fun _ => 1 }
    localeCompare := byUnits
    parsePhones := fun phone => phone.toList
    websiteDomain := fun _ => none
    captureCredits := fun _ _ => { contributors := none, fieldContributors := none } }

def kiosk (id : String) (gersId phone : Option String) : PoiSearchResult :=
  { id := id, gersId := gersId, name := "Kiosk", lng := 0, lat := 0, category := none
    address := none, phone := phone, email := none, website := none, socials := none
    brand := none, names := none, provenance := none, openingHours := none
    openingHoursSource := none, countryCode := none, isOpen := none, osmTags := none
    openingHoursInfo := none, credits := { contributors := none, fieldContributors := none } }

def within (softWindowM : ℚ) : ConflationThresholds :=
  { alwaysMergeM := 25, softWindowM := softWindowM, nameDiceFloor := 7 / 10 }

/-- Two keys of the link table name one GERS id, and the second record is left to the
conflation. -/
theorem kiosks_conserved : ∃ bound origins, (∀ fuel, bound ≤ fuel → originsOf onePlace fuel
          [kiosk "osm:node/1" none none, kiosk "osm:node/2" none none]
          [kiosk "overture:a" (some "a") none, kiosk "overture:b" (some "b") none] (within 75)
          (some [("node/1", "a"), ("node/2", "a")]) = some origins) ∧
      (origins.flatMap Origin.records).Perm
        [kiosk "osm:node/1" none none, kiosk "osm:node/2" none none,
          kiosk "overture:a" (some "a") none, kiosk "overture:b" (some "b") none] := by
  cases (fusion_conserves onePlace
      [kiosk "osm:node/1" none none, kiosk "osm:node/2" none none]
      [kiosk "overture:a" (some "a") none, kiosk "overture:b" (some "b") none] (within 75)
      (some [("node/1", "a"), ("node/2", "a")]) (by decide +kernel) (by decide +kernel)
      (by decide +kernel) (by decide +kernel)
      (by unfold SeparatorFree; simp [kiosk]) (by unfold SeparatorFree; simp [kiosk])).1 with
  | intro bound rest =>
    obtain ⟨origins, conserved⟩ := rest
    exact ⟨bound, origins, fun fuel enough => (conserved.1 fuel enough).1, conserved.2.1⟩

/-- A record that has fused with the Overture record of its own id does not follow its
link, a record whose id holds the separator is used twice, and with a window of zero the
fusion of one kiosk with itself has no result. -/
theorem own_id_and_separator : ((originsOf onePlace 9 [kiosk "osm:node/1" none none]
        [kiosk "osm:node/1" (some "a") none, kiosk "overture:b" (some "b") none] (within 75)
        (some [("node/1", "b")])).map (·.map fun origin => origin.records.map (·.id)) =
      some [["osm:node/1", "osm:node/1"], ["overture:b"]]) ∧
    ((originsOf onePlace 9 [kiosk "x" none none, kiosk "x\x00y" none (some "1")]
        [kiosk "y\x00z" none (some "2"), kiosk "z" none none] (within 75) none).map
          (·.map fun origin => origin.records.map (·.id)) =
      some [["x", "y\x00z"], ["x", "y\x00z"], ["x\x00y"], ["z"]]) ∧
    ∀ fuel, originsOf onePlace fuel [kiosk "osm:node/1" none none]
      [kiosk "overture:b" none none] (within 0) none = none := by
  apply And.intro (by decide +kernel)
  apply And.intro (by decide +kernel)
  intro fuel
  have noNumber : candidateEdges onePlace.measures
      [conflationPoint onePlace (kiosk "osm:node/1" none none)]
      [conflationPoint onePlace (kiosk "overture:b" none none)] (within 0) = none :=
    Option.isNone_iff_eq_none.mp (by decide +kernel)
  have conflated : conflate onePlace.measures onePlace.localeCompare
      [conflationPoint onePlace (kiosk "osm:node/1" none none)]
      [conflationPoint onePlace (kiosk "overture:b" none none)] (within 0) fuel = none := by
    unfold conflate
    simp only [reduceCtorEq, and_self, if_false, noNumber, Option.bind_none]
  have left : ([kiosk "overture:b" none none].filter fun record =>
      !consumedOverture [] record.id && (osmResultLinkKey record.id).isNone) =
        [kiosk "overture:b" none none] := rfl
  have stages : linkStage [kiosk "osm:node/1" none none] [kiosk "overture:b" none none] none
      (identityStage [kiosk "osm:node/1" none none] [kiosk "overture:b" none none]) = [] := rfl
  unfold originsOf fuseStages
  simp only [reduceCtorEq, if_false, stages, left]
  exact congrArg (Option.map _) conflated

end OpenMapX.Places.FusionConservation
