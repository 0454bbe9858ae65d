import OpenMapX.Isochrone.RingSimplification

/-!
# The tolerance of a simplified ring

A dropped vertex is as close to the line of its chord as the tolerance asks, and so to
the chord itself unless its foot lies beyond an end. The test for crossings sees every
contact of two segments but that of two on one line. These two are all that a
simplified ring can get wrong.
-/

namespace OpenMapX.Isochrone.RingTolerance

open Foundation.PlaneSegments RingSimplification List Bool

def Closed (ring : List Point) : Prop := ring.head? = ring.getLast?

/-- Two segments of a ring that share no vertex of it, by the indices of their starts. -/
def Nonadjacent (ring : List Point) (i j : ℕ) : Prop :=
  i + 2 ≤ j ∧ j + 1 < ring.length ∧ ¬ (i = 0 ∧ j + 2 = ring.length)

def NearRing (reach : ℝ) (ring : List Point) (point : Point) : Prop :=
  ∃ i, i + 1 < ring.length ∧ Within reach (vertex ring i) (vertex ring (i + 1)) point

structure Simplified (ring : List Point) (tolerance : ℝ) (result : List Point) : Prop where
  long : 4 ≤ result.length
  closed : Closed result
  ordered : result.Sublist ring
  apart : ∀ i j, Nonadjacent result i j →
    ¬ Meet (vertex result i) (vertex result (i + 1)) (vertex result j) (vertex result (j + 1))
  near : ∀ point ∈ ring, NearRing tolerance result point

def KeepsTolerance (ring : List Point) (tolerance : ℝ) : Prop :=
  simplifyRing ring tolerance = ring ∨ Simplified ring tolerance (simplifyRing ring tolerance)

/-- A vertex is dropped for the chord from `start` to `stop`. -/
inductive Dropped (tolerance : ℝ) : List Point → Point → Point → Point → Prop where
  | chord {points : List Point} {point : Point} (long : 3 ≤ points.length)
      (close : (farthest points).1 ≤ tolerance) (inner : point ∈ points.tail.dropLast) :
      Dropped tolerance points (vertex points 0) point (vertex points (points.length - 1))
  | before {points : List Point} {start point stop : Point} (long : 3 ≤ points.length)
      (far : tolerance < (farthest points).1)
      (part : Dropped tolerance (points.take ((farthest points).2 + 1)) start point stop) :
      Dropped tolerance points start point stop
  | after {points : List Point} {start point stop : Point} (long : 3 ≤ points.length)
      (far : tolerance < (farthest points).1)
      (part : Dropped tolerance (points.drop (farthest points).2) start point stop) :
      Dropped tolerance points start point stop

def Overshoots (start point stop : Point) : Prop :=
  advance start stop point < 0 ∨ distance stop start ^ 2 < advance start stop point

/-- The ring is given back: it is short, too little of it is left, segments of what is left
meet, or nothing was dropped. -/
def FallsBack (ring : List Point) (tolerance : ℝ) : Prop :=
  ring.length ≤ 4 ∨ (douglasPeucker tolerance ring).length < 4 ∨
    selfIntersects (douglasPeucker tolerance ring) = true ∨ douglasPeucker tolerance ring = ring

/-- No two segments that share no vertex lie on one line and have a point in common. -/
def NoOverlap (ring : List Point) : Prop :=
  ∀ i j, Nonadjacent ring i j →
    Aligned (vertex ring i) (vertex ring (i + 1)) (vertex ring j) (vertex ring (j + 1)) →
    ¬ Meet (vertex ring i) (vertex ring (i + 1)) (vertex ring j) (vertex ring (j + 1))

/-- Every vertex dropped for a chord that it overshoots is close to another one. -/
def OvershootsNear (ring : List Point) (tolerance : ℝ) : Prop :=
  ∀ start point stop, Dropped tolerance ring start point stop → Overshoots start point stop →
    NearRing tolerance (douglasPeucker tolerance ring) point

theorem intersect_iff (a b c d : Point) :
    segmentsIntersect a b c d = true ↔ Meet a b c d ∧ ¬ Aligned a b c d := by
  rw [← turns_differ_iff]
  simp [segmentsIntersect]

theorem self_intersects_iff (ring : List Point) :
    selfIntersects ring = true ↔ ∃ i j, Nonadjacent ring i j ∧
      segmentsIntersect (vertex ring i) (vertex ring (i + 1)) (vertex ring j)
        (vertex ring (j + 1)) = true := by
  unfold selfIntersects
  simp only [any_eq_true, mem_range, mem_range'_1, and_eq_true,
    not_eq_true', and_eq_false_imp, beq_iff_eq, beq_eq_false_iff_ne]
  constructor
  · rintro ⟨i, first, j, second, ends, crossing⟩
    refine ⟨i, j, ⟨by omega, by omega, ?_⟩, crossing⟩
    rintro ⟨zero, last⟩
    exact ends zero (by omega)
  · rintro ⟨i, j, ⟨gap, inside, ends⟩, crossing⟩
    refine ⟨i, by omega, j, ⟨by omega, by omega⟩, ?_, crossing⟩
    intro zero last
    exact ends ⟨zero, by omega⟩

theorem apart_iff {ring} (passes : selfIntersects ring = false) :
    (∀ i j, Nonadjacent ring i j → ¬ Meet (vertex ring i) (vertex ring (i + 1)) (vertex ring j)
      (vertex ring (j + 1))) ↔ NoOverlap ring := by
  constructor
  · intro apart i j separate _
    exact apart i j separate
  · intro noOverlap i j separate meet
    by_cases aligned : Aligned (vertex ring i) (vertex ring (i + 1)) (vertex ring j)
        (vertex ring (j + 1))
    · exact noOverlap i j separate aligned meet
    · have crosses : selfIntersects ring = true :=
        (self_intersects_iff ring).mpr ⟨i, j, separate, (intersect_iff _ _ _ _).mpr ⟨meet, aligned⟩⟩
      rw [passes] at crosses
      exact Bool.noConfusion crosses

section

variable {tolerance : ℝ} {points : List Point}

theorem peucker_short (short : points.length < 3) : douglasPeucker tolerance points = points := by
  rw [douglasPeucker, dif_pos short]

theorem peucker_close (long : 3 ≤ points.length) (close : (farthest points).1 ≤ tolerance) :
    douglasPeucker tolerance points = [vertex points 0, vertex points (points.length - 1)] := by
  rw [douglasPeucker, dif_neg (not_lt.mpr long), if_pos close]

theorem peucker_split (long : 3 ≤ points.length) (far : tolerance < (farthest points).1) :
    douglasPeucker tolerance points =
      (douglasPeucker tolerance (points.take ((farthest points).2 + 1))).dropLast ++
        douglasPeucker tolerance (points.drop (farthest points).2) := by
  rw [douglasPeucker, dif_neg (not_lt.mpr long), if_neg (not_le.mpr far)]

end

theorem peucker_induction {tolerance : ℝ} {motive : List Point → Prop}
    (short : ∀ points : List Point, points.length < 3 → motive points)
    (close : ∀ points : List Point, 3 ≤ points.length → (farthest points).1 ≤ tolerance →
      motive points)
    (split : ∀ points : List Point, 3 ≤ points.length → tolerance < (farthest points).1 →
      motive (points.take ((farthest points).2 + 1)) →
      motive (points.drop (farthest points).2) → motive points)
    (points : List Point) : motive points := by
  induction points using douglasPeucker.induct tolerance with
  | case1 points few => exact short points few
  | case2 points many near => exact close points (not_lt.mp many) near
  | case3 points many far first second =>
    exact split points (not_lt.mp many) (not_le.mp far) first second

theorem vertex_first {points} (long : 0 < points.length) :
    points.head? = some (vertex points 0) := by
  rw [head?_eq_getElem?, getElem?_eq_getElem long, vertex,
    getD_eq_getElem _ _ long]

theorem vertex_last {points} (long : 0 < points.length) :
    points.getLast? = some (vertex points (points.length - 1)) := by
  have last : points.length - 1 < points.length := by omega
  rw [getLast?_eq_getElem?, getElem?_eq_getElem last, vertex,
    getD_eq_getElem _ _ last]

theorem run_parts {points} (long : 2 ≤ points.length) :
    vertex points 0 :: (points.tail.dropLast ++ [vertex points (points.length - 1)]) = points := by
  have first : points.head? = some (vertex points 0) := vertex_first (by omega)
  have last : points.getLast? = some (vertex points (points.length - 1)) := vertex_last (by omega)
  cases points with
  | nil => simp at long
  | cons head rest =>
    have nonempty : rest ≠ [] := by
      intro empty
      rw [empty] at long
      simp at long
    rw [head?_cons, Option.some.injEq] at first
    rw [getLast?_cons, getLast?_eq_some_getLast nonempty, Option.getD_some,
      Option.some.injEq] at last
    rw [← first, ← last, tail_cons, dropLast_append_getLast]

theorem joined_runs {left right : List Point} (nonempty : left ≠ [])
    (shared : left.getLast? = right.head?) : left.dropLast ++ right = left ++ right.tail := by
  cases right with
  | nil =>
    rw [head?_nil, getLast?_eq_none_iff] at shared
    exact absurd shared nonempty
  | cons head rest =>
    have last : left.getLast nonempty = head := by
      rw [getLast?_eq_some_getLast nonempty, head?_cons] at shared
      exact Option.some.inj shared
    calc left.dropLast ++ head :: rest = (left.dropLast ++ [head]) ++ rest := by simp
      _ = left ++ rest := by rw [← last, dropLast_append_getLast]

section

variable (tolerance : ℝ)

theorem part_ends {points : List Point} (long : 3 ≤ points.length) :
    (points.take ((farthest points).2 + 1)).head? = points.head? ∧
      (points.take ((farthest points).2 + 1)).getLast? = (points.drop (farthest points).2).head? ∧
      (points.drop (farthest points).2).getLast? = points.getLast? := by
  obtain ⟨⟨_, positive, inside⟩, _⟩ := farthest_spec long
  refine ⟨?_, ?_, ?_⟩
  · rw [head?_take, if_neg (by omega)]
  · rw [getLast?_eq_getElem?, length_take, Nat.min_eq_left (by omega),
      Nat.add_sub_cancel, getElem?_take_of_lt (Nat.lt_succ_self _), head?_drop]
  · rw [getLast?_drop, if_neg (by omega)]

theorem peucker_ends (points : List Point) :
    (douglasPeucker tolerance points).head? = points.head? ∧
      (douglasPeucker tolerance points).getLast? = points.getLast? ∧
      (2 ≤ points.length → 2 ≤ (douglasPeucker tolerance points).length) := by
  induction points using @peucker_induction tolerance with
  | short points few =>
    rw [peucker_short few]
    exact ⟨rfl, rfl, id⟩
  | close points long near =>
    have first : 0 < points.length := by omega
    rw [peucker_close long near, vertex_first first, vertex_last first]
    exact ⟨rfl, rfl, fun _ => le_refl 2⟩
  | split points long far before after =>
    obtain ⟨first, shared, last⟩ := part_ends long
    obtain ⟨⟨_, positive, inside⟩, _⟩ := farthest_spec long
    have left := before.2.2 (by rw [length_take]; omega)
    have right := after.2.2 (by rw [length_drop]; omega)
    have nonempty : douglasPeucker tolerance (points.take ((farthest points).2 + 1)) ≠ [] := by
      intro empty
      rw [empty, length_nil] at left
      omega
    have other : douglasPeucker tolerance (points.drop (farthest points).2) ≠ [] := by
      intro empty
      rw [empty, length_nil] at right
      omega
    have meeting : (douglasPeucker tolerance (points.take ((farthest points).2 + 1))).getLast? =
        (douglasPeucker tolerance (points.drop (farthest points).2)).head? := by
      rw [before.2.1, after.1, shared]
    rw [peucker_split long far]
    refine ⟨?_, ?_, ?_⟩
    · rw [joined_runs nonempty meeting, head?_append_of_ne_nil _ nonempty, before.1, first]
    · rw [getLast?_append_of_ne_nil _ other, after.2.1, last]
    · intro _
      rw [length_append]
      omega

theorem peucker_joined {points : List Point} (long : 3 ≤ points.length)
    (far : tolerance < (farthest points).1) : douglasPeucker tolerance points =
      douglasPeucker tolerance (points.take ((farthest points).2 + 1)) ++
        (douglasPeucker tolerance (points.drop (farthest points).2)).tail := by
  obtain ⟨_, shared, _⟩ := part_ends long
  obtain ⟨⟨_, positive, inside⟩, _⟩ := farthest_spec long
  have before := peucker_ends tolerance (points.take ((farthest points).2 + 1))
  have after := peucker_ends tolerance (points.drop (farthest points).2)
  rw [peucker_split long far]
  apply joined_runs
  · intro empty
    have left := before.2.2 (by rw [length_take]; omega)
    rw [empty, length_nil] at left
    omega
  · rw [before.2.1, after.1, shared]

theorem split_parts {points : List Point} (long : 3 ≤ points.length) :
    (points.take ((farthest points).2 + 1)).dropLast ++ points.drop (farthest points).2 =
      points := by
  obtain ⟨⟨_, positive, inside⟩, _⟩ := farthest_spec long
  rw [dropLast_eq_take, length_take, Nat.min_eq_left (by omega), Nat.add_sub_cancel,
    take_take, Nat.min_eq_left (by omega), take_append_drop]

theorem peucker_sublist (points : List Point) :
    (douglasPeucker tolerance points).Sublist points := by
  induction points using @peucker_induction tolerance with
  | short points few =>
    rw [peucker_short few]
  | close points long near =>
    rw [peucker_close long near]
    conv_rhs => rw [← @run_parts points (by omega)]
    exact (sublist_append_right _ _).cons_cons _
  | split points long far before after =>
    rw [peucker_joined tolerance long far]
    conv_rhs => rw [← take_append_drop ((farthest points).2 + 1) points]
    rw [← tail_drop]
    exact before.append after.tail

theorem negative_keeps (negative : tolerance < 0) (points : List Point) :
    douglasPeucker tolerance points = points := by
  induction points using @peucker_induction tolerance with
  | short points few => exact peucker_short few
  | close points long near =>
    have nonneg := (farthest_spec long).1.1
    linarith
  | split points long far before after =>
    rw [peucker_split long far, before, after]
    exact split_parts long

theorem kept_or_dropped (points : List Point) :
    ∀ point ∈ points, point ∈ douglasPeucker tolerance points ∨
      ∃ start stop, Dropped tolerance points start point stop := by
  induction points using @peucker_induction tolerance with
  | short points few =>
    intro point member
    rw [peucker_short few]
    exact Or.inl member
  | close points long near =>
    intro point member
    rw [← @run_parts points (by omega), mem_cons, mem_append,
      mem_singleton] at member
    rw [peucker_close long near]
    rcases member with first | inner | last
    · exact Or.inl (by rw [first]; exact mem_cons_self)
    · exact Or.inr ⟨_, _, Dropped.chord long near inner⟩
    · exact Or.inl (by rw [last]; exact mem_cons_of_mem _ (mem_singleton_self _))
  | split points long far before after =>
    intro point member
    rw [← split_parts long, mem_append] at member
    rcases member with first | second
    · rcases before point (mem_of_mem_dropLast first) with kept | dropped
      · left
        rw [peucker_joined tolerance long far]
        exact mem_append_left _ kept
      · obtain ⟨start, stop, part⟩ := dropped
        exact Or.inr ⟨start, stop, Dropped.before long far part⟩
    · rcases after point second with kept | dropped
      · left
        rw [peucker_split long far]
        exact mem_append_right _ kept
      · obtain ⟨start, stop, part⟩ := dropped
        exact Or.inr ⟨start, stop, Dropped.after long far part⟩

theorem dropped_chord {points} {start point stop : Point}
    (dropped : Dropped tolerance points start point stop) :
    [start, stop] <:+: douglasPeucker tolerance points ∧
      lineDistance start stop point ≤ tolerance := by
  induction dropped with
  | chord long close inner =>
    rw [peucker_close long close]
    exact ⟨infix_rfl, le_trans ((farthest_spec long).2 _ inner) close⟩
  | before long far part ih =>
    rw [peucker_joined tolerance long far]
    exact ⟨ih.1.trans (prefix_append _ _).isInfix, ih.2⟩
  | after long far part ih =>
    rw [peucker_split long far]
    exact ⟨ih.1.trans (suffix_append _ _).isInfix, ih.2⟩

end

theorem near_of_infix {ring} {start stop point : Point} {reach : ℝ} (kept : [start, stop] <:+: ring)
    (within : Within reach start stop point) : NearRing reach ring point := by
  obtain ⟨before, after, same⟩ := kept
  refine ⟨before.length, ?_, ?_⟩
  · rw [← same]
    simp
  · have first : vertex ring before.length = start := by
      rw [← same]
      simp [vertex]
    have second : vertex ring (before.length + 1) = stop := by
      rw [← same]
      simp [vertex]
    rw [first, second]
    exact within

theorem dropped_mem {tolerance : ℝ} {points} {start point stop : Point}
    (dropped : Dropped tolerance points start point stop) : point ∈ points := by
  induction dropped with
  | chord long close inner => exact mem_of_mem_tail (mem_of_mem_dropLast inner)
  | before long far part ih => exact mem_of_mem_take ih
  | after long far part ih => exact mem_of_mem_drop ih

theorem distance_self (point : Point) : distance point point = 0 := by
  simp [distance]

theorem near_of_mem {ring} {point : Point} {reach : ℝ} (nonneg : 0 ≤ reach)
    (long : 2 ≤ ring.length) (member : point ∈ ring) : NearRing reach ring point := by
  obtain ⟨i, inside, same⟩ := mem_iff_getElem.mp member
  have own : vertex ring i = point := by
    rw [vertex, getD_eq_getElem _ _ inside, same]
  by_cases last : i + 1 < ring.length
  · refine ⟨i, last, 0, ⟨le_refl 0, zero_le_one⟩, ?_⟩
    have here : along (vertex ring i) (vertex ring (i + 1)) 0 = point := by
      rw [own]
      simp [along]
    rw [here, distance_self]
    exact nonneg
  · have previous : i - 1 + 1 = i := by omega
    refine ⟨i - 1, by omega, 1, ⟨zero_le_one, le_refl 1⟩, ?_⟩
    have here : along (vertex ring (i - 1)) (vertex ring (i - 1 + 1)) 1 = point := by
      rw [previous, own]
      simp [along]
    rw [here, distance_self]
    exact nonneg

theorem within_of_line {start stop point : Point} {tolerance : ℝ}
    (close : lineDistance start stop point ≤ tolerance)
    (inside : ¬ Overshoots start point stop) : Within tolerance start stop point := by
  have span : √((stop.1 - start.1) ^ 2 + (stop.2 - start.2) ^ 2) = distance stop start := rfl
  unfold lineDistance at close
  dsimp only at close
  rw [span] at close
  by_cases flat : distance stop start = 0
  · rw [if_pos flat] at close
    refine ⟨0, ⟨le_refl 0, zero_le_one⟩, ?_⟩
    have here : along start stop 0 = start := by
      simp [along]
    rw [here]
    exact close
  · rw [if_neg flat] at close
    have area : |(stop.2 - start.2) * point.1 - (stop.1 - start.1) * point.2 +
        stop.1 * start.2 - stop.2 * start.1| = |turn start stop point| := by
      rw [← abs_neg]
      congr 1
      simp only [turn]
      ring
    rw [area] at close
    unfold Overshoots at inside
    push Not at inside
    exact within_of_foot flat close inside.1 inside.2

section

variable {ring : List Point} (closed : Closed ring) (tolerance : ℝ)

include closed

theorem simplify_closed : simplifyRing ring tolerance =
    if ring.length ≤ 4 ∨ (douglasPeucker tolerance ring).length < 4 ∨
      selfIntersects (douglasPeucker tolerance ring) = true then ring
    else douglasPeucker tolerance ring := by
  unfold simplifyRing
  by_cases small : ring.length ≤ 4
  · rw [if_pos small, if_pos (Or.inl small)]
  · rw [if_neg small]
    dsimp only
    by_cases few : (douglasPeucker tolerance ring).length < 4
    · rw [if_pos few, if_pos (Or.inr (Or.inl few))]
    · rw [if_neg few]
      have ends := peucker_ends tolerance ring
      have same : vertex (douglasPeucker tolerance ring) 0 =
          vertex (douglasPeucker tolerance ring)
            ((douglasPeucker tolerance ring).length - 1) := by
        have meeting : (douglasPeucker tolerance ring).head? =
            (douglasPeucker tolerance ring).getLast? := by
          rw [ends.1, ends.2.1, closed]
        rw [vertex_first (by omega), vertex_last (by omega)] at meeting
        exact Option.some.inj meeting
      have meets : ¬ ((vertex (douglasPeucker tolerance ring) 0).1 ≠
          (vertex (douglasPeucker tolerance ring) 0).1 ∨
          (vertex (douglasPeucker tolerance ring) 0).2 ≠
            (vertex (douglasPeucker tolerance ring) 0).2) := by
        simp
      rw [← same]
      simp only [if_neg meets, if_neg few]
      by_cases crosses : selfIntersects (douglasPeucker tolerance ring) = true
      · rw [if_pos crosses, if_pos (Or.inr (Or.inr crosses))]
      · rw [if_neg crosses, if_neg (by tauto)]

/-- What is left of a ring that does not fall back keeps to the tolerance when the segments do
not overlap and the vertices that overshoot are close. -/
theorem simplified_iff (kept : ¬ FallsBack ring tolerance) :
    Simplified ring tolerance (douglasPeucker tolerance ring) ↔
      NoOverlap (douglasPeucker tolerance ring) ∧ OvershootsNear ring tolerance := by
  unfold FallsBack at kept
  push Not at kept
  obtain ⟨_, long, passes, dropped⟩ := kept
  have apart := apart_iff (not_eq_true _ |>.mp passes)
  constructor
  · intro simplified
    refine ⟨apart.mp simplified.apart, ?_⟩
    intro start point stop part _
    exact simplified.near point (dropped_mem part)
  · rintro ⟨noOverlap, overshootsNear⟩
    have ends := peucker_ends tolerance ring
    refine ⟨long, ?_, peucker_sublist tolerance ring, apart.mpr noOverlap, ?_⟩
    · unfold Closed at closed ⊢
      rw [ends.1, ends.2.1, closed]
    · intro point member
      rcases kept_or_dropped tolerance ring point member with kept | part
      · have nonneg : 0 ≤ tolerance := by
          by_contra negative
          exact dropped (negative_keeps tolerance (not_le.mp negative) ring)
        exact near_of_mem nonneg (by omega) kept
      · obtain ⟨start, stop, part⟩ := part
        obtain ⟨chord, close⟩ := dropped_chord tolerance part
        by_cases beyond : Overshoots start point stop
        · exact overshootsNear start point stop part beyond
        · exact near_of_infix chord (within_of_line close beyond)

/-- The ring falls back or keeps to the tolerance exactly when no segments overlap on a line
and no vertex beyond the end of its chord is far. -/
theorem ring_keeps_tolerance : KeepsTolerance ring tolerance ↔ FallsBack ring tolerance ∨
      (NoOverlap (douglasPeucker tolerance ring) ∧ OvershootsNear ring tolerance) := by
  have result := simplify_closed closed tolerance
  by_cases back : FallsBack ring tolerance
  · refine ⟨fun _ => Or.inl back, fun _ => Or.inl ?_⟩
    rw [result]
    split
    · rfl
    · next kept =>
        unfold FallsBack at back
        tauto
  · have kept : simplifyRing ring tolerance = douglasPeucker tolerance ring := by
      rw [result, if_neg]
      unfold FallsBack at back
      tauto
    have changed : douglasPeucker tolerance ring ≠ ring := by
      unfold FallsBack at back
      tauto
    rw [← simplified_iff closed tolerance back]
    unfold KeepsTolerance
    rw [kept]
    tauto

end

def spur : List Point := [(0, 0), (-(3 : ℕ), -(4 : ℕ)), ((20 : ℕ), 0), (0, (16 : ℕ)), (0, 0)]

theorem spur_closed : Closed spur := rfl

theorem spur_farthest : farthest spur = (20, 2) := by
  have second : √((3 : ℝ) ^ 2 + 4 ^ 2) = 5 := by
    rw [show (3 : ℝ) ^ 2 + 4 ^ 2 = 5 ^ 2 by norm_num, Real.sqrt_sq (by norm_num)]
  simp [farthest, spur, vertex, scan, lineDistance]
  norm_num [second]

theorem spur_chord : farthest (spur.take 3) = (4, 1) := by
  simp [farthest, spur, vertex, scan, lineDistance]
  norm_num

theorem spur_rest : farthest (spur.drop 2) = (16, 1) := by
  simp [farthest, spur, vertex, scan, lineDistance]
  norm_num

def spurLeft : List Point := [(0, 0), ((20 : ℕ), 0), (0, (16 : ℕ)), (0, 0)]

theorem spur_kept : douglasPeucker 4 spur = spurLeft := by
  have first : douglasPeucker 4 (spur.take 3) = spurLeft.take 2 := by
    rw [peucker_close (by simp [spur]) (by rw [spur_chord])]
    rfl
  have second : douglasPeucker 4 (spur.drop 2) = spurLeft.drop 1 := by
    rw [peucker_split (by simp [spur]) (by rw [spur_rest]; norm_num), spur_rest,
      peucker_short (by simp [spur]), peucker_short (by simp [spur])]
    rfl
  rw [peucker_split (by simp [spur]) (by rw [spur_farthest]; norm_num), spur_farthest]
  dsimp only
  rw [first, second]
  rfl

theorem spur_simplified : simplifyRing spur 4 = spurLeft := by
  rw [simplify_closed spur_closed, spur_kept, if_neg]
  simp [spur, spurLeft, selfIntersects, range_succ]

theorem spur_far : ¬ NearRing 4 spurLeft (-(3 : ℕ), -(4 : ℕ)) := by
  rintro ⟨i, inside, share, ⟨low, high⟩, close⟩
  have square := (Real.sqrt_le_left (by norm_num)).mp close
  have three : i < 3 := by
    simp [spurLeft] at inside
    omega
  interval_cases i
  · simp [spurLeft, vertex, along] at square
    nlinarith
  · simp [spurLeft, vertex, along] at square
    nlinarith
  · simp [spurLeft, vertex, along] at square
    nlinarith

theorem spur_loses : ¬ KeepsTolerance spur 4 := by
  unfold KeepsTolerance
  rw [spur_simplified]
  rintro (same | simplified)
  · have lengths := congrArg List.length same
    simp [spur, spurLeft] at lengths
  · exact spur_far (simplified.near _ (by simp [spur]))

theorem tolerance_lost :
    ¬ ∀ (ring : List Point) (tolerance : ℝ), Closed ring → KeepsTolerance ring tolerance := by
  intro claim
  exact spur_loses (claim spur 4 spur_closed)

theorem spur_overshoots : ¬ (FallsBack spur 4 ∨
    (NoOverlap (douglasPeucker 4 spur) ∧ OvershootsNear spur 4)) := by
  intro condition
  exact spur_loses ((ring_keeps_tolerance spur_closed 4).mpr condition)

end OpenMapX.Isochrone.RingTolerance
