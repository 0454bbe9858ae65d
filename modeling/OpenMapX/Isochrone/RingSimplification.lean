import OpenMapX.Foundation.PlaneSegments

/-!
# Simplifying a ring

`simplifyRing` runs Douglas–Peucker over a closed ring and goes back to the ring when
too little is left or segments cross. Vertices are dropped by their distance from the
line of a chord. Coordinates are exact reals.
-/

namespace OpenMapX.Isochrone.RingSimplification

open Foundation.PlaneSegments List

noncomputable section

def vertex (ring : List Point) (i : ℕ) : Point := ring.getD i (0, 0)

def segmentsIntersect (a b c d : Point) : Bool :=
  decide (SignType.sign (turn a b c) ≠ SignType.sign (turn a b d)) &&
    decide (SignType.sign (turn c d a) ≠ SignType.sign (turn c d b))

def selfIntersects (ring : List Point) : Bool :=
  (List.range (ring.length - 1)).any fun i =>
    (List.range' (i + 2) (ring.length - 1 - (i + 2))).any fun j =>
      !(i == 0 && j == ring.length - 2) &&
        segmentsIntersect (vertex ring i) (vertex ring (i + 1)) (vertex ring j)
          (vertex ring (j + 1))

def lineDistance (start stop point : Point) : ℝ :=
  let dx := stop.1 - start.1
  let dy := stop.2 - start.2
  let span := √(dx ^ 2 + dy ^ 2)
  if span = 0 then √((point.1 - start.1) ^ 2 + (point.2 - start.2) ^ 2)
  else |dy * point.1 - dx * point.2 + stop.1 * start.2 - stop.2 * start.1| / span

def scan (far : Point → ℝ) : List Point → ℕ → ℝ × ℕ → ℝ × ℕ
  | [], _, best => best
  | point :: rest, i, best =>
    scan far rest (i + 1) (if best.1 < far point then (far point, i) else best)

def farthest (points : List Point) : ℝ × ℕ :=
  scan (lineDistance (vertex points 0) (vertex points (points.length - 1)))
    points.tail.dropLast 1 (-1, 0)

theorem line_distance_nonneg (start stop point : Point) : 0 ≤ lineDistance start stop point := by
  unfold lineDistance
  dsimp only
  split
  · exact Real.sqrt_nonneg _
  · exact div_nonneg (abs_nonneg _) (Real.sqrt_nonneg _)

theorem scan_spec (far : Point → ℝ) (rest : List Point) : ∀ (i : ℕ) (best : ℝ × ℕ),
      (scan far rest i best = best ∨
        (i ≤ (scan far rest i best).2 ∧ (scan far rest i best).2 < i + rest.length)) ∧
      best.1 ≤ (scan far rest i best).1 ∧ ∀ point ∈ rest, far point ≤ (scan far rest i best).1 := by
  induction rest with
  | nil =>
    intro i best
    simp [scan]
  | cons head rest ih =>
    intro i best
    simp only [scan, length_cons, mem_cons, forall_eq_or_imp]
    by_cases farther : best.1 < far head
    · rw [if_pos farther]
      obtain ⟨place, grown, all⟩ := ih (i + 1) (far head, i)
      refine ⟨Or.inr ?_, le_trans (le_of_lt farther) grown, grown, all⟩
      rcases place with same | later
      · rw [same]
        dsimp only
        omega
      · omega
    · rw [if_neg farther]
      obtain ⟨place, grown, all⟩ := ih (i + 1) best
      refine ⟨?_, grown, le_trans (not_lt.mp farther) grown, all⟩
      rcases place with same | later
      · exact Or.inl same
      · right
        omega

theorem farthest_spec {points} (long : 3 ≤ points.length) :
    (0 ≤ (farthest points).1 ∧ 1 ≤ (farthest points).2 ∧ (farthest points).2 + 1 < points.length) ∧
    ∀ point ∈ points.tail.dropLast,
      lineDistance (vertex points 0) (vertex points (points.length - 1)) point ≤
        (farthest points).1 := by
  obtain ⟨place, _, all⟩ := scan_spec
    (lineDistance (vertex points 0) (vertex points (points.length - 1)))
    points.tail.dropLast 1 (-1, 0)
  have inner : points.tail.dropLast.length = points.length - 2 := by
    rw [length_dropLast, length_tail]
    omega
  have nonempty : points.tail.dropLast ≠ [] := by
    intro empty
    rw [empty, length_nil] at inner
    omega
  obtain ⟨point, member⟩ := exists_mem_of_ne_nil _ nonempty
  have nonneg : 0 ≤ (farthest points).1 := le_trans (line_distance_nonneg _ _ _) (all point member)
  refine ⟨⟨nonneg, ?_⟩, all⟩
  rcases place with same | range
  · have negative : (farthest points).1 = -1 := congrArg Prod.fst same
    linarith
  · rw [inner] at range
    have index : (farthest points).2 = (scan (lineDistance (vertex points 0)
      (vertex points (points.length - 1))) points.tail.dropLast 1 (-1, 0)).2 := rfl
    omega

def douglasPeucker (tolerance : ℝ) (points : List Point) : List Point :=
  if short : points.length < 3 then points
  else if (farthest points).1 ≤ tolerance then
    [vertex points 0, vertex points (points.length - 1)]
  else
    (douglasPeucker tolerance (points.take ((farthest points).2 + 1))).dropLast ++
      douglasPeucker tolerance (points.drop (farthest points).2)
termination_by points.length
decreasing_by
  · have range := (farthest_spec (not_lt.mp short)).1
    rw [length_take]
    omega
  · have range := (farthest_spec (not_lt.mp short)).1
    rw [length_drop]
    omega

def simplifyRing (ring : List Point) (tolerance : ℝ) : List Point :=
  if ring.length ≤ 4 then ring
  else
    let simplified := douglasPeucker tolerance ring
    if simplified.length < 4 then ring
    else
      let first := vertex simplified 0
      let last := vertex simplified (simplified.length - 1)
      let closed := if first.1 ≠ last.1 ∨ first.2 ≠ last.2 then simplified ++ [first]
        else simplified
      if closed.length < 4 then ring
      else if selfIntersects closed then ring
      else closed

end

end OpenMapX.Isochrone.RingSimplification
