import Mathlib

/-!
# Minimal roots

A forest on the natural numbers in which no parent is above its child, with path
compression and with unions that keep the lower root. A class is what is connected by
the unions made, and its root is its least member.
-/

namespace OpenMapX.Foundation.MinimalRoots

open List

structure Forest where
  parent : ℕ → ℕ
  down : ∀ x, parent x ≤ x

namespace Forest

def singletons : Forest := { parent := id, down := fun _ => le_rfl }

def set (forest : Forest) {x root : ℕ} (below : root ≤ x) : Forest where
  parent := Function.update forest.parent x root
  down y := by
    by_cases same : y = x
    · rw [same, Function.update_self]
      exact below
    · rw [Function.update_of_ne same]
      exact forest.down y

def root (forest : Forest) (x : ℕ) : ℕ :=
  if _h : forest.parent x = x then x else forest.root (forest.parent x)
termination_by x
decreasing_by exact lt_of_le_of_ne (forest.down x) _h

/-- Points the whole way up from `x` at its root. -/
def compress (forest : Forest) (root x : ℕ) : Forest :=
  if h : root < x ∧ forest.parent x < x then
    (forest.set h.1.le).compress root (forest.parent x)
  else forest
termination_by x
decreasing_by exact h.2

def find (forest : Forest) (x : ℕ) : ℕ × Forest :=
  (forest.root x, forest.compress (forest.root x) x)

def unite (forest : Forest) (a b : ℕ) : Forest :=
  let first := forest.find a
  let second := first.2.find b
  if first.1 = second.1 then second.2
  else if h : first.1 < second.1 then second.2.set h.le
  else second.2.set (not_lt.mp h)

variable (forest : Forest)

theorem root_le (x : ℕ) : forest.root x ≤ x := by
  induction x using Nat.strong_induction_on with
  | _ x ih =>
    rw [root]
    split_ifs with top
    · exact le_rfl
    · exact (ih _ (lt_of_le_of_ne (forest.down x) top)).trans (forest.down x)

theorem parent_root (x : ℕ) : forest.parent (forest.root x) = forest.root x := by
  induction x using Nat.strong_induction_on with
  | _ x ih =>
    rw [root]
    split_ifs with top
    · exact top
    · exact ih _ (lt_of_le_of_ne (forest.down x) top)

theorem root_of_top {x : ℕ} (top : forest.parent x = x) : forest.root x = x := by
  rw [root, dif_pos top]

theorem root_set {x r : ℕ} (below : r ≤ x) (top : forest.parent r = r)
    (own : forest.root x = r ∨ forest.parent x = x) (y : ℕ) :
    (forest.set below).root y = if forest.root y = forest.root x then r else forest.root y := by
  induction y using Nat.strong_induction_on with
  | _ y ih =>
    have at_r : (forest.set below).root r = r := by
      apply root_of_top
      by_cases same : r = x
      · simp [set, same]
      · simp [set, Function.update_of_ne same, top]
    by_cases same : y = x
    · subst same
      rw [if_pos rfl, root]
      have value : (forest.set below).parent y = r := by simp [set]
      rw [value]
      split_ifs with own_root
      · exact own_root.symm
      · exact at_r
    · have value : (forest.set below).parent y = forest.parent y := by
        simp [set, Function.update_of_ne same]
      rw [root, value]
      split_ifs with top_y apart apart
      · rw [forest.root_of_top top_y] at apart
        rcases own with compressed | top_x
        · rw [apart, compressed]
        · rw [forest.root_of_top top_x] at apart
          exact absurd apart same
      · exact (forest.root_of_top top_y).symm
      · rw [ih _ (lt_of_le_of_ne (forest.down y) top_y), if_pos]
        rw [root, dif_neg top_y] at apart
        exact apart
      · rw [ih _ (lt_of_le_of_ne (forest.down y) top_y)]
        have step : forest.root y = forest.root (forest.parent y) := by rw [root, dif_neg top_y]
        rw [← step, if_neg apart]

theorem root_compress (r x : ℕ) : ∀ forest : Forest, forest.root x = r →
    ∀ y, (forest.compress r x).root y = forest.root y := by
  induction x using Nat.strong_induction_on with
  | _ x ih =>
    intro forest own y
    rw [compress]
    split_ifs with more
    · have kept : ∀ z, (forest.set more.1.le).root z = forest.root z := by
        intro z
        rw [forest.root_set more.1.le (own ▸ forest.parent_root x) (Or.inl own)]
        split_ifs with same
        · rw [same, own]
        · rfl
      have next : forest.root (forest.parent x) = r := by
        rw [← own]
        conv_rhs => rw [root, dif_neg more.2.ne]
      rw [ih _ more.2 _ ((kept _).trans next), kept]
    · rfl

theorem root_find (x y : ℕ) : (forest.find x).2.root y = forest.root y :=
  root_compress _ x forest rfl y

theorem root_unite (a b y : ℕ) : (forest.unite a b).root y =
      if forest.root y = forest.root a ∨ forest.root y = forest.root b then
        min (forest.root a) (forest.root b) else forest.root y := by
  have found : ((forest.find a).2.find b).1 = forest.root b := forest.root_find a b
  have roots : ∀ z, ((forest.find a).2.find b).2.root z = forest.root z := fun z =>
    (root_find _ b z).trans (forest.root_find a z)
  have first : (forest.find a).1 = forest.root a := rfl
  have tops : ∀ z, ((forest.find a).2.find b).2.parent (forest.root z) = forest.root z := by
    intro z
    have top := parent_root ((forest.find a).2.find b).2 z
    rwa [roots] at top
  have own : ∀ z, forest.root (forest.root z) = forest.root z := fun z =>
    forest.root_of_top (forest.parent_root z)
  have joins : ∀ {x r : ℕ} (below : r ≤ x), forest.root x = x → forest.root r = r →
      (((forest.find a).2.find b).2.set below).root y =
        if forest.root y = x then r else forest.root y := by
    intro x r below top_x top_r
    have top_r' := tops r
    have top_x' := tops x
    rw [top_r] at top_r'
    rw [top_x] at top_x'
    rw [root_set _ below top_r' (Or.inr top_x'), roots, roots, top_x]
  unfold unite
  simp only [found, first]
  split_ifs with same either less either either
  · rw [roots, ← same, min_self]
    exact either.elim id fun second => second.trans same.symm
  · exact roots y
  · rw [joins less.le (own b) (own a), min_eq_left less.le]
    rcases either with one | two
    · rw [one]
      split_ifs <;> rfl
    · rw [if_pos two]
  · rw [joins less.le (own b) (own a), if_neg fun two => either (Or.inr two)]
  · rw [joins (not_lt.mp less) (own a) (own b), min_eq_right (not_lt.mp less)]
    rcases either with one | two
    · rw [if_pos one]
    · rw [two]
      split_ifs <;> rfl
  · rw [joins (not_lt.mp less) (own a) (own b), if_neg fun one => either (Or.inl one)]

def unions (pairs : List (ℕ × ℕ)) : Forest :=
  pairs.foldl (fun forest pair => forest.unite pair.1 pair.2) singletons

theorem root_unions (pairs : List (ℕ × ℕ)) (x y : ℕ) :
    (unions pairs).root x = (unions pairs).root y ↔
      Relation.EqvGen (fun a b => (a, b) ∈ pairs) x y := by
  induction pairs using List.reverseRecOn generalizing x y with
  | nil =>
    have alone : ∀ z, (unions []).root z = z := fun z => root_of_top _ rfl
    rw [alone, alone]
    refine ⟨fun same => same ▸ .refl x, fun connected => ?_⟩
    induction connected with
    | rel a b member => exact absurd member not_mem_nil
    | refl a => rfl
    | symm a b _ ih => exact ih.symm
    | trans a b c _ _ one two => exact one.trans two
  | append_singleton pairs pair ih =>
    have last : unions (pairs ++ [pair]) = (unions pairs).unite pair.1 pair.2 := by
      simp [unions]
    have more : ∀ {u v}, Relation.EqvGen (fun a b => (a, b) ∈ pairs) u v →
        Relation.EqvGen (fun a b => (a, b) ∈ pairs ++ [pair]) u v := fun connected =>
      connected.mono fun a b member => mem_append_left _ member
    have joined : Relation.EqvGen (fun a b => (a, b) ∈ pairs ++ [pair]) pair.1 pair.2 :=
      .rel _ _ (by simp)
    rw [last, root_unite, root_unite]
    constructor
    · intro same
      have inside : ∀ z, (unions pairs).root z = (unions pairs).root pair.1 ∨
          (unions pairs).root z = (unions pairs).root pair.2 →
          Relation.EqvGen (fun a b => (a, b) ∈ pairs ++ [pair]) z pair.1 := by
        rintro z (one | two)
        · exact more ((ih z pair.1).mp one)
        · exact (more ((ih z pair.2).mp two)).trans _ _ _ joined.symm
      have lower := min_choice ((unions pairs).root pair.1) ((unions pairs).root pair.2)
      split_ifs at same with first second second
      · exact (inside x first).trans _ _ _ (inside y second).symm
      · exact absurd (by rw [← same]; exact lower) second
      · exact absurd (by rw [same]; exact lower) first
      · exact more ((ih x y).mp same)
    · intro connected
      induction connected with
      | rel a b member =>
        rcases mem_append.mp member with old | new
        · rw [(ih a b).mpr (.rel a b old)]
        · obtain rfl := mem_singleton.mp new
          rw [if_pos (Or.inl rfl), if_pos (Or.inr rfl)]
      | refl a => rfl
      | symm a b _ ih => exact ih.symm
      | trans a b c _ _ one two => exact one.trans two

theorem root_eq_iff (pairs : List (ℕ × ℕ)) (x : ℕ) : (unions pairs).root x = x ↔
    ∀ y, Relation.EqvGen (fun a b => (a, b) ∈ pairs) y x → x ≤ y := by
  constructor
  · intro top y connected
    rw [← top, ← (root_unions pairs y x).mpr connected]
    exact root_le _ y
  · intro least
    have own : (unions pairs).root ((unions pairs).root x) = (unions pairs).root x :=
      root_of_top _ (parent_root _ x)
    exact le_antisymm (root_le _ x) (least _ ((root_unions pairs _ x).mp own))

end Forest

end OpenMapX.Foundation.MinimalRoots
