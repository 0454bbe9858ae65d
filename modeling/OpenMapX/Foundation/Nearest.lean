import Mathlib.Data.Set.Insert

/-!
# The first of the nearest

Among a set of numbered candidates, the one of least distance and, among equally near
ones, of least number. However the candidates are visited, there is only one, and
candidates that are known to be farther than it need not be visited.
-/

namespace OpenMapX.Foundation.Nearest

variable {Candidate Distance : Type*} [LinearOrder Candidate] [LinearOrder Distance]

def Precedes (dist : Candidate → Distance) (first second : Candidate) : Prop :=
  dist first < dist second ∨ (dist first = dist second ∧ first ≤ second)

def FirstNearest (dist : Candidate → Distance) (seen : Set Candidate) (best : Candidate) : Prop :=
  best ∈ seen ∧ ∀ other ∈ seen, Precedes dist best other

variable {dist : Candidate → Distance}

theorem precedes_refl (candidate : Candidate) : Precedes dist candidate candidate :=
  Or.inr ⟨rfl, le_refl candidate⟩

theorem precedes_trans {first second third} (before : Precedes dist first second)
    (after : Precedes dist second third) : Precedes dist first third := by
  rcases before with nearer | tie
  · rcases after with other | tie
    · exact Or.inl (nearer.trans other)
    · exact Or.inl (tie.1 ▸ nearer)
  · rcases after with other | other
    · exact Or.inl (tie.1 ▸ other)
    · exact Or.inr ⟨tie.1.trans other.1, tie.2.trans other.2⟩

theorem precedes_antisymm {first second} (before : Precedes dist first second)
    (after : Precedes dist second first) : first = second := by
  rcases before with nearer | tie
  · rcases after with other | tie
    · exact absurd other (lt_asymm nearer)
    · exact absurd tie.1 (ne_of_gt nearer)
  · rcases after with other | other
    · exact absurd tie.1 (ne_of_gt other)
    · exact le_antisymm tie.2 other.2

namespace FirstNearest

variable {seen more : Set Candidate} {best : Candidate}

theorem unique {other} (first : FirstNearest dist seen best)
    (second : FirstNearest dist seen other) : best = other :=
  precedes_antisymm (first.2 other second.1) (second.2 best first.1)

theorem single (candidate : Candidate) : FirstNearest dist {candidate} candidate := by
  apply And.intro (Set.mem_singleton candidate)
  intro other same
  rw [Set.mem_singleton_iff.mp same]
  exact precedes_refl candidate

section

variable (first : FirstNearest dist seen best)
include first

theorem replaced {candidate} (before : Precedes dist candidate best) :
    FirstNearest dist (insert candidate seen) candidate := by
  apply And.intro (Set.mem_insert candidate seen)
  intro other member
  rcases Set.mem_insert_iff.mp member with same | seen
  · rw [same]
    exact precedes_refl candidate
  · exact precedes_trans before (first.2 other seen)

theorem kept {candidate}
    (before : Precedes dist best candidate) : FirstNearest dist (insert candidate seen) best := by
  apply And.intro (Set.mem_insert_of_mem candidate first.1)
  intro other member
  rcases Set.mem_insert_iff.mp member with same | seen
  · rw [same]
    exact before
  · exact first.2 other seen

theorem beyond (farther : ∀ candidate ∈ more, dist best < dist candidate) :
    FirstNearest dist (seen ∪ more) best := by
  apply And.intro (Set.mem_union_left more first.1)
  intro other member
  rcases (Set.mem_union other seen more).mp member with seen | more
  · exact first.2 other seen
  · exact Or.inl (farther other more)

end

end FirstNearest

end OpenMapX.Foundation.Nearest
