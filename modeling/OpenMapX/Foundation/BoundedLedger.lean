import Mathlib

/-!
# Bounded ledgers

A ledger holds the last identifiers that were emitted, up to a limit, and an
identifier that it holds is not emitted again. As long as the identifiers fit into
the ledger none of them comes twice.
-/

namespace OpenMapX.Foundation.BoundedLedger

open List

variable {Id : Type*}

/-- `slice(-limit)`. -/
def lastOf (limit : Nat) (ids : List Id) : List Id := ids.drop (ids.length - limit)

theorem last_of_short (limit : Nat) (ids : List Id) (short : ids.length ≤ limit) :
    lastOf limit ids = ids := by
  unfold lastOf
  rw [Nat.sub_eq_zero_of_le short, drop_zero]

/-- The identifiers can be emitted one after another, from the first ledger on, and
leave the second one. -/
inductive Emitted (limit : Nat) : List Id → List Id → List Id → Prop where
  | nothing (ledger : List Id) : Emitted limit ledger [] ledger
  | next (ledger : List Id) (id : Id) (ids rest : List Id) (fresh : id ∉ ledger)
      (later : Emitted limit (lastOf limit (ledger ++ [id])) ids rest) :
      Emitted limit ledger (id :: ids) rest

theorem Emitted.one (limit : Nat) (ledger : List Id) (id : Id) (fresh : id ∉ ledger) :
    Emitted limit ledger [id] (lastOf limit (ledger ++ [id])) :=
  .next ledger id [] _ fresh (.nothing _)

theorem Emitted.append {limit : Nat} {start middle rest first second : List Id}
    (before : Emitted limit start first middle) (after : Emitted limit middle second rest) :
    Emitted limit start (first ++ second) rest := by
  induction before with
  | nothing ledger => exact after
  | next ledger id ids middle fresh _ ih => exact .next ledger id _ rest fresh (ih after)

variable [DecidableEq Id]

/-- The ledger knows all of `prior`, so that what follows is new to it. -/
theorem Emitted.nodup_after {limit : Nat} {ledger ids rest : List Id}
    (emitted : Emitted limit ledger ids rest) (prior : List Id)
    (known : ledger = lastOf limit prior) (distinct : prior.Nodup)
    (few : (prior ++ ids).dedup.length ≤ limit) : (prior ++ ids).Nodup := by
  induction emitted generalizing prior with
  | nothing ledger => rwa [append_nil]
  | next ledger id ids rest fresh later ih =>
    have priorFew : prior.length ≤ limit := by
      have within : prior ⊆ (prior ++ id :: ids).dedup := by
        intro earlier member
        exact mem_dedup.mpr (mem_append_left _ member)
      exact Nat.le_trans (subperm_of_subset distinct within).length_le few
    rw [known, last_of_short limit prior priorFew] at fresh ih
    have longer : (prior ++ [id]).Nodup := by
      rw [nodup_append]
      apply And.intro distinct
      apply And.intro (nodup_singleton id)
      intro earlier member other single
      rw [mem_singleton.mp single]
      intro same
      exact fresh (same ▸ member)
    have shifted : prior ++ id :: ids = (prior ++ [id]) ++ ids := by simp
    rw [shifted] at few ⊢
    exact ih (prior ++ [id]) rfl longer few

theorem Emitted.nodup_of_few {limit : Nat} {ids rest : List Id}
    (emitted : Emitted limit [] ids rest) (few : ids.dedup.length ≤ limit) : ids.Nodup :=
  emitted.nodup_after [] (by simp [lastOf]) nodup_nil few

end OpenMapX.Foundation.BoundedLedger
