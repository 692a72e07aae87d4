import Rota.Proofs.Log.Ring
import Mathlib.Data.List.Forall2

namespace Rota.Log

/-- What has gone into a queue and come out of it, as its callers were told. -/
structure Journal where
  /-- The records that were taken in, as they were given. -/
  accepted : List Record := []
  popped : List Record := []
  /-- How many were turned away by calls that do not wait for room. -/
  refused : Nat := 0

/-- The records that have gone in and not come out yet. -/
def Journal.waiting (j : Journal) : List Record := j.accepted.drop j.popped.length

/-- The journal from here on: what waits has been taken in, and nothing has come out. -/
def Journal.onward (j : Journal) : Journal := { j with accepted := j.waiting, popped := [] }

namespace Queue

/-- The queue is as the journal says, the list of records that wait being what the ring holds. -/
structure Tallies (q : Queue) (j : Journal) : Prop where
  inStep : q.InStep
  accepted : j.accepted.map Record.kept = j.popped ++ q.contents
  dropped : q.dropped = .ofNat j.refused

theorem tallies_new : new.Tallies {} := ⟨inStep_new, rfl, rfl⟩

namespace Tallies

variable {q : Queue} {j : Journal} (h : q.Tallies j)
include h

theorem contents_eq : q.contents = j.waiting.map Record.kept := by
  rw [Journal.waiting, List.map_drop, h.accepted, List.drop_left]

theorem length_waiting : j.waiting.length = q.contents.length := by
  rw [h.contents_eq, List.length_map]

theorem length_waiting_le : j.waiting.length ≤ capacity := by
  have hcounts := h.inStep.counts
  rw [h.length_waiting, length_contents]
  omega

theorem length_popped_le : j.popped.length ≤ j.accepted.length := by
  have hlength := congrArg List.length h.accepted
  rw [List.length_map, List.length_append] at hlength
  omega

/-- What has come out is what went in first, in the same order. -/
theorem popped_eq : j.popped = (j.accepted.take j.popped.length).map Record.kept := by
  rw [List.map_take, h.accepted, List.take_left]

theorem keeps_popped : List.Forall₂ Record.Keeps (j.accepted.take j.popped.length) j.popped := by
  rw [h.popped_eq, List.length_map, List.length_take, Nat.min_eq_left h.length_popped_le,
    List.forall₂_map_right_iff]
  exact List.forall₂_same.mpr fun r _ => r.keeps_kept

theorem filled (r : Record) (hroom : q.contents.length < capacity) :
    (q.filled r).Tallies { j with accepted := j.accepted ++ [r] } where
  inStep := h.inStep.filled r hroom
  accepted := by
    rw [contents_filled h.inStep r hroom, List.map_append, h.accepted, List.append_assoc,
      List.map_singleton]
  dropped := h.dropped

theorem emptied {r : Record} {rest : List Record} (hcons : q.contents = r :: rest) :
    q.emptied.Tallies { j with popped := j.popped ++ [r] } where
  inStep := h.inStep.emptied (hcons ▸ List.cons_ne_nil r rest)
  accepted := by
    rw [(pop_of_cons h.inStep hcons).2, h.accepted, hcons, List.append_assoc,
      List.singleton_append]
  dropped := h.dropped

theorem refused :
    Tallies { q with dropped := q.dropped + 1 } { j with refused := j.refused + 1 } where
  inStep := ⟨h.inStep.freeReady, h.inStep.usedReady, h.inStep.counts, h.inStep.tail⟩
  accepted := h.accepted
  dropped := by
    rw [h.dropped, UInt64.ofNat_add]
    rfl

theorem onward : q.Tallies j.onward where
  inStep := h.inStep
  accepted := h.contents_eq.symm
  dropped := h.dropped

end Tallies
end Queue
end Rota.Log
