import Rota.Log.Queue
import Rota.Proofs.Text.Cut
import Mathlib.Tactic.Common

namespace Rota.Sync.Semaphore

variable {s : Semaphore} (hs : s.ready = true)
include hs

theorem tryWait_of_ready :
    s.tryWait =
      if s.value = 0 then (.ok false, s) else (.ok true, { s with value := s.value - 1 }) := by
  rw [tryWait, guarded, if_pos hs]

theorem post_of_lt (h : s.value < most) : s.post = (.ok (), { s with value := s.value + 1 }) := by
  rw [post, guarded, if_pos hs, if_pos h]

end Rota.Sync.Semaphore

namespace Rota.Log

/-- `kept` is `given` but for its text, which is cut to what there is room for. -/
structure Record.Keeps (given kept : Record) : Prop where
  kind : kept.kind = given.kind
  pid : kept.pid = given.pid
  millis : kept.millis = given.millis
  text : Text.IsCut textBytes given.text kept.text

theorem Record.keeps_kept (r : Record) : r.Keeps r.kept := ⟨rfl, rfl, rfl, Text.isCut_cut _ _⟩

theorem Record.kept_of_fits {r : Record} (h : (Text.bytes r.text).length ≤ textBytes) :
    r.kept = r := by
  rw [kept, Text.cut_of_fits h]

theorem Frame.kind_read_write (f : Frame) (r : Record) : (f.write r).read.kind = r.kind := by
  rcases r with ⟨_ | _, _, _, _⟩ <;> rfl

/-- The bytes that count as text are those written last; what was there before is behind them. -/
theorem Frame.take_bytes_write (f : Frame) (r : Record) :
    (f.write r).bytes.toList.take (f.write r).length.toNat = Text.bytes r.kept.text := by
  have hfits : (Text.bytes r.kept.text).length ≤ textBytes := r.keeps_kept.text.fits
  have hlength : (f.write r).length.toNat = (Text.bytes r.kept.text).length :=
    Text.toNat_size_bytes_cut (by decide) r.text
  rw [hlength, write]
  exact Text.take_overwritten _ hfits

/-- What is read is what was written last, whatever was there before. -/
@[simp]
theorem Frame.read_write (f : Frame) (r : Record) : (f.write r).read = r.kept := by
  have htext : (f.write r).read.text = r.kept.text := by
    rw [read, take_bytes_write, Text.ofBytes_bytes]
  calc (f.write r).read
      = ⟨(f.write r).read.kind, r.pid, r.millis, (f.write r).read.text⟩ := rfl
    _ = r.kept := by rw [kind_read_write, htext]; rfl

/-- The slot `k` places on. -/
def Slot.after (s : Slot) (k : Nat) : Slot := ⟨(s.val + k) % capacity, Nat.mod_lt _ (by decide)⟩

namespace Slot

@[simp]
theorem after_zero (s : Slot) : s.after 0 = s := Fin.ext (Nat.mod_eq_of_lt s.isLt)

theorem next_after (s : Slot) (k : Nat) : next (s.after k) = s.after (k + 1) :=
  Fin.ext (Nat.mod_add_mod (s.val + k) capacity 1)

theorem after_next (s : Slot) (k : Nat) : (next s).after k = s.after (k + 1) := by
  apply Fin.ext
  change ((s.val + 1) % capacity + k) % capacity = (s.val + (k + 1)) % capacity
  rw [Nat.mod_add_mod, Nat.add_assoc, Nat.add_comm 1 k]

theorem after_inj (s : Slot) {j k : Nat} (hj : j < capacity) (hk : k < capacity)
    (h : s.after j = s.after k) : j = k := by
  have hval : (s.val + j) % 10 = (s.val + k) % 10 := congrArg Fin.val h
  have hj : j < 10 := hj
  have hk : k < 10 := hk
  omega

end Slot

namespace Queue

/-- The counts, the slots and the two ends of the ring are in step. -/
structure InStep (q : Queue) : Prop where
  freeReady : q.free.ready = true
  usedReady : q.used.ready = true
  counts : q.free.value + q.used.value = capacity
  tail : q.tail = q.head.after q.used.value

/-- The memory `k` places on from the oldest record. -/
def frameAt (q : Queue) (k : Nat) : Frame := q.slots.get (q.head.after k)

/-- The records that wait, the oldest first. -/
def contents (q : Queue) : List Record := (List.range q.used.value).map fun k => (q.frameAt k).read

@[simp]
theorem length_contents (q : Queue) : q.contents.length = q.used.value := by
  rw [contents, List.length_map, List.length_range]

theorem tail_lt (q : Queue) : q.tail.val < capacity := q.tail.isLt

/-- The queue with a record more. -/
def filled (q : Queue) (r : Record) : Queue :=
  { q with
    free := { q.free with value := q.free.value - 1 }
    used := { q.used with value := q.used.value + 1 }
    tail := Slot.next q.tail
    slots := q.slots.set q.tail ((q.slots.get q.tail).write r) q.tail_lt }

/-- The queue without its oldest record. -/
def emptied (q : Queue) : Queue :=
  { q with
    free := { q.free with value := q.free.value + 1 }
    used := { q.used with value := q.used.value - 1 }
    head := Slot.next q.head }

theorem frameAt_zero (q : Queue) : q.frameAt 0 = q.slots.get q.head := by
  rw [frameAt, Slot.after_zero]

theorem frameAt_emptied (q : Queue) (k : Nat) : q.emptied.frameAt k = q.frameAt (k + 1) := by
  change q.slots.get ((Slot.next q.head).after k) = q.slots.get (q.head.after (k + 1))
  rw [Slot.after_next]

theorem contents_eq_cons {q : Queue} (h : q.used.value ≠ 0) :
    q.contents = (q.slots.get q.head).read :: q.emptied.contents := by
  obtain ⟨n, hn⟩ := Nat.exists_eq_succ_of_ne_zero h
  have hrest : q.emptied.used.value = n := by
    change q.used.value - 1 = n
    omega
  rw [contents, hn, List.range_succ_eq_map, List.map_cons, List.map_map, frameAt_zero, contents,
    hrest]
  congr 1
  exact List.map_congr_left fun k _ => congrArg Frame.read (frameAt_emptied q k).symm

section calls

variable {q : Queue} (hq : q.InStep)
include hq

theorem pending_eq : q.pending = .ok q.contents.length := by
  rw [pending, Sync.Semaphore.get, Sync.Semaphore.guarded, if_pos hq.usedReady, length_contents]

theorem offer_of_full (r : Record) (h : q.contents.length = capacity) :
    offer r q = (.ok false, q) := by
  have hfree : q.free.value = 0 := by
    have hcounts := hq.counts
    rw [length_contents] at h
    omega
  rw [offer, Sync.Semaphore.tryWait_of_ready hq.freeReady, if_pos hfree]

theorem offer_of_room (r : Record) (h : q.contents.length < capacity) :
    offer r q = (.ok true, q.filled r) := by
  have hcounts := hq.counts
  rw [length_contents] at h
  have hfree : q.free.value ≠ 0 := by omega
  have hroom : q.used.value < Sync.Semaphore.most := Nat.lt_trans h (by decide)
  rw [offer, Sync.Semaphore.tryWait_of_ready hq.freeReady, if_neg hfree]
  dsimp only [store]
  rw [Sync.Semaphore.post_of_lt hq.usedReady hroom]
  rfl

theorem tryPush_of_full (r : Record) (h : q.contents.length = capacity) :
    tryPush r q = (.ok false, { q with dropped := q.dropped + 1 }) := by
  rw [tryPush, offer_of_full hq r h]

theorem tryPush_of_room (r : Record) (h : q.contents.length < capacity) :
    tryPush r q = (.ok true, q.filled r) := by
  rw [tryPush, offer_of_room hq r h]

theorem pop_of_nil (h : q.contents = []) : q.pop = (.ok none, q) := by
  have hused : q.used.value = 0 := by rw [← length_contents, h, List.length_nil]
  rw [pop, Sync.Semaphore.tryWait_of_ready hq.usedReady, if_pos hused]

theorem pop_of_cons {r : Record} {rest : List Record} (h : q.contents = r :: rest) :
    q.pop = (.ok (some r), q.emptied) ∧ q.emptied.contents = rest := by
  have hused : q.used.value ≠ 0 := by
    rw [← length_contents, h, List.length_cons]
    omega
  have hcons := contents_eq_cons hused
  rw [h, List.cons.injEq] at hcons
  have hcounts := hq.counts
  have hroom : q.free.value < Sync.Semaphore.most := by
    have hcapacity : capacity < Sync.Semaphore.most := by decide
    omega
  refine ⟨?_, hcons.2.symm⟩
  rw [pop, Sync.Semaphore.tryWait_of_ready hq.usedReady, if_neg hused]
  dsimp only [fetch]
  rw [Sync.Semaphore.post_of_lt hq.freeReady hroom, hcons.1]
  rfl

theorem InStep.filled (r : Record) (h : q.contents.length < capacity) : (q.filled r).InStep where
  freeReady := hq.freeReady
  usedReady := hq.usedReady
  counts := by
    have hcounts := hq.counts
    rw [length_contents] at h
    change q.free.value - 1 + (q.used.value + 1) = capacity
    omega
  tail := by
    change Slot.next q.tail = q.head.after (q.used.value + 1)
    rw [hq.tail, Slot.next_after]

theorem frameAt_filled (r : Record) (h : q.used.value < capacity) {k : Nat} (hk : k < capacity) :
    (q.filled r).frameAt k =
      if q.used.value = k then (q.slots.get q.tail).write r else q.frameAt k := by
  have htail : q.tail.val = (q.head.after k).val ↔ q.used.value = k := by
    rw [hq.tail]
    exact ⟨fun he => q.head.after_inj h hk (Fin.ext he), fun he => by rw [he]⟩
  change (q.slots.set q.tail _ q.tail_lt)[(q.head.after k).val] = _
  rw [Vector.getElem_set]
  simp only [htail]
  rfl

/-- A record goes in behind all others, which stay as they are. -/
theorem contents_filled (r : Record) (h : q.contents.length < capacity) :
    (q.filled r).contents = q.contents ++ [r.kept] := by
  rw [length_contents] at h
  change (List.range (q.used.value + 1)).map (fun k => ((q.filled r).frameAt k).read) = _
  rw [List.range_succ, List.map_append, List.map_singleton, contents]
  congr 1
  · refine List.map_congr_left fun k hk => ?_
    have hk := List.mem_range.mp hk
    have hne : q.used.value ≠ k := by omega
    rw [frameAt_filled hq r h (Nat.lt_trans hk h), if_neg hne]
  · rw [frameAt_filled hq r h h, if_pos rfl, Frame.read_write]

theorem InStep.emptied (h : q.contents ≠ []) : q.emptied.InStep where
  freeReady := hq.freeReady
  usedReady := hq.usedReady
  counts := by
    have hcounts := hq.counts
    have hpos := List.length_pos_iff.mpr h
    rw [length_contents] at hpos
    change q.free.value + 1 + (q.used.value - 1) = capacity
    omega
  tail := by
    have hpos := List.length_pos_iff.mpr h
    rw [length_contents] at hpos
    change q.tail = (Slot.next q.head).after (q.used.value - 1)
    rw [Slot.after_next, Nat.sub_add_cancel hpos, hq.tail]

end calls

/-- A queue made in memory that is all zero. -/
theorem inStep_new : new.InStep := ⟨rfl, rfl, rfl, rfl⟩

end Queue
end Rota.Log
