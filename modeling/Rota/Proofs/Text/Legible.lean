import Rota.Log.Consumer
import Rota.Proofs.Game.History
import Rota.Proofs.Log.Ring
import Rota.Proofs.Score.Sheet

namespace Rota

namespace Text

/-- The bytes are those of the text `s`; none of them is broken. -/
structure Legible (bs : List UInt8) (s : String) : Prop where
  valid : bs.toByteArray.IsValidUTF8
  eq : bs = bytes s

theorem legible_bytes (s : String) : Legible (bytes s) s := ⟨⟨s.toList, rfl⟩, rfl⟩

/-- Of the text `t` as much as goes into `limit` bytes is kept, as the bytes `bs`, and read as `s`. -/
structure Keeps (limit : Nat) (t s : String) (bs : List UInt8) : Prop where
  text : IsCut limit t s
  bytes : CutBytes limit t bs
  legible : Legible bs s

theorem keeps_cut (limit : Nat) (t : String) : Keeps limit t (cut limit t) (bytes (cut limit t)) :=
  ⟨isCut_cut limit t, cutBytes_bytes_cut limit t, legible_bytes _⟩

end Text

namespace Log

namespace Frame

/-- The bytes that are read for the text. -/
def held (f : Frame) : List UInt8 := f.bytes.toList.take f.length.toNat

def Legible (f : Frame) : Prop := Text.Legible f.held f.read.text

theorem legible_blank : Legible {} := Text.legible_bytes ""

theorem keeps_write (f : Frame) (r : Record) :
    Text.Keeps textBytes r.text (f.write r).read.text (f.write r).held := by
  have hheld : (f.write r).held = Text.bytes r.kept.text := f.take_bytes_write r
  rw [hheld, read_write]
  exact Text.keeps_cut textBytes r.text

end Frame

namespace Queue

/-- The queues that come of blank memory. -/
inductive Reached : Queue → Prop
  | blank : Reached {}
  | init {q : Queue} : Reached q → Reached q.init
  | offer {q : Queue} (r : Record) : Reached q → Reached (q.offer r).2
  | tryPush {q : Queue} (r : Record) : Reached q → Reached (q.tryPush r).2
  | pop {q : Queue} : Reached q → Reached q.pop.2
  | popAll {q : Queue} : Reached q → Reached q.popAll.2
  | drain {q : Queue} : Reached q → Reached (drain q).queue

def Legible (q : Queue) : Prop := ∀ s : Slot, (q.slots.get s).Legible

variable {q : Queue}

theorem slots_offer (r : Record) :
    (q.offer r).2.slots = q.slots ∨
      (q.offer r).2.slots = q.slots.set q.tail ((q.slots.get q.tail).write r) q.tail_lt := by
  unfold offer
  split
  · exact .inl rfl
  · exact .inl rfl
  · exact .inr rfl

theorem slots_tryPush (r : Record) : (q.tryPush r).2.slots = (q.offer r).2.slots := by
  unfold tryPush
  split
  · rename_i heq
    rw [heq]
  · rfl

theorem slots_pop (q : Queue) : q.pop.2.slots = q.slots := by
  unfold pop
  split <;> rfl

theorem slots_popUpTo (count : Nat) (q : Queue) : (popUpTo count q).2.slots = q.slots := by
  induction count generalizing q with
  | zero => rfl
  | succ count ih =>
    have hpop := slots_pop q
    rw [popUpTo]
    split
    · rename_i heq
      rwa [heq] at hpop
    · rename_i heq
      rwa [heq] at hpop
    · rename_i q' heq
      rw [heq] at hpop
      exact (ih q').trans hpop

theorem slots_popAll (q : Queue) : q.popAll.2.slots = q.slots := by
  unfold popAll
  split
  · rfl
  · exact slots_popUpTo _ q

theorem slots_drainUpTo (limit : Nat) (q : Queue) : (drainUpTo limit q).queue.slots = q.slots := by
  induction limit generalizing q with
  | zero => rfl
  | succ limit ih =>
    have hpop := slots_pop q
    rw [drainUpTo]
    split
    · rename_i q' heq
      rw [heq] at hpop
      split_ifs
      · exact hpop
      · exact (ih q').trans hpop
    · rename_i heq
      rwa [heq] at hpop

theorem Legible.congr {q' : Queue} (h : q.Legible) (hs : q'.slots = q.slots) : q'.Legible :=
  fun s => hs ▸ h s

theorem Legible.offer (h : q.Legible) (r : Record) : (q.offer r).2.Legible := by
  intro s
  rcases slots_offer (q := q) r with hs | hs
  · exact h.congr hs s
  · have hget : (q.offer r).2.slots.get s =
        if q.tail.val = s.val then (q.slots.get q.tail).write r else q.slots.get s := by
      rw [hs]
      exact Vector.getElem_set q.tail_lt s.isLt
    rw [hget]
    split_ifs
    · exact (Frame.keeps_write _ r).legible
    · exact h s

/-- What lies in the slots of a queue can be read at any time. -/
theorem Reached.legible (h : q.Reached) : q.Legible := by
  induction h with
  | blank =>
    intro s
    have hblank : ({} : Queue).slots.get s = {} := Vector.getElem_replicate s.isLt
    rw [hblank]
    exact Frame.legible_blank
  | init _ ih => exact ih.congr rfl
  | offer r _ ih => exact ih.offer r
  | tryPush r _ ih => exact (ih.offer r).congr (slots_tryPush r)
  | pop _ ih => exact ih.congr (slots_pop _)
  | popAll _ ih => exact ih.congr (slots_popAll _)
  | drain _ ih => exact ih.congr (slots_drainUpTo _ _)

end Queue
end Log

namespace Score

namespace Entry

/-- The name that is read, which is empty if there is none. -/
def name (e : Entry) : String := e.name?.getD ""

def Legible (e : Entry) : Prop := Text.Legible e.held e.name

theorem legible_blank : Legible {} := Text.legible_bytes ""

theorem name_rename (e : Entry) (given : String) :
    (e.rename given).name = Text.cut nameBytes given := by
  rw [name, name?_rename]
  split_ifs with h
  · exact h.symm
  · rfl

theorem keeps_rename (e : Entry) (given : String) :
    Text.Keeps nameBytes given (e.rename given).name (e.rename given).held := by
  rw [held_rename, name_rename]
  exact Text.keeps_cut nameBytes given

end Entry

namespace Sheet

/-- The sheets that come of blank memory. -/
inductive Reached : Sheet → Prop
  | blank : Reached {}
  | load {t : Sheet} (b : Board) : Reached t → Reached (t.load b)
  | rename {t : Sheet} (seat : Nat) (name : String) : Reached t → Reached (t.rename seat name)
  | count {t : Sheet} (seats winner : Nat) : Reached t → Reached (t.count seats winner)

def Legible (t : Sheet) : Prop := ∀ i : Fin mostSeats, (t.entries.get i).Legible

theorem Reached.legible {t : Sheet} (h : t.Reached) : t.Legible := by
  intro i
  induction h with
  | blank =>
    have hblank : ({} : Sheet).entries.get i = {} := Vector.getElem_replicate i.isLt
    rw [hblank]
    exact Entry.legible_blank
  | @load _ b _ ih =>
    rcases Nat.lt_or_ge i.val b.players.length with hheld | hlacking
    · rw [get_load _ b i hheld]
      exact (Entry.keeps_rename _ _).legible
    · rw [get_load_of_le _ b i hlacking]
      exact ih
  | rename seat name _ ih =>
    rw [get_rename]
    split_ifs
    · exact (Entry.keeps_rename _ _).legible
    · exact ih
  | count seats winner _ ih =>
    rw [get_count]
    split_ifs
    · exact ih
    · exact ih

end Sheet
end Score

namespace Game

/-- The tables that come of blank memory. -/
inductive Reached : Game → Prop
  | blank : Reached blank
  | setUp {g : Game} (rules : Rules) (saved : Option Score.Board) : Reached g →
      Reached (g.setUp rules saved)
  | after {g : Game} (d : Deed) : Reached g → Reached (g.after d)

open Score (Sheet)

theorem reached_scores_passed {g : Game} (h : g.scores.Reached) : g.passed.scores.Reached := by
  rcases g.passed_eq with he | ⟨next, he⟩
  · rwa [he]
  · rw [he, elected_eq]
    split_ifs
    · exact .count _ _ h
    · exact h

theorem reached_scores_startIfReady {g : Game} (h : g.scores.Reached) :
    g.startIfReady.1.scores.Reached := by
  rcases g.startIfReady_eq with he | ⟨first, he⟩
  · rwa [he]
  · rwa [he]

theorem scores_putPurse (g : Game) (i : Nat) (p : Purse) : (g.putPurse i p).1.scores = g.scores := by
  unfold putPurse
  dsimp only
  split_ifs <;> rfl

theorem Change.reached_scores {g g' : Game} {c : Call} {a : Except Fault Done}
    (hc : g.Change c a g') (h : g.scores.Reached) : g'.scores.Reached := by
  cases hc with
  | idle => exact h
  | join name => exact reached_scores_startIfReady (h.rename g.taken name)
  | connect => exact reached_scores_startIfReady h
  | leave => exact h
  | yield => exact reached_scores_passed h
  | advance => exact reached_scores_passed h
  | act => exact reached_scores_passed ((scores_putPurse _ _ _).symm ▸ h)

theorem Reached.scores {g : Game} (h : g.Reached) : g.scores.Reached := by
  induction h with
  | blank => exact .blank
  | setUp rules saved _ ih =>
    cases saved with
    | none => exact ih
    | some b => exact ih.load b
  | @after g d _ ih =>
    cases d with
    | call c => exact (g.perform_change c).reached_scores ih
    | take i =>
      rcases g.take_cases i with ⟨-, he⟩ | ⟨-, -, -, he⟩
      · rwa [he]
      · rwa [he]

end Game

namespace Text

open Log (Frame Record textBytes)
open Score (Entry nameBytes)

/-- A text is cut to its longest beginning in whole characters, in slots and on sheets as well, and
cutting again is cutting once. So whatever comes of blank memory can be read. -/
theorem cut_laws :
    (∀ (t : String) (i : Nat), isBoundary (bytes t) i ↔
      ∃ p : String, p.toList <+: t.toList ∧ (bytes p).length = i) ∧
    (∀ (limit : Nat) (t : String), Keeps limit t (cut limit t) (bytes (cut limit t))) ∧
    (∀ (m n : Nat) (t : String), cut n (cut m t) = cut (min m n) t) ∧
    (∀ (f : Frame) (r : Record), Keeps textBytes r.text (f.write r).read.text (f.write r).held) ∧
    (∀ (e : Entry) (given : String),
      Keeps nameBytes given (e.rename given).name (e.rename given).held) ∧
    (∀ (e : Entry) (m : Nat) (given : String),
      (e.rename (cut m given)).name = cut (min m nameBytes) given ∧
      cut m (e.rename given).name = cut (min nameBytes m) given) ∧
    (∀ q : Log.Queue, q.Reached → q.Legible) ∧
    (∀ t : Score.Sheet, t.Reached → t.Legible) ∧
    (∀ g : Game, g.Reached → g.scores.Legible) := by
  have htwice (e : Entry) (m : Nat) (given : String) :
      (e.rename (cut m given)).name = cut (min m nameBytes) given ∧
      cut m (e.rename given).name = cut (min nameBytes m) given := by
    rw [e.name_rename, e.name_rename]
    exact ⟨cut_cut m nameBytes given, cut_cut nameBytes m given⟩
  exact ⟨fun _ _ => isBoundary_iff, keeps_cut, cut_cut, Frame.keeps_write, Entry.keeps_rename,
    htwice, fun _ hq => hq.legible, fun _ ht => ht.legible, fun _ hg => hg.scores.legible⟩

-- characters of one, two, three and four bytes, each but the first cut before its last byte
example : [0, 2, 5, 9, 10].map (cut · "aß€😀") = ["", "a", "aß", "aß€", "aß€😀"] := by decide

end Text
end Rota
