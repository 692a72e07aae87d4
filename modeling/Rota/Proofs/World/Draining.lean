import Rota.Proofs.World.Consuming

namespace Rota.World

open Log (Fate Journal Record ahead report successes)

def Beat.isPass : Beat → Bool
  | .pass => true
  | _ => false

/-- How often the consumer has its turn. -/
def passes (beats : List Beat) : Nat := beats.countP Beat.isPass

namespace Scene

variable {time : Nat → Int64} {fate : Nat → Fate} {bare : String} {s : Scene}

/-- The scene once a record has been taken off the queue. -/
def taken (s : Scene) (r : Record) : Scene :=
  { s with
    world := s.world.withQueue s.cell (s.world.queue s.cell).emptied
    journal := { s.journal with popped := s.journal.popped ++ [r] } }

theorem write_of_sink {before : Option String} {text : String}
    (h : s.world.files.Sink s.logger.path (before.map (· ++ text))) (line : String) (f : Fate) :
    ∃ files, s.write line f =
        { s with
          world := { s.world with files }
          logger := { s.logger with
            written := s.logger.written +
              before.elim 0 fun _ => if f = .written then 1 else 0 } } ∧
      files.Sink s.logger.path (before.map (· ++ (text ++ f.trace line))) := by
  cases before with
  | none =>
    refine ⟨s.world.files, ?_, h⟩
    rw [write, h.append_error]
    rfl
  | some before =>
    obtain ⟨files, hfiles, hsink⟩ := h.append (f.trace line)
    refine ⟨files, ?_, ?_⟩
    · rw [write, hfiles]
      rfl
    · rw [Option.map_some, ← String.append_assoc]
      exact hsink

theorem journal_write (s : Scene) (line : String) (f : Fate) :
    (s.write line f).journal = s.journal := by
  rw [write]
  split <;> rfl

theorem pass_of_idle (hidle : s.logger.reading = false) : s.pass time fate = s := by
  rw [pass, if_neg (hidle ▸ Bool.false_ne_true)]

namespace Serves

variable (h : s.Serves bare)
include h

theorem pass_of_nil (hreading : s.logger.reading = true) (hnil : s.journal.waiting = []) :
    s.pass time fate = { s with world := s.world.withQueue s.cell (s.world.queue s.cell) } := by
  have hempty : (s.world.queue s.cell).contents = [] := by
    rw [h.tallied.contents_eq, hnil, List.map_nil]
  rw [pass, if_pos hreading, Log.Queue.pop_of_nil h.tallied.inStep hempty]

section cons

variable {r : Record} {rest : List Record} (hcons : s.journal.waiting = r :: rest)
include hcons

theorem contents_of_cons :
    (s.world.queue s.cell).contents = r.kept :: rest.map Record.kept := by
  rw [h.tallied.contents_eq, hcons, List.map_cons]

theorem taken : (s.taken r.kept).Serves bare :=
  h.withQueue (h.tallied.emptied (h.contents_of_cons hcons))

theorem pass_of_marker (hreading : s.logger.reading = true) (hkind : r.kind = .shutdown) :
    s.pass time fate = { s.taken r.kept with logger := { s.logger with reading := false } } := by
  rw [pass, if_pos hreading,
    (Log.Queue.pop_of_cons h.tallied.inStep (h.contents_of_cons hcons)).1]
  have hkept : r.kept.kind = .shutdown := hkind
  dsimp only
  rw [if_pos hkept]
  rfl

theorem pass_of_message (time : Nat → Int64) (fate : Nat → Fate)
    (hreading : s.logger.reading = true) (hkind : r.kind = .message) :
    s.pass time fate = (s.taken r.kept).write
      (Log.line (time s.journal.popped.length) r.kept ++ "\n") (fate s.journal.popped.length) := by
  have hnot : r.kept.kind ≠ .shutdown := by
    change r.kind ≠ .shutdown
    rw [hkind]
    decide
  rw [pass, if_pos hreading,
    (Log.Queue.pop_of_cons h.tallied.inStep (h.contents_of_cons hcons)).1]
  dsimp only
  rw [if_neg hnot]
  rfl

end cons

/-- A pass takes a record if the consumer still reads and there is one, whatever becomes of the
writing. -/
theorem journal_pass (time : Nat → Int64) (fate : Nat → Fate) :
    (s.pass time fate).journal.accepted = s.journal.accepted ∧
    (s.pass time fate).journal.popped.length = s.journal.popped.length +
      if s.logger.reading = true ∧ s.journal.waiting ≠ [] then 1 else 0 := by
  cases hreading : s.logger.reading with
  | false =>
    rw [pass_of_idle hreading]
    exact ⟨rfl, rfl⟩
  | true =>
    cases hwaiting : s.journal.waiting with
    | nil =>
      rw [h.pass_of_nil hreading hwaiting]
      exact ⟨rfl, rfl⟩
    | cons r rest =>
      have hjournal : (s.pass time fate).journal = (s.taken r.kept).journal := by
        cases hkind : r.kind with
        | shutdown => rw [h.pass_of_marker hwaiting hreading hkind]
        | message => rw [h.pass_of_message hwaiting time fate hreading hkind, journal_write]
      rw [hjournal, if_pos ⟨rfl, List.cons_ne_nil r rest⟩]
      exact ⟨rfl, List.length_append⟩

end Serves

/-- A consumer that has kept to its queue: it has taken records up to the first marker at most, and
has written the messages among them behind what the file held before. Nothing is held by the device
that takes no data. -/
structure Minds (time : Nat → Int64) (fate : Nat → Fate) (bare : String) (before : Option String)
    (s : Scene) : Prop where
  serves : s.Serves bare
  extent : s.journal.popped.length =
    (ahead s.journal.popped).length + if s.logger.reading then 0 else 1
  sink : s.world.files.Sink s.logger.path
    (before.map (· ++ report time fate 0 (ahead s.journal.popped)))
  written : s.logger.written =
    before.elim 0 fun _ => successes fate (ahead s.journal.popped).length

namespace Minds

variable {before : Option String} (h : s.Minds time fate bare before)
include h

/-- A consumer that still reads has taken nothing but messages. -/
theorem ahead_popped (hreading : s.logger.reading = true) :
    ahead s.journal.popped = s.journal.popped := by
  have hextent := h.extent
  rw [if_pos hreading] at hextent
  exact (List.takeWhile_prefix _).eq_of_length hextent.symm

theorem fed {t : Scene} (hserves : t.Serves bare) (hfed : s.Fed t) :
    t.Minds time fate bare before where
  serves := hserves
  extent := by
    rw [hfed.popped, hfed.logger]
    exact h.extent
  sink := by
    rw [hfed.popped, hfed.logger, hfed.files]
    exact h.sink
  written := by
    rw [hfed.popped, hfed.logger]
    exact h.written

section cons

variable (hreading : s.logger.reading = true) {r : Record} {rest : List Record}
  (hcons : s.journal.waiting = r :: rest)
include hreading hcons

theorem pass_of_marker (hkind : r.kind = .shutdown) :
    (s.pass time fate).Minds time fate bare before := by
  have hahead : ahead (s.taken r.kept).journal.popped = ahead s.journal.popped := by
    have hmessages := Log.ahead_eq_self_iff.mp (h.ahead_popped hreading)
    rw [h.ahead_popped hreading]
    exact Log.ahead_append_of_marker (r := r.kept) hmessages hkind []
  have htaken := h.serves.taken hcons
  rw [h.serves.pass_of_marker hcons hreading hkind]
  refine ⟨⟨htaken.quiet, htaken.housed, htaken.tallied⟩, ?_, ?_, ?_⟩
  · rw [hahead, h.ahead_popped hreading]
    exact List.length_append
  · rw [hahead]
    exact h.sink
  · rw [hahead]
    exact h.written

theorem pass_of_message (hkind : r.kind = .message) :
    (s.pass time fate).Minds time fate bare before := by
  have hmessages := Log.ahead_eq_self_iff.mp (h.ahead_popped hreading)
  have hahead : ahead (s.taken r.kept).journal.popped = s.journal.popped ++ [r.kept] := by
    refine Log.ahead_eq_self_iff.mpr fun m hm => ?_
    rcases List.mem_append.mp hm with hm | hm
    · exact hmessages m hm
    · rw [List.mem_singleton.mp hm]
      exact hkind
  have hsink := h.sink
  have hwritten := h.written
  rw [h.ahead_popped hreading] at hsink hwritten
  have htaken := h.serves.taken hcons
  obtain ⟨files, hwrite, hsink'⟩ := write_of_sink (s := s.taken r.kept) hsink
    (Log.line (time s.journal.popped.length) r.kept ++ "\n") (fate s.journal.popped.length)
  rw [h.serves.pass_of_message hcons time fate hreading hkind, hwrite]
  refine ⟨⟨htaken.quiet, htaken.housed, htaken.tallied⟩, ?_, ?_, ?_⟩
  · dsimp only
    rw [hahead]
    change _ = _ + if s.logger.reading = true then 0 else 1
    rw [if_pos hreading]
    rfl
  · dsimp only
    rw [hahead, Log.report_concat, Nat.zero_add]
    exact hsink'
  · dsimp only
    rw [hahead, List.length_append, List.length_singleton, Log.successes_succ]
    change s.logger.written + _ = _
    rw [hwritten]
    cases before <;> rfl

end cons

theorem pass : (s.pass time fate).Minds time fate bare before := by
  cases hreading : s.logger.reading with
  | false =>
    rw [pass_of_idle hreading]
    exact h
  | true =>
    cases hwaiting : s.journal.waiting with
    | nil =>
      rw [h.serves.pass_of_nil hreading hwaiting]
      exact ⟨h.serves.withQueue h.serves.tallied, h.extent, h.sink, h.written⟩
    | cons r rest =>
      cases hkind : r.kind with
      | shutdown => exact h.pass_of_marker hreading hwaiting hkind
      | message => exact h.pass_of_message hreading hwaiting hkind

theorem after (b : Beat) : (s.after time fate b).Minds time fate bare before := by
  by_cases hpass : b = .pass
  · rw [hpass]
    exact h.pass
  · obtain ⟨hserves, hfed⟩ := h.serves.fed time fate hpass
    exact h.fed hserves hfed

theorem afterAll (beats : List Beat) :
    (s.afterAll time fate beats).Minds time fate bare before := by
  induction beats generalizing s with
  | nil => exact h
  | cons b beats ih => exact ih (h.after b)

end Minds

variable {before : Option String}

/-- The messages that the consumer has taken, whose lines it has written or tried to write. -/
def seen (s : Scene) : List Record := (ahead s.journal.accepted).take s.journal.popped.length

/-- What the consumer of a queue has done, whose file held the text `before` when it began, and what
it will do. -/
structure Drained (time : Nat → Int64) (fate : Nat → Fate) (before : Except OsError String)
    (s : Scene) : Prop where
  popped : s.journal.popped =
    (s.journal.accepted.take s.journal.popped.length).map Record.kept
  queued : (s.world.queue s.cell).contents =
    (s.journal.accepted.drop s.journal.popped.length).map Record.kept
  reading : s.logger.reading = true → s.journal.popped.length ≤ (ahead s.journal.accepted).length
  /-- A consumer that has stopped has taken the first marker, and nothing behind it. -/
  stopped : s.logger.reading = false →
    s.journal.popped.length = (ahead s.journal.accepted).length + 1
  load : s.world.files.load s.logger.path =
    before.map (· ++ report time fate 0 (s.seen.map Record.kept))
  /-- Only what gets into the file counts. -/
  written : s.logger.written = if before.isOk then successes fate s.seen.length else 0
  /-- A marker in the queue ends the consumer's work as soon as the consumer has had its turn often
  enough, whatever else goes on and whichever lines do not get into the file. -/
  ends : ∀ beats, (ahead s.journal.accepted).length < s.journal.accepted.length →
    (ahead s.journal.accepted).length + 1 ≤ s.journal.popped.length + passes beats →
      (s.afterAll time fate beats).logger.reading = false ∧
        (s.afterAll time fate beats).journal.popped.length =
          (ahead s.journal.accepted).length + 1
  /-- There is room for the marker after each turn of a consumer that has not stopped. -/
  room : s.logger.reading = true → ∀ r,
    ((s.pass time fate).after time fate (.offer r)).journal.accepted = s.journal.accepted ++ [r]

theorem Serves.prefix_after (h : s.Serves bare) (time : Nat → Int64) (fate : Nat → Fate)
    (b : Beat) :
    s.journal.accepted <+: (s.after time fate b).journal.accepted := by
  by_cases hpass : b = .pass
  · rw [hpass]
    exact (h.journal_pass time fate).1.symm ▸ List.prefix_rfl
  · exact (h.fed time fate hpass).2.accepted

theorem Serves.accepted_after_offer (h : s.Serves bare)
    (hroom : s.journal.waiting.length < Log.capacity) (r : Record) :
    (s.after time fate (.offer r)).journal.accepted = s.journal.accepted ++ [r] := by
  obtain ⟨q, hrun, -⟩ := Serving.offer h r
  rw [after, hrun, decide_eq_true hroom]
  rfl

theorem Serves.length_waiting_pass (h : s.Serves bare) (time : Nat → Int64) (fate : Nat → Fate)
    (hreading : s.logger.reading = true) :
    (s.pass time fate).journal.waiting.length = s.journal.waiting.length - 1 := by
  obtain ⟨haccepted, hpopped⟩ := h.journal_pass time fate
  have hlength : s.journal.waiting.length =
      s.journal.accepted.length - s.journal.popped.length := List.length_drop
  rw [Journal.waiting, List.length_drop, haccepted, hpopped, hlength]
  by_cases hwaiting : s.journal.waiting = []
  · rw [hwaiting, List.length_nil] at hlength
    rw [if_neg fun hn => hn.2 hwaiting]
    omega
  · rw [if_pos ⟨hreading, hwaiting⟩]
    omega

theorem Serves.room (h : s.Serves bare) (time : Nat → Int64) (fate : Nat → Fate)
    (hreading : s.logger.reading = true) :
    (s.pass time fate).journal.waiting.length < Log.capacity := by
  have hle := h.tallied.length_waiting_le
  have hpos : 0 < Log.capacity := by decide
  rw [h.length_waiting_pass time fate hreading]
  omega

namespace Minds

variable (h : s.Minds time fate bare before)
include h

theorem ahead_popped_eq : ahead s.journal.popped = s.seen.map Record.kept := by
  have hpopped := congrArg ahead h.serves.tallied.popped_eq
  rw [Log.ahead_map_kept, Log.ahead_take] at hpopped
  exact hpopped

theorem length_ahead_popped : (ahead s.journal.popped).length =
    min s.journal.popped.length (ahead s.journal.accepted).length := by
  rw [h.ahead_popped_eq, List.length_map, seen, List.length_take]

theorem popped_le (hreading : s.logger.reading = true) :
    s.journal.popped.length ≤ (ahead s.journal.accepted).length := by
  have hextent := h.extent
  rw [if_pos hreading, h.length_ahead_popped] at hextent
  omega

theorem popped_eq (hstopped : s.logger.reading = false) :
    s.journal.popped.length = (ahead s.journal.accepted).length + 1 := by
  have hextent := h.extent
  rw [hstopped, h.length_ahead_popped] at hextent
  simp only [Bool.false_eq_true, if_false] at hextent
  omega

/-- Each turn of the consumer brings it nearer to a marker, and nothing takes it away. -/
theorem min_le_popped_after (b : Beat)
    (hmarker : (ahead s.journal.accepted).length < s.journal.accepted.length) :
    min ((ahead s.journal.accepted).length + 1)
        (s.journal.popped.length + if b.isPass then 1 else 0) ≤
      (s.after time fate b).journal.popped.length := by
  by_cases hpass : b = .pass
  · have hpopped := (h.serves.journal_pass time fate).2
    rw [hpass, Scene.after, hpopped]
    cases hreading : s.logger.reading with
    | false =>
      have hend := h.popped_eq hreading
      omega
    | true =>
      have hle := h.popped_le hreading
      have hwaiting : s.journal.waiting ≠ [] := by
        rw [Journal.waiting, Ne, List.drop_eq_nil_iff]
        omega
      rw [if_pos (show Beat.isPass .pass = true from rfl), if_pos ⟨rfl, hwaiting⟩]
      exact Nat.min_le_right _ _
  · have hnot : b.isPass ≠ true := by
      cases b with
      | pass => exact absurd rfl hpass
      | use | offer | tell => exact Bool.false_ne_true
    rw [(h.serves.fed time fate hpass).2.popped, if_neg hnot]
    exact Nat.min_le_right _ _

theorem ends (beats : List Beat)
    (hmarker : (ahead s.journal.accepted).length < s.journal.accepted.length)
    (henough : (ahead s.journal.accepted).length + 1 ≤ s.journal.popped.length + passes beats) :
    (s.afterAll time fate beats).logger.reading = false ∧
      (s.afterAll time fate beats).journal.popped.length =
        (ahead s.journal.accepted).length + 1 := by
  induction beats generalizing s with
  | nil =>
    have henough : (ahead s.journal.accepted).length + 1 ≤ s.journal.popped.length := henough
    cases hreading : s.logger.reading with
    | false => exact ⟨hreading, h.popped_eq hreading⟩
    | true =>
      have hle := h.popped_le hreading
      omega
  | cons b beats ih =>
    have hprefix := h.serves.prefix_after time fate b
    have hahead := Log.ahead_of_prefix hprefix hmarker
    have hnearer := h.min_le_popped_after b hmarker
    rw [passes, List.countP_cons] at henough
    rw [← hahead]
    apply ih (h.after b)
    · rw [hahead]
      exact Nat.lt_of_lt_of_le hmarker hprefix.length_le
    · rw [hahead, passes]
      omega

theorem drained : s.Drained time fate (before.elim (.error .invalid) .ok) where
  popped := h.serves.tallied.popped_eq
  queued := h.serves.tallied.contents_eq
  reading := h.popped_le
  stopped := h.popped_eq
  load := by
    rw [h.sink.load, h.ahead_popped_eq]
    cases before <;> rfl
  written := by
    rw [h.written, h.ahead_popped_eq, List.length_map]
    cases before <;> rfl
  ends beats hmarker henough := h.ends beats hmarker henough
  room hreading r := by
    have haccepted := (h.serves.journal_pass time fate).1
    rw [h.pass.serves.accepted_after_offer (h.serves.room time fate hreading) r, haccepted]

end Minds

end Scene
end Rota.World
