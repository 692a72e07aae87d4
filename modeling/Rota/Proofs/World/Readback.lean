import Rota.Proofs.Log.Lines
import Rota.Proofs.World.Stopping

namespace Rota.World

open Log (OneLineEach Record ahead)

theorem successes_written (count : Nat) : Log.successes (fun _ => .written) count = count := by
  induction count with
  | zero => rfl
  | succ count ih => rw [Log.successes_succ, ih, if_pos rfl]

/-- What a consumer has written to an empty file has one line for each record if and only if no text
has a line break of its own. -/
theorem Scene.Minds.oneLineEach_iff {time : Nat → Int64} {bare : String} {s : Scene}
    (h : s.Minds time (fun _ => .written) bare (some ""))
    (hfits : ∀ r ∈ s.seen, (Text.bytes r.text).length ≤ Log.textBytes) :
    ∃ text, s.world.files.load s.logger.path = .ok text ∧ s.logger.written = s.seen.length ∧
      (OneLineEach text s.seen ↔ ∀ r ∈ s.seen, '\n' ∉ r.text.toList) := by
  have hkept : s.seen.map Record.kept = s.seen :=
    (List.map_congr_left fun r hr => Record.kept_of_fits (hfits r hr)).trans (List.map_id s.seen)
  have hahead : ahead s.journal.popped = s.seen := h.ahead_popped_eq.trans hkept
  refine ⟨Log.report time (fun _ => .written) 0 s.seen, ?_, ?_,
    Log.oneLineEach_report_iff time s.seen⟩
  · rw [h.sink.load, hahead, Option.map_some, String.empty_append]
    rfl
  · rw [h.written, hahead]
    exact successes_written s.seen.length

/-- Whatever is told to a queue, in texts that records have room for: the log that its consumer
writes to an empty file reads back line by line as the records if and only if no text has a line
break of its own. -/
theorem oneLineEach_afterAll_iff {w : World} (hw : w.Quiet) {name bare path : String}
    {files : Files} (hb : Region.bareName? name = some bare) (hn : w.space.entry? bare = none)
    (hq : w.queues.get? w.space.cells.length = none)
    (hf : w.files.openToAppend path = .ok files) (hempty : files.load path = .ok "")
    (label : String) :
    ∃ start, (createQueue label name).run.run w = (.ok (), start) ∧
      start.queueAt? label = some w.space.cells.length ∧
      ∀ (uses : List Use) (m : Region.Mapping) (owns : Bool), m.cell = w.space.cells.length →
        ∃ l opened, l = { queue := m, path, ownsName := owns } ∧
          (openLogger m path owns).run.run (usedAll m.cell start uses).1 = (.ok l, opened) ∧
          ∀ time beats,
            let t := Scene.afterAll time (fun _ => .written)
              ⟨opened, (usedAll m.cell start uses).2.onward, l⟩ beats
            (∀ r ∈ t.seen, (Text.bytes r.text).length ≤ Log.textBytes) →
              ∃ text, t.world.files.load path = .ok text ∧ t.logger.written = t.seen.length ∧
                (OneLineEach text t.seen ↔ ∀ r ∈ t.seen, '\n' ∉ r.text.toList) := by
  obtain ⟨start, hrun, hlabel, sink, hsink, hall⟩ := exists_minds hw hb hn hq hf label
  have hblank : sink = some "" := by
    rw [hsink.load] at hempty
    cases sink with
    | none => cases hempty
    | some text => exact congrArg some (Except.ok.inj hempty)
  refine ⟨start, hrun, hlabel, fun uses m owns hm => ?_⟩
  obtain ⟨l, opened, rfl, hopen, hminds⟩ := hall uses m owns hm
  refine ⟨_, opened, rfl, hopen, ?_⟩
  intro time beats t hfits
  have ht : t.Minds time (fun _ => .written) bare (some "") :=
    hblank ▸ (hminds time _).afterAll beats
  have hpath : t.logger.path = path := by
    change t.logger.begun.path = path
    rw [Scene.begun_afterAll]
    rfl
  rw [← hpath]
  exact ht.oneLineEach_iff hfits

theorem oneLineEach_afterAll_iff_of_brackets :
    ∃ (files : Files) (told : Record) (beats : List Beat),
      files = { texts := ⟨[(["game.log"], "")]⟩ } ∧
      told = .message 2 0 "ünter [7] rolls 6 ] [" ∧
      beats = [.pass, .tell "ünter [7] rolls 6 ] [", .tell "", .pass, .pass] ∧
      Quiet {} ∧ Region.bareName? "/q" = some "q" ∧ Region.Space.entry? {} "q" = none ∧
      ({} : World).queues.get? 0 = none ∧
      ({} : World).files.openToAppend "game.log" = .ok files ∧ files.load "game.log" = .ok "" ∧
      ∃ start opened, (createQueue "a" "/q").run.run {} = (.ok (), start) ∧
        (openLogger ⟨"q", 0, 10696⟩ "game.log" false).run.run (usedAll 0 start []).1 =
          (.ok { queue := ⟨"q", 0, 10696⟩, path := "game.log", ownsName := false }, opened) ∧
        ∃ t text, t = Scene.afterAll (fun _ => 0) (fun _ => .written)
            ⟨opened, (usedAll 0 start []).2.onward,
              { queue := ⟨"q", 0, 10696⟩, path := "game.log", ownsName := false }⟩ beats ∧
          t.seen = [told, .message 2 0 ""] ∧
          (∀ r ∈ t.seen, (Text.bytes r.text).length ≤ Log.textBytes) ∧
          t.world.files.load "game.log" = .ok text ∧
          OneLineEach text [told, .message 2 0 ""] := by
  have hquiet : Quiet {} := fun _ _ _ h => nomatch h
  have hbare : Region.bareName? "/q" = some "q" := by decide +kernel
  obtain ⟨files, hfiles⟩ : ∃ files : Files, files = { texts := ⟨[(["game.log"], "")]⟩ } := ⟨_, rfl⟩
  obtain ⟨told, htold⟩ : ∃ told : Record, told = .message 2 0 "ünter [7] rolls 6 ] [" := ⟨_, rfl⟩
  obtain ⟨beats, hbeats⟩ : ∃ beats : List Beat,
      beats = [.pass, .tell "ünter [7] rolls 6 ] [", .tell "", .pass, .pass] := ⟨_, rfl⟩
  have hopen : ({} : World).files.openToAppend "game.log" = .ok files := by
    rw [hfiles]
    decide +kernel
  have hempty : files.load "game.log" = .ok "" := by
    rw [hfiles]
    decide +kernel
  obtain ⟨start, hrun, -, hall⟩ := oneLineEach_afterAll_iff hquiet hbare rfl rfl hopen hempty "a"
  have hstart : start = ((createQueue "a" "/q").run.run {}).2 := (congrArg Prod.snd hrun).symm
  obtain ⟨l, opened, rfl, hopened, hread⟩ := hall [] ⟨"q", 0, 10696⟩ false rfl
  have hopened' : opened = ((openLogger ⟨"q", 0, 10696⟩ "game.log" false).run.run
      (usedAll 0 start []).1).2 := (congrArg Prod.snd hopened).symm
  have hseen : (Scene.afterAll (fun _ => 0) (fun _ => .written)
      ⟨opened, (usedAll 0 start []).2.onward,
        { queue := ⟨"q", 0, 10696⟩, path := "game.log", ownsName := false }⟩ beats).seen =
          [told, .message 2 0 ""] := by
    rw [hopened', hstart, hbeats, htold]
    decide +kernel
  have hfits : ∀ r ∈ [told, .message 2 0 ""], (Text.bytes r.text).length ≤ Log.textBytes := by
    rw [htold]
    decide +kernel
  have hplain : ∀ r ∈ [told, .message 2 0 ""], '\n' ∉ r.text.toList := by
    rw [htold]
    decide +kernel
  obtain ⟨text, hload, -, hiff⟩ := hread (fun _ => 0) beats (hseen.symm ▸ hfits)
  refine ⟨files, told, beats, hfiles, htold, hbeats, hquiet, hbare, rfl, rfl, hopen, hempty, start,
    opened, hrun, hopened, _, text, rfl, hseen, hseen.symm ▸ hfits, hload, ?_⟩
  rw [hseen] at hiff
  exact hiff.mpr hplain

/-- A text of two lines makes two lines of the log. -/
theorem not_oneLineEach_of_line_break :
    ∃ (r : Record) (log : Act Logger) (text : String),
      r = .message 2 0 "one\ntwo" ∧
      log = (do
        createQueue "a" "/q"
        let _ ← tryPush "a" r
        let m ← queueAt "a"
        let l ← openLogger m "game.log" false
        consume l) ∧
      text = "1970-01-01 00:00:00.000 [2] one\ntwo\n" ∧
      (log.run.run {}).1.map (·.written) = .ok 1 ∧
      (log.run.run {}).2.files.load "game.log" = .ok text ∧
      (Text.bytes r.text).length ≤ Log.textBytes ∧ ¬OneLineEach text [r] := by
  refine ⟨_, _, _, rfl, rfl, rfl, ?_, ?_, ?_, ?_⟩
  · decide +kernel
  · decide +kernel
  · decide +kernel
  · intro hlines
    exact hlines.not_mem _ List.mem_cons_self (by decide)

end Rota.World
