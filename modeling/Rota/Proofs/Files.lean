import Rota.Files
import Mathlib.Tactic.Common

namespace Rota.Files

/-- What lines written to an opened path get to: the end of a file that holds so much, or the device
that takes no data. -/
inductive Sink (fs : Files) (path : String) : Option String → Prop
  | file {way : Way} {text : String} (hl : fs.locate path = .file way)
      (hr : fs.read? way = some text) : Sink fs path (some text)
  | full (hl : fs.locate path = .full) : Sink fs path none

theorem follow_write {fs : Files} {here : Way} {parts : List String} {way : Way}
    (h : fs.follow here parts = .file way) (other : Way) (text : String) :
    (fs.write other text).follow here parts = .file way := by
  induction parts generalizing here with
  | nil => cases h
  | cons part rest ih =>
    have hfolders : (fs.write other text).folders = fs.folders := rfl
    unfold follow at h ⊢
    dsimp only at h ⊢
    rw [hfolders]
    split_ifs at h ⊢
    · exact ih h
    · exact ih h
    · exact ih h
    · exact h

theorem locate_write {fs : Files} {path : String} {way : Way} (h : fs.locate path = .file way)
    (other : Way) (text : String) : (fs.write other text).locate path = .file way := by
  unfold locate at h ⊢
  split_ifs at h ⊢
  split at h
  · exact follow_write h other text
  · exact follow_write h other text

theorem read?_write_self (fs : Files) (way : Way) (text : String) :
    (fs.write way text).read? way = some text :=
  Register.get?_set_self fs.texts way text

theorem write_write (fs : Files) (way : Way) (text text' : String) :
    (fs.write way text).write way text' = fs.write way text' := by
  rw [write, write, write, Register.set_set]

/-- What has been put at the end of a path is found there. -/
theorem load_write {fs : Files} {path : String} {way : Way} (h : fs.locate path = .file way)
    (text : String) : (fs.write way text).load path = .ok text := by
  rw [load, locate_write h]
  dsimp only
  rw [read?_write_self]

/-- A path that has been opened leads to the end of a file or to the device. -/
theorem sink_openToAppend {fs opened : Files} {path : String}
    (h : fs.openToAppend path = .ok opened) : ∃ sink, opened.Sink path sink := by
  unfold openToAppend at h
  cases hl : fs.locate path with
  | folder => rw [hl] at h; cases h
  | nowhere e => rw [hl] at h; cases h
  | full =>
    rw [hl] at h
    exact ⟨none, .full (Except.ok.inj h ▸ hl)⟩
  | file way =>
    rw [hl] at h
    rw [← Except.ok.inj h]
    cases hr : fs.read? way with
    | none => exact ⟨some "", .file (locate_write hl way "") (read?_write_self fs way "")⟩
    | some text => exact ⟨some text, .file hl hr⟩

namespace Sink

variable {fs : Files} {path : String}

theorem load {sink : Option String} (h : fs.Sink path sink) :
    fs.load path = sink.elim (.error .invalid) .ok := by
  cases h with
  | file hl hr =>
    rw [Files.load, hl]
    dsimp only
    rw [hr]
    rfl
  | full hl =>
    rw [Files.load, hl]
    rfl

theorem append {before : String} (h : fs.Sink path (some before)) (text : String) :
    ∃ fs', fs.append path text = .ok fs' ∧ fs'.Sink path (some (before ++ text)) := by
  cases h with
  | @file way _ hl hr =>
    refine ⟨fs.write way (before ++ text), ?_, .file (locate_write hl _ _) (read?_write_self _ _ _)⟩
    rw [Files.append, hl]
    dsimp only
    rw [hr]
    rfl

theorem append_error (h : fs.Sink path none) (text : String) :
    fs.append path text = .error .noSpace := by
  cases h with
  | full hl => rw [Files.append, hl]

end Sink
end Rota.Files
