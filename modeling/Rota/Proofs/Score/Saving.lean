import Rota.Proofs.Files
import Rota.Proofs.Json.Reading
import Rota.Score.Store

namespace Rota.Score

open Json (Value)

theorem count?_ofNat (n : UInt32) : count? (.ofNat n.toNat) = some n := by
  have hle : n.toNat ≤ UInt32.size - 1 := Nat.le_pred_of_lt n.toNat_lt_size
  rw [count?, Value.nat?_ofNat hle, Option.map_some, UInt32.ofNat_toNat]

theorem Standing.ofValue?_toValue (s : Standing) : ofValue? s.toValue = some s := by
  rw [toValue, Value.record, ofValue?, Value.named?_record]
  simp [Value.single?, ofParts?, Json.text?_ofText, count?_ofNat]

theorem Standing.legible_toValue (s : Standing) : s.toValue.Legible := by
  apply Value.legible_record
  simp [Value.legible_ofText, Value.legible_ofNat]

theorem Board.ofValue?_toValue (b : Board) : ofValue? b.toValue = some b := by
  have hplayers : (b.players.map Standing.toValue).mapM Standing.ofValue? = some b.players :=
    Json.mapM_map_eq_some Standing.ofValue?_toValue b.players
  rw [toValue, Value.record, ofValue?, Value.named?_record]
  simp [Value.single?, ofParts?, count?_ofNat, hplayers]

theorem Board.legible_toValue (b : Board) : b.toValue.Legible := by
  have hplayers : (Value.list (b.players.map Standing.toValue)).Legible := by
    apply Value.Legible.list
    intro v hv
    obtain ⟨s, -, rfl⟩ := List.mem_map.mp hv
    exact s.legible_toValue
  apply Value.legible_record
  simp [Value.legible_ofNat, hplayers]

/-- The text of a score file reads back as the board. -/
theorem Board.parse?_render (b : Board) : parse? b.render = some b := by
  have hblank : ∀ c ∈ "\n".toList, Json.isBlank c := List.forall_mem_singleton.mpr rfl
  rw [parse?, render, Json.parse?_pretty b.legible_toValue hblank]
  exact b.ofValue?_toValue

namespace Store

variable {files : Files} {path : String}

theorem save_file {way : Way} (h : files.locate path = .file way) (b : Board) :
    save files b (.file path) = .ok (.file path, files.write way b.render) := by
  rw [save, saveFile, Files.save, h]
  rfl

/-- A board is saved at a path only if the path leads to a file, there or not. -/
theorem located_of_save {files' : Files} {b : Board} {s : Store}
    (h : save files b (.file path) = .ok (s, files')) : ∃ way, files.locate path = .file way := by
  cases hl : files.locate path with
  | file way => exact ⟨way, rfl⟩
  | folder | full | nowhere =>
    rw [save, saveFile, Files.save, hl] at h
    cases h

theorem load_file {text : String} (h : files.load path = .ok text) {b : Board}
    (hb : Board.parse? text = some b) : load files (.file path) = .ok (some b) := by
  rw [load, loadFile, h]
  dsimp only
  rw [hb]

/-- A board that has been saved in a file is loaded from there as it was, and saving what has been
loaded leaves all files as they are; a board is saved if and only if the path leads to a file. -/
theorem saved_file (files : Files) (path : String) (b : Board) :
    ((∃ s files', save files b (.file path) = .ok (s, files')) ↔
        ∃ way, files.locate path = .file way) ∧
      ∀ s files', save files b (.file path) = .ok (s, files') →
        s = .file path ∧ files'.load path = .ok b.render ∧
          ∃ b', load files' s = .ok (some b') ∧ b' = b ∧ b'.gamesPlayed = b.gamesPlayed ∧
            save files' b' s = .ok (s, files') := by
  refine ⟨⟨?_, ?_⟩, ?_⟩
  · rintro ⟨s, files', h⟩
    exact located_of_save h
  · rintro ⟨way, hl⟩
    exact ⟨_, _, save_file hl b⟩
  · intro s files' h
    obtain ⟨way, hl⟩ := located_of_save h
    rw [save_file hl b] at h
    obtain ⟨rfl, rfl⟩ := Prod.mk.inj (Except.ok.inj h)
    have htext := Files.load_write hl b.render
    refine ⟨rfl, htext, b, load_file htext b.parse?_render, rfl, rfl, ?_⟩
    rw [save_file (Files.locate_write hl way b.render) b, Files.write_write]

theorem saved_file_of_strange_names :
    ∃ (files : Files) (path : String) (b : Board) (s : Store) (files' : Files),
      files = { folders := [[], ["old"]] } ∧ path = "old/../old/scores.json" ∧
      b = ⟨4294967295, [⟨"a \"quoted\" \\ name", 0, 7⟩, ⟨"\t\n\x00\x1f\x7f", 4294967295, 10⟩, ⟨"", 1, 1⟩,
        ⟨"😀é", 2, 3⟩, ⟨"]\x7d", 0, 0⟩, ⟨"Player 5", 5, 4294967295⟩]⟩ ∧
      save files b (.file path) = .ok (s, files') ∧ s = .file path ∧
      ∃ b', load files' s = .ok (some b') ∧ b' = b ∧ b'.gamesPlayed = b.gamesPlayed ∧
        save files' b' s = .ok (s, files') := by
  obtain ⟨hsaved, hloaded⟩ := saved_file { folders := [[], ["old"]] } "old/../old/scores.json"
    ⟨4294967295, [⟨"a \"quoted\" \\ name", 0, 7⟩, ⟨"\t\n\x00\x1f\x7f", 4294967295, 10⟩, ⟨"", 1, 1⟩,
      ⟨"😀é", 2, 3⟩, ⟨"]\x7d", 0, 0⟩, ⟨"Player 5", 5, 4294967295⟩]⟩
  obtain ⟨s, files', h⟩ := hsaved.mpr ⟨["old", "scores.json"], by decide⟩
  obtain ⟨hs, -, hb⟩ := hloaded s files' h
  exact ⟨_, _, _, s, files', rfl, rfl, rfl, h, hs, hb⟩

end Store
end Rota.Score
