import Rota.Proofs.World.Regions

namespace Rota.World

open Region (Mapping bareName?)

/-- The call is to map the region `bare` under a label. -/
def RegionCall.Maps (c : RegionCall) (label bare : String) : Prop :=
  ∃ name, bareName? name = some bare ∧
    (c = .attach label name ∨ ∃ size, c = .create label name size)

/-- The call is to free the name `bare`. -/
def RegionCall.Frees (w : World) (c : RegionCall) (bare : String) : Prop :=
  ∃ name, bareName? name = some bare ∧ (c = .remove name ∨
    ∃ label m, c = .destroy label ∧ w.mappingAt? label = some m ∧ m.name = name)

section outcome

variable {w : World} {c : RegionCall} {r : Except Fault RegionAnswer} {sp : Region.Space}
  {objects : String → Option Object}

theorem Outcome.altered (h : w.Outcome c r sp objects) : w.space.Altered sp := by
  cases h with
  | failed => exact .same
  | created label _ hn hpos => exact .made _ _ hn hpos
  | found => exact .same
  | attached => exact .same
  | read => exact .same
  | wrote start bytes hm => exact .written _ _
  | dropped => exact .same
  | freed hb => exact .freed _
  | destroyed hm hb => exact .freed _
  | unmapped => exact .same

/-- What stands under a label after a call stood there before, or is a mapping that this call has
made of the region of its name. -/
theorem Outcome.object_cases (h : w.Outcome c r sp objects) {label : String} {o : Object}
    (ho : objects label = some o) :
    w.objectAt? label = some o ∨ ∃ m a bare, o = .region m ∧ r = .ok a ∧ c.Maps label bare ∧
      sp.entry? bare = some (.memory m.cell) := by
  -- a label that is given something new, or nothing
  have hnew {l : String} {m : Mapping}
      (ho : Function.update w.objectAt? l (some (.region m)) label = some o) :
      label = l ∧ o = .region m ∨ w.objectAt? label = some o := by
    rw [Function.update_apply] at ho
    split_ifs at ho with hl
    · exact .inl ⟨hl, (Option.some.inj ho).symm⟩
    · exact .inr ho
  have hgone {l : String} (ho : Function.update w.objectAt? l none label = some o) :
      w.objectAt? label = some o := by
    rw [Function.update_apply] at ho
    split_ifs at ho
    exact ho
  cases h with
  | failed => exact .inl ho
  | @created l name bare size hb hn hpos =>
    rcases hnew ho with ⟨rfl, rfl⟩ | hold
    · exact .inr ⟨_, _, bare, rfl, rfl, ⟨name, hb, .inr ⟨size, rfl⟩⟩,
        w.space.entry?_made_self bare size⟩
    · exact .inl hold
  | @found l name bare cell size hb hn =>
    rcases hnew ho with ⟨rfl, rfl⟩ | hold
    · exact .inr ⟨_, _, bare, rfl, rfl, ⟨name, hb, .inr ⟨size, rfl⟩⟩, hn⟩
    · exact .inl hold
  | @attached l name bare cell size hb hn =>
    rcases hnew ho with ⟨rfl, rfl⟩ | hold
    · exact .inr ⟨_, _, bare, rfl, rfl, ⟨name, hb, .inl rfl⟩, hn⟩
    · exact .inl hold
  | read => exact .inl ho
  | wrote => exact .inl ho
  | dropped => exact .inl (hgone ho)
  | freed => exact .inl ho
  | destroyed => exact .inl (hgone ho)
  | unmapped => exact .inl (hgone ho)

/-- A name stays as it is, or comes into use, or goes out of use. -/
theorem Outcome.entry_cases (h : w.Outcome c r sp objects) (bare : String) :
    sp.entry? bare = w.space.entry? bare ∨
      (w.space.entry? bare = none ∧ ∃ label name size a, c = .create label name size ∧
        bareName? name = some bare ∧ r = .ok a) ∨
      (sp.entry? bare = none ∧ c.Frees w bare ∧ ∃ a, r = .ok a) := by
  cases h with
  | @created label name other size hb hn =>
    by_cases he : bare = other
    · subst he
      exact .inr (.inl ⟨hn, label, name, size, _, rfl, hb, rfl⟩)
    · exact .inl (w.space.entry?_made_of_ne size he)
  | @freed name other hb =>
    by_cases he : bare = other
    · subst he
      exact .inr (.inr ⟨w.space.entry?_unbind_self bare, ⟨name, hb, .inl rfl⟩, _, rfl⟩)
    · exact .inl (w.space.entry?_unbind_of_ne he)
  | @destroyed label other m hm hb =>
    by_cases he : bare = other
    · subst he
      exact .inr (.inr ⟨w.space.entry?_unbind_self bare,
        ⟨m.name, hb, .inr ⟨label, m, rfl, hm, rfl⟩⟩, _, rfl⟩)
    · exact .inl (w.space.entry?_unbind_of_ne he)
  | failed => exact .inl rfl
  | found => exact .inl rfl
  | attached => exact .inl rfl
  | read => exact .inl rfl
  | wrote => exact .inl rfl
  | dropped => exact .inl rfl
  | unmapped => exact .inl rfl

theorem Outcome.appears (h : w.Outcome c r sp objects) {bare : String}
    (hn : w.space.entry? bare = none) (hs : sp.entry? bare ≠ none) :
    ∃ label name size a, c = .create label name size ∧ bareName? name = some bare ∧ r = .ok a := by
  rcases h.entry_cases bare with hsame | ⟨-, hcreate⟩ | ⟨hnone, -⟩
  · exact absurd (hsame.trans hn) hs
  · exact hcreate
  · exact absurd hnone hs

theorem Outcome.vanishes (h : w.Outcome c r sp objects) {bare : String}
    (hs : w.space.entry? bare ≠ none) (hn : sp.entry? bare = none) :
    c.Frees w bare ∧ ∃ a, r = .ok a := by
  rcases h.entry_cases bare with hsame | ⟨hnone, -⟩ | ⟨-, hfrees⟩
  · exact absurd (hsame.symm.trans hn) hs
  · exact absurd hnone hs
  · exact hfrees

/-- What stays is the memory that there was, unless it is written to. -/
theorem Outcome.memory_eq (h : w.Outcome c r sp objects)
    (hc : ∀ label start bytes, c ≠ .write label start bytes) {cell : Nat}
    (hmade : cell < w.space.cells.length) : sp.memory cell = w.space.memory cell := by
  cases h with
  | @created label name bare size => exact w.space.memory_made_of_lt bare size hmade
  | wrote start bytes => exact absurd rfl (hc _ start bytes)
  | failed => rfl
  | found => rfl
  | attached => rfl
  | read => rfl
  | dropped => rfl
  | freed => rfl
  | destroyed => rfl
  | unmapped => rfl

theorem Outcome.freed_of_frees (h : w.Outcome c r sp objects) {bare : String}
    (hf : c.Frees w bare) {a : RegionAnswer} (ha : r = .ok a) : sp.entry? bare = none := by
  obtain ⟨name, hb, rfl | ⟨label, m, rfl, hm, rfl⟩⟩ := hf
  · cases h with
    | failed => cases ha
    | @freed _ other ho =>
      rw [hb] at ho
      rw [Option.some.inj ho, Region.Space.entry?_unbind_self]
  · cases h with
    | failed => cases ha
    | unmapped => cases ha
    | @destroyed _ other m' hm' ho =>
      rw [hm] at hm'
      rw [← Option.some.inj hm', hb] at ho
      rw [Option.some.inj ho, Region.Space.entry?_unbind_self]

theorem Outcome.unmapped_of (h : w.Outcome c r sp objects) {label : String}
    (hc : c.Unmaps label) : (objects label).bind Object.region? = none := by
  cases hc with
  | drop =>
    cases h with
    | failed f hm => exact hm label (.drop label)
    | dropped => rw [Function.update_self, Option.bind_none]
  | destroy =>
    cases h with
    | failed f hm => exact hm label (.destroy label)
    | destroyed => rw [Function.update_self, Option.bind_none]
    | unmapped => rw [Function.update_self, Option.bind_none]

theorem Outcome.object_eq (h : w.Outcome c r sp objects) {label : String}
    (hmaps : ∀ bare, ¬ c.Maps label bare) (hunmaps : ¬ c.Unmaps label) :
    objects label = w.objectAt? label := by
  cases h with
  | @created l name bare size hb =>
    refine Function.update_of_ne (fun hl => hmaps bare ?_) _ _
    exact ⟨name, hb, .inr ⟨size, by rw [hl]⟩⟩
  | @found l name bare cell size hb =>
    refine Function.update_of_ne (fun hl => hmaps bare ?_) _ _
    exact ⟨name, hb, .inr ⟨size, by rw [hl]⟩⟩
  | @attached l name bare cell size hb =>
    refine Function.update_of_ne (fun hl => hmaps bare ?_) _ _
    exact ⟨name, hb, .inl (by rw [hl])⟩
  | dropped l => exact Function.update_of_ne (fun hl => hunmaps (by rw [hl]; exact .drop l)) _ _
  | @destroyed l => exact Function.update_of_ne (fun hl => hunmaps (by rw [hl]; exact .destroy l)) _ _
  | unmapped l => exact Function.update_of_ne (fun hl => hunmaps (by rw [hl]; exact .destroy l)) _ _
  | failed => rfl
  | read => rfl
  | wrote => rfl
  | freed => rfl

theorem Outcome.of_error (h : w.Outcome c r sp objects) {f : Fault} (hf : r = .error f) :
    sp = w.space ∧ ∀ label, (objects label).bind Object.region? =
      if c = .destroy label then none else w.mappingAt? label := by
  cases h with
  | failed f' hc =>
    refine ⟨rfl, fun label => ?_⟩
    split_ifs with hd
    · subst hd
      exact hc label (.destroy label)
    · rfl
  | unmapped l f' =>
    refine ⟨rfl, fun label => ?_⟩
    rw [Function.update_apply]
    by_cases hl : label = l
    · subst hl
      rw [if_pos rfl, if_pos rfl, Option.bind_none]
    · have hd : RegionCall.destroy l ≠ .destroy label := fun hd => hl (RegionCall.destroy.inj hd).symm
      rw [if_neg hl, if_neg hd, mappingAt?]
  | created => cases hf
  | found => cases hf
  | attached => cases hf
  | read => cases hf
  | wrote => cases hf
  | dropped => cases hf
  | freed => cases hf
  | destroyed => cases hf

theorem Outcome.maps (h : w.Outcome c r sp objects) {label bare : String}
    (hc : c.Maps label bare) {a : RegionAnswer} (ha : r = .ok a) :
    ∃ m, objects label = some (.region m) ∧ sp.entry? bare = some (.memory m.cell) := by
  obtain ⟨name, hb, rfl | ⟨size, rfl⟩⟩ := hc
  · cases h with
    | failed => cases ha
    | @attached _ _ other cell size hb' he =>
      rw [hb] at hb'
      exact ⟨_, Function.update_self .., Option.some.inj hb' ▸ he⟩
  · cases h with
    | failed => cases ha
    | @created _ _ other _ hb' =>
      rw [hb] at hb'
      rw [Option.some.inj hb']
      exact ⟨_, Function.update_self .., w.space.entry?_made_self other size⟩
    | @found _ _ other cell _ hb' he =>
      rw [hb] at hb'
      exact ⟨_, Function.update_self .., Option.some.inj hb' ▸ he⟩

end outcome

theorem mappingAt?_eq_some {w : World} {label : String} {m : Mapping} :
    w.mappingAt? label = some m ↔ w.objectAt? label = some (.region m) := by
  constructor
  · exact objectAt?_of_mappingAt?
  · intro ho
    rw [mappingAt?, ho]
    rfl

theorem Tidy.afterCall {w : World} (h : w.Tidy) (c : RegionCall) : (w.afterCall c).Tidy := by
  have hout := h.outcome c
  have haltered := hout.altered
  refine ⟨fun label o ho => ?_, fun label m hm => ?_, haltered.sound h.sound⟩
  · rcases hout.object_cases ho with hold | ⟨m, -, -, rfl, -⟩
    · exact h.regions label o hold
    · exact ⟨m, rfl⟩
  · rcases hout.object_cases (mappingAt?_eq_some.mp hm) with
      hold | ⟨m', -, bare, hm', -, -, hentry⟩
    · exact Nat.lt_of_lt_of_le (h.made label m (mappingAt?_eq_some.mpr hold)) haltered.length_le
    · rw [Object.region.injEq] at hm'
      exact hm' ▸ (haltered.sound h.sound).made bare _ hentry

/-- The world after the first `n` calls of a history. -/
def stage (w : World) (calls : List RegionCall) (n : Nat) : World :=
  (calls.take n).foldl afterCall w

/-- What the calls on regions do, whatever has been called before. -/
structure RegionLaws (w : World) : Prop where
  creates : ∀ label name size, (∃ a, w.answer (.create label name size) = .ok a) ↔
    0 < size ∧ ∃ bare, bareName? name = some bare ∧
      (w.space.entry? bare = none ∧ size ≤ Region.largestSize ∨ w.space.size? bare = some size)
  /-- A region that is made is all zero. -/
  zero : ∀ label name bare size a, bareName? name = some bare → w.space.entry? bare = none →
    w.answer (.create label name size) = .ok a →
      (w.afterCall (.create label name size)).seen label = some (List.replicate size 0)
  attaches : ∀ label name, (∃ a, w.answer (.attach label name) = .ok a) ↔
    ∃ bare size, bareName? name = some bare ∧ w.space.size? bare = some size ∧ 0 < size
  /-- A region that is there is had as it is. -/
  joined : ∀ c label bare cell a, c.Maps label bare → w.space.entry? bare = some (.memory cell) →
    w.answer c = .ok a → (w.afterCall c).seen label = some (w.space.contents cell)
  reads : ∀ label bytes start count, w.seen label = some bytes →
    w.answer (.read label start count) =
      if start + count ≤ bytes.length then .ok (.bytes ((bytes.drop start).take count))
      else .error .outOfRange
  writes : ∀ label bytes start new, w.seen label = some bytes →
    w.answer (.write label start new) =
      if start + new.length ≤ bytes.length then .ok .done else .error .outOfRange
  /-- Names come into use and go out of use by the calls for that and by no others. -/
  appears : ∀ c bare, w.space.entry? bare = none → ((w.afterCall c).space.entry? bare ≠ none ↔
    ∃ label name size a, c = .create label name size ∧ bareName? name = some bare ∧
      w.answer c = .ok a)
  vanishes : ∀ c bare, w.space.entry? bare ≠ none → ((w.afterCall c).space.entry? bare = none ↔
    c.Frees w bare ∧ ∃ a, w.answer c = .ok a)
  frees : ∀ c bare, c.Frees w bare →
    ((∃ a, w.answer c = .ok a) ↔ ∃ size, w.space.size? bare = some size)
  /-- A name that has been freed leads nowhere until a region is made under it. -/
  freed : ∀ c bare a, c.Frees w bare → w.answer c = .ok a → ∀ later label name,
    bareName? name = some bare →
    (∀ i other given size a, bareName? given = some bare →
      later[i]? = some (.create other given size) →
      ((w.afterCall c).stage later i).answer (.create other given size) ≠ .ok a) →
    ((w.afterCall c).stage later later.length).answer (.attach label name) =
      .error (.region (.notFound name))
  /-- A mapping that is to go is gone, whatever the answer. -/
  unmaps : ∀ c label, c.Unmaps label → (w.afterCall c).mappingAt? label = none
  /-- The mappings under other labels stay, -/
  stays : ∀ c label, (∀ bare, ¬ c.Maps label bare) → ¬ c.Unmaps label →
    (w.afterCall c).mappingAt? label = w.mappingAt? label
  /-- and so do the bytes that they show, unless the call is a write. -/
  unwritten : ∀ c label, (∀ bare, ¬ c.Maps label bare) → ¬ c.Unmaps label →
    (∀ other start bytes, c ≠ .write other start bytes) → (w.afterCall c).seen label = w.seen label
  /-- A call that fails changes nothing, but a mapping that was to be destroyed is gone. -/
  fails : ∀ c f, w.answer c = .error f → (w.afterCall c).space = w.space ∧
    ∀ label, (w.afterCall c).mappingAt? label =
      if c = .destroy label then none else w.mappingAt? label

section history

variable {w : World} (calls : List RegionCall)

theorem stage_succ {calls : List RegionCall} {n : Nat} {c : RegionCall} (hc : calls[n]? = some c) :
    w.stage calls (n + 1) = (w.stage calls n).afterCall c := by
  rw [stage, List.take_add_one, hc, Option.toList_some, List.foldl_append]
  rfl

theorem stage_succ_of_none {calls : List RegionCall} {n : Nat} (hc : calls[n]? = none) :
    w.stage calls (n + 1) = w.stage calls n := by
  rw [stage, List.take_add_one, hc, Option.toList_none, List.append_nil]
  rfl

/-- What holds at first and after every call holds at all times. -/
theorem stage_induction {P : World → Prop} (hstart : P w)
    (hstep : ∀ n c, calls[n]? = some c → P (w.stage calls n) → P ((w.stage calls n).afterCall c))
    (n : Nat) : P (w.stage calls n) := by
  induction n with
  | zero => exact hstart
  | succ n ih =>
    cases hc : calls[n]? with
    | none =>
      rw [stage_succ_of_none hc]
      exact ih
    | some c =>
      rw [stage_succ hc]
      exact hstep n c hc ih

variable (h : w.Tidy)
include h

theorem Tidy.stage (n : Nat) : (w.stage calls n).Tidy :=
  stage_induction calls h (fun _ c _ hn => hn.afterCall c) n

theorem Tidy.altered_stage (n : Nat) :
    (w.stage calls n).space.Altered (w.stage calls (n + 1)).space := by
  cases hc : calls[n]? with
  | none =>
    rw [stage_succ_of_none hc]
    exact .same
  | some c =>
    rw [stage_succ hc]
    exact ((h.stage calls n).outcome c).altered

end history

theorem Does.seen {w : World} {c : RegionCall} {r : Except Fault RegionAnswer} {sp : Region.Space}
    {label : String} {m : Mapping}
    (h : w.Does c r sp (Function.update w.objectAt? label (some (.region m)))) :
    (w.afterCall c).seen label = some (sp.contents m.cell) := by
  have hm : (w.afterCall c).mappingAt? label = some m := by
    rw [mappingAt?_eq_some, h.objects, Function.update_self]
  rw [World.seen, hm, h.space]
  rfl

namespace Tidy

variable {w : World} (h : w.Tidy)
include h

theorem answer_of_freed {bare : String} (hn : w.space.entry? bare = none) (later : List RegionCall)
    (hnone : ∀ i other given size a, bareName? given = some bare →
      later[i]? = some (.create other given size) →
      (w.stage later i).answer (.create other given size) ≠ .ok a)
    (label : String) {name : String} (hb : bareName? name = some bare) :
    (w.stage later later.length).answer (.attach label name) =
      .error (.region (.notFound name)) := by
  have hfree : (w.stage later later.length).space.entry? bare = none := by
    refine stage_induction (P := fun w => w.space.entry? bare = none) later hn
      (fun n c hc hfree => ?_) _
    by_contra hs
    obtain ⟨other, given, size, a, rfl, hgiven, ha⟩ :=
      ((h.stage later n).outcome c).appears hfree hs
    exact hnone n other given size a hgiven hc ha
  rw [answer_attach, Region.Space.attach_eq hb, hfree]

theorem mappingAt?_eq (c : RegionCall) {label : String} (hmaps : ∀ bare, ¬ c.Maps label bare)
    (hunmaps : ¬ c.Unmaps label) : (w.afterCall c).mappingAt? label = w.mappingAt? label := by
  rw [mappingAt?, (h.outcome c).object_eq hmaps hunmaps, mappingAt?]

theorem laws : RegionLaws w where
  creates label name size := by
    rw [← Region.Space.create_ok_iff]
    constructor
    · rintro ⟨a, ha⟩
      exact create_of_answer ha
    · rintro ⟨r, hr⟩
      rw [answer_create, hr]
      exact ⟨_, rfl⟩
  zero label name bare size a hb hn ha := by
    obtain ⟨⟨m, sp⟩, hc⟩ := create_of_answer ha
    rcases Region.Space.create_cases hb hc with ⟨-, -, -, rfl, rfl⟩ | ⟨cell, he, -⟩
    · rw [(h.does_create label hc).seen, Region.Space.contents_made]
    · rw [hn] at he
      cases he
  attaches label name := by
    rw [← h.sound.attach_ok_iff]
    constructor
    · rintro ⟨a, ha⟩
      exact attach_of_answer ha
    · rintro ⟨m, hm⟩
      rw [answer_attach, hm]
      exact ⟨_, rfl⟩
  joined c label bare cell a hc he ha := by
    obtain ⟨name, hb, rfl | ⟨size, rfl⟩⟩ := hc
    · obtain ⟨m, hm⟩ := attach_of_answer ha
      obtain ⟨cell', he', rfl⟩ := Region.Space.attach_cases hb hm
      rw [he, Option.some.injEq, Region.Entry.memory.injEq] at he'
      rw [(h.does_attach label hm).seen, he']
    · obtain ⟨⟨m, sp⟩, hm⟩ := create_of_answer ha
      rcases Region.Space.create_cases hb hm with ⟨hn, -⟩ | ⟨cell', he', -, -, rfl, rfl⟩
      · rw [hn] at he
        cases he
      · rw [he, Option.some.injEq, Region.Entry.memory.injEq] at he'
        rw [(h.does_create label hm).seen, he']
  reads label bytes start count hs := by
    obtain ⟨m, hm, rfl⟩ := Option.map_eq_some_iff.mp hs
    exact (does_read hm start count).answer
  writes label bytes start new hs := by
    obtain ⟨m, hm, rfl⟩ := Option.map_eq_some_iff.mp hs
    split_ifs with hfits
    · exact (does_write hm hfits).answer
    · rw [answer, RegionCall.act, run_bind_of_error]
      rw [run_writeBytes hm, if_neg hfits]
  appears c bare hn := by
    refine ⟨(h.outcome c).appears hn, ?_⟩
    rintro ⟨label, name, size, a, rfl, hb, ha⟩
    obtain ⟨m, -, he⟩ := (h.outcome _).maps ⟨name, hb, .inr ⟨size, rfl⟩⟩ ha
    rw [he]
    exact Option.some_ne_none _
  vanishes c bare hs := by
    refine ⟨(h.outcome c).vanishes hs, ?_⟩
    rintro ⟨hf, _, ha⟩
    exact (h.outcome c).freed_of_frees hf ha
  freed c bare a hf ha later label name hb hnone :=
    (h.afterCall c).answer_of_freed ((h.outcome c).freed_of_frees hf ha) later hnone label hb
  frees c bare hf := by
    obtain ⟨name, hb, rfl | ⟨label, m, rfl, hm, rfl⟩⟩ := hf
    · rw [← Region.Space.remove_ok_iff hb, answer_remove]
      cases w.space.remove name with
      | ok sp => simp
      | error f => simp
    · rw [← Region.Space.remove_ok_iff hb, (does_destroy hm).answer]
      cases w.space.remove m.name with
      | ok sp => simp
      | error f => simp
  unmaps c label hc := (h.outcome c).unmapped_of hc
  stays c label := h.mappingAt?_eq c
  unwritten c label hmaps hunmaps hc := by
    rw [World.seen, h.mappingAt?_eq c hmaps hunmaps]
    refine Option.map_congr fun m hm => Region.Space.contents_congr ?_
    exact (h.outcome c).memory_eq hc (h.made label m hm)
  fails c f hf := (h.outcome c).of_error hf

end Tidy

end Rota.World
