import Rota.Proofs.Region.Incarnation
import Rota.Proofs.World.Labels
import Mathlib.Logic.Function.Basic

namespace Rota.World

open Region (Mapping bareName?)

/-- A call on regions. To detach a mapping is to drop it. -/
inductive RegionCall
  | create (label name : String) (size : Nat)
  | attach (label name : String)
  | read (label : String) (start count : Nat)
  | write (label : String) (start : Nat) (bytes : List UInt8)
  | drop (label : String)
  | destroy (label : String)
  | remove (name : String)
  deriving DecidableEq

inductive RegionAnswer
  | done
  | size (found : Nat)
  | bytes (found : List UInt8)
  deriving DecidableEq

def RegionCall.act : RegionCall → Act RegionAnswer
  | .create label name size => return .size (← createRegion label name size)
  | .attach label name => return .size (← attachRegion label name)
  | .read label start count => return .bytes (← readBytes label start count)
  | .write label start bytes => do
    writeBytes label start bytes
    return .done
  | .drop label => do
    World.drop label
    return .done
  | .destroy label => do
    World.destroy label
    return .done
  | .remove name => do
    removeName name
    return .done

def answer (w : World) (c : RegionCall) : Except Fault RegionAnswer := (c.act.run.run w).1

def afterCall (w : World) (c : RegionCall) : World := (c.act.run.run w).2

def objectAt? (w : World) (label : String) : Option Object := (w.objects.get? label).map (·.2)

def mappingAt? (w : World) (label : String) : Option Mapping :=
  (w.objectAt? label).bind Object.region?

/-- The bytes that are there for those who look through the mapping under a label. -/
def seen (w : World) (label : String) : Option (List UInt8) :=
  (w.mappingAt? label).map fun m => w.space.contents m.cell

section runs

variable {w : World} {label : String}

theorem objectAt?_of_mappingAt? {m : Mapping} (hm : w.mappingAt? label = some m) :
    w.objectAt? label = some (.region m) := by
  obtain ⟨o, ho, hview⟩ := Option.bind_eq_some_iff.mp hm
  cases o with
  | region m' => rw [ho, ← Option.some.inj hview]
  | laidOut _ _ => cases hview
  | queue _ => cases hview
  | producer _ => cases hview
  | logger _ => cases hview
  | station _ => cases hview

theorem run_pick_mapping {α : Type} {view : Object → Option α} {m : Mapping} {a : α}
    (hm : w.mappingAt? label = some m) (ha : view (.region m) = some a) :
    ∃ serial, (pick view label).run.run w = (.ok (serial, a), w) := by
  obtain ⟨⟨serial, o⟩, ho, rfl⟩ := Option.map_eq_some_iff.mp (objectAt?_of_mappingAt? hm)
  exact ⟨serial, run_pick ho ha⟩

theorem run_createRegion (w : World) (label name : String) (size : Nat) :
    (createRegion label name size).run.run w =
      match w.space.create name size with
      | .ok (m, sp) => (.ok m.size, ((put label (.region m)).run { w with space := sp }).2)
      | .error f => (.error (.region f), w) := by
  change ((ofRegion (w.space.create name size)) >>= _ : Act Nat).run.run w = _
  cases w.space.create name size <;> rfl

theorem run_attachRegion (w : World) (label name : String) :
    (attachRegion label name).run.run w =
      match w.space.attach name with
      | .ok m => (.ok m.size, ((put label (.region m)).run w).2)
      | .error f => (.error (.region f), w) := by
  change ((ofRegion (w.space.attach name)) >>= _ : Act Nat).run.run w = _
  cases w.space.attach name <;> rfl

theorem run_removeName (w : World) (name : String) :
    (removeName name).run.run w =
      match w.space.remove name with
      | .ok sp => (.ok (), { w with space := sp })
      | .error f => (.error (.region f), w) := by
  change ((ofRegion (w.space.remove name)) >>= _ : Act Unit).run.run w = _
  cases w.space.remove name <;> rfl

theorem run_regionOf_of_none (hm : w.mappingAt? label = none) :
    (regionOf label).run.run w = (.error (.missing label), w) := by
  have hnone : (w.objects.get? label).bind (fun e => Object.region? e.2) = none := by
    rwa [mappingAt?, objectAt?, Option.bind_map] at hm
  exact run_bind_of_error (run_pick_of_none hnone)

variable {m : Mapping} (hm : w.mappingAt? label = some m)
include hm

theorem run_regionOf : (regionOf label).run.run w = (.ok m, w) := by
  have hview : Object.region? (.region m) = some m := rfl
  obtain ⟨serial, hpick⟩ := run_pick_mapping hm hview
  exact run_bind_of_ok hpick

theorem run_readBytes (start count : Nat) :
    (readBytes label start count).run.run w =
      (if start + count ≤ (w.space.contents m.cell).length then
        .ok (((w.space.contents m.cell).drop start).take count)
      else .error .outOfRange, w) := by
  rw [readBytes, run_bind_of_ok (run_regionOf hm), run_bind_of_ok (run_get w),
    Region.Space.read?_eq]
  split_ifs <;> rfl

theorem run_writeBytes (start : Nat) (bytes : List UInt8) :
    (writeBytes label start bytes).run.run w =
      if start + bytes.length ≤ (w.space.contents m.cell).length then
        (.ok (),
          { w with space := w.space.setBytes m.cell (Region.Space.overwrite start bytes) })
      else (.error .outOfRange, w) := by
  rw [writeBytes, run_bind_of_ok (run_regionOf hm), run_bind_of_ok (run_get w),
    Region.Space.write?_eq]
  split_ifs <;> rfl

theorem run_drop : (drop label).run.run w = (.ok (), { w with objects := w.objects.erase label }) := by
  have hview : some (Object.region m) = some (.region m) := rfl
  obtain ⟨serial, hpick⟩ := run_pick_mapping hm hview
  rw [drop, run_bind_of_ok hpick]
  rfl

theorem run_destroy :
    (destroy label).run.run w =
      (removeName m.name).run.run { w with objects := w.objects.erase label } := by
  have hview : some (Object.region m) = some (.region m) := rfl
  obtain ⟨serial, hpick⟩ := run_pick_mapping hm hview
  rw [destroy, run_bind_of_ok hpick]
  exact run_bind_of_ok (run_drop hm)

end runs

theorem objectAt?_erase (w : World) (label : String) :
    objectAt? { w with objects := w.objects.erase label } =
      Function.update w.objectAt? label none := by
  funext l
  rw [objectAt?, Register.get?_erase, Function.update_apply]
  split_ifs <;> rfl

section put

variable {w : World} (hw : w.Quiet) (label : String) (o : Object)
include hw

theorem Quiet.space_put : ((put label o).run w).2.space = w.space := by
  obtain ⟨gates, hrun⟩ := hw.run_put label o
  rw [hrun]

theorem Quiet.objectAt?_put :
    ((put label o).run w).2.objectAt? = Function.update w.objectAt? label (some o) := by
  obtain ⟨gates, hrun⟩ := hw.run_put label o
  funext l
  rw [hrun, objectAt?, Register.get?_set, Function.update_apply]
  split_ifs <;> rfl

end put

/-- Every label stands for a mapping of memory that there is. -/
structure Tidy (w : World) : Prop where
  regions : ∀ label o, w.objectAt? label = some o → ∃ m, o = .region m
  made : ∀ label m, w.mappingAt? label = some m → m.cell < w.space.cells.length
  sound : w.space.Sound

/-- What comes of a call: its answer, the space and the objects afterwards. -/
structure Does (w : World) (c : RegionCall) (r : Except Fault RegionAnswer) (sp : Region.Space)
    (objects : String → Option Object) : Prop where
  answer : w.answer c = r
  space : (w.afterCall c).space = sp
  objects : (w.afterCall c).objectAt? = objects

theorem Does.of_run {w w' : World} {c : RegionCall} {r : Except Fault RegionAnswer}
    (h : c.act.run.run w = (r, w')) : w.Does c r w'.space w'.objectAt? := by
  refine ⟨?_, ?_, ?_⟩
  · rw [World.answer, h]
  · rw [afterCall, h]
  · rw [afterCall, h]

/-- The call is to take away what is under a label. -/
inductive RegionCall.Unmaps : RegionCall → String → Prop
  | drop (label : String) : Unmaps (.drop label) label
  | destroy (label : String) : Unmaps (.destroy label) label

/-- All that can come of a call in a tidy world. -/
inductive Outcome (w : World) :
    RegionCall → Except Fault RegionAnswer → Region.Space → (String → Option Object) → Prop
  | failed {c : RegionCall} (f : Fault) : (∀ label, c.Unmaps label → w.mappingAt? label = none) →
      Outcome w c (.error f) w.space w.objectAt?
  | created (label : String) {name bare : String} {size : Nat} : bareName? name = some bare →
      w.space.entry? bare = none → 0 < size →
      Outcome w (.create label name size) (.ok (.size size)) (w.space.made bare size)
        (Function.update w.objectAt? label (some (.region ⟨name, w.space.cells.length, size⟩)))
  | found (label : String) {name bare : String} {cell size : Nat} : bareName? name = some bare →
      w.space.entry? bare = some (.memory cell) →
      Outcome w (.create label name size) (.ok (.size size)) w.space
        (Function.update w.objectAt? label (some (.region ⟨name, cell, size⟩)))
  | attached (label : String) {name bare : String} {cell size : Nat} : bareName? name = some bare →
      w.space.entry? bare = some (.memory cell) →
      Outcome w (.attach label name) (.ok (.size size)) w.space
        (Function.update w.objectAt? label (some (.region ⟨name, cell, size⟩)))
  | read (label : String) (start count : Nat) (bytes : List UInt8) :
      Outcome w (.read label start count) (.ok (.bytes bytes)) w.space w.objectAt?
  | wrote {label : String} {m : Mapping} (start : Nat) (bytes : List UInt8) :
      w.mappingAt? label = some m →
      Outcome w (.write label start bytes) (.ok .done)
        (w.space.setBytes m.cell (Region.Space.overwrite start bytes)) w.objectAt?
  | dropped (label : String) :
      Outcome w (.drop label) (.ok .done) w.space (Function.update w.objectAt? label none)
  | freed {name bare : String} : bareName? name = some bare →
      Outcome w (.remove name) (.ok .done) (w.space.unbind bare) w.objectAt?
  | destroyed {label bare : String} {m : Mapping} : w.mappingAt? label = some m →
      bareName? m.name = some bare →
      Outcome w (.destroy label) (.ok .done) (w.space.unbind bare)
        (Function.update w.objectAt? label none)
  /-- The mapping goes even if the name does not. -/
  | unmapped (label : String) (f : Fault) :
      Outcome w (.destroy label) (.error f) w.space (Function.update w.objectAt? label none)

theorem Does.outcome {w : World} {c : RegionCall} {r : Except Fault RegionAnswer}
    {sp : Region.Space} {objects : String → Option Object} (h : w.Does c r sp objects)
    (ho : w.Outcome c r sp objects) :
    w.Outcome c (w.answer c) (w.afterCall c).space (w.afterCall c).objectAt? := by
  rw [h.answer, h.space, h.objects]
  exact ho

theorem failed_of_run {w : World} {c : RegionCall} {f : Fault}
    (hrun : c.act.run.run w = (.error f, w))
    (hc : ∀ label, c.Unmaps label → w.mappingAt? label = none) :
    w.Outcome c (w.answer c) (w.afterCall c).space (w.afterCall c).objectAt? :=
  (Does.of_run hrun).outcome (.failed f hc)

namespace Tidy

variable {w : World} (h : w.Tidy)
include h

theorem quiet : w.Quiet := by
  intro label serial l he
  have ho : w.objectAt? label = some (.logger l) := by
    rw [objectAt?, he, Option.map_some]
  obtain ⟨m, hm⟩ := h.regions label _ ho
  cases hm

theorem does_create (label : String) {name : String} {size : Nat} {m : Mapping} {sp : Region.Space}
    (hc : w.space.create name size = .ok (m, sp)) :
    w.Does (.create label name size) (.ok (.size m.size)) sp
      (Function.update w.objectAt? label (some (.region m))) := by
  have hquiet : Quiet { w with space := sp } := h.quiet
  have hrun : (RegionCall.create label name size).act.run.run w =
      (.ok (.size m.size), ((put label (.region m)).run { w with space := sp }).2) := by
    rw [RegionCall.act, run_bind_pure, run_createRegion, hc]
    rfl
  have hdoes := Does.of_run hrun
  rwa [hquiet.space_put, hquiet.objectAt?_put] at hdoes

theorem does_attach (label : String) {name : String} {m : Mapping}
    (hc : w.space.attach name = .ok m) :
    w.Does (.attach label name) (.ok (.size m.size)) w.space
      (Function.update w.objectAt? label (some (.region m))) := by
  have hrun : (RegionCall.attach label name).act.run.run w =
      (.ok (.size m.size), ((put label (.region m)).run w).2) := by
    rw [RegionCall.act, run_bind_pure, run_attachRegion, hc]
    rfl
  have hdoes := Does.of_run hrun
  rwa [h.quiet.space_put, h.quiet.objectAt?_put] at hdoes

end Tidy

theorem answer_create (w : World) (label name : String) (size : Nat) :
    w.answer (.create label name size) =
      match w.space.create name size with
      | .ok (m, _) => .ok (.size m.size)
      | .error f => .error (.region f) := by
  rw [answer, RegionCall.act, run_bind_pure, run_createRegion]
  cases w.space.create name size <;> rfl

theorem answer_attach (w : World) (label name : String) :
    w.answer (.attach label name) =
      match w.space.attach name with
      | .ok m => .ok (.size m.size)
      | .error f => .error (.region f) := by
  rw [answer, RegionCall.act, run_bind_pure, run_attachRegion]
  cases w.space.attach name <;> rfl

theorem answer_remove (w : World) (name : String) :
    w.answer (.remove name) =
      match w.space.remove name with
      | .ok _ => .ok .done
      | .error f => .error (.region f) := by
  rw [answer, RegionCall.act, run_bind_pure, run_removeName]
  cases w.space.remove name <;> rfl

theorem create_of_answer {w : World} {label name : String} {size : Nat} {a : RegionAnswer}
    (ha : w.answer (.create label name size) = .ok a) : ∃ r, w.space.create name size = .ok r := by
  rw [answer_create] at ha
  cases hc : w.space.create name size with
  | ok r => exact ⟨r, rfl⟩
  | error f =>
    rw [hc] at ha
    cases ha

theorem attach_of_answer {w : World} {label name : String} {a : RegionAnswer}
    (ha : w.answer (.attach label name) = .ok a) : ∃ m, w.space.attach name = .ok m := by
  rw [answer_attach] at ha
  cases hc : w.space.attach name with
  | ok m => exact ⟨m, rfl⟩
  | error f =>
    rw [hc] at ha
    cases ha

section calls

variable {w : World} {label : String} {m : Mapping}

theorem does_remove {name : String} {sp : Region.Space} (hc : w.space.remove name = .ok sp) :
    w.Does (.remove name) (.ok .done) sp w.objectAt? := by
  have hrun : (RegionCall.remove name).act.run.run w = (.ok .done, { w with space := sp }) := by
    rw [RegionCall.act, run_bind_pure, run_removeName, hc]
    rfl
  exact Does.of_run hrun

theorem does_read (hm : w.mappingAt? label = some m) (start count : Nat) :
    w.Does (.read label start count)
      (if start + count ≤ (w.space.contents m.cell).length then
        .ok (.bytes (((w.space.contents m.cell).drop start).take count))
      else .error .outOfRange) w.space w.objectAt? := by
  have hrun : (RegionCall.read label start count).act.run.run w =
      (((readBytes label start count).run.run w).1.map .bytes,
        ((readBytes label start count).run.run w).2) := by
    rw [RegionCall.act, run_bind_pure]
  rw [run_readBytes hm] at hrun
  have hdoes := Does.of_run hrun
  split_ifs at hdoes ⊢
  · exact hdoes
  · exact hdoes

theorem does_write (hm : w.mappingAt? label = some m) {start : Nat} {bytes : List UInt8}
    (hfits : start + bytes.length ≤ (w.space.contents m.cell).length) :
    w.Does (.write label start bytes) (.ok .done)
      (w.space.setBytes m.cell (Region.Space.overwrite start bytes)) w.objectAt? := by
  have hrun : (RegionCall.write label start bytes).act.run.run w = (.ok .done,
      { w with space := w.space.setBytes m.cell (Region.Space.overwrite start bytes) }) := by
    rw [RegionCall.act, run_bind_pure, run_writeBytes hm, if_pos hfits]
    rfl
  exact Does.of_run hrun

theorem does_drop (hm : w.mappingAt? label = some m) :
    w.Does (.drop label) (.ok .done) w.space (Function.update w.objectAt? label none) := by
  have hrun : (RegionCall.drop label).act.run.run w =
      (.ok .done, { w with objects := w.objects.erase label }) := by
    rw [RegionCall.act, run_bind_pure, run_drop hm]
    rfl
  have hdoes := Does.of_run hrun
  rwa [objectAt?_erase] at hdoes

theorem does_destroy (hm : w.mappingAt? label = some m) :
    w.Does (.destroy label)
      (match w.space.remove m.name with | .ok _ => .ok .done | .error f => .error (.region f))
      (match w.space.remove m.name with | .ok sp => sp | .error _ => w.space)
      (Function.update w.objectAt? label none) := by
  have hrun : (RegionCall.destroy label).act.run.run w =
      (((removeName m.name).run.run { w with objects := w.objects.erase label }).1.map fun _ => .done,
        ((removeName m.name).run.run { w with objects := w.objects.erase label }).2) := by
    rw [RegionCall.act, run_bind_pure, run_destroy hm]
  rw [run_removeName] at hrun
  have hdoes := Does.of_run hrun
  have hobjects := objectAt?_erase w label
  dsimp only at hdoes
  cases hr : w.space.remove m.name with
  | ok sp =>
    rw [hr] at hdoes
    exact ⟨hdoes.answer, hdoes.space, hdoes.objects.trans hobjects⟩
  | error f =>
    rw [hr] at hdoes
    exact ⟨hdoes.answer, hdoes.space, hdoes.objects.trans hobjects⟩

end calls

namespace Tidy

variable {w : World} (h : w.Tidy)
include h

theorem pick_of_none {label : String} (hm : w.mappingAt? label = none) :
    (pick some label).run.run w = (.error (.missing label), w) := by
  have hnone : w.objectAt? label = none := by
    cases ho : w.objectAt? label with
    | none => rfl
    | some o =>
      obtain ⟨m, rfl⟩ := h.regions label o ho
      rw [mappingAt?, ho] at hm
      cases hm
  refine run_pick_of_none ?_
  rw [Option.map_eq_none_iff.mp hnone, Option.bind_none]

/-- Whatever is called, one of the outcomes comes of it. -/
theorem outcome (c : RegionCall) :
    w.Outcome c (w.answer c) (w.afterCall c).space (w.afterCall c).objectAt? := by
  cases c with
  | create label name size =>
    cases hc : w.space.create name size with
    | error f =>
      have hrun : (createRegion label name size).run.run w = (.error (.region f), w) := by
        rw [run_createRegion, hc]
      exact failed_of_run (run_bind_of_error hrun) nofun
    | ok r =>
      obtain ⟨m, sp⟩ := r
      obtain ⟨bare, hb⟩ := Region.Space.bareName?_of_ok hc
      refine (h.does_create label hc).outcome ?_
      rcases Region.Space.create_cases hb hc with
        ⟨hn, hpos, -, rfl, rfl⟩ | ⟨cell, hn, -, -, rfl, rfl⟩
      · exact .created label hb hn hpos
      · exact .found label hb hn
  | attach label name =>
    cases hc : w.space.attach name with
    | error f =>
      have hrun : (attachRegion label name).run.run w = (.error (.region f), w) := by
        rw [run_attachRegion, hc]
      exact failed_of_run (run_bind_of_error hrun) nofun
    | ok m =>
      obtain ⟨bare, hb⟩ := Region.Space.bareName?_of_ok hc
      obtain ⟨cell, hn, rfl⟩ := Region.Space.attach_cases hb hc
      exact (h.does_attach label hc).outcome (.attached label hb hn)
  | read label start count =>
    cases hm : w.mappingAt? label with
    | none =>
      have hrun : (readBytes label start count).run.run w = (.error (.missing label), w) :=
        run_bind_of_error (run_regionOf_of_none hm)
      exact failed_of_run (run_bind_of_error hrun) nofun
    | some m =>
      refine (does_read hm start count).outcome ?_
      split_ifs
      · exact .read label start count _
      · exact .failed _ nofun
  | write label start bytes =>
    cases hm : w.mappingAt? label with
    | none =>
      have hrun : (writeBytes label start bytes).run.run w = (.error (.missing label), w) :=
        run_bind_of_error (run_regionOf_of_none hm)
      exact failed_of_run (run_bind_of_error hrun) nofun
    | some m =>
      by_cases hfits : start + bytes.length ≤ (w.space.contents m.cell).length
      · exact (does_write hm hfits).outcome (.wrote start bytes hm)
      · have hrun : (writeBytes label start bytes).run.run w = (.error .outOfRange, w) := by
          rw [run_writeBytes hm, if_neg hfits]
        exact failed_of_run (run_bind_of_error hrun) nofun
  | drop label =>
    cases hm : w.mappingAt? label with
    | none =>
      have hrun : (World.drop label).run.run w = (.error (.missing label), w) :=
        run_bind_of_error (h.pick_of_none hm)
      exact failed_of_run (run_bind_of_error hrun) fun | _, .drop _ => hm
    | some m => exact (does_drop hm).outcome (.dropped label)
  | destroy label =>
    cases hm : w.mappingAt? label with
    | none =>
      have hrun : (World.destroy label).run.run w = (.error (.missing label), w) :=
        run_bind_of_error (h.pick_of_none hm)
      exact failed_of_run (run_bind_of_error hrun) fun | _, .destroy _ => hm
    | some m =>
      refine (does_destroy hm).outcome ?_
      cases hr : w.space.remove m.name with
      | error f => exact .unmapped label _
      | ok sp =>
        obtain ⟨bare, hb⟩ := Region.Space.bareName?_of_ok hr
        obtain rfl := Region.Space.remove_cases hb hr
        exact .destroyed hm hb
  | remove name =>
    cases hc : w.space.remove name with
    | error f =>
      have hrun : (removeName name).run.run w = (.error (.region f), w) := by
        rw [run_removeName, hc]
      exact failed_of_run (run_bind_of_error hrun) nofun
    | ok sp =>
      obtain ⟨bare, hb⟩ := Region.Space.bareName?_of_ok hc
      obtain rfl := Region.Space.remove_cases hb hc
      exact (does_remove hc).outcome (.freed hb)

end Tidy

end Rota.World
