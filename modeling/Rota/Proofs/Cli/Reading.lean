import Mathlib.Data.List.Nodup
import Rota.Cli.Line

namespace Rota.Cli

/-- An option named on a line, with the value that follows it as a word of its own, if one does. -/
structure Mention where
  name : String
  value : Option String := none

def Mention.words (m : Mention) : List String := s!"--{m.name}" :: m.value.toList

/-- The value does not look like an option. -/
def Mention.Plain (m : Mention) : Prop := ∀ given, m.value = some given → shapeOf given = .plain

theorem bind_eq_ok_iff {ε α β : Type} {x : Except ε α} {f : α → Except ε β} {b : β} :
    x.bind f = .ok b ↔ ∃ a, x = .ok a ∧ f a = .ok b := by
  cases x <;> simp [Except.bind]

namespace Reading

variable {r s : Reading} {o : Opt} {given : String}

theorem note_eq_ok_iff : r.note o given = .ok s ↔
    r.given.lookup o.name = none ∧ ∃ v, o.read given = .ok v ∧
      { r with given := r.given ++ [(o.name, v)] } = s := by
  unfold note
  cases hl : r.given.lookup o.name <;> cases hv : o.read given <;>
    simp [bind, Except.bind, pure, Except.pure, throw, throwThe, MonadExceptOf.throw]

/-- Reading what is still to be read leaves nothing of it, and the line goes on as before. -/
theorem settle_ok (h : r.settle = .ok s) : s.pending = none ∧ s.trailing = r.trailing := by
  unfold settle at h
  split at h
  next hp =>
    cases h
    exact ⟨hp, rfl⟩
  next => cases h
  next o given hp =>
    obtain ⟨-, v, -, rfl⟩ := note_eq_ok_iff.mp h
    exact ⟨rfl, rfl⟩

theorem settle_of_unanswered (h : r.pending = some (o, none)) :
    r.settle = .error (.valueMissing o.shown) := by
  rw [settle, h]

end Reading

namespace Level

variable {l : Level} {r : Reading} {o : Opt}

theorem takeOption_of_value (ho : o.kind.takesValue = true) :
    l.takeOption r o none = r.settle.map fun s => { s with pending := some (o, none) } := by
  unfold takeOption
  rw [ho]
  cases r.settle <;> rfl

theorem takeOption_of_flag (ho : o.kind = .flag) :
    l.takeOption r o none = r.settle.bind fun s => s.note o "" := by
  have hno : o.kind.takesValue = false := by rw [ho]; rfl
  unfold takeOption
  rw [hno, ho]
  cases r.settle <;> rfl

/-- No option can be taken while the value of the one before is missing. -/
theorem takeOption_of_error {f : Fault} (h : r.settle = .error f) (attached : Option String) :
    ∃ f', l.takeOption r o attached = .error f' := by
  unfold takeOption
  rw [h]
  cases o.kind.takesValue <;> cases attached <;> exact ⟨_, rfl⟩

section read

variable (hl : l.isProgram = false)
include hl

theorem read_cons (arg : String) (args : List String) :
    l.read r (arg :: args) = (l.step r arg).bind fun s => l.read s args := by
  have hno : l.isCommand arg = false := by rw [isCommand, hl, Bool.false_and]
  rw [read, hno]
  rfl

/-- Behind the mark that only values follow there is nothing that could stand there. -/
theorem read_of_trailing (ht : r.trailing = true) {args : List String}
    {rest : Reading × Option (String × List String)} (h : l.read r args = .ok rest) :
    rest.1 = r := by
  cases args with
  | nil =>
    cases h
    rfl
  | cons arg args =>
    rw [read_cons hl, step, if_pos ht] at h
    cases h

/-- A value that is still missing stays missing if the next word looks like an option. -/
theorem read_of_unanswered (ht : r.trailing = false) (hp : r.pending = some (o, none))
    {arg : String} (ha : shapeOf arg ≠ .plain) {args : List String}
    {rest : Reading × Option (String × List String)} (h : l.read r (arg :: args) = .ok rest) :
    ∃ f, rest.1.settle = .error f := by
  have hmissing := Reading.settle_of_unanswered hp
  rw [read_cons hl, step, if_neg (by simp [ht])] at h
  cases hs : shapeOf arg with
  | ending =>
    rw [hs] at h
    have hend := read_of_trailing (r := { r with trailing := true }) hl rfl h
    exact ⟨_, by rw [hend]; exact Reading.settle_of_unanswered hp⟩
  | long name attached =>
    rw [hs] at h
    dsimp only at h
    cases ho : l.option? name with
    | none =>
      rw [ho] at h
      cases h
    | some o' =>
      rw [ho] at h
      obtain ⟨f, hf⟩ := takeOption_of_error (l := l) (o := o') hmissing attached
      dsimp only at h
      rw [hf] at h
      cases h
  | short c =>
    rw [hs] at h
    dsimp only at h
    cases ho : l.short? c with
    | none =>
      rw [ho] at h
      cases h
    | some o' =>
      rw [ho] at h
      obtain ⟨f, hf⟩ := takeOption_of_error (l := l) (o := o') hmissing none
      dsimp only at h
      rw [hf] at h
      cases h
  | plain => exact absurd hs ha

end read

/-- The mention of an option of the level, with a value just if the option takes one. -/
structure Knows (l : Level) (m : Mention) (o : Opt) : Prop where
  shape : shapeOf s!"--{m.name}" = .long m.name none
  option : l.option? m.name = some o
  name : o.name = m.name
  kind : if m.value.isSome then o.kind.takesValue = true else o.kind = .flag

section mentions

variable (hl : l.isProgram = false) {m : Mention} (hm : l.Knows m o)
include hl hm

omit hl in
theorem step_name (ht : r.trailing = false) :
    l.step r s!"--{m.name}" = l.takeOption r o none := by
  rw [step, if_neg (by simp [ht]), hm.shape]
  dsimp only
  rw [hm.option]

/-- What is behind the mention of a flag is read with the flag noted. -/
theorem read_flag (ht : r.trailing = false) (hv : m.value = none) (args : List String) :
    l.read r (m.words ++ args) =
      (r.settle.bind fun s => s.note o "").bind fun s => l.read s args := by
  have hk := hm.kind
  rw [hv] at hk
  have hwords : m.words ++ args = s!"--{m.name}" :: args := by rw [Mention.words, hv]; rfl
  rw [hwords, read_cons hl, step_name hm ht, takeOption_of_flag hk]

theorem read_value (ht : r.trailing = false) {given : String} (hv : m.value = some given)
    (args : List String) :
    l.read r (m.words ++ args) =
      r.settle.bind fun s => l.read { s with pending := some (o, none) } (given :: args) := by
  have hk := hm.kind
  rw [hv] at hk
  have hwords : m.words ++ args = s!"--{m.name}" :: given :: args := by
    rw [Mention.words, hv]
    rfl
  rw [hwords, read_cons hl, step_name hm ht, takeOption_of_value hk]
  cases r.settle <;> rfl

omit hm in
theorem read_plain (ht : r.trailing = false) (hp : r.pending = some (o, none)) {given : String}
    (hplain : shapeOf given = .plain) (args : List String) :
    l.read r (given :: args) = l.read { r with pending := some (o, some given) } args := by
  rw [read_cons hl, step, if_neg (by simp [ht]), hplain]
  dsimp only
  rw [hp]
  rfl

end mentions

/-- The level reads the mention of an option as the value `v`. -/
structure Takes (l : Level) (m : Mention) (v : Value) : Prop where
  plain : m.Plain
  known : ∃ o, l.Knows m o ∧ o.read (m.value.getD "") = .ok v

section mentions

variable (hl : l.isProgram = false)
include hl

/-- Reading one mention of an option that has not been given yet. -/
theorem read_mention {m : Mention} {v : Value} (hm : l.Takes m v) {s : Reading}
    (ht : r.trailing = false) (hs : r.settle = .ok s) (hf : s.given.lookup m.name = none)
    (args : List String) :
    ∃ r', l.read r (m.words ++ args) = l.read r' args ∧ r'.trailing = false ∧
      r'.settle = .ok { s with given := s.given ++ [(m.name, v)] } := by
  obtain ⟨o, hk, hread⟩ := hm.known
  obtain ⟨hpending, htrailing⟩ := Reading.settle_ok hs
  rw [ht] at htrailing
  have hfresh : s.given.lookup o.name = none := by rw [hk.name]; exact hf
  cases hv : m.value with
  | none =>
    rw [hv] at hread
    have hnote : s.note o "" = .ok { s with given := s.given ++ [(m.name, v)] } :=
      Reading.note_eq_ok_iff.mpr ⟨hfresh, v, hread, by rw [hk.name]⟩
    refine ⟨{ s with given := s.given ++ [(m.name, v)] }, ?_, htrailing, ?_⟩
    · rw [read_flag hl hk ht hv, hs]
      dsimp only [Except.bind]
      rw [hnote]
    · rw [Reading.settle, hpending]
  | some given =>
    rw [hv] at hread
    refine ⟨{ s with pending := some (o, some given) }, ?_, htrailing, ?_⟩
    · rw [read_value hl hk ht hv, hs]
      exact read_plain (r := { s with pending := some (o, none) }) hl htrailing rfl
        (hm.plain given hv) args
    · have hnote : ({ s with pending := none } : Reading).note o given =
          .ok { s with given := s.given ++ [(m.name, v)] } :=
        Reading.note_eq_ok_iff.mpr ⟨hfresh, v, hread, by rw [hk.name, ← hpending]⟩
      exact hnote

/-- Mentions of different options are read one after the other. -/
theorem read_mentions {entries : List (Mention × Value)}
    (h : ∀ e ∈ entries, l.Takes e.1 e.2) (hn : (entries.map (·.1.name)).Nodup) {s : Reading}
    (ht : r.trailing = false) (hs : r.settle = .ok s)
    (hf : ∀ e ∈ entries, s.given.lookup e.1.name = none) :
    ∃ r', l.read r (entries.flatMap (·.1.words)) = .ok (r', none) ∧
      r'.settle = .ok { s with given := s.given ++ entries.map fun e => (e.1.name, e.2) } := by
  induction entries generalizing r s with
  | nil =>
    refine ⟨r, rfl, ?_⟩
    rw [hs, List.map_nil, List.append_nil]
  | cons e entries ih =>
    obtain ⟨hnotin, hn'⟩ := List.nodup_cons.mp hn
    obtain ⟨r₁, hread, ht₁, hs₁⟩ :=
      read_mention hl (h e List.mem_cons_self) ht hs (hf e List.mem_cons_self)
        (entries.flatMap (·.1.words))
    have hfresh : ∀ d ∈ entries,
        (s.given ++ [(e.1.name, e.2)]).lookup d.1.name = none := by
      intro d hd
      have hne : d.1.name ≠ e.1.name := by
        intro heq
        exact hnotin (List.mem_map.mpr ⟨d, hd, heq⟩)
      have hbeq : (d.1.name == e.1.name) = false := by simpa using hne
      rw [List.lookup_append, hf d (List.mem_cons_of_mem _ hd), Option.none_or, List.lookup_cons,
        hbeq]
      rfl
    obtain ⟨r', hrest, hs'⟩ := ih (fun d hd => h d (List.mem_cons_of_mem _ hd)) hn' ht₁ hs₁ hfresh
    refine ⟨r', ?_, ?_⟩
    · rw [List.flatMap_cons, hread, hrest]
    · rw [hs', List.map_cons, List.append_assoc, List.singleton_append]

/-- Where mentions can be read, no value looks like an option. -/
theorem plain_of_read {mentions : List Mention} (h : ∀ m ∈ mentions, ∃ o, l.Knows m o)
    (ht : r.trailing = false) {rest : Reading × Option (String × List String)} {s : Reading}
    (hr : l.read r (mentions.flatMap Mention.words) = .ok rest) (hs : rest.1.settle = .ok s) :
    ∀ m ∈ mentions, m.Plain := by
  induction mentions generalizing r with
  | nil => simp
  | cons m mentions ih =>
    obtain ⟨o, hk⟩ := h m List.mem_cons_self
    have hknown : ∀ m' ∈ mentions, ∃ o, l.Knows m' o :=
      fun m' hm' => h m' (List.mem_cons_of_mem _ hm')
    rw [List.flatMap_cons] at hr
    rw [List.forall_mem_cons]
    cases hv : m.value with
    | none =>
      have hplain : m.Plain := by
        intro given hgiven
        rw [hv] at hgiven
        cases hgiven
      rw [read_flag hl hk ht hv] at hr
      obtain ⟨r₁, hnoted, hrest⟩ := bind_eq_ok_iff.mp hr
      obtain ⟨s₀, hsettled, hnote⟩ := bind_eq_ok_iff.mp hnoted
      obtain ⟨-, v, -, rfl⟩ := Reading.note_eq_ok_iff.mp hnote
      have ht₁ : s₀.trailing = false := (Reading.settle_ok hsettled).2.trans ht
      refine ⟨hplain, ih hknown ?_ hrest⟩
      exact ht₁
    | some given =>
      rw [read_value hl hk ht hv] at hr
      obtain ⟨s₀, hsettled, hrest⟩ := bind_eq_ok_iff.mp hr
      have ht₁ : s₀.trailing = false := (Reading.settle_ok hsettled).2.trans ht
      have hshape : shapeOf given = .plain := by
        by_contra hno
        obtain ⟨f, hf⟩ := read_of_unanswered (r := { s₀ with pending := some (o, none) }) hl ht₁
          rfl hno hrest
        rw [hf] at hs
        cases hs
      have hplain : m.Plain := by
        intro given' hgiven'
        rw [hv] at hgiven'
        cases hgiven'
        exact hshape
      rw [read_plain (r := { s₀ with pending := some (o, none) }) hl ht₁ rfl hshape] at hrest
      refine ⟨hplain, ih hknown ?_ hrest⟩
      exact ht₁

end mentions

end Level
end Rota.Cli
