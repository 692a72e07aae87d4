import Rota.Cli.Command
import Rota.Proofs.Cli.Reading
import Rota.Proofs.Text.Numeral

namespace Rota.Cli

section shape

theorem shapeOf_of_ne {s : String} {c : Char} {cs : List Char} (hs : s.toList = c :: cs)
    (hc : c ≠ '-') : shapeOf s = .plain := by
  unfold shapeOf
  rw [hs]
  split <;> simp_all

/-- A natural number does not look like an option. -/
theorem shapeOf_repr (n : Nat) : shapeOf n.repr = .plain := by
  obtain ⟨c, cs, hcs, -, hc⟩ := Text.exists_toDigits_eq_cons n
  exact shapeOf_of_ne (Nat.toList_repr.trans hcs) hc

/-- An integer looks like an option just if it is negative. -/
theorem shapeOf_toString_iff (n : Int64) : shapeOf (toString n) = .plain ↔ 0 ≤ n := by
  have hshown : toString n = Int.repr n.toInt := rfl
  have hle : 0 ≤ n ↔ 0 ≤ n.toInt := Int64.le_iff_toInt_le
  rw [hshown, hle]
  cases hn : n.toInt with
  | ofNat m =>
    have hplain : shapeOf (Int.repr (Int.ofNat m)) = .plain := shapeOf_repr m
    have hpos : 0 ≤ Int.ofNat m := Int.natCast_nonneg m
    simp only [hplain, hpos]
  | negSucc m =>
    obtain ⟨c, cs, hcs, -, hc⟩ := Text.exists_toDigits_eq_cons (m + 1)
    have hlist : (Int.repr (Int.negSucc m)).toList = '-' :: c :: cs := by
      change ("-" ++ (m + 1).repr).toList = _
      rw [String.toList_append, Nat.toList_repr, hcs]
      rfl
    have hshort : shapeOf (Int.repr (Int.negSucc m)) ≠ .plain := by
      unfold shapeOf
      rw [hlist]
      split <;> simp_all
    have hneg : ¬0 ≤ Int.negSucc m := by omega
    simp only [hshort, hneg]

end shape

namespace Opt

variable {o : Opt}

theorem read_text (hk : o.kind = .text) (s : String) : o.read s = .ok (.text s) := by
  unfold read
  rw [hk]

theorem read_path (hk : o.kind = .path) {s : String} (hs : s ≠ "") : o.read s = .ok (.text s) := by
  have hempty : s.isEmpty = false := by simpa using hs
  unfold read
  rw [hk]
  dsimp only
  rw [hempty]
  rfl

theorem read_natural (hk : o.kind = .natural) (n : UInt64) :
    o.read (toString n) = .ok (.number (Int.ofNat n.toNat)) := by
  unfold read
  rw [hk]
  dsimp only
  rw [Text.readUInt64_toString]
  rfl

theorem read_integer (hk : o.kind = .integer) (n : Int64) :
    o.read (toString n) = .ok (.number n.toInt) := by
  unfold read
  rw [hk]
  dsimp only
  rw [Text.readInt64_toString]
  rfl

theorem read_small (hk : o.kind = .small) (n : UInt32) :
    o.read (toString n) = .ok (.number (Int.ofNat n.toNat)) := by
  obtain ⟨m, hm⟩ : ∃ m : Int64, m.toInt = Int.ofNat n.toNat := by
    have hlt : n.toNat < 4294967296 := n.toNat_lt
    refine ⟨Int64.ofInt (Int.ofNat n.toNat), Int64.toInt_ofInt_of_le ?_ ?_⟩
    · have hpos : 0 ≤ Int.ofNat n.toNat := Int.natCast_nonneg _
      omega
    · have hint : Int.ofNat n.toNat < 4294967296 := Int.ofNat_lt.mpr hlt
      omega
  have hshown : toString n = toString m := by
    change n.toNat.repr = Int.repr m.toInt
    rw [hm]
    rfl
  have hrange : 0 ≤ m.toInt ∧ m.toInt ≤ smallMost := by
    have hlt : Int.ofNat n.toNat < 4294967296 := Int.ofNat_lt.mpr n.toNat_lt
    have hmost : smallMost = 4294967295 := by decide
    rw [hm, hmost]
    exact ⟨Int.natCast_nonneg _, by omega⟩
  have hread : readSmall (toString n) = .ok m.toInt := by
    unfold readSmall
    rw [hshown, Text.readInt64_toString]
    exact if_pos hrange
  unfold read
  rw [hk]
  dsimp only
  rw [hread, hm]

end Opt

/-- The value is one that an option of the level of that name can have. -/
def Level.Fits (l : Level) (e : String × Value) : Prop :=
  ∃ o ∈ l.options, o.name = e.1 ∧ ∃ given, o.read given = .ok e.2

/-- Nothing on the line so far is foreign to the level. -/
structure Reading.Within (r : Reading) (l : Level) : Prop where
  given : ∀ e ∈ r.given, l.Fits e
  pending : ∀ p, r.pending = some p → p.1 ∈ l.options

namespace Reading.Within

variable {l : Level} {r s : Reading} (h : r.Within l)
include h

theorem note {o : Opt} (ho : o ∈ l.options) {given : String} (hs : r.note o given = .ok s) :
    s.Within l := by
  obtain ⟨-, v, hv, rfl⟩ := note_eq_ok_iff.mp hs
  refine ⟨?_, h.pending⟩
  intro e he
  rcases List.mem_append.mp he with he | he
  · exact h.given e he
  · rw [List.mem_singleton.mp he]
    exact ⟨o, ho, rfl, given, hv⟩

theorem settle (hs : r.settle = .ok s) : s.Within l := by
  unfold Reading.settle at hs
  split at hs
  next =>
    cases hs
    exact h
  next => cases hs
  next o given hp =>
    have hdone : ({ r with pending := none } : Reading).Within l := ⟨h.given, nofun⟩
    exact hdone.note (h.pending _ hp) hs

theorem takeOption {o : Opt} (ho : o ∈ l.options) {attached : Option String}
    (hs : l.takeOption r o attached = .ok s) : s.Within l := by
  cases hr : r.settle with
  | error f =>
    obtain ⟨f', hf⟩ := Level.takeOption_of_error (l := l) (o := o) hr attached
    rw [hf] at hs
    cases hs
  | ok r₁ =>
    have h₁ := h.settle hr
    unfold Level.takeOption at hs
    rw [hr] at hs
    split at hs
    next given _ => exact h₁.note ho hs
    next =>
      cases hs
      refine ⟨h₁.given, ?_⟩
      rintro p ⟨⟩
      exact ho
    next => cases hs
    next =>
      cases hk : o.kind <;> rw [hk] at hs
      case help => cases hs
      case version => cases hs
      all_goals exact h₁.note ho hs

theorem step {arg : String} (hs : l.step r arg = .ok s) : s.Within l := by
  unfold Level.step at hs
  split at hs
  · cases hs
  · split at hs
    next =>
      cases hs
      exact ⟨h.given, h.pending⟩
    next name attached _ =>
      cases ho : l.option? name with
      | none =>
        rw [ho] at hs
        cases hs
      | some o =>
        rw [ho] at hs
        exact h.takeOption (List.mem_of_find?_eq_some ho) hs
    next c _ =>
      cases ho : l.short? c with
      | none =>
        rw [ho] at hs
        cases hs
      | some o =>
        rw [ho] at hs
        exact h.takeOption (List.mem_of_find?_eq_some ho) hs
    next =>
      split at hs
      next o hp =>
        cases hs
        refine ⟨h.given, ?_⟩
        rintro p ⟨⟩
        exact h.pending (o, none) hp
      next => cases hs

theorem read {args : List String} {rest : Reading × Option (String × List String)}
    (hs : l.read r args = .ok rest) : rest.1.Within l := by
  induction args generalizing r with
  | nil =>
    cases hs
    exact h
  | cons arg args ih =>
    rw [Level.read] at hs
    split at hs
    · cases hs
      exact h
    · obtain ⟨r₁, hstep, hrest⟩ := bind_eq_ok_iff.mp hs
      exact ih (h.step hstep) hrest

end Reading.Within

/-- Nothing that is given is foreign to the level. -/
structure Given.Within (g : Given) (l : Level) : Prop where
  line : ∀ e ∈ g.line, l.Fits e
  environment : ∀ e ∈ g.environment, l.Fits e

namespace Given

variable {l : Level} {env : Environment} {g g' : Given}

/-- All that an option of the environment does to what is given. -/
theorem addVariable_cases {o : Opt} (hg : g.addVariable env o = .ok g') :
    (g' = g ∧ ((o.envName.bind fun n => env.lookup n) = none ∨ (g.line.lookup o.name).isSome)) ∨
      ∃ given v, (o.envName.bind fun n => env.lookup n) = some given ∧ o.read given = .ok v ∧
        g' = { g with environment := g.environment ++ [(o.name, v)] } := by
  unfold addVariable at hg
  cases hv : o.envName.bind fun n => env.lookup n with
  | none =>
    rw [hv] at hg
    cases hg
    exact .inl ⟨rfl, .inl rfl⟩
  | some given =>
    rw [hv] at hg
    dsimp only at hg
    split_ifs at hg with hline
    · cases hg
      exact .inl ⟨rfl, .inr hline⟩
    · obtain ⟨v, hread, hrest⟩ := bind_eq_ok_iff.mp hg
      cases hrest
      exact .inr ⟨given, v, rfl, hread, rfl⟩

theorem isSome_get?_append {name : String} (more : List (String × Value))
    (h : (g.get? name).isSome) :
    (({ g with environment := g.environment ++ more } : Given).get? name).isSome := by
  simp only [get?, List.lookup_append, Option.isSome_or, Bool.or_eq_true] at h ⊢
  tauto

/-- What is taken from the environment is read as the options there are, and nothing is lost. -/
theorem Within.addVariable (h : g.Within l) {o : Opt} (ho : o ∈ l.options)
    (hg : g.addVariable env o = .ok g') :
    g'.Within l ∧ (∀ name, (g.get? name).isSome → (g'.get? name).isSome) ∧
      ((o.envName.bind fun n => env.lookup n).isSome → (g'.get? o.name).isSome) := by
  rcases addVariable_cases hg with ⟨rfl, hidle⟩ | ⟨given, v, hset, hread, rfl⟩
  · refine ⟨h, fun _ => id, fun hset => ?_⟩
    rcases hidle with hunset | hline
    · rw [hunset] at hset
      cases hset
    · simp only [get?, Option.isSome_or, hline, Bool.true_or]
  · refine ⟨⟨h.line, ?_⟩, fun name => isSome_get?_append _, fun _ => ?_⟩
    · intro e he
      rcases List.mem_append.mp he with he | he
      · exact h.environment e he
      · rw [List.mem_singleton.mp he]
        exact ⟨o, ho, rfl, given, hread⟩
    · simp [get?, List.lookup_append]

theorem Within.foldlM (h : g.Within l) {options : List Opt} (ho : ∀ o ∈ options, o ∈ l.options)
    (hg : options.foldlM (Given.addVariable env) g = .ok g') :
    g'.Within l ∧ (∀ name, (g.get? name).isSome → (g'.get? name).isSome) ∧
      ∀ o ∈ options, (o.envName.bind fun n => env.lookup n).isSome → (g'.get? o.name).isSome := by
  induction options generalizing g with
  | nil =>
    cases hg
    exact ⟨h, fun _ => id, by simp⟩
  | cons o options ih =>
    rw [List.foldlM_cons] at hg
    obtain ⟨g₁, hfirst, hrest⟩ := bind_eq_ok_iff.mp hg
    obtain ⟨h₁, hkept₁, hset₁⟩ := h.addVariable (ho o List.mem_cons_self) hfirst
    obtain ⟨h', hkept', hset'⟩ := ih h₁ (fun o' ho' => ho o' (List.mem_cons_of_mem _ ho')) hrest
    refine ⟨h', fun name hname => hkept' name (hkept₁ name hname), ?_⟩
    rw [List.forall_mem_cons]
    exact ⟨fun hvariable => hkept' o.name (hset₁ hvariable), hset'⟩

theorem Within.fits (h : g.Within l) {name : String} {v : Value} (hv : g.get? name = some v) :
    l.Fits (name, v) := by
  rcases Option.or_eq_some_iff.mp hv with hv | ⟨-, hv⟩
  · obtain ⟨before, behind, heq, -⟩ := List.lookup_eq_some_iff.mp hv
    exact h.line _ (by simp [heq])
  · obtain ⟨before, behind, heq, -⟩ := List.lookup_eq_some_iff.mp hv
    exact h.environment _ (by simp [heq])

/-- What a path is, is not empty. -/
theorem Within.path (h : g.Within l) {name : String}
    (hk : ∀ o ∈ l.options, o.name = name → o.kind = .path) {v : Value}
    (hv : g.get? name = some v) : ∃ s, v = .text s ∧ s ≠ "" := by
  obtain ⟨o, ho, hname, given, hread⟩ := h.fits hv
  unfold Opt.read at hread
  rw [hk o ho hname] at hread
  dsimp only at hread
  split_ifs at hread with hempty
  cases hread
  refine ⟨given, rfl, ?_⟩
  rintro rfl
  exact hempty rfl

theorem Within.natural (h : g.Within l) {name : String}
    (hk : ∀ o ∈ l.options, o.name = name → o.kind = .natural) {v : Value}
    (hv : g.get? name = some v) : ∃ n, v = .number n := by
  obtain ⟨o, ho, hname, given, hread⟩ := h.fits hv
  unfold Opt.read at hread
  rw [hk o ho hname] at hread
  dsimp only at hread
  split at hread
  · cases hread
    exact ⟨_, rfl⟩
  · cases hread

end Given

theorem Level.within_of_finish {l : Level} {env : Environment} {r : Reading} {g : Given}
    (h : r.Within l) (hg : l.finish env r = .ok g) :
    g.Within l ∧ ∀ o ∈ l.options, (o.envName.bind fun n => env.lookup n).isSome →
      (g.get? o.name).isSome := by
  obtain ⟨s, hs, hfold⟩ := bind_eq_ok_iff.mp hg
  have hstart : (⟨s.given, []⟩ : Given).Within l := ⟨(h.settle hs).given, by simp⟩
  obtain ⟨hwithin, -, hset⟩ := hstart.foldlM (fun _ => id) hfold
  exact ⟨hwithin, hset⟩

/-- The values that a command is made of, where a line is carried out. -/
theorem exists_given_of_parse {env : Environment} {args : List String} {i : Invocation}
    (h : parse env args = .ok i) :
    ∃ (v : Verb) (g : Given), i.command = g.command v ∧ g.Within v.level ∧
      ∀ o ∈ v.level.options, (o.envName.bind fun n => env.lookup n).isSome →
        (g.get? o.name).isSome := by
  obtain ⟨⟨r, found⟩, -, hrest⟩ := bind_eq_ok_iff.mp h
  cases found with
  | none =>
    obtain ⟨g, -, hthrow⟩ := bind_eq_ok_iff.mp hrest
    cases hthrow
  | some found =>
    obtain ⟨name, rest⟩ := found
    dsimp only at hrest
    cases hv : Verb.all.find? (·.name = name) with
    | none =>
      rw [hv] at hrest
      cases hrest
    | some v =>
      rw [hv] at hrest
      obtain ⟨⟨r', next⟩, hread, hrest⟩ := bind_eq_ok_iff.mp hrest
      obtain ⟨g, hfinish, hrest⟩ := bind_eq_ok_iff.mp hrest
      obtain ⟨g', -, hi⟩ := bind_eq_ok_iff.mp hrest
      cases hi
      have hstart : ({} : Reading).Within v.level := ⟨by simp, nofun⟩
      have hwithin := hstart.read hread
      exact ⟨v, g, rfl, Level.within_of_finish hwithin hfinish⟩

end Rota.Cli
