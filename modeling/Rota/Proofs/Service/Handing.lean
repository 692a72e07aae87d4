import Rota.Proofs.Cli.Values
import Rota.Service.Simulation

namespace Rota.Cli

section reports

variable {env : Environment} {g g' : Given}

/-- An option of the environment makes no difference to the others. -/
theorem Given.get?_addVariable {o : Opt} (hg : g.addVariable env o = .ok g') {name : String}
    (hne : name ≠ o.name) : g'.get? name = g.get? name := by
  rcases Given.addVariable_cases hg with ⟨rfl, -⟩ | ⟨given, v, -, -, rfl⟩
  · rfl
  · have hbeq : (name == o.name) = false := by simpa using hne
    simp [Given.get?, List.lookup_append, List.lookup_cons, hbeq]

theorem Given.foldlM_addVariable {options : List Opt}
    (h : ∀ o ∈ options, (o.envName.bind fun n => env.lookup n) = none ∨
      (g.line.lookup o.name).isSome) :
    options.foldlM (Given.addVariable env) g = .ok g := by
  induction options with
  | nil => rfl
  | cons o options ih =>
    have hidle : g.addVariable env o = .ok g := by
      unfold Given.addVariable
      cases hv : o.envName.bind fun n => env.lookup n with
      | none => rfl
      | some given =>
        have hline := (h o List.mem_cons_self).resolve_left (by simp [hv])
        dsimp only
        rw [if_pos hline]
        rfl
    rw [List.foldlM_cons, hidle]
    exact ih fun o' ho' => h o' (List.mem_cons_of_mem _ ho')

/-- Without a folder for reports on the line, the environment must not name the empty one. -/
theorem Given.exists_addVariable_iff (hl : g.line.lookup "diagnostics-dir" = none) :
    (∃ g', g.addVariable env diagnosticsOption = .ok g') ↔
      env.lookup "TURNSTILE_LOG_DIR" ≠ some "" := by
  have hname : diagnosticsOption.name = "diagnostics-dir" := rfl
  have hvariable : (diagnosticsOption.envName.bind fun n => env.lookup n) =
      env.lookup "TURNSTILE_LOG_DIR" := rfl
  unfold Given.addVariable
  rw [hvariable, hname, hl]
  cases hv : env.lookup "TURNSTILE_LOG_DIR" with
  | none => simp [pure, Except.pure]
  | some given =>
    by_cases hempty : given = ""
    · subst hempty
      simp [bind, Except.bind, Opt.read, diagnosticsOption]
    · have hread : diagnosticsOption.read given = .ok (.text given) := Opt.read_path rfl hempty
      simp [bind, Except.bind, pure, Except.pure, hread, hempty]

end reports

section values

variable {g : Given} {name : String}

theorem Given.text?_of_get? {a : Option String} (h : g.get? name = a.map .text) :
    g.text? name = a := by
  rw [text?, h]
  cases a <;> rfl

theorem Given.natural?_of_get? {a : Option UInt64}
    (h : g.get? name = a.map fun n => .number (Int.ofNat n.toNat)) : g.natural? name = a := by
  rw [natural?, number?, h]
  cases a with
  | none => rfl
  | some n => exact congrArg some UInt64.ofNat_toNat

theorem Given.small?_of_get? {a : Option UInt32}
    (h : g.get? name = a.map fun n => .number (Int.ofNat n.toNat)) : g.small? name = a := by
  rw [small?, number?, h]
  cases a with
  | none => rfl
  | some n => exact congrArg some UInt32.ofNat_toNat

theorem Given.integer?_of_get? {a : Option Int64}
    (h : g.get? name = a.map fun n => .number n.toInt) :
    (g.number? name).map Int64.ofInt = a := by
  rw [number?, h]
  cases a with
  | none => rfl
  | some n => exact congrArg some (Int64.ofInt_toInt n)

end values

/-- The mention of an option, if there is a value for it, with what it is read as. -/
def mention {α : Type} [ToString α] (name : String) (value : α → Value) :
    Option α → List (Mention × Value)
  | some a => [(⟨name, some (toString a)⟩, value a)]
  | none => []

section mention

variable {α : Type} [ToString α] (name : String) (value : α → Value) (a : Option α)

theorem flatMap_words_mention :
    (mention name value a).flatMap (·.1.words) = argument name a := by
  cases a <;> rfl

theorem lookup_mention (k : String) :
    ((mention name value a).map fun e => (e.1.name, e.2)).lookup k =
      if k = name then a.map value else none := by
  cases a with
  | none => simp [mention]
  | some a =>
    by_cases h : k = name
    · simp [mention, h]
    · have hbeq : (k == name) = false := by simpa using h
      simp [mention, List.lookup_cons, hbeq, h]

theorem names_mention_sublist :
    List.Sublist ((mention name value a).map (·.1.name)) [name] := by
  cases a <;> simp [mention]

variable {name value a}

theorem plain_mention_iff :
    (∀ e ∈ mention name value a, e.1.Plain) ↔ ∀ x, a = some x → shapeOf (toString x) = .plain := by
  cases a with
  | none => simp [mention]
  | some x => simp [mention, Mention.Plain]

theorem known_mention {l : Level} {o : Opt} (hk : ∀ given, l.Knows ⟨name, some given⟩ o)
    (hread : ∀ x, a = some x → o.read (toString x) = .ok (value x)) :
    ∀ e ∈ mention name value a,
      ∃ o, l.Knows e.1 o ∧ o.read (e.1.value.getD "") = .ok e.2 := by
  cases a with
  | none => simp [mention]
  | some x =>
    simp only [mention, List.forall_mem_singleton]
    exact ⟨o, hk _, hread x rfl⟩

end mention

end Rota.Cli

namespace Rota.Service.Simulation

open Cli

/-- What the line of the host mentions of its rules. -/
def ruleMentions (o : RuleOptions) : List (Mention × Value) :=
  mention "config" .text o.config ++
    mention "max-players" (fun n => .number (Int.ofNat n.toNat)) o.maxPlayers ++
    mention "min-players" (fun n => .number (Int.ofNat n.toNat)) o.minPlayers ++
    mention "lap-cap" (fun n => .number (Int.ofNat n.toNat)) o.lapCap ++
    mention "starting-money" (fun n => .number n.toInt) o.startingMoney ++
    mention "proactive-tick-ms" (fun n => .number (Int.ofNat n.toNat)) o.tickMillis

/-- What the line of the host mentions. -/
def hostMentions (game : String) (o : SimulateOptions) : List (Mention × Value) :=
  mention "name" .text (some game) ++ mention "log-file" .text (some o.logFile) ++
    mention "scores-file" .text (some o.scoresFile) ++ [({ name := "reset" }, .set)] ++
    mention "timeout-secs" (fun n => .number (Int.ofNat n.toNat)) (some o.timeoutSecs) ++
    ruleMentions (hostRules o)

theorem hostArgs_eq (game : String) (o : SimulateOptions) :
    hostArgs game o = "host" :: (hostMentions game o).flatMap (·.1.words) := by
  simp only [hostMentions, ruleMentions, List.flatMap_append, flatMap_words_mention]
  rfl

theorem nodup_hostMentions (game : String) (o : SimulateOptions) :
    ((hostMentions game o).map (·.1.name)).Nodup := by
  have hall : List.Sublist ((hostMentions game o).map (·.1.name))
      (["name"] ++ ["log-file"] ++ ["scores-file"] ++ ["reset"] ++ ["timeout-secs"] ++
        (["config"] ++ ["max-players"] ++ ["min-players"] ++ ["lap-cap"] ++ ["starting-money"] ++
          ["proactive-tick-ms"])) := by
    simp only [hostMentions, ruleMentions, List.map_append]
    repeat' apply List.Sublist.append
    all_goals first | exact names_mention_sublist _ _ _ | exact .refl _
  exact hall.nodup (by decide)

/-- The options that the host is given, by name. -/
def hostLine (game : String) (o : SimulateOptions) : List (String × Value) :=
  (hostMentions game o).map fun e => (e.1.name, e.2)

/-- What the host makes of its line. -/
def hostCommand (game : String) (o : SimulateOptions) : HostOptions :=
  { name := game
    logFile := o.logFile
    scoresFile := o.scoresFile
    rules := hostRules o
    reset := true
    timeoutSecs := some o.timeoutSecs }

theorem lookup_hostLine (game : String) (o : SimulateOptions) (k : String) :
    (hostLine game o).lookup k =
      (if k = "name" then some (.text game) else none).or
        ((if k = "log-file" then some (.text o.logFile) else none).or
        ((if k = "scores-file" then some (.text o.scoresFile) else none).or
        ((if k = "reset" then some .set else none).or
        ((if k = "timeout-secs" then some (.number (Int.ofNat o.timeoutSecs.toNat)) else none).or
        ((if k = "config" then o.rules.config.map .text else none).or
        ((if k = "max-players" then
          o.rules.maxPlayers.map fun n => .number (Int.ofNat n.toNat) else none).or
        ((if k = "min-players" then some (.number (Int.ofNat o.players.toNat)) else none).or
        ((if k = "lap-cap" then
          o.rules.lapCap.map fun n => .number (Int.ofNat n.toNat) else none).or
        ((if k = "starting-money" then
          o.rules.startingMoney.map fun n => .number n.toInt else none).or
        (if k = "proactive-tick-ms" then
          o.rules.tickMillis.map fun n => .number (Int.ofNat n.toNat) else none)))))))))) := by
  have hreset : ([({ name := "reset" }, .set)].map fun e : Mention × Value =>
      (e.1.name, e.2)).lookup k = if k = "reset" then some .set else none := by
    by_cases hk : k = "reset"
    · simp [hk]
    · have hbeq : (k == "reset") = false := by simpa using hk
      simp [List.lookup_cons, hbeq, hk]
  simp only [hostLine, hostMentions, ruleMentions, List.map_append, List.lookup_append,
    lookup_mention, hreset, Option.or_assoc]
  rfl

/-- What is on the line of the host makes up its command, whatever the folder for reports. -/
theorem command_host {game : String} {o : SimulateOptions} {g : Given}
    (h : ∀ name, name ≠ "diagnostics-dir" → g.get? name = (hostLine game o).lookup name) :
    g.command .host = .host (hostCommand game o) := by
  have hlook (name : String) (hne : name ≠ "diagnostics-dir") :=
    (h name hne).trans (lookup_hostLine game o name)
  have hname : g.get? "name" = (some game).map .text := by
    simpa using hlook "name" (by decide)
  have hlog : g.get? "log-file" = (some o.logFile).map .text := by
    simpa using hlook "log-file" (by decide)
  have hscores : g.get? "scores-file" = (some o.scoresFile).map .text := by
    simpa using hlook "scores-file" (by decide)
  have hreset : g.get? "reset" = some .set := by
    simpa using hlook "reset" (by decide)
  have htimeout : g.get? "timeout-secs" =
      (some o.timeoutSecs).map fun n => .number (Int.ofNat n.toNat) := by
    simpa using hlook "timeout-secs" (by decide)
  have hconfig : g.get? "config" = o.rules.config.map .text := by
    simpa using hlook "config" (by decide)
  have hmax : g.get? "max-players" =
      o.rules.maxPlayers.map fun n => .number (Int.ofNat n.toNat) := by
    simpa using hlook "max-players" (by decide)
  have hmin : g.get? "min-players" =
      (some o.players).map fun n => .number (Int.ofNat n.toNat) := by
    simpa using hlook "min-players" (by decide)
  have hlap : g.get? "lap-cap" =
      o.rules.lapCap.map fun n => .number (Int.ofNat n.toNat) := by
    simpa using hlook "lap-cap" (by decide)
  have hmoney : g.get? "starting-money" = o.rules.startingMoney.map fun n => .number n.toInt := by
    simpa using hlook "starting-money" (by decide)
  have htick : g.get? "proactive-tick-ms" =
      o.rules.tickMillis.map fun n => .number (Int.ofNat n.toNat) := by
    simpa using hlook "proactive-tick-ms" (by decide)
  simp only [Given.command, Given.gameName, Given.logFile, Given.scoresFile, Given.ruleOptions,
    Given.isSet, hreset, Given.text?_of_get? hname, Given.text?_of_get? hlog,
    Given.text?_of_get? hscores, Given.text?_of_get? hconfig, Given.natural?_of_get? htimeout,
    Given.natural?_of_get? hmax, Given.natural?_of_get? hmin, Given.natural?_of_get? htick,
    Given.small?_of_get? hlap, Given.integer?_of_get? hmoney]
  rfl

section reading

variable {game : String} {o : SimulateOptions}

theorem knows_host {name : String} {opt : Opt}
    (shape : shapeOf s!"--{name}" = .long name none)
    (option : Verb.host.level.option? name = some opt) (kind : opt.kind.takesValue = true)
    (given : String) : Verb.host.level.Knows ⟨name, some given⟩ opt where
  shape := shape
  option := option
  name := by simpa using List.find?_some option
  kind := kind

/-- No value on the line of the host looks like an option. -/
structure Unmistakable (game : String) (o : SimulateOptions) : Prop where
  name : shapeOf game = .plain
  logFile : shapeOf o.logFile = .plain
  scoresFile : shapeOf o.scoresFile = .plain
  config : ∀ path, o.rules.config = some path → shapeOf path = .plain
  startingMoney : ∀ money, o.rules.startingMoney = some money → 0 ≤ money

/-- No file on the line of the host has the empty path. -/
structure Located (o : SimulateOptions) : Prop where
  logFile : o.logFile ≠ ""
  scoresFile : o.scoresFile ≠ ""
  config : ∀ path, o.rules.config = some path → path ≠ ""

theorem plain_hostMentions_iff :
    (∀ e ∈ hostMentions game o, e.1.Plain) ↔ Unmistakable game o := by
  have hnumber (n : UInt64) : shapeOf (toString n) = .plain := shapeOf_repr n.toNat
  have hsmall (n : UInt32) : shapeOf (toString n) = .plain := shapeOf_repr n.toNat
  have htext (s : String) : toString s = s := rfl
  have hreset : Mention.Plain { name := "reset" } := nofun
  simp only [hostMentions, ruleMentions, hostRules, List.forall_mem_append, plain_mention_iff,
    List.forall_mem_singleton, hnumber, hsmall, htext, shapeOf_toString_iff, hreset]
  constructor
  · rintro ⟨⟨⟨⟨⟨hname, hlog⟩, hscores⟩, -⟩, -⟩, ⟨⟨⟨⟨hconfig, -⟩, -⟩, -⟩, hmoney⟩, -⟩
    exact ⟨hname _ rfl, hlog _ rfl, hscores _ rfl, hconfig, hmoney⟩
  · intro h
    simpa using ⟨⟨⟨h.name, h.logFile⟩, h.scoresFile⟩, h.config, h.startingMoney⟩

theorem known_ruleMentions (hp : Located o) : ∀ e ∈ ruleMentions (hostRules o),
    ∃ opt, Verb.host.level.Knows e.1 opt ∧ opt.read (e.1.value.getD "") = .ok e.2 := by
  simp only [ruleMentions, List.forall_mem_append]
  refine ⟨⟨⟨⟨⟨?_, ?_⟩, ?_⟩, ?_⟩, ?_⟩, ?_⟩
  · exact known_mention (knows_host (by decide +kernel) rfl rfl)
      fun path hpath => Opt.read_path rfl (hp.config path hpath)
  · exact known_mention (knows_host (by decide +kernel) rfl rfl) fun n _ => Opt.read_natural rfl n
  · exact known_mention (knows_host (by decide +kernel) rfl rfl) fun n _ => Opt.read_natural rfl n
  · exact known_mention (knows_host (by decide +kernel) rfl rfl) fun n _ => Opt.read_small rfl n
  · exact known_mention (knows_host (by decide +kernel) rfl rfl) fun n _ => Opt.read_integer rfl n
  · exact known_mention (knows_host (by decide +kernel) rfl rfl) fun n _ => Opt.read_natural rfl n

theorem known_hostMentions (hp : Located o) : ∀ e ∈ hostMentions game o,
    ∃ opt, Verb.host.level.Knows e.1 opt ∧ opt.read (e.1.value.getD "") = .ok e.2 := by
  simp only [hostMentions, List.forall_mem_append]
  refine ⟨⟨⟨⟨⟨?_, ?_⟩, ?_⟩, ?_⟩, ?_⟩, known_ruleMentions hp⟩
  · exact known_mention (knows_host (by decide +kernel) rfl rfl) fun _ _ => Opt.read_text rfl _
  · refine known_mention (knows_host (by decide +kernel) rfl rfl) ?_
    rintro path ⟨⟩
    exact Opt.read_path rfl hp.logFile
  · refine known_mention (knows_host (by decide +kernel) rfl rfl) ?_
    rintro path ⟨⟩
    exact Opt.read_path rfl hp.scoresFile
  · rw [List.forall_mem_singleton]
    exact ⟨_, ⟨by decide +kernel, rfl, rfl, rfl⟩, rfl⟩
  · exact known_mention (knows_host (by decide +kernel) rfl rfl) fun n _ => Opt.read_natural rfl n

end reading

/-- What the host finds in the environment is not what its line leaves out. -/
structure Covered (env : Environment) (o : SimulateOptions) : Prop where
  config : o.rules.config = none → env.lookup "TURNSTILE_CONFIG" = none
  tick : o.rules.tickMillis = none → env.lookup "TURNSTILE_PROACTIVE_TICK_MS" = none

section parse

variable {env : Environment} {game : String} {o : SimulateOptions}

theorem parse_host (env : Environment) (args : List String) :
    parse env ("host" :: args) =
      (Verb.host.level.read {} args).bind fun r =>
        (Verb.host.level.finish env r.1).bind fun g =>
          (programLevel.finish env {}).bind fun g' =>
            .ok ⟨diagnosticsOf g' g, g.command .host⟩ := by
  rfl

/-- The line of the host or nobody says what the environment could say, but for the reports. -/
theorem idle_hostOptions (hc : Covered env o) : ∀ opt ∈ hostOptions ++ [helpOption],
    (opt.envName.bind fun n => env.lookup n) = none ∨
      ((hostLine game o).lookup opt.name).isSome := by
  have hlook := lookup_hostLine game o
  have hconfig : env.lookup "TURNSTILE_CONFIG" = none ∨
      ((hostLine game o).lookup "config").isSome := by
    cases ho : o.rules.config with
    | none => exact .inl (hc.config ho)
    | some path => exact .inr (by simp [hlook, ho])
  have htick : env.lookup "TURNSTILE_PROACTIVE_TICK_MS" = none ∨
      ((hostLine game o).lookup "proactive-tick-ms").isSome := by
    cases ho : o.rules.tickMillis with
    | none => exact .inl (hc.tick ho)
    | some n => exact .inr (by simp [hlook, ho])
  have hname : ((hostLine game o).lookup "name").isSome := by simp [hlook]
  have hlog : ((hostLine game o).lookup "log-file").isSome := by simp [hlook]
  have hscores : ((hostLine game o).lookup "scores-file").isSome := by simp [hlook]
  intro opt hopt
  simp only [hostOptions, ruleOptions, gameNameOption, helpOption, List.cons_append,
    List.nil_append, List.mem_cons, List.not_mem_nil, or_false] at hopt
  rcases hopt with rfl | rfl | rfl | rfl | rfl | rfl | rfl | rfl | rfl | rfl | rfl | rfl
  · exact .inr hname
  · exact .inr hlog
  · exact .inr hscores
  · exact hconfig
  · exact .inl rfl
  · exact .inl rfl
  · exact .inl rfl
  · exact .inl rfl
  · exact htick
  · exact .inl rfl
  · exact .inl rfl
  · exact .inl rfl

/-- Nothing but the folder for reports comes from the environment. -/
theorem finish_host (hc : Covered env o) {r s : Reading} (hs : r.settle = .ok s)
    (hg : s.given = hostLine game o) :
    Verb.host.level.finish env r =
      (⟨hostLine game o, []⟩ : Given).addVariable env diagnosticsOption := by
  have hfold := Given.foldlM_addVariable (g := ⟨hostLine game o, []⟩) (idle_hostOptions hc)
  have hfinish : Verb.host.level.finish env r =
      ((hostOptions ++ [helpOption]) ++ [diagnosticsOption]).foldlM (Given.addVariable env)
        ⟨hostLine game o, []⟩ := by
    rw [Level.finish, hs, ← hg]
    rfl
  rw [hfinish, List.foldlM_append, hfold]
  exact bind_pure (Given.addVariable env ⟨hostLine game o, []⟩ diagnosticsOption)

theorem finish_program (env : Environment) :
    programLevel.finish env {} = ({} : Given).addVariable env diagnosticsOption := by
  exact bind_pure (Given.addVariable env {} diagnosticsOption)

/-- What the line of the host is read as, if all is well. -/
theorem read_hostArgs (hu : Unmistakable game o) (hp : Located o) :
    ∃ r, Verb.host.level.read {} ((hostMentions game o).flatMap (·.1.words)) = .ok (r, none) ∧
      r.settle = .ok { given := hostLine game o } := by
  have hplain := plain_hostMentions_iff.mpr hu
  have htakes : ∀ e ∈ hostMentions game o, Verb.host.level.Takes e.1 e.2 :=
    fun e he => ⟨hplain e he, known_hostMentions hp e he⟩
  exact Level.read_mentions (s := {}) rfl htakes (nodup_hostMentions game o) rfl rfl fun _ _ => rfl

theorem lookup_reports (game : String) (o : SimulateOptions) :
    (hostLine game o).lookup "diagnostics-dir" = none := by
  simp [lookup_hostLine]

theorem of_parse_hostArgs (hp : Located o) (hc : Covered env o) {i : Invocation}
    (h : parse env (hostArgs game o) = .ok i) :
    Unmistakable game o ∧ env.lookup "TURNSTILE_LOG_DIR" ≠ some "" ∧
      i.command = .host (hostCommand game o) := by
  rw [hostArgs_eq, parse_host] at h
  obtain ⟨⟨r, found⟩, hread, h⟩ := bind_eq_ok_iff.mp h
  obtain ⟨g, hfinish, h⟩ := bind_eq_ok_iff.mp h
  obtain ⟨g', -, h⟩ := bind_eq_ok_iff.mp h
  cases h
  obtain ⟨s, hs, -⟩ := bind_eq_ok_iff.mp hfinish
  have hmentions : ∀ m ∈ (hostMentions game o).map Prod.fst,
      ∃ opt, Verb.host.level.Knows m opt := by
    simp only [List.forall_mem_map]
    intro e he
    obtain ⟨opt, hk, -⟩ := known_hostMentions hp e he
    exact ⟨opt, hk⟩
  have hu : Unmistakable game o := by
    have hplain := Level.plain_of_read rfl hmentions rfl (by rwa [List.flatMap_map]) hs
    rw [List.forall_mem_map] at hplain
    exact plain_hostMentions_iff.mp hplain
  -- the line has been read as it is meant
  obtain ⟨r₁, hread₁, hs₁⟩ := read_hostArgs hu hp
  rw [hread] at hread₁
  cases hread₁
  rw [finish_host hc hs₁ rfl] at hfinish
  have hget : ∀ name, name ≠ "diagnostics-dir" → g.get? name = (hostLine game o).lookup name := by
    intro name hne
    rw [Given.get?_addVariable hfinish hne]
    exact Option.or_none
  exact ⟨hu, (Given.exists_addVariable_iff (lookup_reports game o)).mp ⟨g, hfinish⟩,
    command_host hget⟩

theorem exists_parse_hostArgs (hp : Located o) (hc : Covered env o) (hu : Unmistakable game o)
    (hdir : env.lookup "TURNSTILE_LOG_DIR" ≠ some "") :
    ∃ i, parse env (hostArgs game o) = .ok i := by
  obtain ⟨r, hread, hs⟩ := read_hostArgs hu hp
  obtain ⟨g, hg⟩ := (Given.exists_addVariable_iff (g := ⟨hostLine game o, []⟩)
    (lookup_reports game o)).mpr hdir
  obtain ⟨g', hg'⟩ := (Given.exists_addVariable_iff (g := {}) rfl).mpr hdir
  refine ⟨⟨diagnosticsOf g' g, g.command .host⟩, ?_⟩
  rw [hostArgs_eq, parse_host, hread, finish_program, hg']
  dsimp only [Except.bind]
  rw [finish_host hc hs rfl, hg]

end parse

section simulate

variable {g : Given} {l : Level} (h : g.Within l)
include h

theorem path_ne_empty {name : String} (hk : ∀ o ∈ l.options, o.name = name → o.kind = .path)
    {path : String} (hp : g.text? name = some path) : path ≠ "" := by
  rw [Given.text?] at hp
  cases hv : g.get? name with
  | none =>
    rw [hv] at hp
    cases hp
  | some v =>
    obtain ⟨s, rfl, hs⟩ := h.path hk hv
    rw [hv] at hp
    cases hp
    exact hs

theorem getD_path_ne_empty {name standard : String}
    (hk : ∀ o ∈ l.options, o.name = name → o.kind = .path) (hstandard : standard ≠ "") :
    (g.text? name).getD standard ≠ "" := by
  cases hp : g.text? name with
  | none => exact hstandard
  | some path => exact path_ne_empty h hk hp

theorem get?_of_text?_eq_none {name : String}
    (hk : ∀ o ∈ l.options, o.name = name → o.kind = .path) (hn : g.text? name = none) :
    g.get? name = none := by
  rw [Given.text?] at hn
  cases hv : g.get? name with
  | none => rfl
  | some v =>
    obtain ⟨s, rfl, -⟩ := h.path hk hv
    rw [hv] at hn
    cases hn

theorem get?_of_natural?_eq_none {name : String}
    (hk : ∀ o ∈ l.options, o.name = name → o.kind = .natural) (hn : g.natural? name = none) :
    g.get? name = none := by
  rw [Given.natural?, Given.number?] at hn
  cases hv : g.get? name with
  | none => rfl
  | some v =>
    obtain ⟨n, rfl⟩ := h.natural hk hv
    rw [hv] at hn
    cases hn

end simulate

/-- What a line for a simulation says of its files and leaves to the environment. -/
theorem located_of_parse {env : Environment} {args : List String} {d : Option String}
    {o : SimulateOptions} (h : parse env args = .ok ⟨d, .simulate o⟩) :
    Located o ∧ Covered env o := by
  obtain ⟨v, g, hcommand, hwithin, hset⟩ := exists_given_of_parse h
  cases v with
  | simulate =>
    cases hcommand
    have hunset {name stand : String} (hopt : ∃ opt ∈ Verb.simulate.level.options,
        opt.name = name ∧ opt.envName = some stand) (hget : g.get? name = none) :
        env.lookup stand = none := by
      obtain ⟨opt, hmem, rfl, hstand⟩ := hopt
      by_contra hno
      have hsome := hset opt hmem (by rw [hstand]; exact Option.isSome_iff_ne_none.mpr hno)
      rw [hget] at hsome
      cases hsome
    refine ⟨⟨?_, ?_, ?_⟩, ⟨?_, ?_⟩⟩
    · exact getD_path_ne_empty hwithin (by decide) (by decide)
    · exact getD_path_ne_empty hwithin (by decide) (by decide)
    · exact fun path hpath => path_ne_empty hwithin (by decide) hpath
    · intro hnone
      exact hunset (by decide) (get?_of_text?_eq_none hwithin (by decide) hnone)
    · intro hnone
      exact hunset (by decide) (get?_of_natural?_eq_none hwithin (by decide) hnone)
  | host => cases hcommand
  | player => cases hcommand
  | cleanShm => cases hcommand

/-- A game that is named after the process does not look like an option. -/
theorem shapeOf_gameName {o : SimulateOptions} {process : String} :
    shapeOf (gameName o process) = .plain ↔ ∀ name, o.name = some name → shapeOf name = .plain := by
  cases ho : o.name with
  | none =>
    have hname : gameName o process = "turnstile_sim_" ++ process := by
      rw [gameName, ho]
      rfl
    have hlist : (gameName o process).toList = 't' :: "urnstile_sim_".toList ++ process.toList := by
      rw [hname, String.toList_append]
      rfl
    simp [shapeOf_of_ne hlist (by decide)]
  | some name => simp [gameName, ho]

/-- The host of a simulation is started just if no value that is handed to it looks like an option
and the folder for reports, if the environment names one, is not the empty path. It is then asked
for what the simulation has been asked for, to wait for every player. -/
theorem parse_hostArgs_iff {env : Environment} {args : List String} {d : Option String}
    {o : SimulateOptions} (h : parse env args = .ok ⟨d, .simulate o⟩) (process : String) :
    ((∃ i, parse env (hostArgs (gameName o process) o) = .ok i) ↔
      (∀ name, o.name = some name → shapeOf name = .plain) ∧ shapeOf o.logFile = .plain ∧
        shapeOf o.scoresFile = .plain ∧
        (∀ path, o.rules.config = some path → shapeOf path = .plain) ∧
        (∀ money, o.rules.startingMoney = some money → 0 ≤ money) ∧
        env.lookup "TURNSTILE_LOG_DIR" ≠ some "") ∧
      ∀ i, parse env (hostArgs (gameName o process) o) = .ok i →
        ∃ host, i.command = .host host ∧ host.name = gameName o process ∧
          host.logFile = o.logFile ∧ host.scoresFile = o.scoresFile ∧ host.reset = true ∧
          host.timeoutSecs = some o.timeoutSecs ∧
          host.rules = { o.rules with minPlayers := some o.players } ∧
          ∀ files, host.rules.resolve files =
            RuleOptions.resolve { o.rules with minPlayers := some o.players } files := by
  obtain ⟨hp, hc⟩ := located_of_parse h
  refine ⟨⟨?_, ?_⟩, ?_⟩
  · rintro ⟨i, hi⟩
    obtain ⟨hu, hdir, -⟩ := of_parse_hostArgs hp hc hi
    exact ⟨shapeOf_gameName.mp hu.name, hu.logFile, hu.scoresFile, hu.config, hu.startingMoney,
      hdir⟩
  · rintro ⟨hname, hlog, hscores, hconfig, hmoney, hdir⟩
    have hu : Unmistakable (gameName o process) o :=
      ⟨shapeOf_gameName.mpr hname, hlog, hscores, hconfig, hmoney⟩
    exact exists_parse_hostArgs hp hc hu hdir
  · intro i hi
    obtain ⟨-, -, hcommand⟩ := of_parse_hostArgs hp hc hi
    exact ⟨_, hcommand, rfl, rfl, rfl, rfl, rfl, rfl, fun _ => rfl⟩

theorem parse_hostArgs_iff_of_environment :
    ∃ (env : Environment) (args : List String) (o : SimulateOptions),
      env = [("TURNSTILE_NAME", "other"), ("TURNSTILE_PROACTIVE_TICK_MS", "20"),
        ("TURNSTILE_LOG_DIR", "reports")] ∧
      args = ["simulate", "--players", "4", "--log-file=night.log", "--starting-money", "900",
        "--config", "rules.yaml", "--min-players=3"] ∧
      parse env args = .ok ⟨some "reports", .simulate o⟩ ∧
      ∃ i host, parse env (hostArgs (gameName o "7") o) = .ok i ∧ i.command = .host host ∧
        host.name = "turnstile_sim_7" ∧
        host.rules = { o.rules with minPlayers := some o.players } ∧ o.players = 4 := by
  obtain ⟨env, henv⟩ : ∃ env : Environment, env =
      [("TURNSTILE_NAME", "other"), ("TURNSTILE_PROACTIVE_TICK_MS", "20"),
        ("TURNSTILE_LOG_DIR", "reports")] := ⟨_, rfl⟩
  obtain ⟨args, hargs⟩ : ∃ args : List String, args =
      ["simulate", "--players", "4", "--log-file=night.log", "--starting-money", "900",
        "--config", "rules.yaml", "--min-players=3"] := ⟨_, rfl⟩
  obtain ⟨o, ho⟩ : ∃ o : SimulateOptions, o =
      { name := none, players := 4, logFile := "night.log", scoresFile := "scores.json"
        rules :=
          { config := some "rules.yaml", minPlayers := some 3, startingMoney := some 900
            tickMillis := some 20 }
        timeoutSecs := 60 } := ⟨_, rfl⟩
  have hparse : parse env args = .ok ⟨some "reports", .simulate o⟩ := by
    rw [henv, hargs, ho]
    decide +kernel
  obtain ⟨hiff, hhost⟩ := parse_hostArgs_iff hparse "7"
  have hconditions : (∀ name, o.name = some name → shapeOf name = .plain) ∧
      shapeOf o.logFile = .plain ∧ shapeOf o.scoresFile = .plain ∧
      (∀ path, o.rules.config = some path → shapeOf path = .plain) ∧
      (∀ money, o.rules.startingMoney = some money → 0 ≤ money) ∧
      env.lookup "TURNSTILE_LOG_DIR" ≠ some "" := by
    rw [ho, henv]
    refine ⟨nofun, by decide +kernel, by decide +kernel, ?_, ?_, by decide +kernel⟩
    · rintro path ⟨⟩
      decide +kernel
    · rintro money ⟨⟩
      decide
  obtain ⟨i, hi⟩ := hiff.mpr hconditions
  obtain ⟨host, hcommand, hname, -, -, -, -, hrules, -⟩ := hhost i hi
  have hgame : gameName o "7" = "turnstile_sim_7" := by
    rw [ho]
    decide +kernel
  have hplayers : o.players = 4 := by rw [ho]
  exact ⟨env, args, o, henv, hargs, hparse, i, host, hi, hcommand, hname.trans hgame, hrules,
    hplayers⟩

/-- Rules in a file whose name begins with a dash do not reach the host. -/
theorem not_parse_hostArgs_of_dash :
    ∃ (args : List String) (o : SimulateOptions),
      args = ["simulate", "--name", "g", "--config=-rules.yaml"] ∧
      parse [] args = .ok ⟨none, .simulate o⟩ ∧ 3 ≤ o.players.toNat ∧ o.players.toNat ≤ 5 ∧
      hostArgs (gameName o "7") o =
        ["host", "--name", "g", "--log-file", "game.log", "--scores-file", "scores.json", "--reset",
          "--timeout-secs", "60", "--config", "-rules.yaml", "--min-players", "3"] ∧
      parse [] (hostArgs (gameName o "7") o) = .error (.unknownArgument "-r") := by
  obtain ⟨o, ho⟩ : ∃ o : SimulateOptions, o =
      { name := some "g", players := 3, logFile := "game.log", scoresFile := "scores.json"
        rules := { config := some "-rules.yaml" }, timeoutSecs := 60 } := ⟨_, rfl⟩
  have hargs : hostArgs (gameName o "7") o =
      ["host", "--name", "g", "--log-file", "game.log", "--scores-file", "scores.json", "--reset",
        "--timeout-secs", "60", "--config", "-rules.yaml", "--min-players", "3"] := by
    rw [ho]
    decide +kernel
  refine ⟨_, o, rfl, ?_, ?_, ?_, hargs, ?_⟩
  · rw [ho]
    decide +kernel
  · rw [ho]
    decide
  · rw [ho]
    decide
  · rw [hargs]
    decide +kernel

end Rota.Service.Simulation
