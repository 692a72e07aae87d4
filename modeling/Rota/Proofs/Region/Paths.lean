import Rota.Proofs.Region.Incarnation
import Rota.Proofs.Text.Glob
import Rota.Region.Find

namespace Rota.Region

open Text.Glob (Part Pattern accepts spelled?)

theorem isEntryName_iff {n : String} :
    isEntryName n = true ↔ n ≠ "" ∧ n ≠ "." ∧ n ≠ ".." ∧ '/' ∉ n.toList := by
  simp [isEntryName, and_assoc]

namespace Spot

variable {s t : Spot} {n : String} {r : List String}

theorem route_enter (s : Spot) (n : String) : (s.enter n).route = s.route ++ [n] := rfl

theorem place_enter (s : Spot) (hempty : n ≠ "") (hdot : n ≠ ".") (hdots : n ≠ "..") :
    (s.enter n).place = s.place ++ [n] := by
  unfold enter
  split
  · exact absurd rfl hempty
  · exact absurd rfl hdot
  · exact absurd rfl hdots
  · rfl

/-- Once a component is shown, all that are not empty are shown behind it. -/
theorem steps_of_steps (hs : s.steps ≠ []) (hr : t.route = s.route ++ r) :
    t.steps = s.steps ++ r.filter (· ≠ "") := by
  rw [steps, hr, List.filter_append, List.dropWhile_append, if_neg]
  · rfl
  · rwa [List.isEmpty_iff]

theorem steps_of_nil (hs : s.steps = []) (hr : t.route = s.route ++ r) :
    t.steps = (r.filter (· ≠ "")).dropWhile (· = ".") := by
  rw [steps, hr, List.filter_append, List.dropWhile_append, if_pos]
  rwa [List.isEmpty_iff]

theorem name_of_steps (hs : s.steps = [n]) : s.name = n := by
  rw [name, hs]
  rfl

theorem toList_name_of_steps {m : String} {ms : List String} (hs : s.steps = n :: m :: ms) :
    ∃ cs, s.name.toList = n.toList ++ '/' :: cs := by
  refine ⟨("/".intercalate (m :: ms)).toList, ?_⟩
  rw [name, hs, String.intercalate_cons_of_ne_nil (List.cons_ne_nil m ms), String.toList_append,
    String.toList_append, List.append_assoc]
  rfl

/-- What is shown begins with a component, and so with no slash. -/
theorem head?_name (h : ∀ n ∈ s.steps, n ≠ "" ∧ '/' ∉ n.toList) :
    s.name.toList.head? ≠ some '/' := by
  cases hsteps : s.steps with
  | nil =>
    rw [name, hsteps]
    exact nofun
  | cons n ns =>
    obtain ⟨hempty, hn⟩ := h n (by rw [hsteps]; exact List.mem_cons_self)
    have hname : ∃ cs, s.name.toList = n.toList ++ cs := by
      cases ns with
      | nil => exact ⟨[], by rw [name_of_steps hsteps, List.append_nil]⟩
      | cons m ms =>
        obtain ⟨cs, hcs⟩ := toList_name_of_steps hsteps
        exact ⟨_, hcs⟩
    obtain ⟨cs, hcs⟩ := hname
    rw [hcs, List.head?_append_of_ne_nil _ (mt String.toList_eq_nil_iff.mp hempty)]
    exact fun hhead => hn (List.mem_of_head? hhead)

/-- A name without a slash is a component of its own. -/
theorem steps_of_name (hs : s.steps ≠ []) (hname : '/' ∉ s.name.toList) : s.steps = [s.name] := by
  cases hsteps : s.steps with
  | nil => exact absurd hsteps hs
  | cons n ns =>
    cases ns with
    | nil => rw [name_of_steps hsteps]
    | cons m ms =>
      obtain ⟨cs, hcs⟩ := toList_name_of_steps hsteps
      rw [hcs] at hname
      exact absurd (List.mem_append_right _ List.mem_cons_self) hname

end Spot

/-- The components that a part of a pattern stands for. Only if it begins with a dot does it stand
for a folder's own entries. -/
inductive Takes (p : Part) : List String → Prop
  | below {ns : List String} {n : String} : p.deep = true → (∀ m ∈ ns, isEntryName m) →
      isEntryName n → accepts p.tokens n.toList → Takes p (ns ++ [n])
  | entry {n : String} : p.deep = false → isEntryName n → accepts p.tokens n.toList → Takes p [n]
  | dots {n : String} : p.deep = false → n = "." ∨ n = ".." →
      p.tokens.head? = some (.literal '.') → accepts p.tokens n.toList → Takes p [n]
  | spelled {n : String} : p.deep = false → spelled? p.tokens = some n.toList → Takes p [n]

/-- The paths, component by component, that the parts of a pattern stand for. -/
inductive Matches : List Part → List String → Prop
  | nil : Matches [] []
  | cons {p : Part} {ps : List Part} {ns r : List String} : Takes p ns → Matches ps r →
      Matches (p :: ps) (ns ++ r)

theorem Takes.ne_nil {p : Part} {ns : List String} (h : Takes p ns) : ns ≠ [] := by
  cases h with
  | below _ _ _ _ => exact List.append_ne_nil_of_right_ne_nil _ (List.cons_ne_nil _ _)
  | entry _ _ _ | dots _ _ _ _ | spelled _ _ => exact List.cons_ne_nil _ _

theorem Takes.accepts {p : Part} {n : String} (h : Takes p [n]) :
    accepts p.tokens n.toList = true := by
  generalize hns : [n] = ns at h
  cases h with
  | @below ms m _ _ _ haccepts =>
    rwa [(List.append_singleton_inj.mp (show [] ++ [n] = ms ++ [m] from hns)).2]
  | entry _ _ haccepts | dots _ _ _ haccepts => rwa [List.singleton_inj.mp hns]
  | spelled _ hspelled =>
    rw [List.singleton_inj.mp hns]
    exact (Text.Glob.accepts_iff_of_spelled hspelled _).mpr rfl

/-- No part stands both for nothing and for the folder itself. -/
theorem Takes.not_dot (h : Takes p [""]) : ¬Takes p ["."] := by
  have hspelled : spelled? p.tokens = some [] := by
    generalize hns : [""] = ns at h
    cases h with
    | @below ms m _ _ hm _ =>
      rw [← (List.append_singleton_inj.mp (show [] ++ [""] = ms ++ [m] from hns)).2] at hm
      exact absurd rfl (isEntryName_iff.mp hm).1
    | entry _ hm _ =>
      rw [← List.singleton_inj.mp hns] at hm
      exact absurd rfl (isEntryName_iff.mp hm).1
    | dots _ hm _ _ =>
      rw [← List.singleton_inj.mp hns] at hm
      exact absurd hm (by decide)
    | spelled _ hspelled =>
      rw [← List.singleton_inj.mp hns] at hspelled
      exact hspelled
  intro hdot
  have hempty := (Text.Glob.accepts_iff_of_spelled hspelled _).mp hdot.accepts
  cases hempty

theorem Matches.eq_nil {r : List String} (h : Matches [] r) : r = [] := by
  cases h
  rfl

theorem Matches.parts_eq_nil {ps : List Part} (h : Matches ps []) : ps = [] := by
  generalize hr : ([] : List String) = r at h
  cases h with
  | nil => rfl
  | cons htakes _ => exact absurd (List.append_eq_nil_iff.mp hr.symm).1 htakes.ne_nil

/-- No component has a slash in it. -/
theorem Matches.not_mem {ps : List Part} (hps : ∀ p ∈ ps, p.Plain) {r : List String}
    (h : Matches ps r) : ∀ n ∈ r, '/' ∉ n.toList := by
  induction h with
  | nil => exact fun _ hn => absurd hn List.not_mem_nil
  | @cons p ps ns r htakes _ ih =>
    have hfirst : ∀ n ∈ ns, '/' ∉ n.toList := by
      cases htakes with
      | below _ hms hm _ =>
        intro n hn
        rcases List.mem_append.mp hn with hn | hn
        · exact (isEntryName_iff.mp (hms n hn)).2.2.2
        · rw [List.mem_singleton.mp hn]
          exact (isEntryName_iff.mp hm).2.2.2
      | entry _ hm _ =>
        intro n hn
        rw [List.mem_singleton.mp hn]
        exact (isEntryName_iff.mp hm).2.2.2
      | dots _ hm _ _ =>
        intro n hn
        rw [List.mem_singleton.mp hn]
        rcases hm with rfl | rfl <;> decide
      | spelled _ hspelled =>
        intro n hn
        rw [List.mem_singleton.mp hn]
        exact hps p List.mem_cons_self _ hspelled
    intro n hn
    rcases List.mem_append.mp hn with hn | hn
    · exact hfirst n hn
    · exact ih (fun q hq => hps q (List.mem_cons_of_mem p hq)) n hn

namespace Space

variable {sp : Space} {s t : Spot} {n : String} {r : List String}

section following

theorem enter?_eq_some_iff : sp.enter? s n = some t ↔
    sp.isFolder s.place = true ∧ (sp.kind? (s.enter n).place).isSome ∧ t = s.enter n := by
  rw [enter?]
  split_ifs with h
  · rw [Bool.and_eq_true] at h
    exact ⟨fun heq => ⟨h.1, h.2, (Option.some.inj heq).symm⟩, fun heq => congrArg some heq.2.2.symm⟩
  · rw [Bool.and_eq_true] at h
    exact ⟨nofun, fun heq => absurd ⟨heq.1, heq.2.1⟩ h⟩

theorem follow?_cons : sp.follow? s (n :: r) = (sp.enter? s n).bind (sp.follow? · r) :=
  List.foldlM_cons

theorem follow?_append (r₁ r₂ : List String) :
    sp.follow? s (r₁ ++ r₂) = (sp.follow? s r₁).bind (sp.follow? · r₂) := List.foldlM_append

theorem exists_of_follow?_cons (h : sp.follow? s (n :: r) = some t) :
    sp.isFolder s.place = true ∧ (sp.kind? (s.enter n).place).isSome ∧
      sp.follow? (s.enter n) r = some t := by
  rw [follow?_cons] at h
  obtain ⟨s', henter, hfollow⟩ := Option.bind_eq_some_iff.mp h
  obtain ⟨hfolder, hkind, rfl⟩ := enter?_eq_some_iff.mp henter
  exact ⟨hfolder, hkind, hfollow⟩

theorem route_of_follow? (h : sp.follow? s r = some t) : t.route = s.route ++ r := by
  induction r generalizing s with
  | nil =>
    cases h
    exact (List.append_nil _).symm
  | cons n r ih =>
    obtain ⟨-, -, hfollow⟩ := exists_of_follow?_cons h
    rw [ih hfollow, Spot.route_enter, List.append_assoc]
    rfl

theorem place_of_entries (h : sp.follow? s r = some t) (hr : ∀ n ∈ r, isEntryName n) :
    t.place = s.place ++ r := by
  induction r generalizing s with
  | nil =>
    cases h
    exact (List.append_nil _).symm
  | cons n r ih =>
    obtain ⟨-, -, hfollow⟩ := exists_of_follow?_cons h
    obtain ⟨hempty, hdot, hdots, -⟩ := isEntryName_iff.mp (hr n List.mem_cons_self)
    rw [ih hfollow fun m hm => hr m (List.mem_cons_of_mem n hm),
      s.place_enter hempty hdot hdots, List.append_assoc]
    rfl

theorem place_of_blanks (h : sp.follow? s r = some t) (hr : ∀ n ∈ r, n = "") :
    t.place = s.place := by
  induction r generalizing s with
  | nil =>
    cases h
    rfl
  | cons n r ih =>
    obtain ⟨-, -, hfollow⟩ := exists_of_follow?_cons h
    rw [ih hfollow fun m hm => hr m (List.mem_cons_of_mem n hm), hr n List.mem_cons_self]
    rfl

theorem isSome_of_follow? (h : sp.follow? s (n :: r) = some t) :
    (sp.kind? t.place).isSome := by
  induction r generalizing s n with
  | nil =>
    obtain ⟨-, hkind, hfollow⟩ := exists_of_follow?_cons h
    cases hfollow
    exact hkind
  | cons m r ih => exact ih (exists_of_follow?_cons h).2.2

end following

section places

theorem kind?_home_append (n : String) : sp.kind? (home ++ [n]) = (sp.entry? n).map Entry.kind := rfl

theorem mem_places {place : List String} (h : (sp.kind? place).isSome) : place ∈ sp.places := by
  rw [places, List.mem_append, List.mem_append]
  rw [kind?] at h
  split_ifs at h with hprefix
  · left
    left
    rw [home, List.isPrefixOf_iff_prefix, List.prefix_cons_iff] at hprefix
    rcases hprefix with rfl | ⟨ns, rfl, hns⟩
    · exact List.mem_cons_self
    · rcases List.prefix_cons_iff.mp hns with rfl | ⟨ms, rfl, hms⟩
      · exact List.mem_cons_of_mem _ List.mem_cons_self
      · rw [List.prefix_nil.mp hms]
        exact List.mem_cons_of_mem _ (List.mem_cons_of_mem _ List.mem_cons_self)
  · split at h
    · next n hn =>
      left
      right
      rw [Option.isSome_map] at h
      obtain ⟨e, he⟩ := Option.isSome_iff_exists.mp h
      rw [← List.isPrefixOf?_eq_some_iff_append_eq.mp hn]
      exact List.mem_map_of_mem (f := fun e => home ++ [e.1]) (Register.mem_entries he)
    · right
      obtain ⟨k, hk⟩ := Option.isSome_iff_exists.mp h
      exact List.mem_map_of_mem (f := Prod.fst) (Register.mem_entries hk)

theorem mem_trails {ns : List String} : ns ∈ sp.trails s ↔
    ns ≠ [] ∧ (∀ n ∈ ns, isEntryName n) ∧ ∃ t, sp.follow? s ns = some t := by
  rw [trails, List.mem_filter, List.mem_eraseDups, List.mem_filterMap, Bool.and_eq_true,
    Bool.and_eq_true, decide_eq_true_iff, List.all_eq_true, Option.isSome_iff_exists]
  refine ⟨fun ⟨_, ⟨hne, hnames⟩, hfollow⟩ => ⟨hne, hnames, hfollow⟩, ?_⟩
  rintro ⟨hne, hnames, t, hfollow⟩
  refine ⟨⟨s.place ++ ns, mem_places ?_, List.isPrefixOf?_eq_some_iff_append_eq.mpr rfl⟩,
    ⟨hne, hnames⟩, t, hfollow⟩
  rw [← place_of_entries hfollow hnames]
  obtain ⟨n, r, rfl⟩ := List.exists_cons_of_ne_nil hne
  exact isSome_of_follow? hfollow

theorem nodup_trails : (sp.trails s).Nodup := by
  rw [trails]
  exact List.Nodup.filter _ (nodup_eraseDups _)

theorem mem_dots {ts : List Text.Glob.Token} : n ∈ dots ts ↔
    ts.head? = some (.literal '.') ∧ (n = "." ∨ n = "..") ∧ accepts ts n.toList = true := by
  rw [dots]
  split_ifs with h
  · rw [List.mem_filter, List.mem_pair]
    exact ⟨fun hn => ⟨h, hn⟩, fun hn => hn.2⟩
  · exact ⟨fun hn => absurd hn List.not_mem_nil, fun hn => absurd hn.1 h⟩

end places

section walking

variable {p : Part} {ps : List Part} {ns : List String}

theorem mem_fitting {last : String} (hns : ns.getLast? = some last) :
    ns ∈ ((sp.trails s).filter fun ns => ns.getLast?.any fun n => accepts p.tokens n.toList) ↔
      ns ∈ sp.trails s ∧ accepts p.tokens last.toList = true := by
  rw [List.mem_filter, hns]
  rfl

theorem takes_of_mem_runs (h : ns ∈ sp.runs p s) : Takes p ns := by
  have hfitting (hin : ns ∈ (sp.trails s).filter fun ns =>
      ns.getLast?.any fun n => accepts p.tokens n.toList) :
      ∃ ms m, ns = ms ++ [m] ∧ (∀ n ∈ ms, isEntryName n) ∧ isEntryName m ∧
        accepts p.tokens m.toList := by
    obtain ⟨htrails, haccepts⟩ := List.mem_filter.mp hin
    obtain ⟨hne, hnames, -⟩ := mem_trails.mp htrails
    rcases List.eq_nil_or_concat' ns with rfl | ⟨ms, m, rfl⟩
    · exact absurd rfl hne
    · rw [List.getLast?_concat] at haccepts
      exact ⟨ms, m, rfl, fun n hn => hnames n (List.mem_append_left _ hn),
        hnames m (List.mem_append_right _ (List.mem_singleton.mpr rfl)), haccepts⟩
  rw [runs] at h
  split_ifs at h with hdeep
  · obtain ⟨ms, m, rfl, hms, hm, haccepts⟩ := hfitting h
    exact .below hdeep hms hm haccepts
  · rw [Bool.not_eq_true] at hdeep
    split at h
    · next cs hcs =>
      rw [List.mem_singleton.mp h]
      refine .spelled hdeep ?_
      rw [hcs, String.toList_ofList]
    · rcases List.mem_append.mp h with h | h
      · obtain ⟨hin, hlength⟩ := List.mem_filter.mp h
        obtain ⟨ms, m, rfl, -, hm, haccepts⟩ := hfitting hin
        have hms : ms = [] := by simpa using hlength
        rw [hms]
        exact .entry hdeep hm haccepts
      · obtain ⟨n, hn, rfl⟩ := List.mem_map.mp h
        obtain ⟨hhead, hdots, haccepts⟩ := mem_dots.mp hn
        exact .dots hdeep hdots hhead haccepts

theorem mem_runs_of_takes (h : Takes p ns) (hfollow : sp.follow? s ns = some t) :
    ns ∈ sp.runs p s := by
  rw [runs]
  -- a part without wildcards stands for one component, whichever way it is taken
  have hspelled {cs : List Char} {n : String} (hcs : spelled? p.tokens = some cs)
      (haccepts : accepts p.tokens n.toList = true) : [n] ∈ [[String.ofList cs]] := by
    rw [← (Text.Glob.accepts_iff_of_spelled hcs _).mp haccepts, String.ofList_toList]
    exact List.mem_singleton.mpr rfl
  cases h with
  | below hdeep hms hm haccepts =>
    rw [if_pos hdeep, mem_fitting List.getLast?_concat]
    refine ⟨mem_trails.mpr ⟨?_, fun n hn => ?_, t, hfollow⟩, haccepts⟩
    · exact List.append_ne_nil_of_right_ne_nil _ (List.cons_ne_nil _ _)
    · rcases List.mem_append.mp hn with hn | hn
      · exact hms n hn
      · rwa [List.mem_singleton.mp hn]
  | entry hdeep hn haccepts =>
    rw [if_neg (Bool.eq_false_iff.mp hdeep)]
    split
    · next cs hcs => exact hspelled hcs haccepts
    · refine List.mem_append_left _ (List.mem_filter.mpr ⟨(mem_fitting rfl).mpr ⟨?_, haccepts⟩, rfl⟩)
      refine mem_trails.mpr ⟨List.cons_ne_nil _ _, fun m hm => ?_, t, hfollow⟩
      rwa [List.mem_singleton.mp hm]
  | dots hdeep hn hhead haccepts =>
    rw [if_neg (Bool.eq_false_iff.mp hdeep)]
    split
    · next cs hcs => exact hspelled hcs haccepts
    · exact List.mem_append_right _ (List.mem_map_of_mem (mem_dots.mpr ⟨hhead, hn, haccepts⟩))
  | spelled hdeep hcs =>
    rw [if_neg (Bool.eq_false_iff.mp hdeep), hcs]
    dsimp only
    rw [String.ofList_toList]
    exact List.mem_singleton.mpr rfl

theorem nodup_runs : (sp.runs p s).Nodup := by
  rw [runs]
  split_ifs
  · exact nodup_trails.filter _
  · split
    · exact List.nodup_singleton _
    · refine List.Nodup.append ((nodup_trails.filter _).filter _) ?_ ?_
      · refine List.Nodup.map (fun _ _ h => List.singleton_inj.mp h) ?_
        rw [dots]
        split_ifs
        · exact List.Nodup.filter _ (by decide)
        · exact List.nodup_nil
      · intro ns hentry hdots
        obtain ⟨n, hn, rfl⟩ := List.mem_map.mp hdots
        have htrails := (List.mem_filter.mp (List.mem_filter.mp hentry).1).1
        have hname := (mem_trails.mp htrails).2.1 n (List.mem_singleton.mpr rfl)
        obtain ⟨-, hdot, hdots, -⟩ := isEntryName_iff.mp hname
        rcases (mem_dots.mp hn).2.1 with rfl | rfl
        · exact hdot rfl
        · exact hdots rfl

theorem mem_walk_cons : t ∈ sp.walk (p :: ps) s ↔
    ∃ ns ∈ sp.runs p s, ∃ s', sp.follow? s ns = some s' ∧ t ∈ sp.walk ps s' := by
  simp only [walk, List.mem_flatMap, Option.mem_toList]

/-- A pattern leads to what stands at the end of the paths that it stands for. -/
theorem mem_walk : t ∈ sp.walk ps s ↔ ∃ r, Matches ps r ∧ sp.follow? s r = some t := by
  induction ps generalizing s with
  | nil =>
    rw [walk, List.mem_singleton]
    constructor
    · rintro rfl
      exact ⟨[], .nil, rfl⟩
    · rintro ⟨r, hr, hfollow⟩
      rw [hr.eq_nil] at hfollow
      exact (Option.some.inj hfollow).symm
  | cons p ps ih =>
    rw [mem_walk_cons]
    constructor
    · rintro ⟨ns, hns, s', hs', ht⟩
      obtain ⟨r, hr, hfollow⟩ := ih.mp ht
      refine ⟨ns ++ r, .cons (takes_of_mem_runs hns) hr, ?_⟩
      rw [follow?_append, hs', Option.bind_some, hfollow]
    · rintro ⟨_, hr, hfollow⟩
      cases hr with
      | cons htakes hr =>
        rw [follow?_append] at hfollow
        obtain ⟨s', hs', hfollow⟩ := Option.bind_eq_some_iff.mp hfollow
        exact ⟨_, mem_runs_of_takes htakes hs', s', hs', ih.mpr ⟨_, hr, hfollow⟩⟩

end walking

end Space
end Rota.Region
