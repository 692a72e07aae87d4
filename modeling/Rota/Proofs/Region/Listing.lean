import Rota.Proofs.Region.Paths
import Mathlib.Data.List.Nodup

namespace Rota.Region

open Text.Glob (Part Pattern accepts)

namespace Space

/-- The spaces that come of an empty one by calls on regions, and by what else there may be: folders,
regions that have no size yet, and the rest of the file system. To lay a region out is to write to
it. -/
inductive Reached : Space → Prop
  | blank : Reached {}
  | created {sp sp' : Space} {given : String} {size : Nat} {m : Mapping} : Reached sp →
      sp.create given size = .ok (m, sp') → Reached sp'
  | freed {sp sp' : Space} {given : String} : Reached sp → sp.remove given = .ok sp' → Reached sp'
  | written {sp : Space} (cell : Nat) (f : (Nat → UInt8) → Nat → UInt8) : Reached sp →
      Reached (sp.setBytes cell f)
  | unsized {sp : Space} {bare : String} : Reached sp → bareName? bare = some bare →
      sp.entry? bare ≠ some .folder → Reached (sp.bind bare .unsized)
  | folder {sp : Space} (name : String) : Reached sp → Reached (sp.bind name .folder)
  | furnished {sp : Space} (others : Register (List String) Kind) : Reached sp →
      Reached { sp with others }

/-- What is no folder has a name for regions, and the folder's own entries are folders. -/
structure Named (sp : Space) : Prop where
  proper : ∀ bare e, sp.entry? bare = some e → e ≠ .folder → bareName? bare = some bare
  dots : ∀ n, n = "." ∨ n = ".." → sp.entry? n = some .folder

theorem bareName?_bare {given bare : String} (h : bareName? given = some bare) :
    bareName? bare = some bare := by
  obtain ⟨-, hvalid⟩ := bareName?_eq_some_iff.mp h
  exact bareName?_eq_some_iff.mpr ⟨.inl rfl, hvalid⟩

namespace Named

variable {sp : Space} (h : sp.Named)
include h

theorem bind {bare : String} {e : Entry}
    (hb : e ≠ .folder → bareName? bare = some bare ∧ sp.entry? bare ≠ some .folder) :
    (sp.bind bare e).Named where
  proper other e' he hfolder := by
    by_cases ho : other = bare
    · rw [ho, entry?_bind_self] at he
      rw [ho, (hb (Option.some.inj he ▸ hfolder)).1]
    · rw [entry?_bind_of_ne sp e ho] at he
      exact h.proper other e' he hfolder
  dots n hn := by
    by_cases hbare : n = bare
    · rw [hbare, entry?_bind_self]
      by_contra hfolder
      exact (hb fun he => hfolder (congrArg some he)).2 (hbare ▸ h.dots n hn)
    · rw [entry?_bind_of_ne sp e hbare]
      exact h.dots n hn

theorem unbind {bare : String} (hb : sp.entry? bare ≠ some .folder) : (sp.unbind bare).Named where
  proper other e he := h.proper other e (entry?_of_unbind he)
  dots n hn := by
    have hne : n ≠ bare := by
      rintro rfl
      exact hb (h.dots n hn)
    rw [entry?_unbind_of_ne sp hne]
    exact h.dots n hn

theorem congr {sp' : Space} (hn : sp'.names = sp.names) : sp'.Named where
  proper bare e he := h.proper bare e (by rwa [ entry?, ← hn])
  dots n hn' := by
    rw [ entry?, hn]
    exact h.dots n hn'

theorem isEntryName {n : String} {e : Entry} (he : sp.entry? n = some e) (hfolder : e ≠ .folder) :
    isEntryName n = true := by
  obtain ⟨-, hempty, -, hslash, -⟩ := bareName?_eq_some_iff.mp (h.proper n e he hfolder)
  have hdots : ¬(n = "." ∨ n = "..") := fun hn =>
    hfolder (Option.some.inj (he.symm.trans (h.dots n hn)))
  rw [not_or] at hdots
  exact isEntryName_iff.mpr ⟨hempty, hdots.1, hdots.2, hslash⟩

end Named

theorem named_blank : Named {} where
  proper _ _ he hfolder := absurd (entry?_blank he).2 hfolder
  dots n hn := by rcases hn with rfl | rfl <;> decide +kernel

theorem Reached.named {sp : Space} (h : sp.Reached) : sp.Named := by
  induction h with
  | blank => exact named_blank
  | @created sp sp' given size m _ hc ih =>
    obtain ⟨bare, hb⟩ := bareName?_of_ok hc
    rcases create_cases hb hc with ⟨hnone, -, -, -, rfl⟩ | ⟨-, -, -, -, -, rfl⟩
    · refine (ih.bind fun _ => ⟨bareName?_bare hb, ?_⟩).congr rfl
      rw [hnone]
      exact nofun
    · exact ih
  | @freed sp sp' given _ hc ih =>
    obtain ⟨bare, hb⟩ := bareName?_of_ok hc
    rw [remove_cases hb hc]
    refine ih.unbind fun hfolder => ?_
    rw [remove_eq hb, hfolder] at hc
    cases hc
  | written cell f _ ih => exact ih.congr rfl
  | unsized _ hb hfolder ih => exact ih.bind fun _ => ⟨hb, hfolder⟩
  | folder name _ ih => exact ih.bind fun hfolder => absurd rfl hfolder
  | furnished others _ ih => exact ih.congr rfl

/-- A pattern lists a name if a path that it stands for leads to a file, and goes by that name. -/
def Lists (sp : Space) (p : Pattern) (n : String) : Prop :=
  p.foldersOnly = false ∧ ∃ r t, Matches p.parts r ∧ sp.follow? {} r = some t ∧
    sp.kind? t.place = some .file ∧ t.name = n

section listing

variable {sp : Space} {p : Pattern} {n : String}

theorem mem_listing : n ∈ sp.listing p ↔ sp.Lists p n := by
  rw [listing, List.mem_mergeSort, List.mem_map]
  constructor
  · rintro ⟨t, ht, hname⟩
    obtain ⟨ht, hfile⟩ := List.mem_filter.mp ht
    obtain ⟨ht, hkind⟩ := List.mem_filter.mp ht
    obtain ⟨r, hr, hfollow⟩ := mem_walk.mp ht
    have hfile := of_decide_eq_true hfile
    have hfolders : p.foldersOnly = false := by
      rw [isFolder, hfile] at hkind
      simpa using hkind
    exact ⟨hfolders, r, t, hr, hfollow, hfile, hname⟩
  · rintro ⟨hfolders, r, t, hr, hfollow, hfile, hname⟩
    refine ⟨t, List.mem_filter.mpr ⟨List.mem_filter.mpr ⟨?_, ?_⟩, decide_eq_true hfile⟩, hname⟩
    · exact mem_walk.mpr ⟨r, hr, hfollow⟩
    · rw [hfolders]
      rfl

theorem sorted_listing : (sp.listing p).Pairwise (· ≤ ·) := by
  refine (List.pairwise_mergeSort ?_ ?_ _).imp of_decide_eq_true
  · intro a b c hab hbc
    exact decide_eq_true (String.le_trans (of_decide_eq_true hab) (of_decide_eq_true hbc))
  · intro a b
    simpa using String.le_total a b

end listing

section bare

variable {sp : Space} {s t : Spot} {r : List String}

/-- The path has led nowhere yet. -/
structure AtHome (s : Spot) : Prop where
  place : s.place = home
  steps : s.steps = []

theorem AtHome.start : AtHome {} := ⟨rfl, rfl⟩

theorem AtHome.enter (h : AtHome s) {n : String} (hn : n = "" ∨ n = ".") : AtHome (s.enter n) := by
  rcases hn with rfl | rfl
  · exact ⟨h.place, Spot.steps_of_nil h.steps (s.route_enter "")⟩
  · exact ⟨h.place, Spot.steps_of_nil h.steps (s.route_enter ".")⟩

theorem AtHome.steps_of_follow? (h : AtHome s) (hfollow : sp.follow? s r = some t)
    (hr : ∀ n ∈ r, n ≠ "") (hhead : r.head? ≠ some ".") : t.steps = r := by
  have hfilter : r.filter (· ≠ "") = r :=
    List.filter_eq_self.mpr fun n hn => decide_eq_true (hr n hn)
  rw [Spot.steps_of_nil h.steps (route_of_follow? hfollow), hfilter]
  cases r with
  | nil => rfl
  | cons n r =>
    rw [List.dropWhile_cons, if_neg]
    simpa using hhead

theorem AtHome.not_file (h : AtHome s) : sp.kind? s.place ≠ some .file := by
  rw [h.place]
  exact nofun

/-- A path that has led somewhere ends there, or else the name of the file has a slash. -/
theorem eq_nil_of_name (hs : s.steps ≠ []) (h : sp.follow? s r = some t)
    (hfile : sp.kind? t.place = some .file) (hname : '/' ∉ t.name.toList) : r = [] := by
  by_contra hr
  have hsteps := Spot.steps_of_steps hs (route_of_follow? h)
  have hone : t.steps = [t.name] := by
    refine Spot.steps_of_name (fun hnil => hs ?_) hname
    rw [hsteps] at hnil
    exact (List.append_eq_nil_iff.mp hnil).1
  have hblank : r.filter (· ≠ "") = [] := by
    have hlength := congrArg List.length (hsteps.symm.trans hone)
    have hpos := List.length_pos_iff.mpr hs
    rw [List.length_append, List.length_singleton] at hlength
    exact List.length_eq_zero_iff.mp (by omega)
  -- then the path has not moved from the folder that it went on from
  have hplace : t.place = s.place := by
    refine place_of_blanks h fun n hn => ?_
    have hdrop := List.filter_eq_nil_iff.mp hblank n hn
    simpa using hdrop
  obtain ⟨n, r, rfl⟩ := List.exists_cons_of_ne_nil hr
  have hfolder := of_decide_eq_true (exists_of_follow?_cons h).1
  rw [hplace, hfolder] at hfile
  cases hfile

/-- A file that is listed without a slash stands in the regions' folder by that name. -/
theorem AtHome.place_of_name (hs : AtHome s) (h : sp.follow? s r = some t)
    (hfile : sp.kind? t.place = some .file) (hname : '/' ∉ t.name.toList) :
    t.place = home ++ [t.name] := by
  induction r generalizing s with
  | nil =>
    cases h
    exact absurd hfile hs.not_file
  | cons n r ih =>
    obtain ⟨-, -, hfollow⟩ := exists_of_follow?_cons h
    by_cases hn : n = "" ∨ n = "."
    · exact ih (hs.enter hn) hfollow
    · rw [not_or] at hn
      have hsteps : (s.enter n).steps = [n] := by
        rw [Spot.steps_of_nil hs.steps (s.route_enter n)]
        simp [hn.1, hn.2]
      have hlast := eq_nil_of_name (by rw [hsteps]; exact List.cons_ne_nil _ _) hfollow hfile hname
      rw [hlast] at hfollow
      cases hfollow
      rw [Spot.name_of_steps hsteps]
      by_cases hup : n = ".."
      · -- above the folder is another one, and no file
        rw [hup] at hfile
        change sp.kind? s.place.dropLast = some .file at hfile
        rw [hs.place] at hfile
        cases hfile
      · rw [s.place_enter hn.1 hn.2 hup, hs.place]

end bare

section once

variable {sp : Space} {s t : Spot} {p : Part} {ps : List Part} {ns : List String} {n : String}

/-- The names without a slash that the parts of a pattern list. -/
def bareNames (sp : Space) (ps : List Part) (s : Spot) : List String :=
  ((sp.walk ps s).filter fun t =>
    sp.kind? t.place = some .file && '/' ∉ t.name.toList).map Spot.name

theorem bareNames_cons : sp.bareNames (p :: ps) s =
    (sp.runs p s).flatMap fun ns => (sp.follow? s ns).toList.flatMap (sp.bareNames ps) := by
  simp only [bareNames, walk, List.filter_flatMap, List.map_flatMap]
  rfl

theorem exists_of_mem_bareNames (h : n ∈ sp.bareNames ps s) :
    ∃ r t, Matches ps r ∧ sp.follow? s r = some t ∧ sp.kind? t.place = some .file ∧
      '/' ∉ t.name.toList ∧ t.name = n := by
  obtain ⟨t, ht, hname⟩ := List.mem_map.mp h
  obtain ⟨ht, hbare⟩ := List.mem_filter.mp ht
  obtain ⟨r, hr, hfollow⟩ := mem_walk.mp ht
  obtain ⟨hfile, hslash⟩ := (Bool.and_eq_true _ _).mp hbare
  exact ⟨r, t, hr, hfollow, of_decide_eq_true hfile, of_decide_eq_true hslash, hname⟩

theorem steps_of_mem_bareNames (hs : s.steps ≠ []) (h : n ∈ sp.bareNames ps s) :
    ps = [] ∧ s.steps = [n] := by
  obtain ⟨r, t, hr, hfollow, hfile, hslash, rfl⟩ := exists_of_mem_bareNames h
  obtain rfl := eq_nil_of_name hs hfollow hfile hslash
  cases hfollow
  exact ⟨hr.parts_eq_nil, Spot.steps_of_name hs hslash⟩

theorem nodup_bareNames_of_steps (hs : s.steps ≠ []) : (sp.bareNames ps s).Nodup := by
  cases ps with
  | nil => exact (List.nodup_singleton s.name).sublist (List.filter_sublist.map Spot.name)
  | cons p ps =>
    have hnone : sp.bareNames (p :: ps) s = [] := by
      rw [List.eq_nil_iff_forall_not_mem]
      exact fun n hn => List.cons_ne_nil _ _ (steps_of_mem_bareNames hs hn).1
    rw [hnone]
    exact List.nodup_nil

/-- What one part of a pattern stands for either leads nowhere yet, or is shown as it is. -/
theorem AtHome.follow?_cases (hs : AtHome s) (htakes : Takes p ns)
    (h : sp.follow? s ns = some t) :
    AtHome t ∧ (ns = [""] ∨ ns = ["."]) ∨ t.steps = ns := by
  have hone {n : String} (h : sp.follow? s [n] = some t) :
      AtHome t ∧ ([n] = [""] ∨ [n] = ["."]) ∨ t.steps = [n] := by
    by_cases hn : n = "" ∨ n = "."
    · left
      obtain ⟨-, -, hfollow⟩ := exists_of_follow?_cons h
      cases hfollow
      exact ⟨hs.enter hn, hn.imp (congrArg ([·])) (congrArg ([·]))⟩
    · right
      rw [not_or] at hn
      refine hs.steps_of_follow? h (fun m hm => ?_) fun hhead => hn.2 (Option.some.inj hhead)
      rw [List.mem_singleton.mp hm]
      exact hn.1
  cases htakes with
  | @below ms m _ hms hm _ =>
    right
    have hall : ∀ n ∈ ms ++ [m], isEntryName n := by
      intro n hn
      rcases List.mem_append.mp hn with hn | hn
      · exact hms n hn
      · rwa [List.mem_singleton.mp hn]
    refine hs.steps_of_follow? h (fun n hn => (isEntryName_iff.mp (hall n hn)).1) fun hhead => ?_
    exact (isEntryName_iff.mp (hall _ (List.mem_of_mem_head? hhead))).2.1 rfl
  | entry _ _ _ | dots _ _ _ _ | spelled _ _ => exact hone h

/-- From which run of components a name without a slash comes. -/
theorem AtHome.run_of_mem (hs : AtHome s) (htakes : Takes p ns) (h : sp.follow? s ns = some t)
    (hn : n ∈ sp.bareNames ps t) :
    ps ≠ [] ∧ (ns = [""] ∨ ns = ["."]) ∨ ps = [] ∧ ns = [n] := by
  rcases hs.follow?_cases htakes h with ⟨ht, hns⟩ | hsteps
  · refine .inl ⟨?_, hns⟩
    rintro rfl
    obtain ⟨r, t', hr, hfollow, hfile, -⟩ := exists_of_mem_bareNames hn
    rw [hr.eq_nil] at hfollow
    cases hfollow
    exact ht.not_file hfile
  · have hne : t.steps ≠ [] := by
      rw [hsteps]
      exact htakes.ne_nil
    obtain ⟨hps, hone⟩ := steps_of_mem_bareNames hne hn
    exact .inr ⟨hps, hsteps.symm.trans hone⟩

/-- No name without a slash is listed twice. -/
theorem AtHome.nodup_bareNames (hs : AtHome s) : (sp.bareNames ps s).Nodup := by
  induction ps generalizing s with
  | nil => exact (List.nodup_singleton s.name).sublist (List.filter_sublist.map Spot.name)
  | cons p ps ih =>
    rw [bareNames_cons, List.nodup_flatMap]
    constructor
    · intro ns hns
      cases hfollow : sp.follow? s ns with
      | none => exact List.nodup_nil
      | some t =>
        rw [Option.toList_some, List.flatMap_singleton]
        have htakes := takes_of_mem_runs hns
        rcases hs.follow?_cases htakes hfollow with ⟨ht, -⟩ | hsteps
        · exact ih ht
        · refine nodup_bareNames_of_steps ?_
          rw [hsteps]
          exact htakes.ne_nil
    · refine nodup_runs.pairwise_of_forall_ne ?_
      intro ns₁ h₁ ns₂ h₂ hne n hn₁ hn₂
      obtain ⟨t₁, ht₁, hn₁⟩ := List.mem_flatMap.mp hn₁
      obtain ⟨t₂, ht₂, hn₂⟩ := List.mem_flatMap.mp hn₂
      have htakes₁ := takes_of_mem_runs h₁
      have htakes₂ := takes_of_mem_runs h₂
      have hrun₁ := hs.run_of_mem htakes₁ (Option.mem_toList.mp ht₁) hn₁
      have hrun₂ := hs.run_of_mem htakes₂ (Option.mem_toList.mp ht₂) hn₂
      rcases hrun₁ with ⟨hps, hpad₁⟩ | ⟨hps, rfl⟩
      · have hpad₂ := (hrun₂.resolve_right fun h => hps h.1).2
        rcases hpad₁ with rfl | rfl <;> rcases hpad₂ with rfl | rfl
        · exact hne rfl
        · exact htakes₁.not_dot htakes₂
        · exact htakes₂.not_dot htakes₁
        · exact hne rfl
      · exact hne (hrun₂.resolve_left fun h => h.1 hps).2.symm

end once

end Space
end Rota.Region
