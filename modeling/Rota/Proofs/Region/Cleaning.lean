import Rota.Proofs.Region.Listing

namespace Rota.Region.Space

open Text.Glob (Part Pattern Token accepts)

/-- The space with some names freed. -/
def without (sp : Space) (names : List String) : Space := names.foldl unbind sp

section without

variable (names : List String) (sp : Space)

theorem entry?_without (n : String) :
    entry? (sp.without names) n = if n ∈ names then none else sp.entry? n := by
  induction names generalizing sp with
  | nil => rfl
  | cons name names ih =>
    rw [without, List.foldl_cons, ← without, ih]
    by_cases hn : n = name
    · rw [hn, entry?_unbind_self, if_pos List.mem_cons_self]
      exact ite_self _
    · rw [entry?_unbind_of_ne sp hn]
      exact if_congr (by rw [List.mem_cons, or_iff_right hn]) rfl rfl

theorem cells_without : (sp.without names).cells = sp.cells := by
  induction names generalizing sp with
  | nil => rfl
  | cons name names ih => exact ih (sp.unbind name)

theorem others_without : (sp.without names).others = sp.others := by
  induction names generalizing sp with
  | nil => rfl
  | cons name names ih => exact ih (sp.unbind name)

variable {names sp}

/-- Where something still stands, the same stood before. -/
theorem kind?_of_without {place : List String} {k : Kind}
    (h : (sp.without names).kind? place = some k) : sp.kind? place = some k := by
  rw [kind?] at h ⊢
  split_ifs at h ⊢
  · exact h
  · split at h
    · rw [entry?_without] at h
      split_ifs at h
      · cases h
      · exact h
    · rwa [others_without] at h

theorem follow?_of_without {s t : Spot} {r : List String}
    (h : (sp.without names).follow? s r = some t) : sp.follow? s r = some t := by
  induction r generalizing s with
  | nil => exact h
  | cons n r ih =>
    obtain ⟨hfolder, hkind, hfollow⟩ := exists_of_follow?_cons h
    obtain ⟨k, hk⟩ := Option.isSome_iff_exists.mp hkind
    have henter : sp.enter? s n = some (s.enter n) := by
      refine enter?_eq_some_iff.mpr ⟨?_, ?_, rfl⟩
      · exact decide_eq_true (kind?_of_without (of_decide_eq_true hfolder))
      · rw [kind?_of_without hk]
        rfl
    rw [follow?_cons, henter]
    exact ih hfollow

end without

namespace Lists

variable {sp : Space} {p : Pattern} {n : String}

theorem entry (h : sp.Lists p n) (hslash : '/' ∉ n.toList) :
    ∃ e, sp.entry? n = some e ∧ e ≠ .folder := by
  obtain ⟨-, r, t, -, hfollow, hfile, rfl⟩ := h
  rw [AtHome.start.place_of_name hfollow hfile hslash, kind?_home_append] at hfile
  obtain ⟨e, he, hkind⟩ := Option.map_eq_some_iff.mp hfile
  refine ⟨e, he, ?_⟩
  rintro rfl
  cases hkind

/-- A name with a slash is no name for regions. -/
theorem bareName?_of_slash (h : sp.Lists p n) (hp : ∀ part ∈ p.parts, part.Plain)
    (hslash : '/' ∈ n.toList) : bareName? n = none := by
  obtain ⟨-, r, t, hr, hfollow, -, rfl⟩ := h
  have hroute : t.route = r := route_of_follow? hfollow
  have hsteps : ∀ m ∈ t.steps, m ≠ "" ∧ '/' ∉ m.toList := by
    intro m hm
    obtain ⟨hin, hempty⟩ := List.mem_filter.mp ((List.dropWhile_sublist _).mem hm)
    rw [hroute] at hin
    exact ⟨of_decide_eq_true hempty, hr.not_mem hp m hin⟩
  rw [Option.eq_none_iff_forall_ne_some]
  intro bare hb
  obtain ⟨hgiven, -, -, hbare, -⟩ := bareName?_eq_some_iff.mp hb
  rcases hgiven with hgiven | hgiven
  · exact hbare (hgiven ▸ hslash)
  · refine Spot.head?_name hsteps ?_
    rw [hgiven, String.toList_append]
    rfl

theorem of_without {names : List String} (h : (sp.without names).Lists p n) : sp.Lists p n := by
  obtain ⟨hfolders, r, t, hr, hfollow, hfile, hname⟩ := h
  exact ⟨hfolders, r, t, hr, follow?_of_without hfollow, kind?_of_without hfile, hname⟩

end Lists

/-- What one part without folders lists is a component, and fits the part. -/
theorem Lists.of_single {sp : Space} {ts : List Token} {n : String}
    (h : sp.Lists ⟨[⟨false, ts⟩], false⟩ n) (hplain : Part.Plain ⟨false, ts⟩) :
    '/' ∉ n.toList ∧ accepts ts n.toList = true := by
  obtain ⟨-, r, t, hr, hfollow, hfile, rfl⟩ := h
  have hnone := hr.not_mem (List.forall_mem_singleton.mpr hplain)
  cases hr with
  | @cons _ _ ns r htakes hr =>
    obtain rfl := hr.eq_nil
    rw [List.append_nil] at hfollow hnone
    obtain ⟨m, rfl⟩ : ∃ m, ns = [m] := by
      cases htakes with
      | below hdeep _ _ _ => cases hdeep
      | entry _ _ _ | dots _ _ _ _ | spelled _ _ => exact ⟨_, rfl⟩
    rcases AtHome.start.follow?_cases htakes hfollow with ⟨ht, -⟩ | hsteps
    · exact absurd hfile ht.not_file
    · rw [Spot.name_of_steps hsteps]
      exact ⟨hnone m (List.mem_singleton.mpr rfl), htakes.accepts⟩

namespace Named

variable {sp : Space} (h : sp.Named) {ts : List Token} {n : String}
include h

theorem lists_single {e : Entry} (he : sp.entry? n = some e) (hfolder : e ≠ .folder)
    (haccepts : accepts ts n.toList = true) : sp.Lists ⟨[⟨false, ts⟩], false⟩ n := by
  have hname := h.isEntryName he hfolder
  obtain ⟨hne, hdot, hdots, -⟩ := isEntryName_iff.mp hname
  have hkind : sp.kind? (home ++ [n]) = some .file := by
    rw [kind?_home_append, he]
    cases e with
    | memory _ | unsized => rfl
    | folder => exact absurd rfl hfolder
  have hplace : (Spot.enter {} n).place = home ++ [n] := Spot.place_enter {} hne hdot hdots
  have hfollow : sp.follow? {} [n] = some (Spot.enter {} n) := by
    rw [follow?_cons, enter?_eq_some_iff.mpr ⟨rfl, by rw [hplace, hkind]; rfl, rfl⟩]
    rfl
  refine ⟨rfl, [n], _, .cons (.entry rfl hname haccepts) .nil, hfollow, ?_, ?_⟩
  · rw [hplace, hkind]
  · refine Spot.name_of_steps (AtHome.start.steps_of_follow? hfollow (fun m hm => ?_) ?_)
    · rwa [List.mem_singleton.mp hm]
    · exact fun hhead => hdot (Option.some.inj hhead)

theorem lists_single_iff (hplain : Part.Plain ⟨false, ts⟩) :
    sp.Lists ⟨[⟨false, ts⟩], false⟩ n ↔
      accepts ts n.toList = true ∧ ∃ e, sp.entry? n = some e ∧ e ≠ .folder := by
  constructor
  · intro hn
    obtain ⟨hslash, haccepts⟩ := hn.of_single hplain
    exact ⟨haccepts, hn.entry hslash⟩
  · rintro ⟨haccepts, e, he, hfolder⟩
    exact h.lists_single he hfolder haccepts

/-- What a pattern without a slash lists is what is in use for regions and fits it. -/
theorem lists_of_component {base : Nat} {pattern : String} {p : Pattern}
    (hp : Text.Glob.parse base pattern = .ok p) (hslash : '/' ∉ pattern.toList) :
    ∃ ts, Text.Glob.tokens 0 true pattern.toList = .ok ts ∧ ∀ n, sp.Lists p n ↔
      accepts ts n.toList = true ∧ ∃ e, sp.entry? n = some e ∧ e ≠ .folder := by
  obtain ⟨ts, hts, hcases⟩ := Text.Glob.parse_of_component hp hslash
  refine ⟨ts, hts, fun n => ?_⟩
  rcases hcases with ⟨hfolders, hempty⟩ | rfl
  · -- the pattern stands for folders, and its tokens for no name at all
    refine ⟨fun hn => absurd (hn.1.symm.trans hfolders) Bool.false_ne_true, ?_⟩
    rintro ⟨haccepts, e, he, hfolder⟩
    have hname := isEntryName_iff.mp (h.isEntryName he hfolder)
    exact absurd (String.toList_eq_nil_iff.mp (hempty _ haccepts)) hname.1
  · exact h.lists_single_iff (Text.Glob.plain_of_parse hp _ List.mem_cons_self)

end Named

theorem nodup_bare_listing (sp : Space) (p : Pattern) :
    ((sp.listing p).filter fun n => '/' ∉ n.toList).Nodup := by
  rw [listing, ((List.mergeSort_perm _ _).filter _).nodup_iff, List.filter_map]
  have hnodup : (sp.bareNames p.parts {}).Nodup := AtHome.start.nodup_bareNames
  refine hnodup.sublist ?_
  rw [bareNames, List.filter_filter]
  refine List.Sublist.map _ ?_
  have hswap : (fun t : Spot => sp.kind? t.place = some .file && '/' ∉ t.name.toList) =
      fun t => ((fun n : String => decide ('/' ∉ n.toList)) ∘ Spot.name) t &&
        decide (sp.kind? t.place = some .file) := by
    funext t
    exact Bool.and_comm _ _
  rw [hswap]
  exact List.Sublist.filter _ List.filter_sublist

section bare

variable {sp : Space} {p : Pattern} {names : List String}

theorem nodup_of_bare (hsub : names.Sublist (sp.listing p)) (hbare : ∀ n ∈ names, '/' ∉ n.toList) :
    names.Nodup := by
  have hall : names.filter (fun n => '/' ∉ n.toList) = names :=
    List.filter_eq_self.mpr fun n hn => decide_eq_true (hbare n hn)
  rw [← hall]
  exact (sp.nodup_bare_listing p).sublist (hsub.filter _)

theorem used_of_bare (hsub : names.Sublist (sp.listing p))
    (hbare : ∀ n ∈ names, '/' ∉ n.toList) :
    ∀ n ∈ names, ∃ e, sp.entry? n = some e ∧ e ≠ .folder :=
  fun n hn => (mem_listing.mp (hsub.mem hn)).entry (hbare n hn)

end bare

section sweeping

variable {sp : Space} {pattern : String} {p : Pattern}

/-- Names in use for regions are freed one after the other, and none stands in the way of the
next. -/
theorem Named.sweep_append (h : sp.Named) {names : List String} (hn : names.Nodup)
    (hused : ∀ n ∈ names, ∃ e, sp.entry? n = some e ∧ e ≠ .folder) (freed rest : List String) :
    sweep freed sp (names ++ rest) = sweep (freed ++ names) (sp.without names) rest := by
  induction names generalizing freed sp with
  | nil =>
    rw [List.append_nil]
    rfl
  | cons name names ih =>
    obtain ⟨hfresh, hn⟩ := List.nodup_cons.mp hn
    obtain ⟨e, he, hfolder⟩ := hused name List.mem_cons_self
    have hremove : sp.remove name = .ok (sp.unbind name) := by
      rw [remove_eq (h.proper name e he hfolder), he]
      cases e with
      | memory cell => rfl
      | unsized => rfl
      | folder => exact absurd rfl hfolder
    have hnamed : (sp.unbind name).Named := by
      refine h.unbind ?_
      rw [he]
      exact fun heq => hfolder (Option.some.inj heq)
    have hrest : ∀ n ∈ names, ∃ e, entry? (sp.unbind name) n = some e ∧ e ≠ .folder := by
      intro n hmem
      have hne : n ≠ name := fun heq => hfresh (heq ▸ hmem)
      rw [entry?_unbind_of_ne sp hne]
      exact hused n (List.mem_cons_of_mem _ hmem)
    rw [List.cons_append, sweep, hremove]
    dsimp only
    rw [ih hnamed hn hrest, List.append_assoc]
    rfl

theorem sweep_of_invalid {bad : String} (hbad : bareName? bad = none) (freed rest : List String) :
    sweep freed sp (bad :: rest) = (.error (.invalidName bad), sp) := by
  have hremove : sp.remove bad = .error (.invalidName bad) := by
    rw [remove, Space.bare, hbad]
    rfl
  rw [sweep, hremove]

variable (hp : Text.Glob.parse folderPath.length pattern = .ok p)
include hp

theorem find_eq : sp.find pattern = .ok (sp.listing p) := by rw [find, hp]

theorem Named.cleanUp_of_bare (h : sp.Named)
    (hbare : ∀ n ∈ sp.listing p, '/' ∉ n.toList) :
    sp.cleanUp pattern = (.ok (sp.listing p), sp.without (sp.listing p)) := by
  have hsub := List.Sublist.refl (sp.listing p)
  have hsweep := h.sweep_append (nodup_of_bare hsub hbare) (used_of_bare hsub hbare) [] []
  rw [List.append_nil] at hsweep
  rw [cleanUp, find_eq hp]
  exact hsweep

/-- The first name with a slash is refused, when those before it have been freed. -/
theorem Named.cleanUp_of_slash (h : sp.Named) {names rest : List String} {bad : String}
    (hlisting : sp.listing p = names ++ bad :: rest) (hbare : ∀ n ∈ names, '/' ∉ n.toList)
    (hslash : '/' ∈ bad.toList) :
    sp.cleanUp pattern = (.error (.invalidName bad), sp.without names) := by
  have hsub : names.Sublist (sp.listing p) := by
    rw [hlisting]
    exact List.sublist_append_left names _
  have hlists : sp.Lists p bad := by
    rw [← mem_listing, hlisting]
    exact List.mem_append_right _ List.mem_cons_self
  have hbad := hlists.bareName?_of_slash (Text.Glob.plain_of_parse hp) hslash
  rw [cleanUp, find_eq hp, hlisting]
  dsimp only
  rw [h.sweep_append (nodup_of_bare hsub hbare) (used_of_bare hsub hbare), sweep_of_invalid hbad]

omit hp in
/-- Nothing is left to list. -/
theorem listing_without (hbare : ∀ n ∈ sp.listing p, '/' ∉ n.toList) :
    (sp.without (sp.listing p)).listing p = [] := by
  rw [List.eq_nil_iff_forall_not_mem]
  intro n hn
  have hlists := mem_listing.mp hn
  have hlisted := mem_listing.mpr hlists.of_without
  obtain ⟨e, he, -⟩ := hlists.entry (hbare n hlisted)
  rw [entry?_without, if_pos hlisted] at he
  cases he

end sweeping

end Rota.Region.Space
