import Rota.Proofs.Region.Cleaning
import Rota.Proofs.World.Regions

namespace Rota.World

open Region (Space bareName?)
open Text.Glob (Pattern accepts)

theorem run_findNames (w : World) (pattern : String) :
    (findNames pattern).run.run w = ((w.space.find pattern).mapError .region, w) := by
  rw [findNames, run_bind_of_ok (run_get w)]
  cases w.space.find pattern <;> rfl

theorem run_cleanNames (w : World) (pattern : String) :
    (cleanNames pattern).run.run w =
      ((w.space.cleanUp pattern).1.mapError .region,
        { w with space := (w.space.cleanUp pattern).2 }) := by
  rw [cleanNames, run_bind_of_ok (run_get w)]
  cases h : w.space.cleanUp pattern with
  | mk answer sp => cases answer <;> rfl

/-- Some names are gone from the namespace, and nobody who maps anything sees a difference. -/
structure Swept (w : World) (names : List String) (w' : World) : Prop where
  freed : ∀ n ∈ names, w'.space.entry? n = none
  kept : ∀ n ∉ names, w'.space.entry? n = w.space.entry? n
  folders : ∀ n, w.space.entry? n = some .folder → w'.space.entry? n = some .folder
  bytes : ∀ cell, w'.space.contents cell = w.space.contents cell
  views : ∀ label, w'.seen label = w.seen label
  memory : w'.space.cells = w.space.cells
  surroundings : w'.space.others = w.space.others
  others : w' = { w with space := w'.space }

theorem swept_without (w : World) {names : List String}
    (hused : ∀ n ∈ names, ∃ e, w.space.entry? n = some e ∧ e ≠ .folder) :
    w.Swept names { w with space := w.space.without names } := by
  have hcells := w.space.cells_without names
  have hbytes (cell : Nat) :
      (w.space.without names).contents cell = w.space.contents cell := by
    refine Space.contents_congr ?_
    rw [Space.memory, hcells, Space.memory]
  refine ⟨fun n hn => ?_, fun n hn => ?_, fun n hfolder => ?_, hbytes, fun label => ?_, hcells,
    w.space.others_without names, rfl⟩
  · rw [Space.entry?_without, if_pos hn]
  · rw [Space.entry?_without, if_neg hn]
  · rw [Space.entry?_without, if_neg, hfolder]
    intro hn
    obtain ⟨e, he, hne⟩ := hused n hn
    exact hne (Option.some.inj (he.symm.trans hfolder))
  · exact Option.map_congr fun m _ => hbytes m.cell

/-- What comes of finding the names of a pattern, and of cleaning them up. -/
structure Sweeping (w : World) (pattern : String) (p : Pattern) (names : List String) : Prop where
  found : (findNames pattern).run.run w = (.ok names, w)
  sorted : names.Pairwise (· ≤ ·)
  listed : ∀ n, n ∈ names ↔ w.space.Lists p n
  /-- Of a pattern without a slash all that fits it is listed that is in use for regions. -/
  fitting : '/' ∉ pattern.toList → (∀ n ∈ names, '/' ∉ n.toList) ∧
    ∃ ts, Text.Glob.tokens 0 true pattern.toList = .ok ts ∧ ∀ n, n ∈ names ↔
      accepts ts n.toList = true ∧ ∃ e, w.space.entry? n = some e ∧ e ≠ .folder
  cleaned : (∀ n ∈ names, '/' ∉ n.toList) → names.Pairwise (· < ·) ∧
    (∀ n ∈ names, ∃ e, w.space.entry? n = some e ∧ e ≠ .folder) ∧
    ∃ w', (cleanNames pattern).run.run w = (.ok names, w') ∧ w.Swept names w' ∧
      (findNames pattern).run.run w' = (.ok [], w') ∧
      (cleanNames pattern).run.run w' = (.ok [], w')
  /-- The first name with a slash is refused, and those before it are gone. -/
  refused : ∀ first bad rest, names = first ++ bad :: rest → (∀ n ∈ first, '/' ∉ n.toList) →
    '/' ∈ bad.toList → ∃ w', w.Swept first w' ∧
      (cleanNames pattern).run.run w = (.error (.region (.invalidName bad)), w')
  cleaned_iff : (∃ w', (cleanNames pattern).run.run w = (.ok names, w')) ↔
    ∀ n ∈ names, '/' ∉ n.toList

theorem exists_first_slash {names : List String} (h : ¬∀ n ∈ names, '/' ∉ n.toList) :
    ∃ first bad rest, names = first ++ bad :: rest ∧ (∀ n ∈ first, '/' ∉ n.toList) ∧
      '/' ∈ bad.toList := by
  cases hfind : names.find? (fun n => '/' ∈ n.toList) with
  | none =>
    refine absurd (fun n hn => ?_) h
    simpa using List.find?_eq_none.mp hfind n hn
  | some bad =>
    obtain ⟨hslash, first, rest, hnames, hfirst⟩ := List.find?_eq_some_iff_append.mp hfind
    exact ⟨first, bad, rest, hnames, by simpa using hfirst, of_decide_eq_true hslash⟩

section sweeping

variable {w : World} {pattern : String} {p : Pattern}
  (hp : Text.Glob.parse Region.folderPath.length pattern = .ok p)
include hp

theorem run_cleanNames_of_bare (h : w.space.Named)
    (hbare : ∀ n ∈ w.space.listing p, '/' ∉ n.toList) :
    (cleanNames pattern).run.run w = (.ok (w.space.listing p),
      { w with space := w.space.without (w.space.listing p) }) := by
  rw [run_cleanNames, h.cleanUp_of_bare hp hbare]
  rfl

theorem run_cleanNames_of_slash (h : w.space.Named) {first rest : List String} {bad : String}
    (hlisting : w.space.listing p = first ++ bad :: rest)
    (hfirst : ∀ n ∈ first, '/' ∉ n.toList) (hbad : '/' ∈ bad.toList) :
    (cleanNames pattern).run.run w = (.error (.region (.invalidName bad)),
      { w with space := w.space.without first }) := by
  rw [run_cleanNames, h.cleanUp_of_slash hp hlisting hfirst hbad]
  rfl

/-- With nothing left to list, there is nothing to free either. -/
theorem run_cleanNames_of_nothing (h : w.space.listing p = []) :
    (cleanNames pattern).run.run w = (.ok [], w) := by
  rw [run_cleanNames, Space.cleanUp, Space.find_eq hp, h]
  rfl

theorem sweeping (h : w.space.Named) : w.Sweeping pattern p (w.space.listing p) where
  found := by
    rw [run_findNames, Space.find_eq hp]
    rfl
  sorted := Space.sorted_listing
  listed _ := Space.mem_listing
  fitting hslash := by
    obtain ⟨ts, hts, hlists⟩ := h.lists_of_component hp hslash
    refine ⟨fun n hn => ?_, ts, hts, fun n => Space.mem_listing.trans (hlists n)⟩
    obtain ⟨-, e, he, hfolder⟩ := (hlists n).mp (Space.mem_listing.mp hn)
    exact (Region.isEntryName_iff.mp (h.isEntryName he hfolder)).2.2.2
  cleaned hbare := by
    have hsub := List.Sublist.refl (w.space.listing p)
    have hnodup := Space.nodup_of_bare hsub hbare
    have hused := Space.used_of_bare hsub hbare
    have hempty := Space.listing_without hbare
    refine ⟨(Space.sorted_listing.and hnodup).imp fun hab => Std.lt_of_le_of_ne hab.1 hab.2,
      hused, _, run_cleanNames_of_bare hp h hbare, w.swept_without hused, ?_,
      run_cleanNames_of_nothing hp hempty⟩
    rw [run_findNames, Space.find_eq hp, hempty]
    rfl
  refused first bad rest hlisting hfirst hbad := by
    have hsub : first.Sublist (w.space.listing p) := by
      rw [hlisting]
      exact List.sublist_append_left first _
    exact ⟨_, w.swept_without (Space.used_of_bare hsub hfirst),
      run_cleanNames_of_slash hp h hlisting hfirst hbad⟩
  cleaned_iff := by
    refine ⟨fun ⟨w', hclean⟩ => ?_, fun hbare => ⟨_, run_cleanNames_of_bare hp h hbare⟩⟩
    by_contra hslash
    obtain ⟨first, bad, rest, hlisting, hfirst, hbad⟩ := exists_first_slash hslash
    rw [run_cleanNames_of_slash hp h hlisting hfirst hbad] at hclean
    cases hclean

end sweeping

/-- A text that is no pattern changes nothing. What a pattern lists is cleaned up, once and nothing
else, if and only if none of the names has a slash in it; otherwise the call fails at the first that
has one. -/
theorem swept_cleanNames {w : World} (h : w.space.Reached) (pattern : String) :
    (∀ f, Text.Glob.parse Region.folderPath.length pattern = .error f →
      (findNames pattern).run.run w = (.error (.region (.pattern f)), w) ∧
        (cleanNames pattern).run.run w = (.error (.region (.pattern f)), w)) ∧
      ∀ p, Text.Glob.parse Region.folderPath.length pattern = .ok p →
        ∃ names, w.Sweeping pattern p names := by
  refine ⟨fun f hp => ?_, fun p hp => ⟨_, sweeping hp h.named⟩⟩
  have hfind : w.space.find pattern = .error (.pattern f) := by rw [Space.find, hp]
  rw [run_findNames, run_cleanNames, Space.cleanUp, hfind]
  exact ⟨rfl, rfl⟩

theorem swept_cleanNames_of_folder :
    ∃ (sp : Space) (w : World) (p : Pattern) (names : List String) (w' : World),
      sp = (((((Space.made {} "a" 2).made "b" 1).setBytes 0 (Space.overwrite 0 [7])).bind
        "ac" .unsized).bind "ad" .folder) ∧
      w = { space := { sp with others := ⟨[(["dev", "shm", "ad", "x"], .file)]⟩ },
            objects := ⟨[("x", 1, .region ⟨"/a", 0, 2⟩)]⟩ } ∧ w.space.Reached ∧
      Text.Glob.parse Region.folderPath.length "a*" = .ok p ∧ w.Sweeping "a*" p names ∧
      (cleanNames "a*").run.run w = (.ok names, w') ∧ names.Pairwise (· < ·) ∧
      "a" ∈ names ∧ "ac" ∈ names ∧ "ad" ∉ names ∧ "b" ∉ names ∧
      w'.space.entry? "b" = some (.memory 1) ∧ w'.space.entry? "ad" = some .folder ∧
      w'.seen "x" = some [7, 0] ∧ (cleanNames "a*").run.run w' = (.ok [], w') := by
  obtain ⟨sp, hsp⟩ : ∃ sp : Space, sp = (((((Space.made {} "a" 2).made "b" 1).setBytes 0
    (Space.overwrite 0 [7])).bind "ac" .unsized).bind "ad" .folder) := ⟨_, rfl⟩
  obtain ⟨w, hw⟩ : ∃ w : World,
    w = { space := { sp with others := ⟨[(["dev", "shm", "ad", "x"], .file)]⟩ },
          objects := ⟨[("x", 1, .region ⟨"/a", 0, 2⟩)]⟩ } := ⟨_, rfl⟩
  have ha : bareName? "/a" = some "a" := by decide +kernel
  have hb : bareName? "b" = some "b" := by decide +kernel
  have hac : bareName? "ac" = some "ac" := by decide +kernel
  have hfirst : Space.create {} "/a" 2 = .ok (⟨"/a", 0, 2⟩, Space.made {} "a" 2) :=
    Space.create_of_absent ha (by decide +kernel) (by decide) (by decide)
  have hsecond : (Space.made {} "a" 2).create "b" 1 =
      .ok (⟨"b", 1, 1⟩, (Space.made {} "a" 2).made "b" 1) :=
    Space.create_of_absent hb (by decide +kernel) (by decide) (by decide)
  have hreached : w.space.Reached := by
    rw [hw, hsp]
    refine .furnished _ (.folder _ (.unsized (.written _ _ ?_) hac (by decide +kernel)))
    exact .created (.created .blank hfirst) hsecond
  have hparse : Text.Glob.parse Region.folderPath.length "a*" =
      .ok ⟨[⟨false, [.literal 'a', .anyMany]⟩], false⟩ := by
    cbv
  obtain ⟨names, hsweeping⟩ := (swept_cleanNames hreached "a*").2 _ hparse
  obtain ⟨hbare, ts, hts, hnames⟩ := hsweeping.fitting (by decide)
  obtain ⟨hsorted, -, w', hclean, hswept, -, hagain⟩ := hsweeping.cleaned hbare
  have htokens : Text.Glob.tokens 0 true "a*".toList = .ok [.literal 'a', .anyMany] := by
    cbv
  cases htokens.symm.trans hts
  have hentries : w.space.entry? "a" = some (.memory 0) ∧ w.space.entry? "ac" = some .unsized ∧
      w.space.entry? "ad" = some .folder ∧ w.space.entry? "b" = some (.memory 1) := by
    rw [hw, hsp]
    decide +kernel
  obtain ⟨hea, heac, head, heb⟩ := hentries
  have hmatched : accepts [.literal 'a', .anyMany] "a".toList = true ∧
      accepts [.literal 'a', .anyMany] "ac".toList = true ∧
      accepts [.literal 'a', .anyMany] "b".toList = false := by
    simp [accepts]
  have hsized : Region.Entry.memory 0 ≠ .folder ∧ Region.Entry.unsized ≠ .folder := by decide
  have hseen : w.seen "x" = some [7, 0] := by
    rw [hw, hsp]
    decide +kernel
  have hnotb : "b" ∉ names := fun hin =>
    Bool.false_ne_true (hmatched.2.2.symm.trans ((hnames "b").mp hin).1)
  refine ⟨sp, w, _, names, w', hsp, hw, hreached, hparse, hsweeping, hclean, hsorted,
    (hnames "a").mpr ⟨hmatched.1, _, hea, hsized.1⟩,
    (hnames "ac").mpr ⟨hmatched.2.1, _, heac, hsized.2⟩,
    fun hin => ?_, hnotb, (hswept.kept "b" hnotb).trans heb,
    hswept.folders "ad" head, (hswept.views "x").trans hseen, hagain⟩
  obtain ⟨-, e, he, hfolder⟩ := (hnames "ad").mp hin
  exact hfolder (Option.some.inj (he.symm.trans head))

/-- The one region is listed by a path that leads out of the folder and back, and is not cleaned
up. -/
theorem not_cleanNames_of_detour :
    ¬∀ (w : World) (pattern : String) (p : Pattern), w.space.Reached →
      Text.Glob.parse Region.folderPath.length pattern = .ok p →
      ∃ names w', (findNames pattern).run.run w = (.ok names, w) ∧
        (cleanNames pattern).run.run w = (.ok names, w') := by
  intro hagree
  have ha : bareName? "a" = some "a" := by decide +kernel
  have hcreate : Space.create {} "a" 2 = .ok (⟨"a", 0, 2⟩, Space.made {} "a" 2) :=
    Space.create_of_absent ha (by decide +kernel) (by decide) (by decide)
  have hreached : (Space.made {} "a" 2).Reached := .created .blank hcreate
  have hparse : Text.Glob.parse Region.folderPath.length "../shm/*" =
      .ok ⟨[⟨false, [.literal '.', .literal '.']⟩,
        ⟨false, [.literal 's', .literal 'h', .literal 'm']⟩, ⟨false, [.anyMany]⟩], false⟩ := by
    cbv
  obtain ⟨names, w', hfind, hclean⟩ :=
    hagree { space := Space.made {} "a" 2 } "../shm/*" _ hreached hparse
  have hsweeping := sweeping (w := { space := Space.made {} "a" 2 }) hparse hreached.named
  have hlists : (Space.made {} "a" 2).Lists ⟨[⟨false, [.literal '.', .literal '.']⟩,
      ⟨false, [.literal 's', .literal 'h', .literal 'm']⟩, ⟨false, [.anyMany]⟩], false⟩
      "../shm/a" := by
    refine ⟨rfl, [".."] ++ (["shm"] ++ (["a"] ++ [])), ⟨["dev", "shm", "a"], ["..", "shm", "a"]⟩,
      .cons (.spelled rfl (by decide)) (.cons (.spelled rfl (by decide))
        (.cons (.entry rfl (by decide) (by simp [accepts])) .nil)),
      by decide +kernel, by decide +kernel, by decide +kernel⟩
  cases hsweeping.found.symm.trans hfind
  exact hsweeping.cleaned_iff.mp ⟨w', hclean⟩ _ (Space.mem_listing.mpr hlists) (by decide)

end Rota.World
