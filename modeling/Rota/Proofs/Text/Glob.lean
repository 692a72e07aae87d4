import Rota.Text.Glob
import Rota.Proofs.Lists

namespace Rota.Text.Glob

theorem mem_of_splitAt? {stop : Char} {cs before after : List Char}
    (h : splitAt? stop cs = some (before, after)) {c : Char} (hc : c ∈ after) : c ∈ cs := by
  induction cs generalizing before after with
  | nil => cases h
  | cons d cs ih =>
    rw [splitAt?] at h
    split_ifs at h with hd
    · cases h
      exact List.mem_cons_of_mem d hc
    · obtain ⟨⟨before', after'⟩, hsplit, heq⟩ := Option.map_eq_some_iff.mp h
      cases heq
      exact List.mem_cons_of_mem d (ih hsplit hc)

theorem exists_of_cons_tokens {t : Token} {read : Except Fault (List Token)} {ts : List Token}
    (h : (t :: ·) <$> read = .ok ts) : ∃ rest, read = .ok rest ∧ ts = t :: rest := by
  cases read with
  | error f => cases h
  | ok rest => exact ⟨rest, rfl, (Except.ok.inj h).symm⟩

/-- What tokens spell stands in the text that they were read from. -/
theorem mem_of_literal {position : Nat} {opening : Bool} {cs : List Char} {ts : List Token}
    (h : tokens position opening cs = .ok ts) {c : Char} (hc : .literal c ∈ ts) : c ∈ cs := by
  -- a wildcard is no character, and what stands behind it is read from a later part of the text
  have hbehind {t : Token} {read : Except Fault (List Token)} {ts : List Token}
      (h : (t :: ·) <$> read = .ok ts) (hc : .literal c ∈ ts) (ht : .literal c ≠ t) :
      ∃ rest, read = .ok rest ∧ .literal c ∈ rest := by
    obtain ⟨rest, hrest, rfl⟩ := exists_of_cons_tokens h
    exact ⟨rest, hrest, (List.mem_cons.mp hc).resolve_left ht⟩
  fun_induction tokens position opening cs generalizing ts with
  | case1 => cases h; cases hc
  | case2 position opening cs ih =>
    obtain ⟨rest, hrest, hin⟩ := hbehind h hc nofun
    exact List.mem_cons_of_mem _ (ih hrest hin)
  | case4 =>
    cases h
    cases List.mem_singleton.mp hc
  | case5 position cs _ ih =>
    obtain ⟨rest, hrest, hin⟩ := hbehind h hc nofun
    exact List.mem_cons_of_mem _ (List.mem_cons_of_mem _ (List.mem_cons_of_mem _ (ih hrest hin)))
  | case8 position opening cs _ _ ih =>
    obtain ⟨rest, hrest, hin⟩ := hbehind h hc nofun
    exact List.mem_cons_of_mem _ (ih hrest hin)
  | case9 position opening d cs inner behind hsplit ih =>
    obtain ⟨rest, hrest, hin⟩ := hbehind h hc nofun
    have hmem := mem_of_splitAt? hsplit (ih hrest hin)
    exact List.mem_cons_of_mem _ (List.mem_cons_of_mem _ (List.mem_cons_of_mem _ hmem))
  | case12 position opening d cs _ _ inner behind hsplit ih =>
    obtain ⟨rest, hrest, hin⟩ := hbehind h hc nofun
    have hmem := mem_of_splitAt? hsplit (ih hrest hin)
    exact List.mem_cons_of_mem _ (List.mem_cons_of_mem _ hmem)
  | case15 position opening d cs _ _ _ _ _ _ _ ih =>
    obtain ⟨rest, hrest, rfl⟩ := exists_of_cons_tokens h
    rcases List.mem_cons.mp hc with heq | hin
    · cases heq
      exact List.mem_cons_self
    · exact List.mem_cons_of_mem d (ih hrest hin)
  | case3 | case6 | case7 | case10 | case11 | case13 | case14 => cases h

theorem literal_mem_of_spelled {ts : List Token} {cs : List Char} (h : spelled? ts = some cs)
    {c : Char} (hc : c ∈ cs) : .literal c ∈ ts := by
  induction ts generalizing cs with
  | nil =>
    cases h
    cases hc
  | cons t ts ih =>
    cases t with
    | literal d =>
      obtain ⟨cs', hcs, rfl⟩ := Option.map_eq_some_iff.mp h
      rcases List.mem_cons.mp hc with rfl | hc
      · exact List.mem_cons_self
      · exact List.mem_cons_of_mem _ (ih hcs hc)
    | anyOne | anyMany | folders | within _ | except _ => cases h

/-- Tokens that are no wildcards stand for the text that they spell, and no other. -/
theorem accepts_iff_of_spelled {ts : List Token} {cs : List Char} (h : spelled? ts = some cs)
    (ds : List Char) : accepts ts ds = true ↔ ds = cs := by
  induction ts generalizing cs ds with
  | nil =>
    cases h
    cases ds with
    | nil => simp [accepts]
    | cons d ds => simp [accepts]
  | cons t ts ih =>
    cases t with
    | literal c =>
      obtain ⟨cs', hcs, rfl⟩ := Option.map_eq_some_iff.mp h
      cases ds with
      | nil => simp [accepts]
      | cons d ds => rw [accepts, Bool.and_eq_true, decide_eq_true_iff, ih hcs, List.cons.injEq]
    | anyOne | anyMany | folders | within _ | except _ => cases h

/-- A part of a pattern spells no slash. -/
def Part.Plain (p : Part) : Prop := ∀ cs, spelled? p.tokens = some cs → '/' ∉ cs

theorem mem_components {cs piece : List Char} (h : piece ∈ components cs) : '/' ∉ piece := by
  rw [components] at h
  split_ifs at h
  · exact not_mem_of_mem_splitOn ((List.dropLast_sublist _).mem h)
  · exact not_mem_of_mem_splitOn h

theorem components_of_not_mem {c : Char} {cs : List Char} (hslash : '/' ∉ c :: cs) :
    components (c :: cs) = [c :: cs] := by
  rw [components, List.splitOn_eq_singleton hslash]
  rfl

theorem tokens_of_mem_ofComponents {deep foldersOnly : Bool} {tss : List (List Token)} {p : Part}
    (h : p ∈ (Pattern.ofComponents deep foldersOnly tss).parts) :
    p.tokens ∈ tss ∨ p.tokens = [.anyMany] := by
  induction tss generalizing deep with
  | nil =>
    rw [Pattern.ofComponents] at h
    split_ifs at h
    · rw [List.mem_singleton.mp h]
      exact .inr rfl
    · cases h
  | cons ts tss ih =>
    rw [Pattern.ofComponents] at h
    split_ifs at h
    · exact (ih h).imp_left (List.mem_cons_of_mem ts)
    · rcases List.mem_cons.mp h with rfl | h
      · exact .inl List.mem_cons_self
      · exact (ih h).imp_left (List.mem_cons_of_mem ts)

/-- A text that is a pattern is one as a whole and in each component, and of these it consists. -/
theorem parse_eq_ok_iff {base : Nat} {text : String} {p : Pattern} :
    parse base text = .ok p ↔ (∃ ts, tokens base true text.toList = .ok ts) ∧
      ∃ tss, (components text.toList).mapM (tokens 0 true) = .ok tss ∧
        p = .ofComponents false (text.toList.getLast?.all (· = '/')) tss := by
  rw [parse]
  cases tokens base true text.toList with
  | error f => exact ⟨nofun, fun ⟨⟨_, h⟩, _⟩ => nomatch h⟩
  | ok ts =>
    cases (components text.toList).mapM (tokens 0 true) with
    | error f => exact ⟨nofun, fun ⟨_, _, h, _⟩ => nomatch h⟩
    | ok tss =>
      refine ⟨fun h => ⟨⟨ts, rfl⟩, tss, rfl, (Except.ok.inj h).symm⟩, ?_⟩
      rintro ⟨-, tss', h, rfl⟩
      cases h
      rfl

theorem plain_of_parse {base : Nat} {text : String} {p : Pattern} (h : parse base text = .ok p) :
    ∀ part ∈ p.parts, part.Plain := by
  obtain ⟨-, tss, htss, rfl⟩ := parse_eq_ok_iff.mp h
  intro part hpart cs hcs hslash
  rcases tokens_of_mem_ofComponents hpart with hin | hany
  · obtain ⟨piece, hpiece, htokens⟩ := exists_of_mem_mapM htss hin
    exact mem_components hpiece (mem_of_literal htokens (literal_mem_of_spelled hcs hslash))
  · rw [hany] at hcs
    cases hcs

/-- A pattern without a slash has one component at most. What stands for folders only, stands for no
name. -/
theorem parse_of_component {base : Nat} {text : String} {p : Pattern}
    (h : parse base text = .ok p) (hslash : '/' ∉ text.toList) :
    ∃ ts, tokens 0 true text.toList = .ok ts ∧
      (p.foldersOnly = true ∧ (∀ cs, accepts ts cs = true → cs = []) ∨
        p = ⟨[⟨false, ts⟩], false⟩) := by
  obtain ⟨-, tss, htss, rfl⟩ := parse_eq_ok_iff.mp h
  generalize text.toList = cs at htss hslash
  cases cs with
  | nil =>
    cases htss
    exact ⟨[], by rw [tokens], .inl ⟨rfl, fun cs => (accepts_iff_of_spelled rfl cs).mp⟩⟩
  | cons c cs =>
    have hlast : (c :: cs).getLast?.all (· = '/') = false := by
      rw [List.getLast?_eq_some_getLast (List.cons_ne_nil c cs), Option.all_some,
        decide_eq_false_iff_not]
      rintro heq
      exact hslash (heq ▸ List.getLast_mem (List.cons_ne_nil c cs))
    rw [components_of_not_mem hslash, List.mapM_cons, List.mapM_nil] at htss
    rw [hlast]
    cases hts : tokens 0 true (c :: cs) with
    | error f =>
      rw [hts] at htss
      cases htss
    | ok ts =>
      rw [hts] at htss
      cases htss
      refine ⟨ts, rfl, ?_⟩
      rw [Pattern.ofComponents]
      split_ifs with hfolders
      · refine .inl ⟨rfl, fun cs hcs => ?_⟩
        rw [hfolders] at hcs
        cases cs <;> simp [accepts] at hcs
      · exact .inr rfl

end Rota.Text.Glob
