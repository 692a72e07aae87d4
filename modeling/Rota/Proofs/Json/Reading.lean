import Rota.Json.Printer
import Rota.Proofs.Json.Texts
import Rota.Proofs.Text.Numeral
import Mathlib.Data.List.TakeDrop

namespace Rota.Json

/-- The text does not go on with what could belong to a number before it. -/
def Stops (rest : List Char) : Prop :=
  ∀ c ∈ rest.head?, ¬c.isDigit ∧ c ≠ '.' ∧ c ≠ 'e' ∧ c ≠ 'E'

theorem stops_cons {c : Char} (h : ¬c.isDigit ∧ c ≠ '.' ∧ c ≠ 'e' ∧ c ≠ 'E') (rest : List Char) :
    Stops (c :: rest) := by
  intro d hd
  rw [← Option.some.inj hd]
  exact h

/-- What a number begins with. -/
def Leads (c : Char) : Prop := c = '-' ∨ c.isDigit

instance (c : Char) : Decidable (Leads c) := inferInstanceAs (Decidable (_ ∨ _))

/-- A number as it is written: it is read up to its end, whatever comes then. -/
structure IsNumber (written : List Char) : Prop where
  begins : ∃ c cs, written = c :: cs ∧ Leads c
  read : ∀ rest, Stops rest → number? (written ++ rest) = some (written, rest)

/-- A text as it is written between quotes: it is read up to the quote that ends it. -/
def IsText (written : List Char) : Prop :=
  ∀ rest, quoted? (written ++ '"' :: rest) = some (written, rest)

/-- The numbers and the texts in the value are such as can be read. -/
inductive Value.Legible : Value → Prop
  | null : Legible .null
  | bool (b : Bool) : Legible (.bool b)
  | number {written : List Char} (h : IsNumber written) : Legible (.number written)
  | text {written : List Char} (h : IsText written) : Legible (.text written)
  | list {items : List Value} (h : ∀ v ∈ items, Legible v) : Legible (.list items)
  | object {fields : List (List Char × Value)} (hk : ∀ f ∈ fields, IsText f.1)
    (hv : ∀ f ∈ fields, Legible f.2) : Legible (.object fields)

section number

variable {ds rest : List Char}

theorem digits?_append (hd : ∀ c ∈ ds, c.isDigit) (hne : ds ≠ []) (hr : Stops rest) :
    digits? (ds ++ rest) = some (ds, rest) := by
  have hhead : ∀ c ∈ rest.head?, ¬c.isDigit := fun c hc => (hr c hc).1
  have hrest : rest.takeWhile Char.isDigit = [] ∧ rest.dropWhile Char.isDigit = rest := by
    cases rest with
    | nil => exact ⟨rfl, rfl⟩
    | cons c rest =>
      have hc := hhead c rfl
      exact ⟨List.takeWhile_cons_of_neg hc, List.dropWhile_cons_of_neg hc⟩
  have hspan : (ds ++ rest).span Char.isDigit = (ds, rest) := by
    rw [List.span_eq_takeWhile_dropWhile, List.takeWhile_append_of_pos hd,
      List.dropWhile_append_of_pos hd, hrest.1, hrest.2, List.append_nil]
  obtain ⟨d, ds, rfl⟩ := List.exists_cons_of_ne_nil hne
  rw [digits?, hspan]

theorem fraction?_of_stops (hr : Stops rest) : fraction? rest = some ([], rest) := by
  cases rest with
  | nil => rfl
  | cons c rest =>
    rw [fraction?]
    exact fun _ h => absurd (List.cons.inj h).1 (hr c rfl).2.1

theorem exponent?_of_stops (hr : Stops rest) : exponent? rest = some ([], rest) := by
  cases rest with
  | nil => rfl
  | cons c rest =>
    obtain ⟨-, -, he, hE⟩ := hr c rfl
    unfold exponent?
    exact if_neg (not_or.mpr ⟨he, hE⟩)

/-- A number is not shown with a nought in front. -/
theorem exists_toDigits_of_pos {n : Nat} (hn : 0 < n) :
    ∃ d ds, Nat.toDigits 10 n = d :: ds ∧ d ≠ '0' := by
  have hdigit : ∀ d < 10, 0 < d → Nat.digitChar d ≠ '0' := by decide
  induction n using Nat.strongRecOn with
  | ind n ih =>
    rw [Nat.toDigits_eq_if (by decide)]
    split_ifs with hlt
    · exact ⟨_, [], rfl, hdigit n hlt hn⟩
    · obtain ⟨d, ds, hds, hd⟩ := ih (n / 10) (by omega) (by omega)
      exact ⟨d, ds ++ [Nat.digitChar (n % 10)], by rw [hds, List.cons_append], hd⟩

theorem whole?_toDigits (n : Nat) (hr : Stops rest) :
    whole? (Nat.toDigits 10 n ++ rest) = some (Nat.toDigits 10 n, rest) := by
  rcases Nat.eq_zero_or_pos n with rfl | hn
  · rfl
  · obtain ⟨d, ds, hds, hd⟩ := exists_toDigits_of_pos hn
    have hdigits := digits?_append (fun _ => Text.isDigit_of_mem_toDigits (n := n))
      Nat.toDigits_ne_nil hr
    rw [hds, List.cons_append] at hdigits ⊢
    rw [whole?]
    · exact hdigits
    · exact fun _ h => absurd (List.cons.inj h).1 hd

theorem number?_toDigits (n : Nat) (hr : Stops rest) :
    number? (Nat.toDigits 10 n ++ rest) = some (Nat.toDigits 10 n, rest) := by
  obtain ⟨c, cs, hcs, -, hminus⟩ := Text.exists_toDigits_eq_cons n
  have hwhole := whole?_toDigits n hr
  rw [hcs, List.cons_append] at hwhole ⊢
  unfold number?
  split
  next sign cs' hsign =>
    split at hsign
    · next hc => exact absurd (List.cons.inj hc).1 hminus
    · obtain ⟨rfl, rfl⟩ := Prod.mk.inj hsign
      rw [hwhole]
      simp only [Option.bind_eq_bind, Option.bind_some, fraction?_of_stops hr,
        exponent?_of_stops hr, List.nil_append, List.append_nil]
      rfl

theorem isNumber_toDigits (n : Nat) : IsNumber (Nat.toDigits 10 n) where
  begins := by
    obtain ⟨c, cs, hcs⟩ := List.exists_cons_of_ne_nil (Nat.toDigits_ne_nil (n := n) (b := 10))
    exact ⟨c, cs, hcs, .inr (Text.isDigit_of_mem_toDigits (hcs ▸ List.mem_cons_self))⟩
  read _ := number?_toDigits n

end number

/-! Blanks before a value are passed over. -/

theorem skipBlank_append {blanks : List Char} (h : ∀ c ∈ blanks, isBlank c) (cs : List Char) :
    skipBlank (blanks ++ cs) = skipBlank cs :=
  List.dropWhile_append_of_pos h

theorem skipBlank_cons {c : Char} (h : isBlank c = false) (cs : List Char) :
    skipBlank (c :: cs) = c :: cs :=
  List.dropWhile_cons_of_neg (by rw [h]; exact Bool.false_ne_true)

theorem isBlank_of_mem_newline (level : Nat) : ∀ c ∈ newline level, isBlank c := by
  intro c hc
  rcases List.mem_cons.mp hc with rfl | hc
  · rfl
  · rw [(List.mem_replicate.mp hc).2]
    rfl

theorem value?_append {blanks : List Char} (h : ∀ c ∈ blanks, isBlank c) (fuel : Nat)
    (cs : List Char) : value? fuel (blanks ++ cs) = value? fuel cs := by
  cases fuel with
  | zero => rw [value?, value?]
  | succ fuel => rw [value?, value?, skipBlank_append h]

theorem items?_append {blanks : List Char} (h : ∀ c ∈ blanks, isBlank c) (fuel : Nat)
    (cs : List Char) : items? fuel (blanks ++ cs) = items? fuel cs := by
  cases fuel with
  | zero => rw [items?, items?]
  | succ fuel => rw [items?, items?, value?_append h]

theorem fields?_append {blanks : List Char} (h : ∀ c ∈ blanks, isBlank c) (fuel : Nat)
    (cs : List Char) : fields? fuel (blanks ++ cs) = fields? fuel cs := by
  cases fuel with
  | zero => rw [fields?, fields?]
  | succ fuel => rw [fields?, fields?, skipBlank_append h]

theorem Leads.ne {c d : Char} (hc : Leads c) (hd : ¬Leads d) : c ≠ d := fun h => hd (h ▸ hc)

theorem Leads.not_isBlank {c : Char} (hc : Leads c) : isBlank c = false := by
  have hblank := hc.ne (d := ' ') (by decide)
  have hline := hc.ne (d := '\n') (by decide)
  have htab := hc.ne (d := '\t') (by decide)
  have hreturn := hc.ne (d := '\r') (by decide)
  simp [isBlank, hblank, hline, htab, hreturn]

theorem value?_number {c : Char} (hc : Leads c) (fuel : Nat) (cs : List Char) :
    value? (fuel + 1) (c :: cs) =
      (number? (c :: cs)).map fun p => (.number p.1, p.2) := by
  rw [value?, skipBlank_cons hc.not_isBlank]
  split
  · next h => exact absurd (List.cons.inj h).1 (hc.ne (by decide))
  · next h => exact absurd (List.cons.inj h).1 (hc.ne (by decide))
  · next h => exact absurd (List.cons.inj h).1 (hc.ne (by decide))
  · next h => exact absurd (List.cons.inj h).1 (hc.ne (by decide))
  · next h => exact absurd (List.cons.inj h).1 (hc.ne (by decide))
  · next h => exact absurd (List.cons.inj h).1 (hc.ne (by decide))
  · rfl

/-- The value is read from what it is written as, if there is fuel for all of it. -/
structure Read (v : Value) : Prop where
  /-- It begins with neither a blank nor the end of a list. -/
  opens : ∀ level, ∃ c cs, prettyAt level v = c :: cs ∧ isBlank c = false ∧ c ≠ ']'
  read : ∀ level fuel rest, (prettyAt level v).length ≤ fuel + 1 → Stops rest →
    value? (fuel + 1) (prettyAt level v ++ rest) = some (v, rest)

section items

variable (level outer : Nat) (rest : List Char)

theorem prettyItems_cons_append (v : Value) (vs : List Value) (tail : List Char) :
    prettyItems level (v :: vs) ++ tail =
      ',' :: (newline level ++ (prettyAt level v ++ (prettyItems level vs ++ tail))) := by
  rw [prettyItems]
  simp only [List.cons_append, List.append_assoc]

theorem prettyFields_cons_append (k : List Char) (v : Value) (fs : List (List Char × Value))
    (tail : List Char) :
    prettyFields level ((k, v) :: fs) ++ tail =
      ',' :: (newline level ++ ('"' :: (k ++ '"' :: ':' :: ' ' ::
        (prettyAt level v ++ (prettyFields level fs ++ tail))))) := by
  rw [prettyFields, quote]
  simp only [List.cons_append, List.append_assoc, List.nil_append]

theorem stops_newline : Stops (newline outer ++ rest) :=
  stops_cons (by decide) _

theorem stops_items (vs : List Value) :
    Stops (prettyItems level vs ++ (newline outer ++ rest)) := by
  cases vs with
  | nil => exact stops_newline outer rest
  | cons v vs =>
    rw [prettyItems_cons_append]
    exact stops_cons (by decide) _

theorem stops_fields (fs : List (List Char × Value)) :
    Stops (prettyFields level fs ++ (newline outer ++ rest)) := by
  cases fs with
  | nil => exact stops_newline outer rest
  | cons f fs =>
    rw [prettyFields_cons_append]
    exact stops_cons (by decide) _

theorem items?_prettyItems {v : Value} {vs : List Value} (hv : ∀ w ∈ v :: vs, Read w) (fuel : Nat)
    (hf : (prettyAt level v).length + (prettyItems level vs).length ≤ fuel) :
    items? (fuel + 2)
        (prettyAt level v ++ (prettyItems level vs ++ (newline outer ++ ']' :: rest))) =
      some (v :: vs, rest) := by
  induction vs generalizing v fuel with
  | nil =>
    have hvalue := (hv v List.mem_cons_self).read level fuel _ (by omega)
      (stops_items level outer (']' :: rest) [])
    rw [items?, hvalue]
    simp only [Option.bind_eq_bind, Option.bind_some]
    rw [prettyItems, List.nil_append, skipBlank_append (isBlank_of_mem_newline outer),
      skipBlank_cons rfl]
    rfl
  | cons w vs ih =>
    have hvalue := (hv v List.mem_cons_self).read level fuel _ (by omega)
      (stops_items level outer (']' :: rest) (w :: vs))
    rw [prettyItems] at hf
    simp only [List.length_append, List.length_cons] at hf
    obtain ⟨fuel, rfl⟩ := Nat.exists_eq_succ_of_ne_zero (n := fuel) (by omega)
    have hrest := ih (fun u hu => hv u (List.mem_cons_of_mem v hu)) fuel (by omega)
    rw [items?, hvalue]
    simp only [Option.bind_eq_bind, Option.bind_some]
    rw [prettyItems_cons_append, skipBlank_cons rfl]
    simp only [items?_append (isBlank_of_mem_newline level), hrest, Option.bind_some]
    rfl

/-- The first field of an object, with what comes behind it. -/
theorem fields?_field {k cs after : List Char} {v : Value} {fuel : Nat} (hk : IsText k)
    (hv : value? fuel cs = some (v, after)) :
    fields? (fuel + 1) ('"' :: (k ++ '"' :: ':' :: ' ' :: cs)) =
      match skipBlank after with
      | ',' :: more => (fields? fuel more).bind fun p => some ((k, v) :: p.1, p.2)
      | '\x7d' :: rest => some ([(k, v)], rest)
      | _ => none := by
  have hblank : ∀ c ∈ [' '], isBlank c := List.forall_mem_singleton.mpr rfl
  have hvalue : value? fuel (' ' :: cs) = some (v, after) :=
    (value?_append hblank fuel cs).trans hv
  rw [fields?, skipBlank_cons rfl]
  simp only [hk _, Option.bind_eq_bind, Option.bind_some]
  rw [skipBlank_cons rfl]
  simp only [hvalue, Option.bind_some]
  rfl

theorem fields?_prettyFields {k : List Char} {v : Value} {fs : List (List Char × Value)}
    (hk : ∀ f ∈ (k, v) :: fs, IsText f.1) (hv : ∀ f ∈ (k, v) :: fs, Read f.2) (fuel : Nat)
    (hf : (prettyAt level v).length + (prettyFields level fs).length ≤ fuel) :
    fields? (fuel + 2) ('"' :: (k ++ '"' :: ':' :: ' ' ::
        (prettyAt level v ++ (prettyFields level fs ++ (newline outer ++ '\x7d' :: rest))))) =
      some ((k, v) :: fs, rest) := by
  induction fs generalizing k v fuel with
  | nil =>
    have hv' : Read v := hv (k, v) List.mem_cons_self
    have hvalue := hv'.read level fuel _ (by omega)
      (stops_fields level outer ('\x7d' :: rest) [])
    rw [fields?_field (hk (k, v) List.mem_cons_self) hvalue, prettyFields, List.nil_append,
      skipBlank_append (isBlank_of_mem_newline outer), skipBlank_cons rfl]
    rfl
  | cons f fs ih =>
    have hv' : Read v := hv (k, v) List.mem_cons_self
    have hvalue := hv'.read level fuel _ (by omega)
      (stops_fields level outer ('\x7d' :: rest) (f :: fs))
    rw [prettyFields] at hf
    simp only [List.length_append, List.length_cons] at hf
    obtain ⟨fuel, rfl⟩ := Nat.exists_eq_succ_of_ne_zero (n := fuel) (by omega)
    have hrest := ih (fun g hg => hk g (List.mem_cons_of_mem _ hg))
      (fun g hg => hv g (List.mem_cons_of_mem _ hg)) fuel (by omega)
    rw [fields?_field (hk (k, v) List.mem_cons_self) hvalue, prettyFields_cons_append,
      skipBlank_cons rfl]
    simp only [fields?_append (isBlank_of_mem_newline level), hrest, Option.bind_some]

end items

theorem read_number {written : List Char} (h : IsNumber written) : Read (.number written) where
  opens level := by
    obtain ⟨c, cs, hcs, hc⟩ := h.begins
    exact ⟨c, cs, by rw [prettyAt, hcs], hc.not_isBlank, hc.ne (by decide)⟩
  read level fuel rest _ hrest := by
    obtain ⟨c, cs, hcs, hc⟩ := h.begins
    have hread := h.read rest hrest
    rw [prettyAt]
    rw [hcs, List.cons_append] at hread ⊢
    rw [value?_number hc, hread]
    rfl

theorem read_text {written : List Char} (h : IsText written) : Read (.text written) where
  opens level := ⟨'"', _, by rw [prettyAt, quote]; rfl, rfl, by decide⟩
  read level fuel rest _ _ := by
    rw [prettyAt, quote, List.cons_append, List.cons_append, List.append_assoc, value?,
      skipBlank_cons rfl]
    simp only [List.singleton_append, h rest]
    rfl

theorem value?_bracket (fuel : Nat) (cs : List Char) :
    value? (fuel + 1) ('[' :: cs) =
      match skipBlank cs with
      | ']' :: rest => some (.list [], rest)
      | _ => (items? fuel cs).map fun p => (.list p.1, p.2) := by
  rw [value?, skipBlank_cons rfl]
  rfl

theorem value?_brace (fuel : Nat) (cs : List Char) :
    value? (fuel + 1) ('\x7b' :: cs) =
      match skipBlank cs with
      | '\x7d' :: rest => some (.object [], rest)
      | _ => (fields? fuel cs).map fun p => (.object p.1, p.2) := by
  rw [value?, skipBlank_cons rfl]
  rfl

theorem length_newline_pos (level : Nat) : 0 < (newline level).length := Nat.succ_pos _

theorem read_list {items : List Value} (h : ∀ v ∈ items, Read v) : Read (.list items) where
  opens level := by
    cases items with
    | nil => exact ⟨'[', _, by rw [prettyAt], rfl, by decide⟩
    | cons v vs => exact ⟨'[', _, by rw [prettyAt]; rfl, rfl, by decide⟩
  read level fuel rest hf _ := by
    cases items with
    | nil =>
      rw [prettyAt, value?]
      rfl
    | cons v vs =>
      obtain ⟨c, cs, hcs, hblank, hclose⟩ := (h v List.mem_cons_self).opens (level + 1)
      have hline := length_newline_pos (level + 1)
      have htext : prettyAt level (.list (v :: vs)) ++ rest =
          '[' :: (newline (level + 1) ++ (prettyAt (level + 1) v ++
            (prettyItems (level + 1) vs ++ (newline level ++ ']' :: rest)))) := by
        rw [prettyAt]
        simp only [List.cons_append, List.append_assoc, List.nil_append]
      rw [prettyAt] at hf
      simp only [List.length_append, List.length_cons] at hf
      obtain ⟨fuel, rfl⟩ := Nat.exists_eq_add_of_le' (show 2 ≤ fuel by omega)
      have hitems := items?_prettyItems (level + 1) level rest h fuel (by omega)
      rw [← items?_append (isBlank_of_mem_newline (level + 1))] at hitems
      rw [htext, value?_bracket, skipBlank_append (isBlank_of_mem_newline (level + 1)), hitems, hcs,
        List.cons_append, skipBlank_cons hblank]
      split
      · next heq => exact absurd (List.cons.inj heq).1 hclose
      · rfl

theorem read_object {fields : List (List Char × Value)} (hk : ∀ f ∈ fields, IsText f.1)
    (hv : ∀ f ∈ fields, Read f.2) : Read (.object fields) where
  opens level := by
    cases fields with
    | nil => exact ⟨'\x7b', _, by rw [prettyAt], rfl, by decide⟩
    | cons f fs => exact ⟨'\x7b', _, by rw [prettyAt]; rfl, rfl, by decide⟩
  read level fuel rest hf _ := by
    cases fields with
    | nil =>
      rw [prettyAt, value?]
      rfl
    | cons f fs =>
      obtain ⟨k, v⟩ := f
      have hline := length_newline_pos (level + 1)
      have htext : prettyAt level (.object ((k, v) :: fs)) ++ rest =
          '\x7b' :: (newline (level + 1) ++ ('"' :: (k ++ '"' :: ':' :: ' ' ::
            (prettyAt (level + 1) v ++
              (prettyFields (level + 1) fs ++ (newline level ++ '\x7d' :: rest)))))) := by
        rw [prettyAt, quote]
        simp only [List.cons_append, List.append_assoc, List.nil_append]
      rw [prettyAt] at hf
      simp only [List.length_append, List.length_cons] at hf
      obtain ⟨fuel, rfl⟩ := Nat.exists_eq_add_of_le' (show 2 ≤ fuel by omega)
      have hfields := fields?_prettyFields (level + 1) level rest hk hv fuel (by omega)
      rw [← fields?_append (isBlank_of_mem_newline (level + 1))] at hfields
      rw [htext, value?_brace, skipBlank_append (isBlank_of_mem_newline (level + 1)), hfields,
        skipBlank_cons rfl]
      rfl

theorem Value.Legible.read {v : Value} (h : v.Legible) : Read v := by
  induction h with
  | null =>
    refine ⟨fun level => ⟨'n', _, by rw [prettyAt]; rfl, rfl, by decide⟩, ?_⟩
    intro level fuel rest _ _
    rw [prettyAt, value?]
    rfl
  | bool b =>
    refine ⟨fun level => ?_, ?_⟩
    · cases b
      · exact ⟨'f', _, by rw [prettyAt]; rfl, rfl, by decide⟩
      · exact ⟨'t', _, by rw [prettyAt]; rfl, rfl, by decide⟩
    · intro level fuel rest _ _
      rw [prettyAt, value?]
      cases b <;> rfl
  | number h => exact read_number h
  | text h => exact read_text h
  | list _ ih => exact read_list ih
  | object hk _ ih => exact read_object hk ih

theorem stops_of_isBlank {blanks : List Char} (h : ∀ c ∈ blanks, isBlank c) : Stops blanks := by
  intro c hc
  have hblank := h c (List.mem_of_mem_head? hc)
  simp only [isBlank, Bool.or_eq_true, decide_eq_true_eq] at hblank
  rcases hblank with ((rfl | rfl) | rfl) | rfl <;> decide

/-- A value that is written over several lines reads back as itself, with blanks behind it or
not. -/
theorem parse?_pretty {v : Value} (h : v.Legible) {blanks : String}
    (hb : ∀ c ∈ blanks.toList, isBlank c) : parse? (v.pretty ++ blanks) = some v := by
  have htext : (v.pretty ++ blanks).toList = prettyAt 0 v ++ blanks.toList := by
    rw [String.toList_append, Value.pretty, String.toList_ofList]
  have hfuel : (prettyAt 0 v).length ≤ (prettyAt 0 v ++ blanks.toList).length + 1 := by
    rw [List.length_append]
    omega
  have hrest : skipBlank blanks.toList = [] := by
    rw [← List.append_nil blanks.toList, skipBlank_append hb]
    rfl
  rw [parse?, htext]
  simp only [h.read.read 0 _ _ hfuel (stops_of_isBlank hb), Option.bind_eq_bind, Option.bind_some,
    hrest]
  rfl

theorem mapM_map_eq_some {α β : Type} {f : α → β} {g : β → Option α} (h : ∀ x, g (f x) = some x)
    (xs : List α) : (xs.map f).mapM g = some xs := by
  induction xs with
  | nil => rfl
  | cons x xs ih =>
    rw [List.map_cons, List.mapM_cons, h, ih]
    rfl

namespace Value

theorem legible_ofText (s : String) : (ofText s).Legible := .text (quoted?_escape s.toList)

theorem legible_ofNat (n : Nat) : (ofNat n).Legible := .number (isNumber_toDigits n)

theorem legible_record {fields : List (String × Value)} (h : ∀ f ∈ fields, f.2.Legible) :
    (record fields).Legible := by
  refine .object ?_ ?_
  · intro f hf
    obtain ⟨g, -, rfl⟩ := List.mem_map.mp hf
    exact quoted?_escape g.1.toList
  · intro f hf
    obtain ⟨g, hg, rfl⟩ := List.mem_map.mp hf
    exact h g hg

theorem nat?_ofNat {n most : Nat} (h : n ≤ most) : (ofNat n).nat? most = some n := by
  have hdigits : (Nat.toDigits 10 n).all Char.isDigit = true :=
    List.all_eq_true.mpr fun _ => Text.isDigit_of_mem_toDigits
  have hvalue : Nat.ofDigitChars 10 (Nat.toDigits 10 n) 0 = n :=
    Nat.ofDigitChars_toDigits (by decide) (by decide)
  rw [ofNat, nat?, if_pos hdigits, hvalue]
  exact if_pos h

/-- The fields of a record are found under the names that they were given. -/
theorem named?_record (fields : List (String × Value)) :
    named? (fields.map fun (k, v) => (escape k.toList, v)) = some fields := by
  apply mapM_map_eq_some
  rintro ⟨k, v⟩
  dsimp only
  rw [unescape?_escape, Option.map_some, String.ofList_toList]

end Value
end Rota.Json
