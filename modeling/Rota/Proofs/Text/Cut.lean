import Rota.Proofs.Text.Bytes
import Rota.Text.Cut
import Mathlib.Tactic.Common

namespace Rota.Text

theorem goesOn_ofNat {n : Nat} (h : n < 256) : goesOn (.ofNat n) ↔ 128 ≤ n ∧ n ≤ 191 := by
  rw [goesOn, Bool.and_eq_true, decide_eq_true_iff, decide_eq_true_iff, UInt8.le_iff_toNat_le,
    UInt8.le_iff_toNat_le, UInt8.toNat_ofNat_of_lt' h]
  rfl

theorem goesOn_low (n : Nat) : goesOn (.ofNat (n % 64 + 0x80)) :=
  (goesOn_ofNat (by omega)).mpr (by omega)

theorem not_goesOn_ofNat {n : Nat} (h : n < 128 ∨ 191 < n ∧ n < 256) :
    goesOn (.ofNat n) = false := by
  rw [← Bool.not_eq_true, goesOn_ofNat (by omega)]
  omega

/-- All bytes of a character go on with it but the first. -/
theorem exists_utf8EncodeChar_eq (c : Char) :
    ∃ first rest, String.utf8EncodeChar c = first :: rest ∧ goesOn first = false ∧
      ∀ b ∈ rest, goesOn b := by
  unfold String.utf8EncodeChar
  dsimp only
  generalize c.val.toNat = n
  split_ifs with h1 h2 h3
  · exact ⟨_, _, rfl, not_goesOn_ofNat (by omega), nofun⟩
  · have hfirst := not_goesOn_ofNat (n := n / 64 % 32 + 0xC0) (by omega)
    refine ⟨_, _, rfl, hfirst, ?_⟩
    simp only [List.forall_mem_cons, goesOn_low, true_and]
    nofun
  · have hfirst := not_goesOn_ofNat (n := n / 4096 % 16 + 0xE0) (by omega)
    refine ⟨_, _, rfl, hfirst, ?_⟩
    simp only [List.forall_mem_cons, goesOn_low, true_and]
    nofun
  · have hfirst := not_goesOn_ofNat (n := n / 262144 % 8 + 0xF0) (by omega)
    refine ⟨_, _, rfl, hfirst, ?_⟩
    simp only [List.forall_mem_cons, goesOn_low, true_and]
    nofun

/-- Behind a character lie the boundaries of what follows it. -/
theorem isBoundary_utf8EncodeChar_append (c : Char) (cs : List Char) (j : Nat) :
    isBoundary (String.utf8EncodeChar c ++ bytes (.ofList cs)) (c.utf8Size + j) =
      isBoundary (bytes (.ofList cs)) j := by
  have hpos := c.utf8Size_pos
  have hlength := String.length_utf8EncodeChar c
  have hget : (String.utf8EncodeChar c ++ bytes (.ofList cs))[c.utf8Size + j]? =
      (bytes (.ofList cs))[j]? := by
    rw [List.getElem?_append_right (by omega), hlength, Nat.add_sub_cancel_left]
  rw [isBoundary, isBoundary, if_neg (by omega), hget, List.length_append, hlength]
  cases j with
  | zero =>
    cases cs with
    | nil => simp [bytes]
    | cons d ds =>
      obtain ⟨first, rest, heq, hfirst, -⟩ := exists_utf8EncodeChar_eq d
      rw [bytes_ofList_cons, heq]
      simp [hfirst]
  | succ j => simp

theorem not_isBoundary_inside (c : Char) (bs : List UInt8) {i : Nat} (hpos : i ≠ 0)
    (hi : i < c.utf8Size) : isBoundary (String.utf8EncodeChar c ++ bs) i = false := by
  obtain ⟨first, rest, heq, -, hrest⟩ := exists_utf8EncodeChar_eq c
  obtain ⟨k, rfl⟩ := Nat.exists_eq_succ_of_ne_zero hpos
  have hlength := String.length_utf8EncodeChar c
  rw [heq, List.length_cons] at hlength
  have hk : k < rest.length := by omega
  have hget : (String.utf8EncodeChar c ++ bs)[k + 1]? = some rest[k] := by
    rw [heq, List.cons_append, List.getElem?_cons_succ, List.getElem?_append_left hk,
      List.getElem?_eq_getElem hk]
  rw [isBoundary, if_neg hpos, hget]
  simp [hrest rest[k] (List.getElem_mem hk)]

theorem isBoundary_ofList_iff (cs : List Char) (i : Nat) :
    isBoundary (bytes (.ofList cs)) i ↔ ∃ p, p <+: cs ∧ (bytes (.ofList p)).length = i := by
  induction cs generalizing i with
  | nil =>
    simp only [List.prefix_nil, exists_eq_left]
    cases i <;> simp [isBoundary, bytes]
  | cons c cs ih =>
    rw [bytes_ofList_cons]
    by_cases hzero : i = 0
    · exact iff_of_true (by simp [isBoundary, hzero]) ⟨[], List.nil_prefix, hzero.symm⟩
    rcases Nat.lt_or_ge i c.utf8Size with hinside | hbehind
    · refine iff_of_false (by simp [not_isBoundary_inside c _ hzero hinside]) ?_
      rintro ⟨_ | ⟨d, p⟩, hp, rfl⟩
      · exact hzero rfl
      · obtain ⟨rfl, -⟩ := List.cons_prefix_cons.mp hp
        rw [length_bytes_ofList_cons] at hinside
        omega
    · obtain ⟨j, rfl⟩ := Nat.exists_eq_add_of_le hbehind
      rw [isBoundary_utf8EncodeChar_append, ih]
      constructor
      · rintro ⟨p, hp, rfl⟩
        exact ⟨c :: p, List.cons_prefix_cons.mpr ⟨rfl, hp⟩, length_bytes_ofList_cons c p⟩
      · rintro ⟨_ | ⟨d, p⟩, hp, hlength⟩
        · exact absurd hlength.symm hzero
        · obtain ⟨rfl, hrest⟩ := List.cons_prefix_cons.mp hp
          rw [length_bytes_ofList_cons] at hlength
          exact ⟨p, hrest, Nat.add_left_cancel hlength⟩

/-- The boundaries in the bytes of a text are where its beginnings end. -/
theorem isBoundary_iff {t : String} {i : Nat} :
    isBoundary (bytes t) i ↔ ∃ p : String, p.toList <+: t.toList ∧ (bytes p).length = i := by
  have hlist := isBoundary_ofList_iff t.toList i
  rw [String.ofList_toList] at hlist
  rw [hlist]
  constructor
  · rintro ⟨p, hp, hlength⟩
    exact ⟨.ofList p, by rwa [String.toList_ofList], hlength⟩
  · rintro ⟨p, hp, hlength⟩
    exact ⟨p.toList, hp, by rwa [String.ofList_toList]⟩

theorem isBoundary_length (bs : List UInt8) : isBoundary bs bs.length := by
  simp [isBoundary]

section scan

variable (bs : List UInt8) (i : Nat)

theorem lastBoundary_le : lastBoundary bs i ≤ i := by
  induction i with
  | zero => exact Nat.le_refl 0
  | succ i ih =>
    rw [lastBoundary]
    split <;> omega

theorem isBoundary_lastBoundary : isBoundary bs (lastBoundary bs i) := by
  induction i with
  | zero => rfl
  | succ i ih =>
    rw [lastBoundary]
    split <;> assumption

variable {bs i}

/-- The scan backwards passes no boundary over. -/
theorem le_lastBoundary {j : Nat} (hj : isBoundary bs j) (hle : j ≤ i) :
    j ≤ lastBoundary bs i := by
  induction i with
  | zero => omega
  | succ i ih =>
    rw [lastBoundary]
    split
    · exact hle
    · rename_i hnot
      have hne : j ≠ i + 1 := fun h => hnot (h ▸ hj)
      exact ih (by omega)

theorem lastBoundary_eq_self (h : isBoundary bs i) : lastBoundary bs i = i :=
  Nat.le_antisymm (lastBoundary_le bs i) (le_lastBoundary h (Nat.le_refl i))

end scan

theorem exists_bytes_eq_take {t : String} {i : Nat} (h : isBoundary (bytes t) i) :
    ∃ p : String, p.toList <+: t.toList ∧ bytes p = (bytes t).take i := by
  obtain ⟨p, hp, rfl⟩ := isBoundary_iff.mp h
  exact ⟨p, hp, List.prefix_iff_eq_take.mp (bytes_isPrefix hp)⟩

/-- A cut text has the bytes up to the last boundary, the text that fits not excepted. -/
theorem bytes_cut (limit : Nat) (t : String) :
    bytes (cut limit t) =
      (bytes t).take (lastBoundary (bytes t) (min (bytes t).length limit)) := by
  rw [cut]
  split_ifs with h
  · rw [Nat.min_eq_left h, lastBoundary_eq_self (isBoundary_length _), List.take_length]
  · obtain ⟨p, -, hp⟩ := exists_bytes_eq_take (isBoundary_lastBoundary (bytes t) limit)
    rw [Nat.min_eq_right (Nat.le_of_not_le h), ← hp, ofBytes_bytes]

theorem length_bytes_cut (limit : Nat) (t : String) :
    (bytes (cut limit t)).length = lastBoundary (bytes t) (min (bytes t).length limit) := by
  have hle := lastBoundary_le (bytes t) (min (bytes t).length limit)
  rw [bytes_cut, List.length_take]
  omega

theorem le_length_bytes_cut {limit : Nat} {t : String} {i : Nat}
    (h : isBoundary (bytes t) i) (hle : i ≤ limit) : i ≤ (bytes (cut limit t)).length := by
  obtain ⟨p, hp, rfl⟩ := isBoundary_iff.mp h
  have hbytes : (bytes p).length ≤ (bytes t).length := (bytes_isPrefix hp).length_le
  rw [length_bytes_cut]
  exact le_lastBoundary h (Nat.le_min.mpr ⟨hbytes, hle⟩)

/-- Of two beginnings of a text the one with fewer bytes begins the other. -/
theorem isPrefix_of_length_bytes_le {p s t : String} (hp : p.toList <+: t.toList)
    (hs : s.toList <+: t.toList) (h : (bytes p).length ≤ (bytes s).length) :
    p.toList <+: s.toList := by
  rcases List.prefix_or_prefix_of_prefix hp hs with hps | hsp
  · exact hps
  · have heq : s = p := bytes_inj.mp ((bytes_isPrefix hsp).eq_of_length_le h)
    exact heq ▸ List.prefix_rfl

/-- `s` is the longest beginning of `t` that takes at most `limit` bytes. -/
structure IsCut (limit : Nat) (t s : String) : Prop where
  begins : s.toList <+: t.toList
  fits : (bytes s).length ≤ limit
  longest : ∀ p : String, p.toList <+: t.toList → (bytes p).length ≤ limit →
    p.toList.length ≤ s.toList.length

theorem cut_isPrefix (limit : Nat) (t : String) : (cut limit t).toList <+: t.toList := by
  have hb := isBoundary_lastBoundary (bytes t) (min (bytes t).length limit)
  obtain ⟨p, hp, htake⟩ := exists_bytes_eq_take hb
  rw [← bytes_cut, bytes_inj] at htake
  rwa [← htake]

theorem isCut_cut (limit : Nat) (t : String) : IsCut limit t (cut limit t) where
  begins := cut_isPrefix limit t
  fits := by
    have hle := lastBoundary_le (bytes t) (min (bytes t).length limit)
    rw [length_bytes_cut]
    omega
  longest p hp hfits := by
    have hlength := le_length_bytes_cut (isBoundary_iff.mpr ⟨p, hp, rfl⟩) hfits
    exact (isPrefix_of_length_bytes_le hp (cut_isPrefix limit t) hlength).length_le

/-- There is one longest beginning. -/
theorem IsCut.unique {limit : Nat} {t s s' : String} (h : IsCut limit t s)
    (h' : IsCut limit t s') : s = s' := by
  have hle : s.toList.length ≤ s'.toList.length := h'.longest s h.begins h.fits
  have hge : s'.toList.length ≤ s.toList.length := h.longest s' h'.begins h'.fits
  have hpre : s.toList <+: s'.toList := List.prefix_of_prefix_length_le h.begins h'.begins hle
  exact String.toList_inj.mp (hpre.eq_of_length_le hge)

/-- A text that fits stays whole. -/
theorem cut_of_fits {limit : Nat} {t : String} (h : (bytes t).length ≤ limit) :
    cut limit t = t := if_pos h

theorem toNat_size_bytes_cut {limit : Nat} (h : limit < UInt32.size) (t : String) :
    (UInt32.ofNat (bytes (cut limit t)).toArray.size).toNat = (bytes (cut limit t)).length := by
  have hfits : (bytes (cut limit t)).length ≤ limit := (isCut_cut limit t).fits
  rw [List.size_toArray]
  exact UInt32.toNat_ofNat_of_lt' (Nat.lt_of_le_of_lt hfits h)

/-- Cutting again is cutting once, to the smaller of the limits. -/
theorem cut_cut (m n : Nat) (t : String) : cut n (cut m t) = cut (min m n) t := by
  have hm : IsCut m t (cut m t) := isCut_cut m t
  have hn : IsCut n (cut m t) (cut n (cut m t)) := isCut_cut n (cut m t)
  have hle : (bytes (cut n (cut m t))).length ≤ (bytes (cut m t)).length :=
    (bytes_isPrefix hn.begins).length_le
  have htwice : IsCut (min m n) t (cut n (cut m t)) := {
    begins := hn.begins.trans hm.begins
    fits := Nat.le_min.mpr ⟨Nat.le_trans hle hm.fits, hn.fits⟩
    longest := fun p hp hfits => by
      obtain ⟨hpm, hpn⟩ := Nat.le_min.mp hfits
      have hlength : p.toList.length ≤ (cut m t).toList.length := hm.longest p hp hpm
      exact hn.longest p (List.prefix_of_prefix_length_le hp hm.begins hlength) hpn }
  exact htwice.unique (isCut_cut _ t)

/-- `bs` are the bytes of `t` up to its last boundary within `limit`: all of them, or at most three
short of the limit. -/
structure CutBytes (limit : Nat) (t : String) (bs : List UInt8) : Prop where
  begins : bs <+: bytes t
  fits : bs.length ≤ limit
  ends : isBoundary (bytes t) bs.length
  longest : ∀ i ≤ limit, isBoundary (bytes t) i → i ≤ bs.length
  whole : (bytes t).length ≤ limit → bs = bytes t
  near : bs.length < (bytes t).length → limit ≤ bs.length + 3

theorem le_length_bytes_cut_add {limit : Nat} {t : String}
    (h : (bytes (cut limit t)).length < (bytes t).length) :
    limit ≤ (bytes (cut limit t)).length + 3 := by
  obtain ⟨rest, hrest⟩ := cut_isPrefix limit t
  cases rest with
  | nil =>
    rw [List.append_nil, String.toList_inj] at hrest
    rw [hrest] at h
    exact absurd h (Nat.lt_irrefl _)
  | cons c rest =>
    -- the first character left out takes four bytes at most, and there is no room for it
    have hnext : (cut limit t ++ .singleton c).toList <+: t.toList :=
      ⟨rest, by rw [← hrest]; simp⟩
    have hlength : (bytes (cut limit t ++ .singleton c)).length =
        (bytes (cut limit t)).length + c.utf8Size := by
      simp [bytes]
    have hroom : ¬ (bytes (cut limit t)).length + c.utf8Size ≤ limit := by
      intro hle
      have hkept := le_length_bytes_cut (isBoundary_iff.mpr ⟨_, hnext, hlength⟩) hle
      have hpos := c.utf8Size_pos
      omega
    have hfour := c.utf8Size_le_four
    omega

theorem cutBytes_bytes_cut (limit : Nat) (t : String) :
    CutBytes limit t (bytes (cut limit t)) where
  begins := bytes_isPrefix (cut_isPrefix limit t)
  fits := (isCut_cut limit t).fits
  ends := isBoundary_iff.mpr ⟨_, cut_isPrefix limit t, rfl⟩
  longest _ hi hb := le_length_bytes_cut hb hi
  whole h := by rw [cut_of_fits h]
  near := le_length_bytes_cut_add

end Rota.Text
