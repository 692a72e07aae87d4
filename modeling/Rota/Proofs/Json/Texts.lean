import Rota.Json.Reader
import Mathlib.Tactic.Common

namespace Rota.Json

theorem hexDigit?_digitChar : ∀ d < 16, hexDigit? (Nat.digitChar d) = some d := by decide

/-- The letter of a character stands for it, and for no number of one. -/
theorem charOf?_of_letterOf? {c l : Char} (h : letterOf? c = some l) :
    charOf? l = some c ∧ l ≠ 'u' := by
  unfold letterOf? at h
  split at h <;> cases h <;> exact ⟨rfl, by decide⟩

/-- A character that stands for itself. -/
theorem plain_of_letterOf? {c : Char} (h : letterOf? c = none) : c ≠ '"' ∧ c ≠ '\\' := by
  constructor <;> rintro rfl <;> cases h

section control

variable {c : Char} (hc : c < ' ')
include hc

theorem toNat_lt_of_lt_blank : c.toNat < 32 := hc

theorem unit?_digits :
    unit? '0' '0' (Nat.digitChar (c.toNat / 16)) (Nat.digitChar (c.toNat % 16)) =
      some c.toNat := by
  have hlt := toNat_lt_of_lt_blank hc
  have hhigh := hexDigit?_digitChar (c.toNat / 16) (by omega)
  have hlow := hexDigit?_digitChar (c.toNat % 16) (by omega)
  have hzero : hexDigit? '0' = some 0 := rfl
  rw [unit?, hhigh, hlow, hzero]
  exact congrArg some (by omega)

theorem isLead_toNat : isLead c.toNat = false := by
  have hlt := toNat_lt_of_lt_blank hc
  simp [isLead]
  omega

theorem isTrail_toNat : isTrail c.toNat = false := by
  have hlt := toNat_lt_of_lt_blank hc
  simp [isTrail]
  omega

end control

/-! What the reader makes of each form in which a character can be written, whatever follows. -/

section forms

variable {c : Char} (cs : List Char)

theorem quoted?_letter {l : Char} (h : charOf? l = some c) (hl : l ≠ 'u') :
    quoted? ('\\' :: l :: cs) = (quoted? cs).map fun p => ('\\' :: l :: p.1, p.2) := by
  rw [quoted?, h]
  · cases quoted? cs <;> rfl
  · rintro a b c d cs' rfl
    exact absurd rfl hl

theorem quoted?_digits {a b d e : Char} {u : Nat} (h : unit? a b d e = some u) :
    quoted? ('\\' :: 'u' :: a :: b :: d :: e :: cs) =
      (quoted? cs).map fun p => ('\\' :: 'u' :: a :: b :: d :: e :: p.1, p.2) := by
  rw [quoted?, h]
  cases quoted? cs <;> rfl

theorem quoted?_plain (hquote : c ≠ '"') (hslash : c ≠ '\\') (hc : ¬c < ' ') :
    quoted? (c :: cs) = (quoted? cs).map fun p => (c :: p.1, p.2) := by
  rw [quoted?, if_neg hc]
  · cases quoted? cs <;> rfl
  · exact hquote
  · exact fun _ _ _ _ _ h => absurd h hslash
  · exact fun _ _ h => absurd h hslash

theorem unescape?_letter {l : Char} (h : charOf? l = some c) (hl : l ≠ 'u') :
    unescape? ('\\' :: l :: cs) = (unescape? cs).map (c :: ·) := by
  rw [unescape?, h]
  · cases unescape? cs <;> rfl
  · exact fun _ _ _ _ _ _ _ _ _ h => absurd h hl
  · exact fun _ _ _ _ _ h => absurd h hl

/-- Four digits that are no half of a pair stand for a character, also before four more. -/
theorem unescape?_digits {a b d e : Char} {u : Nat} (h : unit? a b d e = some u)
    (hlead : isLead u = false) (htrail : isTrail u = false) :
    unescape? ('\\' :: 'u' :: a :: b :: d :: e :: cs) =
      (unescape? cs).map (.ofNat u :: ·) := by
  by_cases hmore : ∃ f g i j rest, cs = '\\' :: 'u' :: f :: g :: i :: j :: rest
  · obtain ⟨f, g, i, j, rest, rfl⟩ := hmore
    rw [unescape?, h]
    simp only [Option.bind_eq_bind, Option.bind_some, hlead, htrail]
    cases unescape? ('\\' :: 'u' :: f :: g :: i :: j :: rest) <;> rfl
  · rw [unescape?, h]
    · simp only [Option.bind_eq_bind, Option.bind_some, hlead, htrail]
      cases unescape? cs <;> rfl
    · exact fun f g i j rest hcs => hmore ⟨f, g, i, j, rest, hcs⟩

theorem unescape?_plain (hslash : c ≠ '\\') :
    unescape? (c :: cs) = (unescape? cs).map (c :: ·) := by
  rw [unescape?]
  · cases unescape? cs <;> rfl
  · exact fun _ _ _ _ _ _ _ _ _ h => absurd h hslash
  · exact fun _ _ _ _ _ h => absurd h hslash
  · exact fun _ _ h => absurd h hslash

end forms

/-- A character is written in one of three forms: by a letter, by its number or as it is. -/
theorem escapeChar_cases (c : Char) :
    (∃ l, escapeChar c = ['\\', l] ∧ charOf? l = some c ∧ l ≠ 'u') ∨
      (∃ a b d e, escapeChar c = ['\\', 'u', a, b, d, e] ∧ unit? a b d e = some c.toNat ∧
        isLead c.toNat = false ∧ isTrail c.toNat = false) ∨
      escapeChar c = [c] ∧ c ≠ '"' ∧ c ≠ '\\' ∧ ¬c < ' ' := by
  unfold escapeChar
  cases hl : letterOf? c with
  | some l => exact .inl ⟨l, rfl, charOf?_of_letterOf? hl⟩
  | none =>
    obtain ⟨hquote, hslash⟩ := plain_of_letterOf? hl
    by_cases hc : c < ' '
    · exact .inr (.inl ⟨'0', '0', _, _, if_pos hc, unit?_digits hc, isLead_toNat hc,
        isTrail_toNat hc⟩)
    · exact .inr (.inr ⟨if_neg hc, hquote, hslash, hc⟩)

theorem quoted?_escapeChar (c : Char) (cs : List Char) :
    quoted? (escapeChar c ++ cs) = (quoted? cs).map fun p => (escapeChar c ++ p.1, p.2) := by
  rcases escapeChar_cases c with ⟨l, he, hl, hne⟩ | ⟨a, b, d, e, he, hu, -⟩ | ⟨he, hq, hs, hc⟩
  · rw [he]
    exact quoted?_letter cs hl hne
  · rw [he]
    exact quoted?_digits cs hu
  · rw [he]
    exact quoted?_plain cs hq hs hc

theorem unescape?_escapeChar (c : Char) (cs : List Char) :
    unescape? (escapeChar c ++ cs) = (unescape? cs).map (c :: ·) := by
  rcases escapeChar_cases c with ⟨l, he, hl, hne⟩ | ⟨a, b, d, e, he, hu, hlead, htrail⟩ |
    ⟨he, -, hs, -⟩
  · rw [he]
    exact unescape?_letter cs hl hne
  · rw [he]
    refine (unescape?_digits cs hu hlead htrail).trans ?_
    rw [Char.ofNat_toNat]
  · rw [he]
    exact unescape?_plain cs hs

/-- A text that is written between quotes is read up to the quote that ends it. -/
theorem quoted?_escape (cs rest : List Char) :
    quoted? (escape cs ++ '"' :: rest) = some (escape cs, rest) := by
  induction cs with
  | nil => rfl
  | cons c cs ih =>
    have hcons : escape (c :: cs) = escapeChar c ++ escape cs := List.flatMap_cons
    rw [hcons, List.append_assoc, quoted?_escapeChar, ih]
    rfl

@[simp]
theorem unescape?_escape (cs : List Char) : unescape? (escape cs) = some cs := by
  induction cs with
  | nil => rfl
  | cons c cs ih =>
    have hcons : escape (c :: cs) = escapeChar c ++ escape cs := List.flatMap_cons
    rw [hcons, unescape?_escapeChar, ih]
    rfl

theorem text?_ofText (s : String) : (Value.ofText s).text? = some s := by
  rw [Value.ofText, Value.text?, unescape?_escape, Option.map_some, String.ofList_toList]

end Rota.Json
