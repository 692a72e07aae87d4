import Rota.Text.Bytes

namespace Rota.Text

theorem bytes_ofList_cons (c : Char) (cs : List Char) :
    bytes (.ofList (c :: cs)) = String.utf8EncodeChar c ++ bytes (.ofList cs) := by
  simp only [bytes, String.toList_ofList, List.flatMap_cons]

theorem length_bytes_ofList_cons (c : Char) (cs : List Char) :
    (bytes (.ofList (c :: cs))).length = c.utf8Size + (bytes (.ofList cs)).length := by
  rw [bytes_ofList_cons, List.length_append, String.length_utf8EncodeChar]

theorem charsAfter_eq_drop (skip : Nat) (bs : List UInt8) :
    charsAfter skip bs = charsAfter 0 (bs.drop skip) := by
  induction bs generalizing skip with
  | nil => rw [List.drop_nil, charsAfter, charsAfter]
  | cons b bs ih =>
    cases skip with
    | zero => rfl
    | succ skip => exact ih skip

/-- No character is taken for another, whatever follows it. -/
theorem firstChar_append (c : Char) (bs : List UInt8) :
    firstChar (String.utf8EncodeChar c ++ bs) = (c, c.utf8Size) := by
  have hlength : (String.utf8EncodeChar c).length ≤ 4 := by
    rw [String.length_utf8EncodeChar]
    exact c.utf8Size_le_four
  have hdecode : ((String.utf8EncodeChar c ++ bs).take 4).toByteArray.utf8DecodeChar? 0 = some c := by
    rw [List.take_append, List.take_of_length_le hlength, List.toByteArray_append]
    exact ByteArray.utf8DecodeChar?_utf8EncodeChar_append
  rw [firstChar, hdecode]

theorem charsAfter_append (c : Char) (bs : List UInt8) :
    charsAfter 0 (String.utf8EncodeChar c ++ bs) = c :: charsAfter 0 bs := by
  have hlength := String.length_utf8EncodeChar c
  have hpos := c.utf8Size_pos
  have hfirst := firstChar_append c bs
  cases henc : String.utf8EncodeChar c with
  | nil =>
    rw [henc, List.length_nil] at hlength
    omega
  | cons b rest =>
    rw [henc] at hlength hfirst
    rw [List.cons_append] at hfirst ⊢
    rw [charsAfter, hfirst]
    dsimp only
    rw [charsAfter_eq_drop, ← hlength, List.length_cons, Nat.add_sub_cancel, List.drop_left]

/-- A text is what its bytes stand for. -/
@[simp]
theorem ofBytes_bytes (s : String) : ofBytes (bytes s) = s := by
  have hchars (cs : List Char) : charsAfter 0 (cs.flatMap String.utf8EncodeChar) = cs := by
    induction cs with
    | nil => rfl
    | cons c cs ih => rw [List.flatMap_cons, charsAfter_append, ih]
  rw [ofBytes, bytes, hchars, String.ofList_toList]

-- a lead byte with too few bytes behind it is one broken piece with them
example : ofBytes [0x61, 0xE2, 0x82, 0x62, 0xED, 0xA0] = "a\uFFFDb\uFFFD\uFFFD" := by decide

theorem bytes_inj {s t : String} : bytes s = bytes t ↔ s = t := by
  refine ⟨fun h => ?_, congrArg bytes⟩
  rw [← ofBytes_bytes s, h, ofBytes_bytes]

theorem bytes_eq_nil_iff {s : String} : bytes s = [] ↔ s = "" := bytes_inj (t := "")

theorem bytes_isPrefix {p t : String} (h : p.toList <+: t.toList) : bytes p <+: bytes t := by
  obtain ⟨rest, hrest⟩ := h
  exact ⟨rest.flatMap String.utf8EncodeChar, by rw [bytes, bytes, ← hrest, List.flatMap_append]⟩

/-- Bytes that are written over others are those in front afterwards. -/
theorem take_overwritten {size : Nat} (old : Fin size → UInt8) {new : List UInt8}
    (h : new.length ≤ size) :
    (Vector.ofFn fun i => new.toArray.getD i (old i)).toList.take new.length = new := by
  apply List.ext_getElem
  · rw [List.length_take, Vector.length_toList]
    omega
  · intro i hi hi'
    simp only [List.getElem_take, Vector.getElem_toList, Vector.getElem_ofFn]
    simp [Array.getD, hi']

end Rota.Text
