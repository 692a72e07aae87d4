namespace Rota.Text

def bytes (s : String) : List UInt8 := s.toList.flatMap String.utf8EncodeChar

/-- How many bytes a character takes that begins with this one. -/
def width (first : UInt8) : Nat :=
  if 0xC2 ≤ first ∧ first ≤ 0xDF then 2
  else if 0xE0 ≤ first ∧ first ≤ 0xEF then 3
  else if 0xF0 ≤ first ∧ first ≤ 0xF4 then 4
  else 1

/-- Whether a byte may come second in a character: forms that are too long, halves of pairs and
numbers beyond the last are no characters. -/
def mayFollow (first second : UInt8) : Bool :=
  let lowest := if first = 0xE0 then 0xA0 else if first = 0xF0 then 0x90 else 0x80
  let highest := if first = 0xED then 0x9F else if first = 0xF4 then 0x8F else 0xBF
  lowest ≤ second ∧ second ≤ highest

/-- How many bytes one broken piece takes, which are those that might have begun a character. -/
def brokenLength : List UInt8 → Nat
  | first :: second :: rest =>
    if width first = 1 ∨ !mayFollow first second then 1
    else 2 + ((rest.take (width first - 3)).takeWhile fun b => 0x80 ≤ b ∧ b ≤ 0xBF).length
  | _ => 1

/-- The character that bytes begin with, and how many it takes; a replacement character stands for a
broken piece. -/
def firstChar (bs : List UInt8) : Char × Nat :=
  match (bs.take 4).toByteArray.utf8DecodeChar? 0 with
  | some c => (c, c.utf8Size)
  | none => ('\uFFFD', brokenLength bs)

/-- The characters that bytes stand for, after `skip` of them. -/
def charsAfter : Nat → List UInt8 → List Char
  | _, [] => []
  | skip + 1, _ :: bs => charsAfter skip bs
  | 0, b :: bs =>
    let (c, taken) := firstChar (b :: bs)
    c :: charsAfter (taken - 1) bs

def ofBytes (bs : List UInt8) : String := String.ofList (charsAfter 0 bs)

end Rota.Text
