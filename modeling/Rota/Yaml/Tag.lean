import Rota.Text.Numeral
import Rota.Yaml.Token

namespace Rota.Yaml

/-- The characters of tags; brackets and commas stand only in those that are written out. -/
def isTagChar (writtenOut : Bool) (c : Char) : Bool :=
  isNameChar c || ";/?:@&=+$.%!~*'()".toList.contains c ||
    (writtenOut && ",[]".toList.contains c)

/-- How many octets follow the first one of a character. -/
def following? (octet : Nat) : Option Nat :=
  if octet < 0x80 then some 0
  else if octet / 32 = 6 then some 1
  else if octet / 16 = 14 then some 2
  else if octet / 8 = 30 then some 3
  else none

/-- The characters of a tag, and how many were written; `awaited` more octets of the last one are
to come. Each octet is given as a character of its own. -/
def tagText? (writtenOut : Bool) (awaited : Nat) : List Char → Option (List Char × Nat)
  | '%' :: a :: b :: cs => do
    let octet := 16 * (← Text.digitOf 16 a) + (← Text.digitOf 16 b)
    let awaited ← if awaited = 0 then following? octet
      else if octet / 64 = 2 then some (awaited - 1) else none
    let (text, n) ← tagText? writtenOut awaited cs
    return (Char.ofNat octet :: text, n + 3)
  | c :: cs =>
    if awaited ≠ 0 ∨ c = '%' then none
    else if isTagChar writtenOut c then do
      let (text, n) ← tagText? writtenOut 0 cs
      return (c :: text, n + 1)
    else some ([], 0)
  | [] => if awaited = 0 then some ([], 0) else none

/-- Reads the characters of a tag, at least one in all with the `before` that have been read. -/
def tagRest? (writtenOut : Bool) (before : List Char) (c : Cursor) :
    Option (List Char × Cursor) := do
  let (text, n) ← tagText? writtenOut 0 c.rest
  if before.isEmpty && n = 0 then none else return (before.drop 1 ++ text, c.advance n)

/-- Reads a mark, a name, and a second mark if there is one. -/
def tagHandle? (c : Cursor) : Option (List Char × Cursor) :=
  if c.rest.head? = some '!' then
    let (name, c) := (c.advance 1).span isNameChar
    if c.rest.head? = some '!' then some ('!' :: name ++ ['!'], c.advance 1)
    else some ('!' :: name, c)
  else none

def isLongHandle (handle : List Char) : Bool := 2 ≤ handle.length && handle.getLast? = some '!'

/-- Reads a tag: one written out between angle brackets, or one that begins with a handle. -/
def tagToken? (inFlow : Bool) (c : Cursor) : Option (Token × Cursor) := do
  let (token, c) ← if c.rest.take 2 = ['!', '<'] then do
      let (text, c) ← tagRest? true [] (c.advance 2)
      if c.rest.head? = some '>' then some (Token.tag [] text, c.advance 1) else none
    else do
      let (handle, c) ← tagHandle? c
      if isLongHandle handle then
        let (text, c) ← tagRest? false [] c
        some (Token.tag handle text, c)
      else
        let (text, c) ← tagRest? false handle c
        some (if text.isEmpty then Token.tag [] ['!'] else Token.tag ['!'] text, c)
  if gapFollows c.rest || (inFlow && c.rest.head? = some ',') then some (token, c) else none

def versionDigits : Nat := 9

def versionPart? (c : Cursor) : Option (Nat × Cursor) :=
  let (digits, c) := c.span Char.isDigit
  if digits.isEmpty ∨ versionDigits < digits.length then none
  else some (Nat.ofDigitChars 10 digits 0, c)

def versionToken? (c : Cursor) : Option (Token × Cursor) := do
  let (major, c) ← versionPart? (c.skip isBlank)
  if c.rest.head? = some '.' then
    let (minor, c) ← versionPart? (c.advance 1)
    return (.version major minor, c)
  else none

def handleToken? (c : Cursor) : Option (Token × Cursor) := do
  let (handle, c) ← tagHandle? (c.skip isBlank)
  if handle = ['!'] ∨ isLongHandle handle then
    if c.rest.head?.any isBlank then
      let (text, c) ← tagRest? true [] (c.skip isBlank)
      if gapFollows c.rest then return (.handle handle text, c) else none
    else none
  else none

def directiveToken? (c : Cursor) : Option (Token × Cursor) := do
  let (name, c) := (c.advance 1).span isNameChar
  if gapFollows c.rest then
    let (token, c) ← if name = "YAML".toList then versionToken? c
      else if name = "TAG".toList then handleToken? c
      else none
    return (token, ← c.endLine?)
  else none

/-- The characters that may follow the name of an anchor at once. -/
def afterName : List Char := "?:,]\x7d%@`".toList

def anchorName? (c : Cursor) : Option (List Char × Cursor) :=
  let (name, c) := (c.advance 1).span isNameChar
  if name.isEmpty then none
  else if c.rest.head?.all fun x => isGap x || afterName.contains x then some (name, c)
  else none

end Rota.Yaml
