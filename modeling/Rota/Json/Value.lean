namespace Rota.Json

/-- A document. Numbers and texts are as they were written, texts without their quotes. -/
inductive Value
  | null
  | bool (b : Bool)
  | number (written : List Char)
  | text (written : List Char)
  | list (items : List Value)
  | object (fields : List (List Char × Value))

/-- The letter that stands for a character behind a backslash. -/
def letterOf? : Char → Option Char
  | '"' => some '"'
  | '\\' => some '\\'
  | '\n' => some 'n'
  | '\r' => some 'r'
  | '\t' => some 't'
  | '\x08' => some 'b'
  | '\x0c' => some 'f'
  | _ => none

/-- The character that a letter behind a backslash stands for; a slash may be written so too. -/
def charOf? : Char → Option Char
  | '"' => some '"'
  | '\\' => some '\\'
  | '/' => some '/'
  | 'n' => some '\n'
  | 'r' => some '\r'
  | 't' => some '\t'
  | 'b' => some '\x08'
  | 'f' => some '\x0c'
  | _ => none

/-- How a character is written in a text: control characters by a letter or by four digits. -/
def escapeChar (c : Char) : List Char :=
  match letterOf? c with
  | some l => ['\\', l]
  | none =>
    if c < ' ' then
      ['\\', 'u', '0', '0', Nat.digitChar (c.toNat / 16), Nat.digitChar (c.toNat % 16)]
    else [c]

def escape (cs : List Char) : List Char := cs.flatMap escapeChar

def hexDigit? (c : Char) : Option Nat :=
  if '0' ≤ c ∧ c ≤ '9' then some (c.toNat - '0'.toNat)
  else if 'a' ≤ c ∧ c ≤ 'f' then some (c.toNat - 'a'.toNat + 10)
  else if 'A' ≤ c ∧ c ≤ 'F' then some (c.toNat - 'A'.toNat + 10)
  else none

/-- The number that four digits stand for. -/
def unit? (a b c d : Char) : Option Nat := do
  return 16 * (16 * (16 * (← hexDigit? a) + (← hexDigit? b)) + (← hexDigit? c)) + (← hexDigit? d)

def isLead (u : Nat) : Bool := 0xD800 ≤ u && u < 0xDC00

def isTrail (u : Nat) : Bool := 0xDC00 ≤ u && u < 0xE000

def joinPair (lead trail : Nat) : Char :=
  Char.ofNat (0x10000 + (lead - 0xD800) * 0x400 + (trail - 0xDC00))

/-- The characters that a written text stands for; halves of pairs have to come in pairs. -/
def unescape? : List Char → Option (List Char)
  | [] => some []
  | '\\' :: 'u' :: a :: b :: c :: d :: '\\' :: 'u' :: e :: f :: g :: h :: rest => do
    let u ← unit? a b c d
    if isLead u then
      let v ← unit? e f g h
      if isTrail v then return joinPair u v :: (← unescape? rest) else none
    else if isTrail u then none
    else return Char.ofNat u :: (← unescape? ('\\' :: 'u' :: e :: f :: g :: h :: rest))
  | '\\' :: 'u' :: a :: b :: c :: d :: rest => do
    let u ← unit? a b c d
    if isLead u || isTrail u then none else return Char.ofNat u :: (← unescape? rest)
  | '\\' :: l :: rest => do return (← charOf? l) :: (← unescape? rest)
  | c :: rest => do return c :: (← unescape? rest)

namespace Value

def ofText (s : String) : Value := .text (escape s.toList)

def ofNat (n : Nat) : Value := .number (Nat.toDigits 10 n)

def ofInt (n : Int) : Value :=
  if n < 0 then .number ('-' :: Nat.toDigits 10 n.natAbs) else .ofNat n.natAbs

def record (fields : List (String × Value)) : Value :=
  .object (fields.map fun (k, v) => (escape k.toList, v))

/-- The text that the value is, if it is one. -/
def text? : Value → Option String
  | .text cs => (unescape? cs).map String.ofList
  | _ => none

/-- The natural number that the value is, if it is written with digits alone and at most `most`. -/
def nat? (most : Nat) : Value → Option Nat
  | .number cs =>
    if cs.all Char.isDigit then
      let n := Nat.ofDigitChars 10 cs 0
      if n ≤ most then some n else none
    else none
  | _ => none

def named? (fields : List (List Char × Value)) : Option (List (String × Value)) :=
  fields.mapM fun (k, v) => (unescape? k).map fun k => (String.ofList k, v)

def single? (fields : List (String × Value)) (name : String) : Option Value :=
  match fields.filter (·.1 = name) with
  | [(_, v)] => some v
  | _ => none

end Value
end Rota.Json
