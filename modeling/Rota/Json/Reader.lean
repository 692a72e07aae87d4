import Rota.Json.Value

namespace Rota.Json

def isBlank (c : Char) : Bool := c = ' ' || c = '\n' || c = '\t' || c = '\r'

def skipBlank (cs : List Char) : List Char := cs.dropWhile isBlank

/-- A run of digits, which must not be empty, and the rest. -/
def digits? (cs : List Char) : Option (List Char × List Char) :=
  match cs.span Char.isDigit with
  | ([], _) => none
  | found => some found

/-- The digits before the point; a leading zero stands alone. -/
def whole? : List Char → Option (List Char × List Char)
  | '0' :: cs => some (['0'], cs)
  | cs => digits? cs

/-- The point and the digits behind it, if there is a point. -/
def fraction? : List Char → Option (List Char × List Char)
  | '.' :: cs => (digits? cs).map fun (ds, rest) => ('.' :: ds, rest)
  | cs => some ([], cs)

/-- The mark, sign and digits of an exponent, if there is a mark. -/
def exponent? : List Char → Option (List Char × List Char)
  | c :: cs =>
    if c = 'e' ∨ c = 'E' then
      match cs with
      | '+' :: cs => (digits? cs).map fun (ds, rest) => (c :: '+' :: ds, rest)
      | '-' :: cs => (digits? cs).map fun (ds, rest) => (c :: '-' :: ds, rest)
      | cs => (digits? cs).map fun (ds, rest) => (c :: ds, rest)
    else some ([], c :: cs)
  | [] => some ([], [])

def number? (cs : List Char) : Option (List Char × List Char) := do
  let (sign, cs) := match cs with
    | '-' :: cs => (['-'], cs)
    | cs => ([], cs)
  let (whole, cs) ← whole? cs
  let (fraction, cs) ← fraction? cs
  let (exponent, cs) ← exponent? cs
  return (sign ++ whole ++ fraction ++ exponent, cs)

/-- What stands before the closing quote, as it is written, and what follows the quote. -/
def quoted? : List Char → Option (List Char × List Char)
  | [] => none
  | '"' :: cs => some ([], cs)
  | '\\' :: 'u' :: a :: b :: c :: d :: cs => do
    let _ ← unit? a b c d
    let (written, rest) ← quoted? cs
    return ('\\' :: 'u' :: a :: b :: c :: d :: written, rest)
  | '\\' :: l :: cs => do
    let _ ← charOf? l
    let (written, rest) ← quoted? cs
    return ('\\' :: l :: written, rest)
  | c :: cs =>
    if c < ' ' then none
    else do
      let (written, rest) ← quoted? cs
      return (c :: written, rest)

mutual

/-- A value and the rest; `fuel` bounds its depth and size. -/
def value? : Nat → List Char → Option (Value × List Char)
  | 0, _ => none
  | fuel + 1, cs =>
    match skipBlank cs with
    | 'n' :: 'u' :: 'l' :: 'l' :: cs => some (.null, cs)
    | 't' :: 'r' :: 'u' :: 'e' :: cs => some (.bool true, cs)
    | 'f' :: 'a' :: 'l' :: 's' :: 'e' :: cs => some (.bool false, cs)
    | '"' :: cs => (quoted? cs).map fun (written, rest) => (.text written, rest)
    | '[' :: cs =>
      match skipBlank cs with
      | ']' :: rest => some (.list [], rest)
      | _ => (items? fuel cs).map fun (vs, rest) => (.list vs, rest)
    | '\x7b' :: cs =>
      match skipBlank cs with
      | '\x7d' :: rest => some (.object [], rest)
      | _ => (fields? fuel cs).map fun (fs, rest) => (.object fs, rest)
    | cs => (number? cs).map fun (written, rest) => (.number written, rest)

def items? : Nat → List Char → Option (List Value × List Char)
  | 0, _ => none
  | fuel + 1, cs => do
    let (v, cs) ← value? fuel cs
    match skipBlank cs with
    | ',' :: cs =>
      let (vs, rest) ← items? fuel cs
      return (v :: vs, rest)
    | ']' :: rest => return ([v], rest)
    | _ => none

def fields? : Nat → List Char → Option (List (List Char × Value) × List Char)
  | 0, _ => none
  | fuel + 1, cs => do
    match skipBlank cs with
    | '"' :: cs =>
      let (name, cs) ← quoted? cs
      match skipBlank cs with
      | ':' :: cs =>
        let (v, cs) ← value? fuel cs
        match skipBlank cs with
        | ',' :: cs =>
          let (fs, rest) ← fields? fuel cs
          return ((name, v) :: fs, rest)
        | '\x7d' :: rest => return ([(name, v)], rest)
        | _ => none
      | _ => none
    | _ => none

end

def parse? (s : String) : Option Value := do
  let cs := s.toList
  let (v, rest) ← value? (cs.length + 1) cs
  if (skipBlank rest).isEmpty then return v else none

end Rota.Json
