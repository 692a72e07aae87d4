import Rota.Text.Numeral
import Rota.Yaml.Cursor

namespace Rota.Yaml

def hexadecimal? (digits : List Char) : Option Nat :=
  digits.foldlM (fun n d => return 16 * n + (← Text.digitOf 16 d)) 0

/-! Plain scalars. -/

/-- The stretch of a plain scalar up to the next gap or to where it ends. -/
def plainStretch? (inFlow : Bool) : List Char → Option (List Char)
  | [] => some []
  | c :: cs =>
    if isGap c then some []
    else if inFlow && c = ':' && cs.head?.any (",?[]\x7b\x7d".toList.contains ·) then none
    else if c = ':' && gapFollows cs then some []
    else if inFlow && ",[]\x7b\x7d".toList.contains c then some []
    else (plainStretch? inFlow cs).map (c :: ·)

structure Reading where
  text : List Char := []
  cursor : Cursor
  /-- Whether the last thing passed was a gap with a line break. -/
  broken : Bool := false

/-- Reads on a plain scalar whose `text` is followed by the gap `g`. -/
def plainUpTo (inFlow : Bool) (least : Nat) : Nat → List Char → Gap → Cursor → Option Reading
  | 0, text, g, c => some ⟨text, c, !g.breaks.isEmpty⟩
  | limit + 1, text, g, c =>
    if c.atMark || c.rest.head? = some '#' then some ⟨text, c, !g.breaks.isEmpty⟩
    else
      match plainStretch? inFlow c.rest with
      | none => none
      | some [] => some ⟨text, c, !g.breaks.isEmpty⟩
      | some stretch => do
        let text := text ++ g.text ++ stretch
        let (g, c) ← (c.advance stretch.length).gap? least
        if !inFlow && c.column < least then some ⟨text, c, !g.breaks.isEmpty⟩
        else plainUpTo inFlow least limit text g c

/-- A plain scalar, the lines of which begin at the column `least` or later. -/
def plainScalar? (inFlow : Bool) (least : Nat) (c : Cursor) : Option Reading :=
  plainUpTo inFlow least c.rest.length [] {} c

/-! Quoted scalars. -/

def escaped? : Char → Option Char
  | '0' => some '\x00'
  | 'a' => some '\x07'
  | 'b' => some '\x08'
  | 't' | '\t' => some '\t'
  | 'n' => some '\n'
  | 'v' => some '\x0b'
  | 'f' => some '\x0c'
  | 'r' => some '\r'
  | 'e' => some '\x1b'
  | ' ' => some ' '
  | '"' => some '"'
  | '/' => some '/'
  | '\\' => some '\\'
  | 'N' => some '\x85'
  | '_' => some '\xa0'
  | 'L' => some '\u2028'
  | 'P' => some '\u2029'
  | _ => none

/-- How many digits follow a letter behind a backslash that names a character by its number. -/
def escapeWidth? : Char → Option Nat
  | 'x' => some 2
  | 'u' => some 4
  | 'U' => some 8
  | _ => none

def charOf? (n : Nat) : Option Char := if n.isValidChar then some (Char.ofNat n) else none

/-- The stretch of a scalar in single quotes up to the next gap or quote, and its length as
written. -/
def singleStretch : List Char → List Char × Nat
  | '\'' :: '\'' :: cs =>
    let (text, n) := singleStretch cs
    ('\'' :: text, n + 2)
  | c :: cs =>
    if c = '\'' ∨ isGap c then ([], 0)
    else
      let (text, n) := singleStretch cs
      (c :: text, n + 1)
  | [] => ([], 0)

/-- The stretch of a scalar in double quotes up to the next gap, quote or break behind a backslash,
and its length as written. -/
def doubleUpTo : Nat → List Char → Option (List Char × Nat)
  | 0, _ => some ([], 0)
  | _ + 1, [] => some ([], 0)
  | _ + 1, ['\\'] => none
  | limit + 1, '\\' :: l :: cs =>
    if isBreak l then some ([], 0)
    else
      match escaped? l, escapeWidth? l with
      | some c, _ => do
        let (text, n) ← doubleUpTo limit cs
        return (c :: text, n + 2)
      | none, some width => do
        if cs.length < width then none
        else
          let c ← charOf? (← hexadecimal? (cs.take width))
          let (text, n) ← doubleUpTo limit (cs.drop width)
          return (c :: text, n + 2 + width)
      | none, none => none
  | limit + 1, c :: cs =>
    if c = '"' ∨ isGap c then some ([], 0)
    else do
      let (text, n) ← doubleUpTo limit cs
      return (c :: text, n + 1)

def stretch? (quote : Char) (cs : List Char) : Option (List Char × Nat) :=
  if quote = '"' then doubleUpTo cs.length cs else some (singleStretch cs)

/-- Reads on a quoted scalar up to its closing quote. -/
def quotedUpTo (quote : Char) : Nat → List Char → Cursor → Option Reading
  | 0, _, _ => none
  | limit + 1, text, c =>
    if c.atMark || c.rest.isEmpty then none
    else do
      let (stretch, n) ← stretch? quote c.rest
      let text := text ++ stretch
      let c := c.advance n
      let hidden := quote = '"' && c.rest.head? = some '\\'
      let c := if hidden then (c.advance 1).lineBreak.2 else c
      if c.rest.head? = some quote then return ⟨text, c.advance 1, false⟩
      else
        let (g, c) ← c.gap? 0
        quotedUpTo quote limit (text ++ if hidden then g.breaks else g.text) c

def quotedScalar? (quote : Char) (c : Cursor) : Option Reading :=
  quotedUpTo quote c.rest.length [] (c.advance 1)

/-! Block scalars. -/

inductive Chomp
  | strip
  | clip
  | keep
  deriving DecidableEq, Repr

def chompOf? : Char → Option Chomp
  | '-' => some .strip
  | '+' => some .keep
  | _ => none

/-- The digit that an indentation is given by. -/
def stepOf? (c : Char) : Option Nat := if c.isDigit then some (c.toNat - '0'.toNat) else none

/-- The signs behind the first one of a block scalar: how far it is set in, and its end. -/
def blockHead? (c : Cursor) : Option (Option Nat × Chomp × Cursor) :=
  let step := fun c : Cursor =>
    match c.rest.head?.bind stepOf? with
    | some 0 => none
    | some n => some (some n, c.advance 1)
    | none => some (none, c)
  let chomp := fun c : Cursor => c.rest.head?.bind chompOf?
  match chomp c with
  | some ending => do
    let (n, c) ← step (c.advance 1)
    return (n, ending, c)
  | none => do
    let (n, c) ← step c
    match n, chomp c with
    | some _, some ending => return (n, ending, c.advance 1)
    | _, _ => return (n, .clip, c)

/-- Passes empty lines and the spaces before the next line, up to the column `indent` if that is
known. Also gives the breaks passed and the farthest column. -/
def emptyLinesUpTo (indent : Option Nat) :
    Nat → List Char → Nat → Cursor → Option (List Char × Nat × Cursor)
  | 0, breaks, most, c => some (breaks, most, c)
  | limit + 1, breaks, most, c =>
    let spaces := (c.rest.takeWhile (· = ' ')).length
    let c := c.advance (indent.elim spaces fun i => min spaces (i - c.column))
    let most := max most c.column
    if indent.all (c.column < ·) && c.rest.head? = some '\t' then none
    else
      match c.lineBreak with
      | ([], _) => some (breaks, most, c)
      | (b, after) => emptyLinesUpTo indent limit (breaks ++ b) most after

def emptyLines? (indent : Option Nat) (c : Cursor) : Option (List Char × Nat × Cursor) :=
  emptyLinesUpTo indent (c.rest.length + 1) [] 0 c

/-- What has been read of a block scalar: its text without the last break, that break, and the
breaks of the empty lines behind it. -/
structure Block where
  text : List Char := []
  last : List Char := []
  breaks : List Char := []
  /-- Whether the last line began with a blank. -/
  setIn : Bool := false

/-- The text of the lines so far, as another line follows that begins with a blank or not. In folded
text a single break between two lines set in alike becomes a space. -/
def Block.joined (b : Block) (folded nextSetIn : Bool) : List Char :=
  if folded && b.last = ['\n'] && !b.setIn && !nextSetIn then
    b.text ++ if b.breaks.isEmpty then [' '] else b.breaks
  else b.text ++ b.last ++ b.breaks

def blockUpTo (folded : Bool) (indent : Nat) : Nat → Block → Cursor → Option (Block × Cursor)
  | 0, b, c => some (b, c)
  | limit + 1, b, c =>
    if c.column = indent && !c.rest.isEmpty then do
      let setIn := c.rest.head?.any isBlank
      let (text, c) := c.span (!isBreak ·)
      let (last, c) := c.lineBreak
      let (breaks, _, c) ← emptyLines? (some indent) c
      blockUpTo folded indent limit ⟨b.joined folded setIn ++ text, last, breaks, setIn⟩ c
    else some (b, c)

def Block.chomped (b : Block) : Chomp → List Char
  | .strip => b.text
  | .clip => b.text ++ b.last
  | .keep => b.text ++ b.last ++ b.breaks

/-- A block scalar within a collection whose entries stand before the column `margin`. -/
def blockScalar? (margin : Nat) (c : Cursor) : Option Reading := do
  let folded := c.rest.head? = some '>'
  let (step, chomp, c) ← blockHead? (c.advance 1)
  let c ← c.endLine?
  let (breaks, most, c) ← emptyLines? (step.map (margin - 1 + ·)) c
  let indent := step.elim (max most (max margin 1)) (margin - 1 + ·)
  let (b, c) ← blockUpTo folded indent c.rest.length { breaks } c
  return ⟨b.chomped chomp, c, false⟩

end Rota.Yaml
