namespace Rota.Yaml

def isPrintable (c : Char) : Bool :=
  c = '\t' || c = '\n' || c = '\r' || (' ' ≤ c && c ≤ '~') || c = '\x85' ||
    ('\xa0' ≤ c && c ≤ '\ufffd') || '\uffff' < c

def isBlank (c : Char) : Bool := c = ' ' || c = '\t'

def isBreak (c : Char) : Bool :=
  c = '\n' || c = '\r' || c = '\x85' || c = '\u2028' || c = '\u2029'

def isGap (c : Char) : Bool := isBlank c || isBreak c

/-- The characters of handles, anchors and the names of directives. -/
def isNameChar (c : Char) : Bool := c.isAlphanum || c = '_' || c = '-'

def gapFollows (cs : List Char) : Bool := cs.head?.all isGap

/-- A place in a document, and what comes from there on. -/
structure Cursor where
  rest : List Char
  /-- The characters passed so far. -/
  index : Nat := 0
  line : Nat := 0
  column : Nat := 0
  deriving DecidableEq, Repr

/-- Blanks and line breaks between two stretches of text; blanks after a break do not count. -/
structure Gap where
  blanks : List Char := []
  breaks : List Char := []
  deriving DecidableEq, Repr

/-- What a gap leaves in the text: a single break becomes a space, of several the first goes. -/
def Gap.text (g : Gap) : List Char :=
  match g.breaks with
  | [] => g.blanks
  | ['\n'] => [' ']
  | '\n' :: more => more
  | breaks => breaks

namespace Cursor

def advance (c : Cursor) (n : Nat) : Cursor :=
  { c with rest := c.rest.drop n, index := c.index + n, column := c.column + n }

/-- The characters up to the first that is none of `p`, and the place behind them. -/
def span (c : Cursor) (p : Char → Bool) : List Char × Cursor :=
  let passed := c.rest.takeWhile p
  (passed, c.advance passed.length)

def skip (c : Cursor) (p : Char → Bool) : Cursor := (c.span p).2

def newLine (c : Cursor) (n : Nat) : Cursor :=
  ⟨c.rest.drop n, c.index + n, c.line + 1, 0⟩

/-- Passes a line break if there is one. Most breaks count as the same. -/
def lineBreak (c : Cursor) : List Char × Cursor :=
  match c.rest with
  | '\r' :: '\n' :: _ => (['\n'], c.newLine 2)
  | b :: _ =>
    if b = '\u2028' ∨ b = '\u2029' then ([b], c.newLine 1)
    else if isBreak b then (['\n'], c.newLine 1)
    else ([], c)
  | [] => ([], c)

def skipComment (c : Cursor) : Cursor :=
  if c.rest.head? = some '#' then c.skip (!isBreak ·) else c

/-- Passes the rest of a line that holds no more than a comment. -/
def endLine? (c : Cursor) : Option Cursor :=
  let c := (c.skip isBlank).skipComment
  if c.rest.head?.all isBreak then some c.lineBreak.2 else none

/-- Whether three of `c` stand alone at the beginning of a line. -/
def isMark (place : Cursor) (c : Char) : Bool :=
  place.column = 0 && place.rest.take 3 = [c, c, c] && gapFollows (place.rest.drop 3)

def atMark (c : Cursor) : Bool := c.isMark '-' || c.isMark '.'

/-- Passes a gap. In a line after a break no tab may come before the column `least`. -/
def gapUpTo (least : Nat) : Nat → Gap → Cursor → Option (Gap × Cursor)
  | 0, g, c => some (g, c)
  | limit + 1, g, c =>
    let (blanks, after) := c.span isBlank
    if blanks.isEmpty then
      match c.lineBreak with
      | ([], _) => some (g, c)
      | (b, after) => gapUpTo least limit { g with breaks := g.breaks ++ b } after
    else if g.breaks.isEmpty then gapUpTo least limit { g with blanks } after
    else if '\t' ∈ blanks.take (least - c.column) then none
    else gapUpTo least limit g after

def gap? (c : Cursor) (least : Nat) : Option (Gap × Cursor) := gapUpTo least c.rest.length {} c

end Cursor
end Rota.Yaml
