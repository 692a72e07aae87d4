import Rota.Yaml.Cursor

namespace Rota.Yaml

inductive Style
  | plain
  /-- In quotes, or as a folded block. -/
  | quoted
  /-- As a block whose line breaks stay. -/
  | literal
  deriving DecidableEq, Repr

/-- What the text of a document is made of. Brackets of block collections come from the way in
which lines are set in. -/
inductive Token
  | version (major minor : Nat)
  /-- A directive that a handle stands for the beginning of a tag. -/
  | handle (handle beginning : List Char)
  | documentStart
  | documentEnd
  | blockListStart
  | blockMappingStart
  | blockEnd
  | flowListStart
  | flowListEnd
  | flowMappingStart
  | flowMappingEnd
  | blockEntry
  | flowEntry
  | key
  | value
  | alias (name : List Char)
  | anchor (name : List Char)
  | tag (handle rest : List Char)
  | scalar (text : List Char) (style : Style)
  deriving DecidableEq, Repr

end Rota.Yaml
