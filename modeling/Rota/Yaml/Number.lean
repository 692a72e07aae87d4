import Rota.Yaml.Document

namespace Rota.Yaml

/-- A number of at most `most` from digits alone. -/
def digits? (base most : Nat) (cs : List Char) : Option Nat :=
  if cs.isEmpty then none else (Text.readDigits base most .tooLarge 0 cs).toOption

/-- A number without a sign: decimal without leading zeros, or to the base that its beginning
tells. -/
def magnitude? (most : Nat) : List Char → Option Nat
  | '0' :: 'x' :: cs => digits? 16 most cs
  | '0' :: 'o' :: cs => digits? 8 most cs
  | '0' :: 'b' :: cs => digits? 2 most cs
  | '0' :: _ :: _ => none
  | cs => digits? 10 most cs

namespace Scalar

def intTag : List Char := "tag:yaml.org,2002:int".toList

/-- Whether the scalar may be a number: a plain one, or a literal block that is tagged as one. -/
def isNumeric (s : Scalar) : Bool :=
  s.style = .plain || (s.style = .literal && s.tag = some intTag)

def nat? (s : Scalar) (most : Nat) : Option Nat :=
  if s.isNumeric then
    match s.text with
    | '+' :: cs => magnitude? most cs
    | cs => magnitude? most cs
  else none

/-- The integer from `-(most + 1)` to `most` that a scalar is. -/
def int? (s : Scalar) (most : Nat) : Option Int :=
  if s.isNumeric then
    match s.text with
    | '-' :: cs => (magnitude? (most + 1) cs).map fun n => -Int.ofNat n
    | '+' :: cs => (magnitude? most cs).map Int.ofNat
    | cs => (magnitude? most cs).map Int.ofNat
  else none

def nulls : List (List Char) := ["null", "Null", "NULL", "~"].map String.toList

def nullTag : List Char := "tag:yaml.org,2002:null".toList

/-- Whether the scalar says that there is nothing, unless its tag contradicts. -/
def isNull? (s : Scalar) : Option Bool :=
  if s.style ≠ .plain then some false
  else
    match s.tag with
    | none => some (s.text.isEmpty || nulls.contains s.text)
    | some t =>
      if t = nullTag then if nulls.contains s.text then some true else none
      else some false

end Scalar
end Rota.Yaml
