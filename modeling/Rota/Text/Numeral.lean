namespace Rota.Text

inductive NumeralFault
  | empty
  | invalidDigit
  | tooLarge
  | tooSmall
  deriving DecidableEq, Repr

def NumeralFault.message : NumeralFault → String
  | .empty => "cannot parse integer from empty string"
  | .invalidDigit => "invalid digit found in string"
  | .tooLarge => "number too large to fit in target type"
  | .tooSmall => "number too small to fit in target type"

/-- The value of `c` as a digit of `base`, letters standing for ten and up in either case. -/
def digitOf (base : Nat) (c : Char) : Option Nat :=
  let d :=
    if '0' ≤ c ∧ c ≤ '9' then c.toNat - '0'.toNat
    else if 'a' ≤ c ∧ c ≤ 'z' then c.toNat - 'a'.toNat + 10
    else if 'A' ≤ c ∧ c ≤ 'Z' then c.toNat - 'A'.toNat + 10
    else base
  if d < base then some d else none

/-- Reads the digits `cs` onto the value `acc`; the first character that is no digit or takes the
value above `max` decides the fault, the latter being `overflow`. -/
def readDigits (base max : Nat) (overflow : NumeralFault) (acc : Nat) :
    List Char → Except NumeralFault Nat
  | [] => .ok acc
  | c :: cs =>
    match digitOf base c with
    | none => .error .invalidDigit
    | some d =>
      let acc := base * acc + d
      if acc ≤ max then readDigits base max overflow acc cs else .error overflow

/-- A natural number of at most `max`; a plus sign may lead. -/
def readNat (base max : Nat) (s : String) : Except NumeralFault Nat :=
  match s.toList with
  | [] => .error .empty
  | '+' :: c :: cs => readDigits base max .tooLarge 0 (c :: cs)
  | cs => readDigits base max .tooLarge 0 cs

/-- An integer from `-(max + 1)` to `max`; either sign may lead. -/
def readInt (base max : Nat) (s : String) : Except NumeralFault Int :=
  match s.toList with
  | [] => .error .empty
  | '+' :: c :: cs => Int.ofNat <$> readDigits base max .tooLarge 0 (c :: cs)
  | '-' :: c :: cs => (fun n => -Int.ofNat n) <$> readDigits base (max + 1) .tooSmall 0 (c :: cs)
  | cs => Int.ofNat <$> readDigits base max .tooLarge 0 cs

def readUInt64 (s : String) : Except NumeralFault UInt64 :=
  UInt64.ofNat <$> readNat 10 (UInt64.size - 1) s

def readInt64 (s : String) : Except NumeralFault Int64 :=
  Int64.ofInt <$> readInt 10 (UInt64.size / 2 - 1) s

end Rota.Text
