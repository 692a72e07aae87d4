import Rota.Json.Value

namespace Rota.Json

def step : Nat := 2

/-- A new line, set in by the given number of levels. -/
def newline (level : Nat) : List Char := '\n' :: List.replicate (step * level) ' '

def quote (written : List Char) : List Char := '"' :: written ++ ['"']

mutual

/-- The value over several lines, the first of them already set in by `level`. -/
def prettyAt (level : Nat) : Value → List Char
  | .null => "null".toList
  | .bool b => (if b then "true" else "false").toList
  | .number written => written
  | .text written => quote written
  | .list [] => ['[', ']']
  | .list (v :: vs) =>
    '[' :: newline (level + 1) ++ prettyAt (level + 1) v ++ prettyItems (level + 1) vs ++
      newline level ++ [']']
  | .object [] => ['\x7b', '\x7d']
  | .object ((k, v) :: fs) =>
    '\x7b' :: newline (level + 1) ++ quote k ++ [':', ' '] ++ prettyAt (level + 1) v ++
      prettyFields (level + 1) fs ++ newline level ++ ['\x7d']

def prettyItems (level : Nat) : List Value → List Char
  | [] => []
  | v :: vs => ',' :: newline level ++ prettyAt level v ++ prettyItems level vs

def prettyFields (level : Nat) : List (List Char × Value) → List Char
  | [] => []
  | (k, v) :: fs =>
    ',' :: newline level ++ quote k ++ [':', ' '] ++ prettyAt level v ++ prettyFields level fs

end

mutual

/-- The value without any blanks. -/
def dense : Value → List Char
  | .null => "null".toList
  | .bool b => (if b then "true" else "false").toList
  | .number written => written
  | .text written => quote written
  | .list [] => ['[', ']']
  | .list (v :: vs) => '[' :: dense v ++ denseItems vs ++ [']']
  | .object [] => ['\x7b', '\x7d']
  | .object ((k, v) :: fs) =>
    '\x7b' :: quote k ++ [':'] ++ dense v ++ denseFields fs ++ ['\x7d']

def denseItems : List Value → List Char
  | [] => []
  | v :: vs => ',' :: dense v ++ denseItems vs

def denseFields : List (List Char × Value) → List Char
  | [] => []
  | (k, v) :: fs => ',' :: quote k ++ [':'] ++ dense v ++ denseFields fs

end

def Value.pretty (v : Value) : String := String.ofList (prettyAt 0 v)

def Value.compact (v : Value) : String := String.ofList (dense v)

end Rota.Json
