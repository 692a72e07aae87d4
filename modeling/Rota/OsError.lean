namespace Rota

/-- A refusal by the operating system. -/
inductive OsError
  | notFound
  | busy
  | notDirectory
  | isDirectory
  | invalid
  | noSpace
  | nameTooLong
  | overflow
  | ownerDead
  | notRecoverable
  deriving DecidableEq, Repr

namespace OsError

def number : OsError → Nat
  | .notFound => 2
  | .busy => 16
  | .notDirectory => 20
  | .isDirectory => 21
  | .invalid => 22
  | .noSpace => 28
  | .nameTooLong => 36
  | .overflow => 75
  | .ownerDead => 130
  | .notRecoverable => 131

def reason : OsError → String
  | .notFound => "No such file or directory"
  | .busy => "Device or resource busy"
  | .notDirectory => "Not a directory"
  | .isDirectory => "Is a directory"
  | .invalid => "Invalid argument"
  | .noSpace => "No space left on device"
  | .nameTooLong => "File name too long"
  | .overflow => "Value too large for defined data type"
  | .ownerDead => "Owner died"
  | .notRecoverable => "State not recoverable"

def message (e : OsError) : String := s!"{e.reason} (os error {e.number})"

end OsError
end Rota
