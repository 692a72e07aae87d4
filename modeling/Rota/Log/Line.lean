import Rota.Calendar.Stamp
import Rota.Log.Record

namespace Rota.Log

/-- The stamp of a record; outside the calendar, that of the time at which the line is written. -/
def stampText (now : Int64) (r : Record) : String :=
  ((Calendar.stamp? r.millis.toInt).orElse fun _ => Calendar.stamp? now.toInt).getD ""

def line (now : Int64) (r : Record) : String := s!"{stampText now r} [{r.pid}] {r.text}"

/-- The text of a line that `pid` wrote: what follows date, time and process. -/
def textOf? (pid : UInt32) (line : String) : Option String :=
  let afterBlank := fun cs : List Char => (cs.dropWhile (· ≠ ' ')).tail
  let mark := s!"[{pid}] ".toList
  let rest := afterBlank (afterBlank line.toList)
  if mark.isPrefixOf rest then some (String.ofList (rest.drop mark.length)) else none

end Rota.Log
