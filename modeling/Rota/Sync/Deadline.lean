namespace Rota.Sync

structure Moment where
  seconds : Int64
  nanos : Nat
  deriving DecidableEq, Repr

structure Span where
  seconds : UInt64
  nanos : Nat
  deriving DecidableEq, Repr

def nanosPerSecond : Nat := 1000000000

/-- The sum, or the end of the range that it passes. -/
def addSaturating (a b : Int64) : Int64 :=
  let sum := a.toInt + b.toInt
  if sum < Int64.minValue.toInt then Int64.minValue
  else if Int64.maxValue.toInt < sum then Int64.maxValue
  else .ofInt sum

namespace Moment

/-- The moment `span` after `base`; seconds of 2^63 and more count as negative. -/
def after (base : Moment) (span : Span) : Moment :=
  let seconds := addSaturating base.seconds span.seconds.toInt64
  let nanos := base.nanos + span.nanos
  if nanosPerSecond ≤ nanos then ⟨addSaturating seconds 1, nanos - nanosPerSecond⟩
  else ⟨seconds, nanos⟩

end Moment
end Rota.Sync
