import Rota.Log.Line
import Rota.Log.Queue

namespace Rota.Log

/-- What a consumer has read off a queue. -/
structure Intake where
  queue : Queue
  /-- The messages, the oldest first. -/
  records : List Record := []
  /-- Whether a marker has come. -/
  stopped : Bool := false

/-- Takes records off the queue, at most `limit`, up to the first marker, which is taken too. -/
def drainUpTo : Nat → Queue → Intake
  | 0, q => ⟨q, [], false⟩
  | limit + 1, q =>
    match q.pop with
    | (.ok (some r), q) =>
      if r.kind = .shutdown then ⟨q, [], true⟩
      else
        let rest := drainUpTo limit q
        { rest with records := r :: rest.records }
    | (_, q) => ⟨q, [], false⟩

/-- Takes everything off the queue up to the first marker. -/
def drain (q : Queue) : Intake := drainUpTo (q.pending.toOption.getD 0) q

end Rota.Log
