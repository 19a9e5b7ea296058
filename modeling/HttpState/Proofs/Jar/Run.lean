import HttpState.Jar.Basic

/-!
# Using a jar

The operations that change a jar, and what comes of a jar when they follow one another. Each comes
with its own reading of the clock, so nothing is said about the order of the readings: the clock may
stand still or go back.
-/

namespace HttpState.Jar

/-- An operation that changes a jar. -/
inductive Operation where
  | receive (a : Address) (header : String)
  | load (cs : List Cookie)
  | removeAll
  | removeExpired
  | removeSession
  | setAccepts (accepts : Bool)
  deriving DecidableEq, Repr

/-- The jar after an operation when the clock reads `now`. -/
def Operation.apply (now : Int) (j : Jar) : Operation → Jar
  | .receive a header => (j.receive a header now).2
  | .load cs => j.load cs now
  | .removeAll => j.removeAll
  | .removeExpired => j.removeExpired now
  | .removeSession => j.removeSession
  | .setAccepts accepts => j.setAccepts accepts

/-- The jar after operations, each with the reading of the clock. -/
def run (j : Jar) (ops : List (Int × Operation)) : Jar :=
  ops.foldl (fun j o => o.2.apply o.1 j) j

end HttpState.Jar
