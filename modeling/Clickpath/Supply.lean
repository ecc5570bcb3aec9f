import Clickpath.Moment

/-! # Supply

What a program takes from outside without asking a browser or a disk: fresh identifiers, readings of
the clock in milliseconds, and the present moment. Identifiers and readings come in two sequences,
and the supply remembers how many of each were taken.
-/

namespace Clickpath

/-- The sequences of identifiers and clock readings, and how much of them was used. -/
structure Supply where
  idAt : Nat → String
  millisAt : Nat → Int
  now : Moment
  idsTaken : Nat
  readingsTaken : Nat

namespace Supply

def freshId (s : Supply) : String × Supply :=
  (s.idAt s.idsTaken, { s with idsTaken := s.idsTaken + 1 })

def readClock (s : Supply) : Int × Supply :=
  (s.millisAt s.readingsTaken, { s with readingsTaken := s.readingsTaken + 1 })

end Supply

end Clickpath
