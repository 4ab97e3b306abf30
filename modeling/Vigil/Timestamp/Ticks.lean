import Vigil.Timestamp.Calendar

/-! # Ticks

Moments are counted in ticks since the beginning of 1601, ten to a microsecond. A count has no fraction of a
microsecond and fits 64 bits with a sign, and so does the count of microseconds that it is made of. -/

namespace Vigil

/-- A number as one of 64 bits with a sign, if it fits. -/
def int64? (n : Int) : Option Int64 :=
  if -Int.pow 2 63 ≤ n ∧ n < Int.pow 2 63 then some (Int64.ofInt n) else none

namespace Moment

/-- The number of ticks of a microsecond. -/
def ticksPerMicrosecond : Int := 10

/-- The ticks up to a moment, whatever their number. -/
def ticks (m : Moment) : Int := m.microseconds * ticksPerMicrosecond

/-- The microseconds up to a moment, if their number fits. -/
def microseconds? (m : Moment) : Option Int64 := int64? m.microseconds

/-- The ticks up to a moment, if their number fits. -/
def ticks? (m : Moment) : Option Int64 :=
  m.microseconds?.bind fun n => int64? (n.toInt * ticksPerMicrosecond)

end Moment

end Vigil
