/-!
Points in time and spans of time, in seconds. A run is written for any arithmetic with these
operations: doubles are what it is run with, rationals are exact.
-/
set_option autoImplicit false

namespace VolumeReclaim

/-- An arithmetic for seconds. Comparisons need not be total, and `a ≤ b` need not be the negation
of `b < a`. -/
class Time (τ : Type) extends Add τ, Sub τ, LT τ, LE τ, OfScientific τ where
  decidableLT : DecidableLT τ
  decidableLE : DecidableLE τ

namespace Time

variable {τ : Type} [Time τ]

instance : DecidableLT τ := Time.decidableLT
instance : DecidableLE τ := Time.decidableLE

/-- The smaller of two spans; the first one unless the second is smaller. -/
def lesser (a b : τ) : τ := if b < a then b else a

def greater (a b : τ) : τ := if a < b then b else a

end Time

instance : Time Float where
  decidableLT := inferInstance
  decidableLE := inferInstance

instance : Time Rat where
  decidableLT := inferInstance
  decidableLE := inferInstance

end VolumeReclaim
