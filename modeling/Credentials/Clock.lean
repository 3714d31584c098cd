/-!
# Clocks and lifetimes

The time of day as it is counted from the beginning of 1970, and lengths of time.
-/

namespace Credentials

/-- A reading of the clock. -/
structure Clock where
  /-- Whole seconds, negative before 1970. -/
  seconds : Int
  nanos : Nat
deriving DecidableEq, Repr, Inhabited

namespace Clock

/-- The second that the clock shows; none before 1970. -/
def unixSeconds? (c : Clock) : Option UInt64 :=
  if c.seconds < 0 then none else some (.ofNat c.seconds.toNat)

/-- The second that a clock shows from 1970 on. -/
theorem unixSeconds?_eq_some_iff {c : Clock} {now : UInt64} :
    c.unixSeconds? = some now ↔ 0 ≤ c.seconds ∧ now = .ofNat c.seconds.toNat := by
  by_cases hbefore : c.seconds < 0
  · simp [unixSeconds?, hbefore, Int.not_le.mpr hbefore]
  · simp [unixSeconds?, hbefore, Int.not_lt.mp hbefore, eq_comm]

/-- A clock before 1970 shows no second. -/
theorem unixSeconds?_eq_none_iff {c : Clock} : c.unixSeconds? = none ↔ c.seconds < 0 := by
  simp [unixSeconds?]

/-- The millisecond that the clock shows from 1970 on. -/
def unixMillis (c : Clock) : Nat := c.seconds.toNat * 1000 + c.nanos / 1000000

end Clock

/-- A length of time. -/
structure Lifetime where
  seconds : UInt64
  nanos : UInt32
deriving DecidableEq, Repr, Inhabited

namespace Lifetime

/-- Some whole seconds. -/
def ofSeconds (seconds : UInt64) : Lifetime := ⟨seconds, 0⟩

/-- Whether no time passes. -/
def isZero (l : Lifetime) : Bool := l.seconds == 0 && l.nanos == 0

end Lifetime

end Credentials
