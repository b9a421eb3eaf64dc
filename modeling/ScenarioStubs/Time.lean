/-!
# Clock readings and spans of time

Both are counted in nanoseconds. Configured lifetimes are kept in whole seconds, so a span is cut down to them.
-/

namespace ScenarioStubs

/-- A span of time in nanoseconds. -/
structure Duration where
  nanos : Nat
  deriving DecidableEq

namespace Duration

/-- A span of whole seconds. -/
def ofSeconds (n : Nat) : Duration := ⟨n * 1000000000⟩

/-- The whole seconds in a span; a fraction is dropped. -/
def wholeSeconds (d : Duration) : Nat := d.nanos / 1000000000

end Duration

/-- A reading of a clock that never runs backwards. -/
structure Instant where
  nanos : Nat
  deriving DecidableEq

namespace Instant

/-- The time from an earlier reading to a later one; zero if the order is the other way round. -/
def since (later earlier : Instant) : Duration := ⟨later.nanos - earlier.nanos⟩

/-- The least later reading: a clock that is read again has moved on. -/
def next (i : Instant) : Instant := ⟨i.nanos + 1⟩

end Instant

end ScenarioStubs
