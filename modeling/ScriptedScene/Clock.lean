import ScriptedScene.Binary.Arithmetic

/-!
The simulation clock: time advances in equal ticks of whole nanoseconds.
-/

namespace ScriptedScene

/-- Nanoseconds in a second. -/
def nanosPerSecond : Nat := 1000000000

/-- A span of time in whole nanoseconds. -/
structure Span where
  nanos : Nat
  deriving DecidableEq, Repr

namespace Span

/-- The span in seconds: the whole seconds and the fraction are each rounded to 32 bits and added. -/
def seconds (d : Span) : Binary32 :=
  .ofNat (d.nanos / nanosPerSecond) + .ofNat (d.nanos % nanosPerSecond) / .ofNat nanosPerSecond

/-- A count with the digits of its remainder after the point, where `places` digits are a whole. -/
private def withPlaces (nanos places : Nat) (unit : String) : String :=
  let whole := nanos / tenTo places
  let rest := toString (tenTo places + nanos % tenTo places)
  let digits := ((rest.toList.drop 1).reverse.dropWhile (· == '0')).reverse
  toString whole ++ (if digits.isEmpty then "" else "." ++ String.ofList digits) ++ unit

/-- The span in the largest unit that it fills. -/
def shown (d : Span) : String :=
  if nanosPerSecond ≤ d.nanos then withPlaces d.nanos 9 "s"
  else if 1000000 ≤ d.nanos then withPlaces d.nanos 6 "ms"
  else if 1000 ≤ d.nanos then withPlaces d.nanos 3 "µs"
  else toString d.nanos ++ "ns"

end Span

/-- A clock that ticks at a fixed rate. -/
structure Clock where
  rate : Nat
  ticks : Nat
  total : Span
  deriving DecidableEq, Repr

namespace Clock

/-- The rate of a clock for which none is given. -/
def defaultRate : Nat := 60

/-- A clock at its start; rate zero counts as one. -/
def new (rate : Nat) : Clock := ⟨max rate 1, 0, ⟨0⟩⟩

/-- The length of a tick: a second divided by the rate, its fraction of a nanosecond dropped. -/
def tick (c : Clock) : Span := ⟨nanosPerSecond / c.rate⟩

/-- The length of a tick in seconds. -/
def delta (c : Clock) : Binary32 := c.tick.seconds

/-- The clock one tick later. -/
def advance (c : Clock) : Clock := { c with ticks := c.ticks + 1, total := ⟨c.total.nanos + c.tick.nanos⟩ }

/-- The clock `n` ticks later. -/
def advanceBy (c : Clock) : Nat → Clock
  | 0 => c
  | n + 1 => c.advance.advanceBy n

end Clock

end ScriptedScene
