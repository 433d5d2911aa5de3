import ScriptedScene.Decimal.Basic

/-!
The shortest decimal that reads back as a given binary value. The reals that round to a value form an
interval around it, from half a place below to half a place above, whose ends belong to it exactly if
the significand is even. On the grid of decimals with one digit, then two, and so on, the neighbours of
the value are tried; the first grid with one inside the interval wins. Outputs differ in which neighbours
they try and in where a tie goes, which is a `Selection`.
-/

namespace ScriptedScene

/-- Which decimal of a grid may stand for a value. -/
inductive Selection where
  /-- A neighbour that reads back: of two the nearer, and of two equally near ones the even one. -/
  | nearestEven
  /-- As `nearestEven`, but of two equally near ones the upper one. -/
  | nearestUpper
  /-- The nearer neighbour alone, which may be one that does not read back while the other does. -/
  | rounded
  deriving DecidableEq, Repr

/-- An interval of positive reals around a value, all three in units of `unitNum / unitDen`. -/
structure RoundingInterval where
  low : Nat
  value : Nat
  high : Nat
  closed : Bool
  unitNum : Nat
  unitDen : Nat
  deriving Repr

namespace RoundingInterval

/-- The interval of reals that round to `significand * 2 ^ exponent`. Units are quarters of the last
place; below a power of two the neighbour is only half as far away. -/
def ofFinite (f : Format) (significand : Nat) (exponent : Int) : RoundingInterval :=
  let narrowBelow := significand = f.exponentUnit && f.leastExponent < exponent
  { low := 4 * significand - (if narrowBelow then 1 else 2)
    value := 4 * significand
    high := 4 * significand + 2
    closed := significand % 2 = 0
    unitNum := twoTo (exponent - 2).toNat
    unitDen := twoTo (2 - exponent).toNat }

/-- Whether `count * 10 ^ place` lies in the interval. -/
def contains (i : RoundingInterval) (count : Nat) (place : Int) : Bool :=
  let d := count * tenTo place.toNat * i.unitDen
  let scale := i.unitNum * tenTo (-place).toNat
  if i.closed then i.low * scale ≤ d && d ≤ i.high * scale
  else i.low * scale < d && d < i.high * scale

/-- The decimal with last place `place` that is not above the value, and whether it is the nearer
neighbour under a selection, rather than the one after it. -/
def neighbour (i : RoundingInterval) (selection : Selection) (place : Int) : Nat × Bool :=
  let num := i.value * i.unitNum * tenTo (-place).toNat
  let den := i.unitDen * tenTo place.toNat
  let below := num / den
  (below,
    match selection with
    | .nearestUpper => 2 * (num % den) < den
    | _ => roundHalfEven num den = below)

/-- The decimal of last place `place` that the grid offers, if one reads back. -/
def atPlace? (i : RoundingInterval) (selection : Selection) (place : Int) : Option Decimal :=
  let (below, belowNearer) := i.neighbour selection place
  let nearer := if belowNearer then below else below + 1
  let farther := if belowNearer then below + 1 else below
  if i.contains nearer place then some ⟨nearer, place⟩
  else if selection != .rounded && i.contains farther place then some ⟨farther, place⟩
  else none

/-- Tries `tries` grids in turn, each ten times finer than the one before. -/
def search (i : RoundingInterval) (selection : Selection) : Nat → Int → Option Decimal
  | 0, _ => none
  | tries + 1, place =>
    match i.atPlace? selection place with
    | some d => some d
    | none => search i selection tries (place - 1)

/-- The least power of ten that is above the value, found from the digits of a large multiple. -/
def scale (i : RoundingInterval) : Int :=
  (Decimal.length (i.value * i.unitNum * tenTo Decimal.reach.toNat / i.unitDen) : Int) - Decimal.reach

end RoundingInterval

/-- Moves trailing zeros of the digits into the exponent. -/
def Decimal.strip : Nat → Decimal → Decimal
  | 0, d => d
  | fuel + 1, d =>
    if d.digits % 10 = 0 && d.digits != 0 then strip fuel ⟨d.digits / 10, d.exponent + 1⟩ else d

/-- The shortest decimal that reads back as `significand * 2 ^ exponent`, of those that may be selected.
Seventeen digits always suffice; should the search ever end without one, the exact value is given. -/
def Decimal.shortest (selection : Selection) (f : Format) (significand : Nat) (exponent : Int) : Decimal :=
  let i := RoundingInterval.ofFinite f significand exponent
  match i.search selection 17 (i.scale - 1) with
  | some d => d.strip 17
  | none =>
    if 0 ≤ exponent then ⟨significand * twoTo exponent.toNat, 0⟩
    else ⟨significand * fiveTo (-exponent).toNat, exponent⟩

end ScriptedScene
