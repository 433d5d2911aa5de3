import ScriptedScene.Clock
import Mathlib.Tactic.Common

/-! How far a clock gets. Every tick is the same whole number of nanoseconds, so what a second divided by the rate leaves over
is lost once in the ticks of a second, and nothing else is. The words that the number of ticks and the time are kept in have
room for as many ticks as can be counted, at every rate. -/
namespace ScriptedScene

/-- The sum of two words, if a word has room for it. -/
def Word.plus? (a b : UInt64) : Option UInt64 := if a.toNat + b.toNat < UInt64.size then some (a + b) else none

theorem Word.plus?_eq_some_iff {a b c : UInt64} : plus? a b = some c ↔ c.toNat = a.toNat + b.toNat := by
  unfold plus?
  split
  · next room =>
    have sum : (a + b).toNat = a.toNat + b.toNat := (UInt64.toNat_add a b).trans (Nat.mod_eq_of_lt room)
    rw [Option.some.injEq, ← UInt64.toNat_inj, sum, eq_comm]
  · next full =>
    constructor
    · exact nofun
    · intro same
      exact absurd (same ▸ c.toNat_lt_size) full

theorem Word.exists_plus? {a b : UInt64} (room : a.toNat + b.toNat < UInt64.size) : ∃ c, plus? a b = some c :=
  ⟨a + b, if_pos room⟩

namespace Span

/-- A span in words: whole seconds, and what is left of a second in nanoseconds. -/
structure Words where
  seconds : UInt64
  rest : UInt32
  proper : rest.toNat < nanosPerSecond

namespace Words
variable {a b c w : Words}

def nanos (w : Words) : Nat := w.seconds.toNat * nanosPerSecond + w.rest.toNat

def zero : Words := ⟨0, 0, by decide⟩

def second : Words := ⟨1, 0, by decide⟩

theorem zero_nanos : zero.nanos = 0 := Nat.zero_mul _

theorem second_nanos : second.nanos = nanosPerSecond := Nat.one_mul _

/-- Two rests fit into one word. -/
theorem rest_add (a b : Words) : (a.rest + b.rest).toNat = a.rest.toNat + b.rest.toNat := by
  have first := a.proper
  have second := b.proper
  unfold nanosPerSecond at first second
  rw [UInt32.toNat_add]
  exact Nat.mod_eq_of_lt (by omega)

theorem rest_carried (carry : nanosPerSecond ≤ a.rest.toNat + b.rest.toNat) :
    (a.rest + b.rest - 1000000000).toNat = a.rest.toNat + b.rest.toNat - nanosPerSecond := by
  have full : (1000000000 : UInt32) ≤ a.rest + b.rest := by
    rw [UInt32.le_iff_toNat_le, rest_add]
    exact carry
  rw [UInt32.toNat_sub_of_le _ _ full, rest_add]
  rfl

/-- The sum of two spans, if there is room for it. A second that the rests fill is carried. -/
def plus? (a b : Words) : Option Words :=
  (Word.plus? a.seconds b.seconds).bind fun seconds =>
    if carry : nanosPerSecond ≤ a.rest.toNat + b.rest.toNat then
      (Word.plus? seconds 1).map fun seconds => ⟨seconds, a.rest + b.rest - 1000000000, by
        have first := a.proper
        have second := b.proper
        rw [rest_carried carry]
        omega⟩
    else some ⟨seconds, a.rest + b.rest, by
      rw [rest_add]
      omega⟩

theorem nanos_of_plus? (sum : a.plus? b = some c) : c.nanos = a.nanos + b.nanos := by
  obtain ⟨seconds, added, sum⟩ := Option.bind_eq_some_iff.mp sum
  have whole := Word.plus?_eq_some_iff.mp added
  split at sum
  · next carry =>
    obtain ⟨carried, next, rfl⟩ := Option.map_eq_some_iff.mp sum
    have more := Word.plus?_eq_some_iff.mp next
    have one : (1 : UInt64).toNat = 1 := rfl
    simp only [nanos, rest_carried carry, more, whole, one, Nat.add_mul]
    omega
  · obtain rfl := Option.some.inj sum
    simp only [nanos, rest_add, whole, Nat.add_mul]
    omega

/-- A sum is refused only where the seconds of it have no room in a word. -/
theorem exists_plus? (room : a.nanos + b.nanos < UInt64.size * nanosPerSecond) : ∃ c, a.plus? b = some c := by
  unfold nanos nanosPerSecond UInt64.size at room
  obtain ⟨seconds, added⟩ := Word.exists_plus? (a := a.seconds) (b := b.seconds) (by unfold UInt64.size; omega)
  have whole := Word.plus?_eq_some_iff.mp added
  unfold plus?
  rw [added, Option.bind_some]
  split
  · next carry =>
    have one : (1 : UInt64).toNat = 1 := rfl
    unfold nanosPerSecond at carry
    obtain ⟨carried, next⟩ := Word.exists_plus? (a := seconds) (b := 1) (by unfold UInt64.size; omega)
    exact ⟨_, by rw [next, Option.map_some]⟩
  · exact ⟨_, rfl⟩

/-- What is left of a span's seconds when they are divided, with the rest, in nanoseconds. -/
theorem left_over (seconds rest : Nat) {n : Nat} (positive : 0 < n) :
    rest / n + (seconds % n * nanosPerSecond + rest % n) / n = (seconds % n * nanosPerSecond + rest) / n := by
  conv_rhs => rw [← Nat.mod_add_div rest n, ← Nat.add_assoc, Nat.add_mul_div_left _ _ positive]
  exact Nat.add_comm _ _

theorem left_over_proper (seconds : Nat) {rest n : Nat} (positive : 0 < n) (proper : rest < nanosPerSecond) :
    (seconds % n * nanosPerSecond + rest) / n < nanosPerSecond := by
  have below := Nat.mod_lt seconds positive
  refine Nat.div_lt_of_lt_mul ?_
  calc seconds % n * nanosPerSecond + rest
      < seconds % n * nanosPerSecond + nanosPerSecond := Nat.add_lt_add_left proper _
    _ = (seconds % n + 1) * nanosPerSecond := (Nat.succ_mul _ _).symm
    _ ≤ n * nanosPerSecond := Nat.mul_le_mul_right _ below

/-- The part of a rest, and of the seconds that are left over, as words come to it. -/
def restOver (w : Words) (n : UInt32) : UInt32 :=
  w.rest / n + ((w.seconds % n.toUInt64 * 1000000000 + (w.rest % n).toUInt64) / n.toUInt64).toUInt32

theorem restOver_eq (w : Words) {n : UInt32} (positive : 0 < n.toNat) :
    (w.restOver n).toNat = (w.seconds.toNat % n.toNat * nanosPerSecond + w.rest.toNat) / n.toNat := by
  have below := Nat.mod_lt w.seconds.toNat positive
  have bound := n.toNat_lt
  have remainder : w.rest.toNat % n.toNat < n.toNat := Nat.mod_lt _ positive
  have proper := left_over_proper w.seconds.toNat positive w.proper
  rw [← left_over _ _ positive] at proper ⊢
  have product : w.seconds.toNat % n.toNat * 1000000000 ≤ 4294967296 * 1000000000 :=
    Nat.mul_le_mul_right _ (by omega)
  have inner : (w.seconds % n.toUInt64 * 1000000000 + (w.rest % n).toUInt64).toNat =
      w.seconds.toNat % n.toNat * nanosPerSecond + w.rest.toNat % n.toNat := by
    simp only [UInt64.toNat_add, UInt64.toNat_mul, UInt64.toNat_mod, UInt32.toNat_toUInt64, UInt32.toNat_mod]
    have literal : (1000000000 : UInt64).toNat = nanosPerSecond := rfl
    rw [literal, Nat.mod_eq_of_lt (a := _ * _) (by unfold nanosPerSecond; omega),
      Nat.mod_eq_of_lt (by unfold nanosPerSecond; omega)]
  have quotient : ((w.seconds % n.toUInt64 * 1000000000 + (w.rest % n).toUInt64) / n.toUInt64).toUInt32.toNat =
      (w.seconds.toNat % n.toNat * nanosPerSecond + w.rest.toNat % n.toNat) / n.toNat := by
    rw [UInt64.toNat_toUInt32, UInt64.toNat_div, inner, UInt32.toNat_toUInt64]
    exact Nat.mod_eq_of_lt (Nat.lt_trans (Nat.lt_of_le_of_lt (Nat.le_add_left _ _) proper) (by decide))
  rw [restOver, UInt32.toNat_add, quotient, UInt32.toNat_div]
  exact Nat.mod_eq_of_lt (Nat.lt_trans proper (by decide))

/-- A span divided by a whole number, first its seconds and then what is left of them with the rest. -/
def dividedBy (w : Words) (n : UInt32) (positive : 0 < n.toNat) : Words where
  seconds := w.seconds / n.toUInt64
  rest := w.restOver n
  proper := by
    rw [restOver_eq w positive]
    exact left_over_proper _ positive w.proper

theorem nanos_dividedBy (w : Words) {n : UInt32} (positive : 0 < n.toNat) :
    (w.dividedBy n positive).nanos = w.nanos / n.toNat := by
  have split := Nat.mod_add_div w.seconds.toNat n.toNat
  rw [nanos, dividedBy, restOver_eq w positive, UInt64.toNat_div, UInt32.toNat_toUInt64, nanos]
  conv_rhs => rw [← split, Nat.add_mul, Nat.add_right_comm, Nat.mul_assoc, Nat.add_mul_div_left _ _ positive]
  exact Nat.add_comm _ _

end Words
end Span

namespace Clock

theorem advanceBy_eq (c : Clock) (n : Nat) :
    c.advanceBy n = ⟨c.rate, c.ticks + n, ⟨c.total.nanos + n * c.tick.nanos⟩⟩ := by
  induction n generalizing c with
  | zero => simp [advanceBy]
  | succ n ih =>
    have tick : c.advance.tick = c.tick := rfl
    rw [advanceBy, ih, tick]
    simp only [advance, Clock.mk.injEq, Span.mk.injEq, true_and]
    constructor
    · omega
    · rw [Nat.succ_mul]
      omega

/-- What the calls return that take a clock so many ticks on. -/
def deltas (c : Clock) : Nat → List Binary32
  | 0 => []
  | n + 1 => c.advance.delta :: c.advance.deltas n

/-- A tick does not change how long ticks are. -/
theorem deltas_eq (c : Clock) (n : Nat) : c.deltas n = List.replicate n c.delta := by
  induction n generalizing c with
  | zero => rfl
  | succ n ih =>
    have same : c.advance.delta = c.delta := rfl
    rw [deltas, ih, same, List.replicate_succ]

/-- A clock in words. -/
structure Words where
  rate : UInt32
  tick : Span.Words
  ticks : UInt64
  total : Span.Words

namespace Words

theorem toNat_max_one (rate : UInt32) : (max rate 1).toNat = max rate.toNat 1 := by
  have one : (1 : UInt32).toNat = 1 := rfl
  have bound : rate ≤ 1 ↔ rate.toNat ≤ 1 := UInt32.le_iff_toNat_le
  have larger : max rate 1 = if rate ≤ 1 then 1 else rate := rfl
  rw [larger]
  split
  · next small => rw [one, Nat.max_eq_right (bound.mp small)]
  · next large => rw [Nat.max_eq_left (Nat.le_of_not_le (mt bound.mpr large))]

theorem max_one_pos (rate : UInt32) : 0 < (max rate 1).toNat := by
  rw [toNat_max_one]
  exact Nat.le_max_right _ _

/-- A clock at its start; rate zero counts as one. -/
def new (rate : UInt32) : Words := ⟨max rate 1, Span.Words.second.dividedBy (max rate 1) (max_one_pos rate), 0, .zero⟩

/-- The clock one tick later, if there is room to count it and for its time. -/
def advance? (w : Words) : Option Words :=
  (Word.plus? w.ticks 1).bind fun ticks => (w.total.plus? w.tick).map fun total => { w with ticks, total }

/-- The clock `n` ticks later, if there is room for all of them. -/
def advanceBy? (w : Words) : Nat → Option Words
  | 0 => some w
  | n + 1 => w.advance?.bind fun w => w.advanceBy? n

/-- The clock that the words stand for. -/
def clock (w : Words) : Clock := ⟨w.rate.toNat, w.ticks.toNat, ⟨w.total.nanos⟩⟩

theorem new_clock (rate : UInt32) : (new rate).clock = Clock.new rate.toNat := by
  rw [new, clock, toNat_max_one, Span.Words.zero_nanos]
  rfl

theorem new_tick (rate : UInt32) : (new rate).tick.nanos = (new rate).clock.tick.nanos := by
  rw [new, Span.Words.nanos_dividedBy, Span.Words.second_nanos]
  rfl

variable {w : Words}

/-- Where there is room, words do as numbers. -/
theorem exists_advance? (exact : w.tick.nanos = w.clock.tick.nanos) (counted : w.ticks.toNat + 1 < UInt64.size)
    (timed : w.total.nanos + w.tick.nanos < UInt64.size * nanosPerSecond) :
    ∃ v, w.advance? = some v ∧ v.clock = w.clock.advance ∧ v.tick = w.tick := by
  have one : (1 : UInt64).toNat = 1 := rfl
  obtain ⟨ticks, next⟩ := Word.exists_plus? (a := w.ticks) (b := 1) counted
  obtain ⟨total, later⟩ := Span.Words.exists_plus? timed
  refine ⟨{ w with ticks, total }, ?_, ?_, rfl⟩
  · rw [advance?, next, Option.bind_some, later, Option.map_some]
  · rw [clock, Word.plus?_eq_some_iff.mp next, one, Span.Words.nanos_of_plus? later, exact]
    rfl

theorem exists_advanceBy? {n : Nat} (exact : w.tick.nanos = w.clock.tick.nanos)
    (counted : w.ticks.toNat + n < UInt64.size)
    (timed : w.total.nanos + n * w.tick.nanos < UInt64.size * nanosPerSecond) :
    ∃ v, w.advanceBy? n = some v ∧ v.clock = w.clock.advanceBy n := by
  induction n generalizing w with
  | zero => exact ⟨w, rfl, rfl⟩
  | succ n ih =>
    rw [Nat.succ_mul] at timed
    obtain ⟨v, advanced, same, tick⟩ := exists_advance? exact (by omega) (by omega)
    have ticks : v.ticks.toNat = w.ticks.toNat + 1 := congrArg Clock.ticks same
    have total : v.total.nanos = w.total.nanos + w.tick.nanos := by
      rw [exact]
      exact congrArg (fun c => c.total.nanos) same
    have still : v.tick.nanos = v.clock.tick.nanos := by
      rw [tick, exact, same]
      rfl
    obtain ⟨u, reached, later⟩ := ih still (by omega) (by rw [tick]; omega)
    refine ⟨u, ?_, later.trans (congrArg (fun c => c.advanceBy n) same)⟩
    rw [advanceBy?, advanced]
    exact reached

end Words

/-- A clock of any rate counts its ticks and takes the same time for each of them, a second divided by the rate without the
fraction. It has room for as many ticks as its counter can count. In the ticks of `k` seconds it falls behind by `k` times
what the division leaves, so it is exact if and only if the rate divides a second, and it stands still if ticks are less
than a nanosecond. -/
theorem advances_exactly (rate : UInt32) {n : Nat} (room : n < UInt64.size) :
    let c := Clock.new rate.toNat
    let hertz := max rate.toNat 1
    let after := c.advanceBy n
    after.ticks = n ∧ after.total.nanos = n * (nanosPerSecond / hertz) ∧
    c.deltas n = List.replicate n c.delta ∧
    (∃ w, (Words.new rate).advanceBy? n = some w ∧ w.clock = after) ∧
    (∀ k, n = k * hertz →
      after.total.nanos ≤ k * nanosPerSecond ∧ after.total.nanos + k * (nanosPerSecond % hertz) = k * nanosPerSecond ∧
      (0 < k → (after.total.nanos = k * nanosPerSecond ↔ hertz ∣ nanosPerSecond))) ∧
    (nanosPerSecond < rate.toNat → after.total.nanos = 0) := by
  intro c hertz after
  have positive : 0 < hertz := Nat.le_max_right _ _
  have reached : after = ⟨hertz, n, ⟨n * (nanosPerSecond / hertz)⟩⟩ := by
    have all := c.advanceBy_eq n
    rw [show c.ticks = 0 from rfl, show c.total.nanos = 0 from rfl, Nat.zero_add, Nat.zero_add] at all
    exact all
  have total : after.total.nanos = n * (nanosPerSecond / hertz) := congrArg (fun c => c.total.nanos) reached
  refine ⟨congrArg Clock.ticks reached, total, c.deltas_eq n, ?_, ?_, ?_⟩
  · have tick : (Words.new rate).tick.nanos ≤ nanosPerSecond := by
      rw [Words.new_tick]
      exact Nat.div_le_self _ _
    have timed : n * (Words.new rate).tick.nanos < UInt64.size * nanosPerSecond :=
      Nat.lt_of_le_of_lt (Nat.mul_le_mul_left n tick) (Nat.mul_lt_mul_of_pos_right room (by decide))
    have start : (Words.new rate).total.nanos = 0 := Span.Words.zero_nanos
    obtain ⟨w, kept, same⟩ := Words.exists_advanceBy? (Words.new_tick rate) (n := n)
      (by rw [show (Words.new rate).ticks.toNat = 0 from rfl, Nat.zero_add]; exact room)
      (by rw [start, Nat.zero_add]; exact timed)
    exact ⟨w, kept, same.trans (congrArg (fun c => c.advanceBy n) (Words.new_clock rate))⟩
  · intro k ticks
    have lost : after.total.nanos + k * (nanosPerSecond % hertz) = k * nanosPerSecond := by
      rw [total, ticks, Nat.mul_assoc, ← Nat.mul_add, Nat.div_add_mod]
    refine ⟨by omega, lost, fun some => ?_⟩
    rw [Nat.dvd_iff_mod_eq_zero]
    constructor
    · intro exact
      have none : k * (nanosPerSecond % hertz) = 0 := by omega
      exact (Nat.mul_eq_zero.mp none).resolve_left (Nat.ne_of_gt some)
    · intro none
      rw [none, Nat.mul_zero] at lost
      exact lost
  · intro fast
    have short : nanosPerSecond / hertz = 0 := Nat.div_eq_of_lt (Nat.lt_of_lt_of_le fast (Nat.le_max_left _ _))
    rw [total, short, Nat.mul_zero]

/-- The slowest clock has room for the last tick that can be counted, with which the seconds fill their word too. -/
theorem advances_exactly_last : UInt64.size - 1 < UInt64.size ∧
    let after := (Clock.new (0 : UInt32).toNat).advanceBy (UInt64.size - 1)
    after.total.nanos = (UInt64.size - 1) * nanosPerSecond ∧
    ∃ w, (Words.new 0).advanceBy? (UInt64.size - 1) = some w ∧ w.clock = after := by
  have room : UInt64.size - 1 < UInt64.size := by decide
  obtain ⟨-, total, -, kept, -⟩ := advances_exactly 0 room
  have hertz : max (0 : UInt32).toNat 1 = 1 := rfl
  rw [hertz, Nat.div_one] at total
  exact ⟨room, total, kept⟩

end Clock
end ScriptedScene
