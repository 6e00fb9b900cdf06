import Duplex.Duration

/-! # Timers

  Instants are nanoseconds since the clock was started. Whoever waits for no longer than a span of
  time sets a timer, and when that goes off is up to the machine. So the timer is a parameter of
  all that waits: it says when it goes off, and for which spans and up to which instant it is made.
  Within these bounds it comes with a promise (`Promised`): it waits until the time has elapsed, and
  it works to the millisecond. Nothing is promised beyond them.

  Programs are run with `Timer.ofTicks`, which keeps the promise.
-/

namespace Duplex

/-- The timer of a machine. -/
structure Timer where
  /-- The instant at which it goes off if it is set at the instant `since` for the span `limit`. -/
  expiry (since : Nat) (limit : Duration) : Nat
  /-- The longest span that it is made for, in nanoseconds. -/
  longest : Nat
  /-- The last instant that it is made for. -/
  last : Nat

namespace Timer

/-- A millisecond, in nanoseconds. -/
def millisecond : Nat := 1000000

/-- The timer is made for this span at this instant. -/
def Serves (t : Timer) (since : Nat) (limit : Duration) : Prop :=
  limit.toNanos ≤ t.longest ∧ since + limit.toNanos ≤ t.last

instance (t : Timer) (since : Nat) (limit : Duration) : Decidable (t.Serves since limit) :=
  inferInstanceAs (Decidable (_ ∧ _))

theorem Serves.of_le {t : Timer} {before since : Nat} {limit : Duration} (h : t.Serves since limit)
    (hle : before ≤ since) : t.Serves before limit :=
  ⟨h.1, Nat.le_trans (Nat.add_le_add_right hle _) h.2⟩

/-- What the documentation of timers promises. -/
structure Promised (t : Timer) : Prop where
  /-- A timer waits until the time has elapsed. -/
  waits : ∀ {since limit}, t.Serves since limit → since + limit.toNanos ≤ t.expiry since limit
  /-- It operates at the granularity of milliseconds: at a whole one it has gone off if the time has
      elapsed. -/
  granular : ∀ {since limit now}, t.Serves since limit → millisecond ∣ now →
    since + limit.toNanos ≤ now → t.expiry since limit ≤ now

/-! ### Ticks -/

/-- Thirty years of 365 days, in nanoseconds. -/
def thirtyYears : Nat := 30 * 365 * 24 * 60 * 60 * Duration.nanosPerSecond

/-- The last whole millisecond that 64 bits number, where the two largest numbers are set aside. -/
def lastTick : Nat := (Duration.ofMillis (UInt64.size - 3)).toNanos

/-- The first whole millisecond at an instant or after it. -/
def tickFrom (instant : Nat) : Nat := (instant + (millisecond - 1)) / millisecond * millisecond

/-- The timer of a clock that ticks once in a millisecond. It goes off at the first tick by which
    the time has passed, but it is not set for more than thirty years, and what is due after the
    last tick is due at it. -/
def ofTicks : Timer where
  expiry since limit := min (tickFrom (since + min limit.toNanos thirtyYears)) lastTick
  longest := thirtyYears
  last := lastTick

theorem le_tickFrom (instant : Nat) : instant ≤ tickFrom instant := by
  unfold tickFrom millisecond
  omega

theorem tickFrom_le {instant now : Nat} (h : millisecond ∣ now) (hle : instant ≤ now) :
    tickFrom instant ≤ now := by
  obtain ⟨k, rfl⟩ := h
  unfold tickFrom
  unfold millisecond at hle ⊢
  omega

/-- A span for which the timer is made is not cut. -/
theorem expiry_ofTicks {since : Nat} {limit : Duration} (h : ofTicks.Serves since limit) :
    ofTicks.expiry since limit = min (tickFrom (since + limit.toNanos)) lastTick := by
  have hspan : min limit.toNanos thirtyYears = limit.toNanos := Nat.min_eq_left h.1
  simp only [ofTicks, hspan]

theorem promised_ofTicks : ofTicks.Promised where
  waits h := by
    rw [expiry_ofTicks h]
    exact Nat.le_min.2 ⟨le_tickFrom _, h.2⟩
  granular h hnow helapsed := by
    rw [expiry_ofTicks h]
    exact Nat.le_trans (Nat.min_le_left _ _) (tickFrom_le hnow helapsed)

end Timer

end Duplex
