/-!
# Durations

A duration is a number of whole seconds, below `2 ^ 64`, and of nanoseconds below one second. It
is multiplied and divided in that form; a product whose seconds do not fit does not exist.
-/

namespace Switchboard

/-- Nanoseconds in a second. -/
def nanosPerSecond : Nat := 1000000000

/-- Nanoseconds in a millisecond. -/
def nanosPerMilli : Nat := 1000000

/-- The number of seconds that a duration stays below: `2 ^ 64`. -/
abbrev secondsLimit : Nat := 0x10000000000000000

/-- A span of time. -/
structure Duration where
  secs : Nat
  nanos : Nat
  secs_lt : secs < secondsLimit
  nanos_lt : nanos < nanosPerSecond
  deriving DecidableEq, Repr

namespace Duration

/-- The whole duration in nanoseconds. -/
def toNanos (d : Duration) : Nat := d.secs * nanosPerSecond + d.nanos

/-- The duration of `n` nanoseconds, when its seconds fit. -/
def ofNanos? (n : Nat) : Option Duration :=
  if h : n / nanosPerSecond < secondsLimit then
    some ⟨n / nanosPerSecond, n % nanosPerSecond, h, Nat.mod_lt _ (by decide)⟩
  else none

/-- A number of seconds below the limit. -/
def ofSecs (n : Nat) (h : n < secondsLimit := by decide) : Duration := ⟨n, 0, h, by decide⟩

/-- The greatest duration. -/
def max : Duration := ⟨secondsLimit - 1, nanosPerSecond - 1, by decide, by decide⟩

/-- The duration of `n` milliseconds, or the greatest one. -/
def ofMillis (n : Nat) : Duration := (ofNanos? (n * nanosPerMilli)).getD max

/-- The product with a natural number, when its seconds fit. -/
def mul? (d : Duration) (k : Nat) : Option Duration :=
  let nanos := d.nanos * k
  let secs := d.secs * k + nanos / nanosPerSecond
  if h : secs < secondsLimit then
    some ⟨secs, nanos % nanosPerSecond, h, Nat.mod_lt _ (by decide)⟩
  else none

/-- The quotient by a positive number, rounded down to a nanosecond. -/
def div (d : Duration) (k : Nat) (hk : 0 < k := by decide) : Duration where
  secs := d.secs / k
  nanos := d.nanos / k + (d.secs % k * nanosPerSecond + d.nanos % k) / k
  secs_lt := Nat.lt_of_le_of_lt (Nat.div_le_self _ _) d.secs_lt
  nanos_lt := by
    have hs := Nat.mod_lt d.secs hk
    have hn := d.nanos_lt
    have e : d.nanos / k + (d.secs % k * nanosPerSecond + d.nanos % k) / k
        = (d.secs % k * nanosPerSecond + d.nanos) / k := by
      conv => rhs; rw [← Nat.div_add_mod d.nanos k]
      rw [show d.secs % k * nanosPerSecond + (k * (d.nanos / k) + d.nanos % k)
        = k * (d.nanos / k) + (d.secs % k * nanosPerSecond + d.nanos % k) by omega]
      rw [Nat.mul_add_div hk]
    rw [e, Nat.div_lt_iff_lt_mul hk]
    have : (d.secs % k + 1) * nanosPerSecond ≤ k * nanosPerSecond :=
      Nat.mul_le_mul_right _ hs
    have e2 : (d.secs % k + 1) * nanosPerSecond = d.secs % k * nanosPerSecond + nanosPerSecond := by
      rw [Nat.add_mul, Nat.one_mul]
    rw [Nat.mul_comm nanosPerSecond k]
    omega

/-- What is said of a product that does not exist. -/
def overflowMessage : String := "overflow when multiplying duration by scalar"

end Duration

end Switchboard
