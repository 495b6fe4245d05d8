import Switchboard.Proofs.Endpoint.Ledger
/-!
# The time between pings

A duration stands for one number of nanoseconds and is written in one way (`Duration.secs_eq`,
`Duration.nanos_eq`); products and quotients of durations are those of these numbers, the quotient
rounded down, and a product fails exactly when it has more seconds than fit.

So the time between pings that goes with a wait for pongs is nine tenths of the wait, to the
nanosecond (`Settings.withPongWait_exact`). It is shorter than the wait, so that the first ping of
an endpoint is due before its reader gives up (`Settings.nextPing_lt_readDeadline`), and it is zero
only for a wait below two nanoseconds.
-/

namespace Switchboard

namespace Duration

/-- Durations are compared by their seconds first. -/
instance : LE Duration :=
  ⟨fun d d' => d.secs < d'.secs ∨ d.secs = d'.secs ∧ d.nanos ≤ d'.nanos⟩

instance : LT Duration :=
  ⟨fun d d' => d.secs < d'.secs ∨ d.secs = d'.secs ∧ d.nanos < d'.nanos⟩

section

variable {d d' : Duration} {k : Nat}

/-! ### Durations as numbers -/

/-- The seconds of a duration are those of its number. -/
theorem secs_eq (d : Duration) : d.secs = d.toNanos / nanosPerSecond := by
  have hnanos := d.nanos_lt
  simp only [toNanos, nanosPerSecond] at *
  omega

/-- So are the nanoseconds. -/
theorem nanos_eq (d : Duration) : d.nanos = d.toNanos % nanosPerSecond := by
  have hnanos := d.nanos_lt
  simp only [toNanos, nanosPerSecond] at *
  omega

/-- The order of durations is that of their numbers. -/
theorem le_iff_toNanos_le : d ≤ d' ↔ d.toNanos ≤ d'.toNanos := by
  have hnanos := d.nanos_lt
  have hnanos' := d'.nanos_lt
  change d.secs < d'.secs ∨ d.secs = d'.secs ∧ d.nanos ≤ d'.nanos ↔ _
  simp only [toNanos, nanosPerSecond] at *
  omega

/-- So is the strict order. -/
theorem lt_iff_toNanos_lt : d < d' ↔ d.toNanos < d'.toNanos := by
  have hnanos := d.nanos_lt
  have hnanos' := d'.nanos_lt
  change d.secs < d'.secs ∨ d.secs = d'.secs ∧ d.nanos < d'.nanos ↔ _
  simp only [toNanos, nanosPerSecond] at *
  omega

/-! ### Products and quotients -/

/-- A product fails exactly when its seconds do not fit, with those that the nanoseconds carry. -/
theorem mul?_eq_none_iff :
    d.mul? k = none ↔ secondsLimit ≤ d.secs * k + d.nanos * k / nanosPerSecond := by
  unfold mul?
  dsimp only
  split_ifs with h
  · simpa using h
  · simpa using h

/-- A product is that of the numbers. -/
theorem toNanos_mul? (h : d.mul? k = some d') : d'.toNanos = d.toNanos * k := by
  unfold mul? at h
  dsimp only at h
  split_ifs at h
  obtain rfl := Option.some.inj h
  have hcarry := Nat.div_add_mod (d.nanos * k) nanosPerSecond
  calc (d.secs * k + d.nanos * k / nanosPerSecond) * nanosPerSecond
        + d.nanos * k % nanosPerSecond
      = d.secs * k * nanosPerSecond + (nanosPerSecond * (d.nanos * k / nanosPerSecond)
        + d.nanos * k % nanosPerSecond) := by ring
    _ = d.secs * k * nanosPerSecond + d.nanos * k := by rw [hcarry]
    _ = (d.secs * nanosPerSecond + d.nanos) * k := by ring

/-- A quotient is that of the numbers, rounded down. -/
theorem toNanos_div (d : Duration) (hk : 0 < k) : (d.div k hk).toNanos = d.toNanos / k := by
  have hsecs := Nat.div_add_mod d.secs k
  have hnanos := Nat.div_add_mod d.nanos k
  have hsplit : d.toNanos = k * (d.secs / k * nanosPerSecond + d.nanos / k)
      + (d.secs % k * nanosPerSecond + d.nanos % k) := by
    calc d.secs * nanosPerSecond + d.nanos
        = (k * (d.secs / k) + d.secs % k) * nanosPerSecond
          + (k * (d.nanos / k) + d.nanos % k) := by rw [hsecs, hnanos]
      _ = _ := by ring
  rw [hsplit, Nat.mul_add_div hk]
  exact (Nat.add_assoc _ _ _).symm

end

end Duration

namespace Settings

section

variable {s s' : Settings} {wait period : Duration}

/-- The time between pings is nine tenths of the wait, rounded down. -/
theorem toNanos_pingPeriodFor (h : pingPeriodFor wait = some period) :
    period.toNanos = 9 * wait.toNanos / 10 := by
  obtain ⟨product, hproduct, rfl⟩ := Option.map_eq_some_iff.mp h
  rw [Duration.toNanos_div, Duration.toNanos_mul? hproduct, Nat.mul_comm]

/-- There is none exactly when the seconds of nine times the wait do not fit. -/
theorem pingPeriodFor_eq_none_iff : pingPeriodFor wait = none ↔
    secondsLimit ≤ 9 * wait.secs + 9 * wait.nanos / nanosPerSecond := by
  rw [pingPeriodFor, Option.map_eq_none_iff, Duration.mul?_eq_none_iff, Nat.mul_comm wait.secs,
    Nat.mul_comm wait.nanos]

/-- Only the wait and the time between pings are set. -/
theorem withPongWait_eq_some_iff : s.withPongWait wait = some s' ↔
    ∃ period, pingPeriodFor wait = some period ∧
      s' = { s with pongWait := wait, pingPeriod := period } := by
  rw [withPongWait, Option.map_eq_some_iff]
  grind

/-- If there is a time between pings for a wait, there is one for every shorter wait. -/
theorem pingPeriodFor_ne_none {longer : Duration} (hle : wait ≤ longer)
    (h : pingPeriodFor longer ≠ none) : pingPeriodFor wait ≠ none := by
  rw [Ne, pingPeriodFor_eq_none_iff] at h ⊢
  rw [Duration.le_iff_toNanos_le, Duration.toNanos, Duration.toNanos] at hle
  simp only [nanosPerSecond] at *
  omega

/-- A shorter wait has no longer time between pings. -/
theorem pingPeriodFor_mono {longer period' : Duration} (hle : wait ≤ longer)
    (h : pingPeriodFor wait = some period) (h' : pingPeriodFor longer = some period') :
    period ≤ period' := by
  rw [Duration.le_iff_toNanos_le] at hle ⊢
  rw [toNanos_pingPeriodFor h, toNanos_pingPeriodFor h']
  omega

/-- With these settings the first ping of an endpoint is due before its reader gives up. -/
theorem nextPing_lt_readDeadline (h : s.withPongWait wait = some s') (hpos : 0 < wait.toNanos)
    (now : Nat) : (Endpoint.start s' now).nextPing < (Endpoint.start s' now).readDeadline := by
  obtain ⟨period, hperiod, rfl⟩ := withPongWait_eq_some_iff.mp h
  have hexact := toNanos_pingPeriodFor hperiod
  change now + (0 + 1) * period.toNanos < now + wait.toNanos
  omega

end

/-! ### Main result -/

/-- The time between pings that goes with a wait for pongs: there is none exactly when nine times
the wait has more seconds than fit into 64 bits. Otherwise it is the one duration of nine tenths of
the wait in nanoseconds, rounded down, and nothing else but the wait is set. It is shorter than a
wait that is not zero; for a wait of two nanoseconds or more it is not zero, so that the writer of
an endpoint can begin. And for a shorter wait there is one too, which is not longer. -/
theorem withPongWait_exact (s : Settings) (wait : Duration) :
    (s.withPongWait wait = none ↔ 2 ^ 64 - 1 < 9 * wait.secs + 9 * wait.nanos / 10 ^ 9) ∧
    ∀ s' ∈ s.withPongWait wait,
      s' = { s with pongWait := wait, pingPeriod := s'.pingPeriod } ∧
      s'.pingPeriod.secs = 9 * (wait.secs * 10 ^ 9 + wait.nanos) / 10 / 10 ^ 9 ∧
      s'.pingPeriod.nanos = 9 * (wait.secs * 10 ^ 9 + wait.nanos) / 10 % 10 ^ 9 ∧
      (0 < wait.secs * 10 ^ 9 + wait.nanos → s'.pingPeriod < wait) ∧
      (2 ≤ wait.secs * 10 ^ 9 + wait.nanos → 0 < s'.pingPeriod.toNanos ∧
        ∀ now, (Endpoint.start s' now).writer = .idle) ∧
      ∀ shorter ≤ wait, ∃ s'' ∈ s.withPongWait shorter, s''.pingPeriod ≤ s'.pingPeriod := by
  have hnanos : wait.secs * 10 ^ 9 + wait.nanos = wait.toNanos := rfl
  rw [hnanos]
  constructor
  · rw [withPongWait, Option.map_eq_none_iff, pingPeriodFor_eq_none_iff]
    simp only [nanosPerSecond, secondsLimit]
    omega
  · intro s' hs'
    obtain ⟨period, hperiod, rfl⟩ := withPongWait_eq_some_iff.mp hs'
    have hexact := toNanos_pingPeriodFor hperiod
    refine ⟨rfl, ?_, ?_, fun hpos => ?_, fun htwo => ?_, fun shorter hle => ?_⟩
    · rw [← hexact]
      exact period.secs_eq
    · rw [← hexact]
      exact period.nanos_eq
    · rw [Duration.lt_iff_toNanos_lt]
      change period.toNanos < _
      omega
    · have hpos : 0 < period.toNanos := by omega
      refine ⟨hpos, fun now => ?_⟩
      rcases Endpoint.writer_start { s with pongWait := wait, pingPeriod := period } now with
        ⟨-, hnone⟩ | ⟨hw, -⟩
      · exact absurd hnone (Nat.ne_of_gt hpos)
      · exact hw
    · have hsome := pingPeriodFor_ne_none hle (by rw [hperiod]; exact Option.some_ne_none _)
      obtain ⟨period', hperiod'⟩ := Option.ne_none_iff_exists'.mp hsome
      exact ⟨_, withPongWait_eq_some_iff.mpr ⟨period', hperiod', rfl⟩,
        pingPeriodFor_mono hle hperiod' hperiod⟩

/-- The longest wait for which there is a time between pings: nine times its seconds and six that
are carried over from its nanoseconds make `2 ^ 64 - 1`. -/
def longestWait : Duration := ⟨2049638230412172401, 777777777, by decide, by decide⟩

/-- With one nanosecond more there is none, and for it there is one to the nanosecond. -/
theorem withPongWait_exact_longestWait :
    standard.withPongWait { longestWait with nanos := 777777778, nanos_lt := by decide } = none ∧
    ∃ s' ∈ standard.withPongWait longestWait,
      s'.pingPeriod.secs = 1844674407370955161 ∧ s'.pingPeriod.nanos = 599999999 ∧
      s'.pingPeriod < longestWait ∧ (Endpoint.start s' 0).writer = .idle ∧
      ∃ s'' ∈ standard.withPongWait (.ofMillis 500), s''.pingPeriod ≤ s'.pingPeriod := by
  have hsome : ∃ s', standard.withPongWait longestWait = some s' := ⟨_, rfl⟩
  obtain ⟨s', hs'⟩ := hsome
  obtain ⟨-, hexact⟩ := withPongWait_exact standard longestWait
  obtain ⟨-, hsecs, hnanos, hless, hbegins, hmono⟩ := hexact s' hs'
  have hshorter : Duration.ofMillis 500 ≤ longestWait := Or.inl (by decide)
  refine ⟨(withPongWait_exact standard _).1.mpr (by decide), s', hs', hsecs, hnanos,
    hless (by decide), (hbegins (by decide)).2 0, hmono _ hshorter⟩

end Settings

end Switchboard
