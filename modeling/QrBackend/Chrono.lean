import Mathlib

/-! # Instants and spans as chrono has them

    chrono's `DateTime<Utc>` is an instant between `MIN_UTC`
    (`-262144-01-01T00:00:00Z`) and `MAX_UTC` (`+262143-12-31T23:59:59.999999999Z`);
    its `Duration` is a signed span of at most `i64::MAX` milliseconds.  Both are
    counted here in nanoseconds from the Unix epoch, and a value outside its
    range cannot be built: the bounds are fields.

    Two operations carry the behaviour:

    * `Duration.days d` is `Duration::days`: `d · 86400` seconds, and a panic
      (`none`) once that leaves the duration range;
    * `DateTime.add c d` is `c + d`, chrono's `checked_add_signed(d).expect(..)`:
      the shifted instant, and a panic once it leaves the date range.

    The lemmas say exactly when each one panics and what it returns otherwise,
    so that code adding days to an instant can be judged against plain integer
    arithmetic. -/

namespace Chrono

/-- Nanoseconds from the epoch to `DateTime::<Utc>::MIN_UTC`. -/
def minUtcNanos : Int := -8334632851200000000000

/-- Nanoseconds from the epoch to `DateTime::<Utc>::MAX_UTC`. -/
def maxUtcNanos : Int := 8210298412799999999999

/-- Nanoseconds in a day. -/
def nanosPerDay : Int := 86400 * 1000000000

/-- The largest number of whole seconds `Duration::seconds` accepts
    (`i64::MAX / 1000`, the duration range being `±i64::MAX` milliseconds). -/
def maxDurationSecs : Int := 9223372036854775

/-- chrono's `DateTime<Utc>`, in nanoseconds from the epoch. -/
structure DateTime where
  nanos : Int
  min_le : minUtcNanos ≤ nanos
  le_max : nanos ≤ maxUtcNanos
  deriving DecidableEq

/-- chrono's `Duration`, in nanoseconds. -/
structure Duration where
  nanos : Int
  bounded : |nanos| ≤ 9223372036854775807 * 1000000

/-- `DateTime::UNIX_EPOCH`. -/
def DateTime.unixEpoch : DateTime :=
  ⟨0, by decide, by decide⟩

instance : LT DateTime := ⟨fun a b => a.nanos < b.nanos⟩

instance (a b : DateTime) : Decidable (a < b) :=
  inferInstanceAs (Decidable (a.nanos < b.nanos))

theorem DateTime.ext {a b : DateTime} (h : a.nanos = b.nanos) : a = b := by
  cases a
  cases b
  cases h
  rfl

/-- `Duration::days`: `days.checked_mul(86400)` then `Duration::seconds`, both
    panicking out of range. -/
def Duration.days (d : Int) : Option Duration :=
  if h : -maxDurationSecs ≤ d * 86400 ∧ d * 86400 ≤ maxDurationSecs then
    some ⟨d * nanosPerDay, by
      unfold maxDurationSecs at h
      unfold nanosPerDay
      rw [abs_le]
      constructor <;> nlinarith [h.1, h.2]⟩
  else none

/-- `DateTime + Duration`: panics when the sum leaves chrono's range. -/
def DateTime.add (c : DateTime) (d : Duration) : Option DateTime :=
  if h : minUtcNanos ≤ c.nanos + d.nanos ∧ c.nanos + d.nanos ≤ maxUtcNanos then
    some ⟨c.nanos + d.nanos, h.1, h.2⟩
  else none

/-- A day count within `±maxDurationSecs / 86400` makes a duration. -/
theorem Duration.days_eq_some {d : Int}
    (h : -maxDurationSecs ≤ d * 86400 ∧ d * 86400 ≤ maxDurationSecs) :
    ∃ dur, Duration.days d = some dur ∧ dur.nanos = d * nanosPerDay := by
  unfold Duration.days
  rw [dif_pos h]
  exact ⟨_, rfl, rfl⟩

/-- Any day count an `i32` holds makes a duration: `Duration::days` never panics
    on it. -/
theorem Duration.days_of_int32 (d : Int32) :
    ∃ dur, Duration.days d.toInt = some dur ∧ dur.nanos = d.toInt * nanosPerDay := by
  apply Duration.days_eq_some
  have h1 := Int32.le_toInt d
  have h2 := Int32.toInt_lt d
  unfold maxDurationSecs
  constructor <;> omega

theorem DateTime.add_eq_some {c : DateTime} {d : Duration} {e : DateTime} :
    c.add d = some e ↔ e.nanos = c.nanos + d.nanos := by
  unfold DateTime.add
  by_cases h : minUtcNanos ≤ c.nanos + d.nanos ∧ c.nanos + d.nanos ≤ maxUtcNanos
  · rw [dif_pos h]
    constructor
    · intro he
      cases he
      rfl
    · intro he
      exact congrArg some (DateTime.ext he.symm)
  · rw [dif_neg h]
    constructor
    · intro he
      nomatch he
    · intro he
      exact absurd (he ▸ ⟨e.min_le, e.le_max⟩) h

theorem DateTime.add_eq_none {c : DateTime} {d : Duration} :
    c.add d = none ↔ c.nanos + d.nanos < minUtcNanos ∨ maxUtcNanos < c.nanos + d.nanos := by
  unfold DateTime.add
  by_cases h : minUtcNanos ≤ c.nanos + d.nanos ∧ c.nanos + d.nanos ≤ maxUtcNanos
  · rw [dif_pos h]
    constructor
    · intro he
      nomatch he
    · intro he
      omega
  · rw [dif_neg h]
    constructor
    · intro _
      omega
    · intro _
      rfl

end Chrono
