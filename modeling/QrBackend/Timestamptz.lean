import Mathlib
import QrBackend.Chrono

/-! # A `timestamptz` column — sqlx's codec for `DateTime<Utc>`

    Postgres keeps a `timestamptz` as a signed count of microseconds from its
    own epoch, `2000-01-01T00:00:00Z`.  sqlx (0.7) binds a chrono
    `DateTime<Utc>` as `(self - postgres_epoch).num_microseconds()` and reads
    the column back as `postgres_epoch + Duration::microseconds(us)`; chrono's
    `num_microseconds` truncates toward zero.  So an instant comes back with
    its sub-microsecond digits dropped, moved toward the Postgres epoch.

    `DateTime.timestamptz t` is the instant the column hands back for `t`.
    What the database modules use of it is its contract: an instant on a
    whole microsecond comes back unchanged (`timestamptz_eq_self_iff`), and
    every instant comes back on one (`timestamptz_nanos_emod`), within a
    microsecond of itself (`timestamptz_dist`).

    Postgres refuses a `timestamptz` outside its own range (4714 BC to
    294276 AD) with an error; that statement failure is one of the database's
    fault flags, not a case of this codec. -/

namespace Chrono

/-- Nanoseconds from the Unix epoch to Postgres's epoch, `2000-01-01T00:00:00Z`. -/
def postgresEpochNanos : Int := 946684800 * 1000000000

/-- `(t - postgres_epoch).num_microseconds()`: whole microseconds, truncated
    toward zero. -/
def DateTime.pgMicros (t : DateTime) : Int :=
  if postgresEpochNanos ≤ t.nanos then (t.nanos - postgresEpochNanos) / 1000
  else -((postgresEpochNanos - t.nanos) / 1000)

/-- The truncated instant lies between `t` and the Postgres epoch, less than a
    microsecond from `t`. -/
theorem DateTime.pgMicros_between (t : DateTime) :
    (postgresEpochNanos ≤ t.nanos →
        postgresEpochNanos ≤ postgresEpochNanos + t.pgMicros * 1000 ∧
          postgresEpochNanos + t.pgMicros * 1000 ≤ t.nanos ∧
          t.nanos < postgresEpochNanos + t.pgMicros * 1000 + 1000) ∧
      (t.nanos < postgresEpochNanos →
        t.nanos ≤ postgresEpochNanos + t.pgMicros * 1000 ∧
          postgresEpochNanos + t.pgMicros * 1000 ≤ postgresEpochNanos ∧
          postgresEpochNanos + t.pgMicros * 1000 < t.nanos + 1000) := by
  unfold DateTime.pgMicros
  constructor
  · intro h
    rw [if_pos h]
    omega
  · intro h
    rw [if_neg (by omega)]
    omega

/-- `postgres_epoch + Duration::microseconds(us)`: what a `timestamptz`
    column hands back for `t`. -/
def DateTime.timestamptz (t : DateTime) : DateTime :=
  ⟨postgresEpochNanos + t.pgMicros * 1000, by
    -- between `t` and the Postgres epoch, both in chrono's range
    have hmin := t.min_le
    have hb := t.pgMicros_between
    unfold minUtcNanos postgresEpochNanos at *
    by_cases h : (946684800 * 1000000000 : Int) ≤ t.nanos <;> omega, by
    have hmax := t.le_max
    have hb := t.pgMicros_between
    unfold maxUtcNanos postgresEpochNanos at *
    by_cases h : (946684800 * 1000000000 : Int) ≤ t.nanos <;> omega⟩

@[simp] theorem DateTime.timestamptz_nanos (t : DateTime) :
    t.timestamptz.nanos = postgresEpochNanos + t.pgMicros * 1000 := rfl

/-- The column hands back an instant on a whole microsecond. -/
theorem DateTime.timestamptz_nanos_emod (t : DateTime) : t.timestamptz.nanos % 1000 = 0 := by
  rw [DateTime.timestamptz_nanos]
  unfold postgresEpochNanos
  omega

/-- **CONTRACT**: the column moves an instant by less than a microsecond. -/
theorem DateTime.timestamptz_dist (t : DateTime) : |t.timestamptz.nanos - t.nanos| < 1000 := by
  have hb := t.pgMicros_between
  rw [DateTime.timestamptz_nanos, abs_lt]
  by_cases h : postgresEpochNanos ≤ t.nanos <;> omega

/-- **CONTRACT**: the column keeps an instant exactly when it lies on a whole
    microsecond. -/
theorem DateTime.timestamptz_eq_self_iff {t : DateTime} :
    t.timestamptz = t ↔ t.nanos % 1000 = 0 := by
  constructor
  · intro h
    rw [← h]
    exact t.timestamptz_nanos_emod
  · intro h
    apply DateTime.ext
    -- within a microsecond of `t`, and both on whole microseconds
    have hd := t.timestamptz_dist
    have he := t.timestamptz_nanos_emod
    rw [abs_lt] at hd
    omega

end Chrono
