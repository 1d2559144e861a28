import AvatarVault.Saturating
/-!
Spans of time in seconds and nanoseconds, and a product that stops at the longest span.
-/
namespace AvatarVault

/-- The nanoseconds of a second. -/
def nanosPerSecond : UInt64 := 1000000000

/-- A span of time. -/
structure Duration where
  seconds : UInt64
  /-- The nanoseconds beyond the full seconds. -/
  nanos : UInt32
  nanos_lt : nanos < 1000000000 := by decide
  deriving DecidableEq, Repr

namespace Duration

instance : Inhabited Duration := ⟨{ seconds := 0, nanos := 0 }⟩

/-- The longest span. -/
def longest : Duration := { seconds := 0xffffffffffffffff, nanos := 999999999 }

/-- A number of seconds and of nanoseconds, of which full seconds are carried over. -/
def ofParts (seconds : UInt64) (nanos : UInt32) : Duration :=
  { seconds := seconds + (nanos / 1000000000).toUInt64
    nanos := nanos % 1000000000
    nanos_lt := by
      rw [UInt32.lt_iff_toNat_lt, UInt32.toNat_mod]
      exact Nat.mod_lt _ (by decide) }

/-- A number of milliseconds. -/
def ofMillis (ms : UInt64) : Duration :=
  { seconds := ms / 1000
    nanos := (ms % 1000).toUInt32 * 1000000
    nanos_lt := by
      have h : ms.toNat % 1000 < 1000 := Nat.mod_lt _ (by decide)
      have hm : (ms % 1000).toUInt32.toNat = ms.toNat % 1000 := by
        rw [UInt64.toNat_toUInt32, UInt64.toNat_mod]
        exact Nat.mod_eq_of_lt (Nat.lt_trans h (by decide))
      have hp : ms.toNat % 1000 * 1000000 < 2 ^ 32 := by omega
      rw [UInt32.lt_iff_toNat_lt, UInt32.toNat_mul, hm]
      simp only [UInt32.reduceToNat]
      rw [Nat.mod_eq_of_lt hp]
      omega }

/-- The span in nanoseconds. -/
def toNanos (d : Duration) : Nat := d.seconds.toNat * 1000000000 + d.nanos.toNat

/-- The span in milliseconds, a started millisecond counting in full: how long a timer of
that span runs. -/
def toMillisUp (d : Duration) : Nat := (d.toNanos + 999999) / 1000000

/-- Whether the first span is at most the second. -/
def le (a b : Duration) : Bool :=
  a.seconds < b.seconds || (a.seconds == b.seconds && a.nanos ≤ b.nanos)

/-- The shorter of two spans. -/
def shorter (a b : Duration) : Duration := if a.le b then a else b

/-- The span `k` times, or the longest span where that is too long. -/
def times (d : Duration) (k : UInt32) : Duration :=
  let total := d.nanos.toUInt64 * k.toUInt64
  match (checkedMul d.seconds k.toUInt64).bind (checkedAdd · (total / nanosPerSecond)) with
  | none => longest
  | some seconds =>
    { seconds
      nanos := (total % nanosPerSecond).toUInt32
      nanos_lt := by
        have h : total.toNat % 1000000000 < 1000000000 := Nat.mod_lt _ (by decide)
        rw [UInt32.lt_iff_toNat_lt, UInt64.toNat_toUInt32, UInt64.toNat_mod]
        simp only [nanosPerSecond, UInt64.reduceToNat, UInt32.reduceToNat]
        omega }

end Duration

end AvatarVault
