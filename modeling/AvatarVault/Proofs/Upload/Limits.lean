import AvatarVault.Proofs.Upload.Backoff
/-!
The waits of a policy at the limits of their numbers.  No number on the way to a wait leaves its
type (`RetryPolicy.backoff?_eq`): the only product that might is stopped at the longest span.  So a
wait is what exact arithmetic says for every policy and every attempt, and it grows with each of the
numbers that it is made of (`RetryPolicy.waits_in_exact_nanoseconds`).
-/
namespace AvatarVault

namespace Duration

/-- A number of seconds and of nanoseconds, of which full seconds are carried over; `none` where the
seconds do not fit then. -/
def ofParts? (seconds : UInt64) (nanos : UInt32) : Option Duration :=
  (checkedAdd seconds (nanos / 1000000000).toUInt64).map fun _ => ofParts seconds nanos

/-- The span `k` times, or the longest span where that is too long; `none` where a number on the way
there leaves its type. -/
def times? (d : Duration) (k : UInt32) : Option Duration :=
  (checkedMul d.nanos.toUInt64 k.toUInt64).bind fun total =>
    match (checkedMul d.seconds k.toUInt64).bind (checkedAdd · (total / nanosPerSecond)) with
    | none => some longest
    | some seconds => ofParts? seconds (total % nanosPerSecond).toUInt32

theorem ofParts?_of_lt (seconds : UInt64) {nanos : UInt32} (small : nanos < 1000000000) :
    ofParts? seconds nanos = some { seconds, nanos, nanos_lt := small } := by
  have below : nanos.toNat < 1000000000 := UInt32.lt_iff_toNat_lt.mp small
  have none_carried : nanos / 1000000000 = 0 := by
    rw [← UInt32.toNat_inj, UInt32.toNat_div]
    exact Nat.div_eq_of_lt below
  have all_left : nanos % 1000000000 = nanos := by
    rw [← UInt32.toNat_inj, UInt32.toNat_mod]
    exact Nat.mod_eq_of_lt below
  have fits : seconds.toNat + (0 : UInt32).toUInt64.toNat < UInt64.size := seconds.toNat_lt
  have same : seconds + (0 : UInt32).toUInt64 = seconds := UInt64.add_zero seconds
  simp only [ofParts?, ofParts, none_carried, all_left, checkedAdd, if_pos fits, same,
    Option.map_some]

/-- The product of the nanoseconds fits, and what is left of it is less than a second. -/
theorem times?_eq (d : Duration) (k : UInt32) : d.times? k = some (d.times k) := by
  have product : checkedMul d.nanos.toUInt64 k.toUInt64
      = some (d.nanos.toUInt64 * k.toUInt64) := by
    rw [checkedMul, UInt32.toNat_toUInt64, UInt32.toNat_toUInt64, if_pos]
    calc d.nanos.toNat * k.toNat
        ≤ 1000000000 * 4294967296 :=
          Nat.mul_le_mul (Nat.le_of_lt d.nanos_lt_second) (Nat.le_of_lt k.toNat_lt_size)
      _ < UInt64.size := by decide
  rw [times?, product, Option.bind_some, times]
  generalize ((checkedMul d.seconds k.toUInt64).bind
    (checkedAdd · (d.nanos.toUInt64 * k.toUInt64 / nanosPerSecond))) = seconds
  cases seconds with
  | none => rfl
  | some seconds => exact ofParts?_of_lt seconds _

end Duration

namespace RetryPolicy

/-- The wait after a failed attempt; `none` where a number on the way there leaves its type. -/
def backoff? (p : RetryPolicy) (attempt : UInt32) : Option Duration :=
  let before := if attempt = 0 then 0 else attempt - 1
  (p.initialBackoff.times? (doublings before)).map (·.shorter p.maxBackoff)

theorem backoff?_eq (p : RetryPolicy) (attempt : UInt32) :
    p.backoff? attempt = some (p.backoff attempt) := by
  rw [backoff?, Duration.times?_eq]
  rfl

section Growth

variable {p q : RetryPolicy} {a b attempt : UInt32}

theorem toNanos_backoff_of_lt (many : 32 < attempt) :
    (p.backoff attempt).toNanos
      = min (p.initialBackoff.toNanos * (2 ^ 32 - 1)) p.maxBackoff.toNanos := by
  have known : 32 < attempt.toNat := UInt32.lt_iff_toNat_lt.mp many
  have power : 2 ^ 32 ≤ 2 ^ (attempt.toNat - 1) := Nat.pow_le_pow_right (by decide) (by omega)
  rw [toNanos_backoff, Nat.min_eq_right (Nat.le_trans (by decide) power)]
  rfl

theorem toNanos_backoff_mono (le : a ≤ b) :
    (p.backoff a).toNanos ≤ (p.backoff b).toNanos := by
  have later : a.toNat ≤ b.toNat := UInt32.le_iff_toNat_le.mp le
  have power : 2 ^ (a.toNat - 1) ≤ 2 ^ (b.toNat - 1) :=
    Nat.pow_le_pow_right (by decide) (by omega)
  have factor : min (2 ^ (a.toNat - 1)) 4294967295 ≤ min (2 ^ (b.toNat - 1)) 4294967295 := by
    omega
  have product := Nat.mul_le_mul_left p.initialBackoff.toNanos factor
  rw [toNanos_backoff, toNanos_backoff]
  omega

theorem toNanos_backoff_le_backoff
    (first : p.initialBackoff.toNanos ≤ q.initialBackoff.toNanos)
    (longest : p.maxBackoff.toNanos ≤ q.maxBackoff.toNanos) :
    (p.backoff attempt).toNanos ≤ (q.backoff attempt).toNanos := by
  have product := Nat.mul_le_mul_right (min (2 ^ (attempt.toNat - 1)) 4294967295) first
  rw [toNanos_backoff, toNanos_backoff]
  omega

end Growth

/-- **Waits are exact** for every policy, whatever its two spans, and every attempt.  No number on
the way leaves its type; up to the thirty-second attempt the first wait is doubled once for each
attempt before, also where that is longer than the longest span; from then on the factor stays as it
is.  A wait grows with the attempt and with both spans and never exceeds the longest wait. -/
theorem waits_in_exact_nanoseconds :
    (∀ (p : RetryPolicy) (attempt : UInt32), p.backoff? attempt = some (p.backoff attempt)) ∧
    (∀ (p : RetryPolicy) (attempt : UInt32), 1 ≤ attempt → attempt ≤ 32 →
      (p.backoff attempt).toNanos
        = min (p.initialBackoff.toNanos * 2 ^ (attempt.toNat - 1)) p.maxBackoff.toNanos) ∧
    (∀ p : RetryPolicy, p.backoff 0 = p.backoff 1) ∧
    (∀ (p : RetryPolicy) (attempt : UInt32), 32 < attempt →
      (p.backoff attempt).toNanos
        = min (p.initialBackoff.toNanos * (2 ^ 32 - 1)) p.maxBackoff.toNanos) ∧
    (∀ (p : RetryPolicy) (a b : UInt32), a ≤ b →
      (p.backoff a).toNanos ≤ (p.backoff b).toNanos) ∧
    (∀ (p q : RetryPolicy) (attempt : UInt32),
      p.initialBackoff.toNanos ≤ q.initialBackoff.toNanos →
      p.maxBackoff.toNanos ≤ q.maxBackoff.toNanos →
      (p.backoff attempt).toNanos ≤ (q.backoff attempt).toNanos) ∧
    ∀ (p : RetryPolicy) (attempt : UInt32),
      (p.backoff attempt).toNanos ≤ p.maxBackoff.toNanos := by
  refine ⟨backoff?_eq,
    fun p attempt _ few => p.toNanos_backoff_of_le (UInt32.le_iff_toNat_le.mp few),
    fun p => rfl, fun p attempt many => toNanos_backoff_of_lt many,
    fun p a b le => toNanos_backoff_mono le,
    fun p q attempt first longest => toNanos_backoff_le_backoff first longest,
    fun p attempt => ?_⟩
  rw [toNanos_backoff]
  exact Nat.min_le_right _ _

/-- A first wait of more than half the longest span, which every doubling takes beyond it. -/
def halfOfLongest : RetryPolicy :=
  { initialBackoff := { Duration.longest with seconds := 0x8000000000000000 }
    maxBackoff := .longest }

/-- The second wait of such a policy is the longest span, and so are the one after the last attempt
that can be counted and those in between. -/
theorem waits_in_exact_nanoseconds_beyond_longest :
    (1 : UInt32) ≤ 2 ∧ (2 : UInt32) ≤ 32 ∧ (2 : UInt32) ≤ 0xffffffff ∧
      (halfOfLongest.backoff 2).toNanos = Duration.longest.toNanos ∧
      (32 : UInt32) < 0xffffffff ∧
      (halfOfLongest.backoff 0xffffffff).toNanos = Duration.longest.toNanos ∧
      (halfOfLongest.backoff 2).toNanos ≤ (halfOfLongest.backoff 0xffffffff).toNanos := by
  obtain ⟨-, doubled, -, constant, grows, -⟩ := waits_in_exact_nanoseconds
  refine ⟨by decide, by decide, by decide, ?_, by decide, ?_,
    grows halfOfLongest 2 0xffffffff (by decide)⟩
  · rw [doubled halfOfLongest 2 (by decide) (by decide)]
    decide
  · rw [constant halfOfLongest 0xffffffff (by decide)]
    decide

end RetryPolicy

end AvatarVault
