import Mathlib.Algebra.Group.Nat.Defs
import AvatarVault.Timer
import AvatarVault.Upload.Policy
/-!
The waits of a policy in exact nanoseconds.  Every operation on spans of time is said in natural
numbers: a product that is too long is the longest span (`toNanos_times`), a doubling that is too
large the largest factor (`toNat_doublings`).  So a wait is the first one doubled as often as
attempts failed before, or the longest one that is allowed (`toNanos_backoff`), and in whole
milliseconds, cut off at thirty years, where the timer of the system waits (`wait_backoff`).
-/
namespace AvatarVault

namespace Duration

theorem nanos_lt_second (d : Duration) : d.nanos.toNat < 1000000000 :=
  UInt32.lt_iff_toNat_lt.mp d.nanos_lt

theorem toNanos_longest : longest.toNanos = UInt64.size * 1000000000 - 1 := by decide

theorem toNanos_le_longest (d : Duration) : d.toNanos ≤ longest.toNanos := by
  have seconds := d.seconds.toNat_lt
  have nanos := d.nanos_lt_second
  rw [toNanos_longest, toNanos, UInt64.size]
  omega

theorem toNanos_ofMillis (ms : UInt64) : (ofMillis ms).toNanos = ms.toNat * 1000000 := by
  have small : ms.toNat % 1000 < 1000 := Nat.mod_lt _ (by decide)
  have rest : (ms % 1000).toUInt32.toNat = ms.toNat % 1000 := by
    rw [UInt64.toNat_toUInt32, UInt64.toNat_mod]
    exact Nat.mod_eq_of_lt (Nat.lt_trans small (by decide))
  have nanos : ((ms % 1000).toUInt32 * 1000000).toNat = ms.toNat % 1000 * 1000000 := by
    rw [UInt32.toNat_mul, rest]
    exact Nat.mod_eq_of_lt (by simp only [UInt32.reduceToNat]; omega)
  rw [toNanos, ofMillis]
  simp only [nanos, UInt64.toNat_div, UInt64.reduceToNat]
  omega

theorem le_iff_toNanos (a b : Duration) : a.le b = true ↔ a.toNanos ≤ b.toNanos := by
  have ha := a.nanos_lt_second
  have hb := b.nanos_lt_second
  rw [le, Bool.or_eq_true, Bool.and_eq_true, decide_eq_true_eq, decide_eq_true_eq, beq_iff_eq,
    UInt64.lt_iff_toNat_lt, UInt32.le_iff_toNat_le, ← UInt64.toNat_inj, toNanos, toNanos]
  omega

theorem toNanos_shorter (a b : Duration) : (a.shorter b).toNanos = min a.toNanos b.toNanos := by
  unfold shorter
  split
  · rename_i first
    exact (Nat.min_eq_left ((le_iff_toNanos a b).mp first)).symm
  · rename_i second
    have longer := Nat.lt_of_not_le fun h => second ((le_iff_toNanos a b).mpr h)
    exact (Nat.min_eq_right (Nat.le_of_lt longer)).symm

/-- Seconds that do not fit, with what is carried over to them, are longer than any span. -/
theorem min_of_le_carried {seconds nanos size : Nat} (long : size ≤ seconds + nanos / 1000000000) :
    min (seconds * 1000000000 + nanos) (size * 1000000000 - 1) = size * 1000000000 - 1 := by
  omega

/-- Seconds that fit, with what is carried over to them, are the whole span. -/
theorem min_of_carried_lt {seconds nanos size : Nat} (fits : seconds + nanos / 1000000000 < size) :
    min (seconds * 1000000000 + nanos) (size * 1000000000 - 1)
      = (seconds + nanos / 1000000000) * 1000000000 + nanos % 1000000000 := by
  omega

/-- A product of a span is exact, or the longest span where it is longer than that. -/
theorem toNanos_times (d : Duration) (k : UInt32) :
    (d.times k).toNanos = min (d.toNanos * k.toNat) longest.toNanos := by
  have nanos := d.nanos_lt_second
  have factor : k.toNat < 4294967296 := k.toNat_lt_size
  -- The nanoseconds alone do not overflow; their full seconds are carried over.
  have total : (d.nanos.toUInt64 * k.toUInt64).toNat = d.nanos.toNat * k.toNat := by
    rw [UInt64.toNat_mul, UInt32.toNat_toUInt64, UInt32.toNat_toUInt64]
    apply Nat.mod_eq_of_lt
    calc d.nanos.toNat * k.toNat
        ≤ 1000000000 * 4294967296 := Nat.mul_le_mul (Nat.le_of_lt nanos) (Nat.le_of_lt factor)
      _ < 18446744073709551616 := by decide
  have carry : (d.nanos.toUInt64 * k.toUInt64 / nanosPerSecond).toNat
      = d.nanos.toNat * k.toNat / 1000000000 := by
    rw [UInt64.toNat_div, total]
    rfl
  have left : (d.nanos.toUInt64 * k.toUInt64 % nanosPerSecond).toUInt32.toNat
      = d.nanos.toNat * k.toNat % 1000000000 := by
    rw [UInt64.toNat_toUInt32, UInt64.toNat_mod, total]
    exact Nat.mod_eq_of_lt (Nat.lt_trans (Nat.mod_lt _ (by decide)) (by decide))
  have spread : d.toNanos * k.toNat
      = d.seconds.toNat * k.toNat * 1000000000 + d.nanos.toNat * k.toNat := by
    rw [toNanos, Nat.add_mul, Nat.mul_right_comm]
  have exact_seconds : k.toUInt64.toNat = k.toNat := UInt32.toNat_toUInt64 k
  rw [toNanos_longest, spread]
  unfold times
  dsimp only
  split
  · -- Too long: the seconds do not fit, or not with what is carried over.
    rename_i tooLong
    have long : UInt64.size ≤ d.seconds.toNat * k.toNat + d.nanos.toNat * k.toNat / 1000000000 := by
      unfold checkedMul checkedAdd at tooLong
      rw [exact_seconds] at tooLong
      by_cases fits : d.seconds.toNat * k.toNat < UInt64.size
      · rw [if_pos fits, Option.bind_some, UInt64.toNat_mul, exact_seconds,
          Nat.mod_eq_of_lt fits, carry] at tooLong
        refine Nat.le_of_not_lt fun less => ?_
        rw [if_pos less] at tooLong
        cases tooLong
      · omega
    rw [toNanos_longest, min_of_le_carried long]
  · rename_i seconds fits
    obtain ⟨whole, product, sum⟩ := Option.bind_eq_some_iff.mp fits
    have value : seconds.toNat
        = d.seconds.toNat * k.toNat + d.nanos.toNat * k.toNat / 1000000000 := by
      rw [toNat_of_checkedAdd sum, toNat_of_checkedMul product, exact_seconds, carry]
    have bound := seconds.toNat_lt_size
    rw [value] at bound
    rw [min_of_carried_lt bound, toNanos, left, value]

end Duration

theorem Timer.wait_system (d : Duration) :
    system.wait d = (min d.toNanos longestWait.toNanos + 999999) / 1000000 := by
  show ((d.shorter longestWait).toNanos + 999999) / 1000000 = _
  rw [Duration.toNanos_shorter]

theorem toNat_toUInt32 {n : Nat} (small : n < 4294967296) : n.toUInt32.toNat = n :=
  UInt32.toNat_ofNat_of_lt' small

namespace RetryPolicy

theorem toNat_doublings (n : UInt32) : (doublings n).toNat = min (2 ^ n.toNat) (4294967295) := by
  unfold doublings
  split
  · rename_i small
    have less : n.toNat < 32 := UInt32.lt_iff_toNat_lt.mp small
    have all : ∀ k < 32, ((1 : UInt32) <<< UInt32.ofNat k).toNat = min (2 ^ k) (4294967295) := by
      decide
    have known := all n.toNat less
    rwa [UInt32.ofNat_toNat] at known
  · rename_i large
    have more : 32 ≤ n.toNat := Nat.le_of_not_lt fun h => large (UInt32.lt_iff_toNat_lt.mpr h)
    have power : 2 ^ 32 ≤ 2 ^ n.toNat := Nat.pow_le_pow_right (by decide) more
    have saturated : 4294967295 ≤ 2 ^ n.toNat := Nat.le_trans (by decide) power
    rw [Nat.min_eq_right saturated]
    rfl

/-- The wait after a failed attempt: the first wait, doubled once for each attempt that failed
before, at most the longest wait. -/
theorem toNanos_backoff (p : RetryPolicy) (attempt : UInt32) :
    (p.backoff attempt).toNanos
      = min (p.initialBackoff.toNanos * min (2 ^ (attempt.toNat - 1)) (4294967295))
          p.maxBackoff.toNanos := by
  have before : (if attempt = 0 then 0 else attempt - 1 : UInt32).toNat = attempt.toNat - 1 := by
    split
    · rename_i none
      subst none
      rfl
    · rename_i some_attempt
      have positive : 1 ≤ attempt := by
        rw [UInt32.le_iff_toNat_le]
        have : attempt.toNat ≠ 0 := fun h => some_attempt (UInt32.toNat_inj.mp h)
        exact Nat.one_le_iff_ne_zero.mpr this
      rw [UInt32.toNat_sub_of_le _ _ positive]
      rfl
  have limit := p.maxBackoff.toNanos_le_longest
  rw [backoff, Duration.toNanos_shorter, Duration.toNanos_times, toNat_doublings, before]
  omega

/-- So early no doubling is left out. -/
theorem toNanos_backoff_of_le (p : RetryPolicy) {attempt : UInt32} (few : attempt.toNat ≤ 32) :
    (p.backoff attempt).toNanos
      = min (p.initialBackoff.toNanos * 2 ^ (attempt.toNat - 1)) p.maxBackoff.toNanos := by
  have power : 2 ^ (attempt.toNat - 1) ≤ 2 ^ 31 := Nat.pow_le_pow_right (by decide) (by omega)
  rw [toNanos_backoff, Nat.min_eq_left (Nat.le_trans power (by decide))]

/-- Whether the first and the longest wait of a policy are these numbers of milliseconds. -/
structure InMillis (p : RetryPolicy) (initial longest : Nat) : Prop where
  initial : p.initialBackoff.toNanos = initial * 1000000
  longest : p.maxBackoff.toNanos = longest * 1000000

theorem inMillis_ofSettings (s : UploadSettings) :
    (ofSettings s).InMillis s.initialBackoffMs.toNat s.maxBackoffMs.toNat :=
  ⟨Duration.toNanos_ofMillis _, Duration.toNanos_ofMillis _⟩

/-- A policy in whole milliseconds waits whole milliseconds. -/
theorem InMillis.toNanos_backoff {p : RetryPolicy} {initial longest : Nat}
    (h : p.InMillis initial longest) {attempt : UInt32} (few : attempt.toNat ≤ 32) :
    (p.backoff attempt).toNanos
      = min (initial * 2 ^ (attempt.toNat - 1)) longest * 1000000 := by
  rw [p.toNanos_backoff_of_le few, h.initial, h.longest, Nat.mul_right_comm,
    Nat.mul_min_mul_right]

/-- A policy from settings waits whole milliseconds. -/
theorem toNanos_backoff_ofSettings (s : UploadSettings) {attempt : UInt32}
    (few : attempt.toNat ≤ 32) :
    ((ofSettings s).backoff attempt).toNanos
      = min (s.initialBackoffMs.toNat * 2 ^ (attempt.toNat - 1)) s.maxBackoffMs.toNat
        * 1000000 :=
  (inMillis_ofSettings s).toNanos_backoff few

/-- An exact timer does not round whole milliseconds. -/
theorem InMillis.wait_exact {p : RetryPolicy} {initial longest : Nat}
    (h : p.InMillis initial longest) {attempt : UInt32} (few : attempt.toNat ≤ 32) :
    Timer.exact.wait (p.backoff attempt)
      = min (initial * 2 ^ (attempt.toNat - 1)) longest := by
  show ((p.backoff attempt).toNanos + 999999) / 1000000 = _
  rw [h.toNanos_backoff few]
  omega

/-- Whole milliseconds are not rounded. -/
theorem millis_up (a b : Nat) : (min (a * 1000000) (b * 1000000) + 999999) / 1000000 = min a b := by
  omega

/-- By the timer of the system no wait takes longer than thirty years. -/
theorem wait_backoff (s : UploadSettings) {attempt : UInt32} (few : attempt.toNat ≤ 32) :
    Timer.system.wait ((ofSettings s).backoff attempt)
      = min (min (s.initialBackoffMs.toNat * 2 ^ (attempt.toNat - 1)) s.maxBackoffMs.toNat)
          946080000000 := by
  rw [Timer.wait_system, toNanos_backoff_ofSettings s few, Timer.longestWait,
    Duration.toNanos_ofMillis]
  exact millis_up _ _

end RetryPolicy

end AvatarVault
