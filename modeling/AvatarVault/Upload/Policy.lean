import AvatarVault.Config
import AvatarVault.Duration
/-!
How often an upload is tried and how long it is to wait in between.
-/
namespace AvatarVault

/-- The largest number of calls that one upload makes. -/
def maxUploadAttempts : UInt32 := Config.attemptLimit

/-- The attempts of an upload and the waits between them. -/
structure RetryPolicy where
  /-- All attempts, the first included; brought into `1..4` when used. -/
  maxAttempts : UInt32 := maxUploadAttempts
  /-- The wait after the first attempt, doubled after each further one. -/
  initialBackoff : Duration := .ofMillis 500
  /-- The longest wait. -/
  maxBackoff : Duration := .ofMillis 8000
  deriving DecidableEq, Repr, Inhabited

namespace RetryPolicy

/-- The policy that the settings ask for. -/
def ofSettings (s : UploadSettings) : RetryPolicy :=
  { maxAttempts := s.maxAttempts
    initialBackoff := .ofMillis s.initialBackoffMs
    maxBackoff := .ofMillis s.maxBackoffMs }

/-- Two to the power `n`, or the largest 32-bit number. -/
def doublings (n : UInt32) : UInt32 := if n < 32 then 1 <<< n else 0xffffffff

/-- The wait after failed attempt number `attempt`, the first being number one. -/
def backoff (p : RetryPolicy) (attempt : UInt32) : Duration :=
  let before := if attempt = 0 then 0 else attempt - 1
  (p.initialBackoff.times (doublings before)).shorter p.maxBackoff

/-- The number of attempts, brought into `1..4`. -/
def budget (p : RetryPolicy) : Nat := max 1 (min p.maxAttempts.toNat maxUploadAttempts.toNat)

theorem budget_pos (p : RetryPolicy) : 0 < p.budget := by
  unfold budget
  omega

end RetryPolicy

end AvatarVault
