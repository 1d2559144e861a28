import AvatarVault.Duration
/-!
Timers: how long a wait takes.  An exact timer runs for the span asked for, the timer of the
system for thirty years at most.  `wait_system_of_le` says that the two differ for longer spans
only.
-/
namespace AvatarVault

/-- What turns a span into a wait. -/
structure Timer where
  /-- The milliseconds that a wait of a span takes. -/
  wait : Duration → Nat

namespace Timer

/-- The timer that runs for the span asked for; a started millisecond counts in full. -/
def exact : Timer := ⟨Duration.toMillisUp⟩

/-- Thirty years of 365 days. -/
def longestWait : Duration := .ofMillis 946080000000

/-- The timer of the system, which never runs for more than thirty years. -/
def system : Timer := ⟨fun d => exact.wait (d.shorter longestWait)⟩

theorem wait_system_of_le {d : Duration} (h : d.le longestWait = true) :
    system.wait d = exact.wait d := by
  simp [system, Duration.shorter, h]

end Timer

end AvatarVault
