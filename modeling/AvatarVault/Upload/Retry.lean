import AvatarVault.Upload.FileId
import AvatarVault.Upload.Policy
import AvatarVault.Bytes
import AvatarVault.Error
import AvatarVault.Supply
import AvatarVault.Timer
/-!
Uploading a payload with bounded attempts.  Time is in milliseconds, and the waits between
attempts are those of a timer.  A cancellation is honoured before every attempt and during every
wait, never while a call is in flight.
-/
namespace AvatarVault

/-- The answer of the host to one call. -/
inductive Answer where
  /-- The payload is stored under this name. -/
  | accepted (id : FileId)
  /-- The payload is not stored. -/
  | refused (cause : TransportError)
  /-- The call broke down and took its task with it. -/
  | crashed
  deriving DecidableEq, Repr

/-- What happens on one call. -/
structure Reply where
  answer : Answer
  /-- How long the call takes. -/
  latency : Nat := 0
  /-- Whether the upload is cancelled the moment the call starts. -/
  cancels : Bool := false
  deriving DecidableEq, Repr

/-- The reply of a host that is not there. -/
def Reply.unavailable : Reply :=
  { answer := .refused { transient := true, text := "service unavailable" } }

/-- A payload that the host has stored, and the number of attempts that took. -/
structure Receipt where
  id : FileId
  attempts : Nat
  deriving DecidableEq, Repr

/-- One call of the host. -/
structure Call where
  /-- When the call started. -/
  start : Nat
  payload : ByteArray
  deriving DecidableEq

/-- How a piece of work ends. -/
inductive Ending (α : Type) where
  | succeeded (value : α)
  | failed (error : UploadError)
  /-- The work broke down without a result. -/
  | crashed
  deriving Repr

/-- A result, where broken-down work counts as a failed worker. -/
def Ending.settle {α : Type} : Ending α → Except UploadError α
  | succeeded value => .ok value
  | failed error => .error error
  | crashed => .error (.worker "task panicked")

/-- The moment at which an upload is cancelled, if it ever is. -/
abbrev Cancellation : Type := Option Nat

namespace Cancellation

/-- Whether the cancellation has happened at a moment. -/
def isDue (c : Cancellation) (now : Nat) : Bool :=
  match c with
  | some moment => moment ≤ now
  | none => false

/-- The cancellation, at `now` at the latest. -/
def latest (c : Cancellation) (now : Nat) : Cancellation :=
  match c with
  | some moment => some (min moment now)
  | none => some now

end Cancellation

/-- An upload with retries, from its start to its end. -/
structure RetryRun where
  ending : Ending Receipt
  /-- The calls made, in order. -/
  calls : List Call
  /-- When the upload ended. -/
  finish : Nat
  cancellation : Cancellation
  /-- The replies left over. -/
  replies : Supply Reply

/-- The run from attempt number `attempt` on, which may be followed by `more` others. -/
def retryFrom (timer : Timer) (policy : RetryPolicy) (payload : ByteArray) (more attempt now : Nat)
    (cancellation : Cancellation) (replies : Supply Reply) : RetryRun :=
  if cancellation.isDue now then
    { ending := .failed .cancelled, calls := [], finish := now, cancellation, replies }
  else
    let reply := replies.head
    let cancellation := if reply.cancels then cancellation.latest now else cancellation
    let call : Call := { start := now, payload }
    let done := now + reply.latency
    let conclude (ending : Ending Receipt) : RetryRun :=
      { ending, calls := [call], finish := done, cancellation, replies := replies.tail }
    match reply.answer with
    | .accepted id => conclude (.succeeded { id, attempts := attempt })
    | .crashed => conclude .crashed
    | .refused cause =>
      if cause.transient then
        match more with
        | 0 => conclude (.failed (.exhaustedRetries attempt cause))
        | more + 1 =>
          let wake := done + timer.wait (policy.backoff attempt.toUInt32)
          if cancellation.isDue wake then
            { conclude (.failed .cancelled) with finish := max done (cancellation.getD wake) }
          else
            let run := retryFrom timer policy payload more (attempt + 1) wake cancellation
              replies.tail
            { run with calls := call :: run.calls }
      else conclude (.failed (.transport cause))

/-- Uploads a payload, trying again after transient failures as the policy allows. -/
def uploadWithRetries (timer : Timer) (policy : RetryPolicy) (payload : ByteArray) (start : Nat)
    (cancellation : Cancellation) (replies : Supply Reply) : RetryRun :=
  retryFrom timer policy payload (policy.budget - 1) 1 start cancellation replies

end AvatarVault
