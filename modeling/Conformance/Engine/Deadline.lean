import Conformance.Engine.Basic

/-!
# Deadlines

An engine process is watched from outside: it is asked again and again whether it has exited, with a
pause between two polls. If it exits by itself it is left alone. If it can no longer be asked, or is
still running when its time is used up, it is killed and then waited for, once each, whatever comes
of that.

The pause is what makes a watch end. A clock that goes on by at least a pause between polls has
passed any deadline after a known number of them.
-/

namespace Conformance

/-- How a process ended. -/
inductive ExitStatus where
  | code (n : Nat)
  /-- It was killed by a signal and has no exit code. -/
  | signal
  deriving DecidableEq, Repr

/-- The exit status in words. -/
def ExitStatus.describe : ExitStatus → String
  | .code n => "exit code " ++ toString n
  | .signal => "terminated by signal"

/-- What a process answers when it is polled. -/
inductive Poll where
  | running
  | exited (status : ExitStatus)
  | failed (reason : String)
  deriving DecidableEq, Repr

/-- A running process, by what it answers. -/
structure Child where
  /-- The answer to poll `k`. -/
  poll : Nat → Poll
  /-- The time since the start, just after poll `k`. -/
  elapsed : Nat → Duration
  kill : Except String Unit
  wait : Except String ExitStatus

/-- What is done to a process, with its answer. -/
inductive Contact where
  | poll (answer : Poll)
  | kill (answer : Except String Unit)
  | wait (answer : Except String ExitStatus)

/-- Why a watch is over. -/
inductive WatchEnd where
  | exited (status : ExitStatus)
  | overran
  | pollFailed (reason : String)
  deriving DecidableEq, Repr

/-- A watch that is over. -/
structure Watch where
  contacts : List Contact
  ending : WatchEnd

namespace Child

def pollInterval : Duration := .ofMilliseconds 5

/-- The process is got rid of. -/
def dispose (c : Child) : List Contact := [.kill c.kill, .wait c.wait]

/-- The watch from poll `k` on, if it is over within `n` polls. -/
def watchFrom? (c : Child) (timeout : Duration) (k : Nat) : Nat → Option Watch
  | 0 => none
  | n + 1 =>
    match c.poll k with
    | .exited status => some ⟨[.poll (.exited status)], .exited status⟩
    | .failed reason => some ⟨.poll (.failed reason) :: c.dispose, .pollFailed reason⟩
    | .running =>
      if timeout.nanoseconds ≤ (c.elapsed k).nanoseconds then
        some ⟨.poll .running :: c.dispose, .overran⟩
      else
        (watchFrom? c timeout (k + 1) n).map fun w =>
          { w with contacts := .poll .running :: w.contacts }

/-- How many polls pass before a deadline at most: one for each pause that can begin before it, and
the first. -/
def pollBound (timeout : Duration) : Nat :=
  timeout.nanoseconds / pollInterval.nanoseconds + 2

/-- The clock goes on by at least a pause between two polls. -/
def Paced (c : Child) : Prop :=
  ∀ k, (c.elapsed k).nanoseconds + pollInterval.nanoseconds ≤ (c.elapsed (k + 1)).nanoseconds

/-- The watch of a process, if it is over after the polls that a paced clock allows. -/
def watch? (c : Child) (timeout : Duration) : Option Watch :=
  c.watchFrom? timeout 0 (pollBound timeout)

/-- A process that ends at a known time, or never, on a clock that goes exactly by pauses. -/
def ofEnding (ending : Option (Duration × ExitStatus)) : Child :=
  let time (k : Nat) : Duration := ⟨k * pollInterval.nanoseconds⟩
  { poll := fun k =>
      match ending with
      | some (t, status) =>
        if t.nanoseconds ≤ (time k).nanoseconds then .exited status else .running
      | none => .running
    elapsed := time
    kill := .ok ()
    wait := .ok .signal }

end Child

end Conformance
