import Conformance.Proofs.Pool.Finish
import Conformance.Proofs.Pool.Progress
import Conformance.Proofs.Verdict

/-!
# A fault ends the run

A scan that breaks off must not pass for a scan of everything. The fault travels among the other
events, the feeder takes no further item after it, and the collector sets the token when it receives
it. Whatever was cancelled before, the feeder goes on to take items until it comes to the fault, and
no event is lost. So in the end the fault has been received, and the run comes to it and to no
summary.
-/

namespace Conformance.Pool

/-- The items of a scan up to its first fault, which is the last of them. -/
def upToFault : List Item → List Item
  | [] => []
  | .error a :: _ => [.error a]
  | .ok d :: rest => .ok d :: upToFault rest

section Scan

variable (o : RunOptions) (found : List Discovered) (a : Abort) (after : List Item)

theorem firstFault?_append : firstFault? (found.map .ok ++ .error a :: after) = some a := by
  induction found with
  | nil => rfl
  | cons d found ih => exact ih

theorem upToFault_append :
    upToFault (found.map .ok ++ .error a :: after) = found.map .ok ++ [.error a] := by
  induction found with
  | nil => rfl
  | cons d found ih => exact congrArg (.ok d :: ·) ih

theorem scope_append : o.scope (found.map .ok ++ .error a :: after) = found.filter o.accepts := by
  induction found with
  | nil => rfl
  | cons d found ih => rw [List.map_cons, List.cons_append, RunOptions.scope, List.filter_cons, ih]

end Scan

namespace State

/-- The item that the feeder takes in a move. -/
def takes? (s : State) : Move → Option Item
  | .feed =>
    match s.feeder with
    | .taking (item :: _) => some item
    | _ => none
  | _ => none

variable {o : RunOptions} {items : List Item} {cancelled : Bool} {moves : List Move} {s t : State}
  {m : Move} {n : Option Note}

theorem takes_step (h : Step o s m n t) :
    (s.takes? m).toList ++ upToFault t.feeder.rest = upToFault s.feeder.rest := by
  cases h with
  | exhaust h | abort h | reject h | accept h | leave h | announceCase h | announceMalformed h
  | submit h | report h => simp [takes?, h, Feeder.rest, upToFault]
  | @receive e events h => cases e <;> rfl
  | _ => rfl

/-- What the feeder has taken and what it will take are the items up to the first fault. -/
theorem observe_takes? (h : (start o items cancelled).follow o moves = some t) :
    (start o items cancelled).observe o takes? moves ++ upToFault t.feeder.rest
      = upToFault items := by
  refine follow_induction
    (P := fun moves t => (start o items cancelled).observe o takes? moves
      ++ upToFault t.feeder.rest = upToFault items)
    rfl (fun moves t m u hrun ih hm => ?_) h
  have htakes := takes_step (step_of_move (sound_of_follow hrun) hm)
  rw [observe_concat takes? hrun, List.append_assoc, htakes, ih]

theorem cancelled_of_fault_step (h : Step o s m n t)
    (ih : ∀ a, s.fault? = some a → s.cancelled = true) (a : Abort) (ht : t.fault? = some a) :
    t.cancelled = true := by
  cases h with
  | @receive e events h =>
    cases e with
    | announced d => exact ih a ht
    | finished r => exact Bool.or_eq_true_iff.2 (.inl (ih a ht))
    | fault b => rfl
  | cancel => rfl
  | _ => exact ih a ht

/-- Whoever has received a fault has set the token. -/
theorem cancelled_of_fault (h : (start o items cancelled).follow o moves = some t) {a : Abort}
    (ht : t.fault? = some a) : t.cancelled = true :=
  run_induction (P := fun _ t => ∀ a, t.fault? = some a → t.cancelled = true) nofun
    (fun _ _ _ _ _ _ ih hstep => cancelled_of_fault_step hstep ih) h a ht

/-- A run over a scan that breaks off comes to its end with the fault of the scan as its outcome and
the token set. No item after the fault was taken, and no case after it was handed to the engine. -/
theorem aborts_of_follow {found : List Discovered} {a : Abort} {after : List Item}
    (h : (start o (found.map .ok ++ .error a :: after) cancelled).follow o moves = some t) :
    let items := found.map .ok ++ .error a :: after
    let taken := (start o items cancelled).observe o takes? moves
    let handed := ((start o items cancelled).journal o moves).filterMap Note.handed?
    (moves.filter Move.working).length ≤ moveBound o items ∧
      (t.Halted o → t.finished = true) ∧
      (t.finished = true →
        t.outcome = .error a ∧ t.cancelled = true ∧ taken = found.map .ok ++ [.error a]) ∧
      taken <+: found.map .ok ++ [.error a] ∧
      (handed.map .case).Subperm (found.filter o.accepts) ∧
      t.history = (handed.map Case.program).reverse := by
  have hs := sound_of_follow h
  have hb := balanced_of_follow h
  have htaken := observe_takes? h
  have hhanded := hb.handed_subperm
  rw [upToFault_append] at htaken
  rw [scope_append] at hhanded
  refine ⟨length_le_moveBound h, hs.finished_of_halted, fun hfinished => ?_, ?_, hhanded,
    hb.history⟩
  · have hfault := (hb.settled (hs.resting hfinished)).fault
    rw [firstFault?_append] at hfault
    refine ⟨by rw [outcome, hfault], cancelled_of_fault h hfault, ?_⟩
    rw [(hs.resting hfinished).feeder] at htaken
    exact (List.append_nil _).symm.trans htaken
  · exact ⟨_, htaken⟩

def firstFailureEnds : RunOptions := ⟨1, none, some 1, ⟨0⟩⟩

def brokenOff : List Discovered :=
  [.malformed ⟨.ofText "b.js", "b", "bad"⟩, .case (.plain "a.js" none)]

/-- What stands after the fault of the scan. -/
def unseen : List Item := [.ok (.case (.plain "c.js" none)), .error (.workerPool "late")]

/-- The limit is reached before the second item is taken. -/
def limitBeforeFault : List Move :=
  [.feed, .feed, .feed, .collect, .collect, .feed, .feed, .feed, .work 0] ++ .replicate 3 .collect

theorem aborts_limitBeforeFault :
    let items := brokenOff.map .ok ++ .error (.workerPool "scan") :: unseen
    let taken := (start firstFailureEnds items false).observe firstFailureEnds takes?
      limitBeforeFault
    let handed := ((start firstFailureEnds items false).journal firstFailureEnds
      limitBeforeFault).filterMap Note.handed?
    ∃ t, (start firstFailureEnds items false).follow firstFailureEnds limitBeforeFault = some t ∧
      t.finished = true ∧ t.outcome = .error (.workerPool "scan") ∧ t.cancelled = true ∧
      taken = brokenOff.map .ok ++ [.error (.workerPool "scan")] ∧
      (handed.map .case).Subperm (brokenOff.filter firstFailureEnds.accepts) := by
  intro items taken handed
  obtain ⟨t, hrun, hfinished⟩ :
      ∃ t, (start firstFailureEnds items false).follow firstFailureEnds limitBeforeFault = some t ∧
        t.finished = true := ⟨_, rfl, rfl⟩
  obtain ⟨_, _, hend, _, hhanded, _⟩ := aborts_of_follow hrun
  obtain ⟨houtcome, hcancelled, htaken⟩ := hend hfinished
  exact ⟨t, hrun, hfinished, houtcome, hcancelled, htaken, hhanded⟩

end State

end Conformance.Pool
