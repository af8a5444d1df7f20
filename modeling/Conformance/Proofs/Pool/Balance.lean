import Conformance.Proofs.Pool.Step
import Conformance.Proofs.Report.Calls

/-!
# What a run keeps

Whatever the order of the moves, nothing is lost or made up on the way from the items to the tally.
Every accepted item is still ahead of the feeder or was announced. Everything announced is held by
the feeder, queued as a job, held by a worker, or has come to its end, which is a result or being
left out. Every result is with its worker, sent, or received. And the tally is what the received
events make of it.

`Balanced` puts this as equations between the journal and the state. Each of them holds at the start
and is kept by every step, and at the end, when nothing is under way any more, they say how the
items and the tally are related.
-/

namespace Conformance

namespace RunOptions

/-- The accepted items of a scan, up to its first fault. -/
def scope (o : RunOptions) : List Pool.Item → List Discovered
  | [] => []
  | .error _ :: _ => []
  | .ok d :: rest => if o.accepts d then d :: o.scope rest else o.scope rest

end RunOptions

namespace Pool

/-- The fault that ends a scan. -/
def firstFault? : List Item → Option Abort
  | [] => none
  | .error a :: _ => some a
  | .ok _ :: rest => firstFault? rest

namespace Feeder

/-- The items that are not taken yet. -/
def rest : Feeder → List Item
  | .taking rest | .announcing _ _ rest | .submitting _ rest | .reporting _ rest => rest
  | .done => []

/-- The accepted items that are not announced yet. -/
def ahead (o : RunOptions) : Feeder → List Discovered
  | .announcing d _ rest => d :: o.scope rest
  | f => o.scope f.rest

/-- The announced item that the feeder is about to hand on. -/
def held : Feeder → List Discovered
  | .submitting c _ => [.case c]
  | .reporting m _ => [.malformed m]
  | _ => []

end Feeder

namespace Worker

/-- The case of a worker that has no result yet. -/
def held? : Worker → Option Discovered
  | .holding c | .evaluating c => some (.case c)
  | _ => none

def evaluated? : Worker → Option Case
  | .evaluating c => some c
  | _ => none

def result? : Worker → Option Result
  | .sending r => some r
  | _ => none

end Worker

namespace Event

def item? : Event → Option Discovered
  | .announced d => some d
  | _ => none

def result? : Event → Option Result
  | .finished r => some r
  | _ => none

def fault? : Event → Option Abort
  | .fault a => some a
  | _ => none

/-- What the tally is told when an event is received. -/
def call? : Event → Option Tally.Call
  | .announced d => some (.expect d.id d.path d.sectionKey)
  | .finished r => some (.record r)
  | .fault _ => none

end Event

namespace Note

/-- The item that came to its end. -/
def item? : Note → Option Discovered
  | .skipped d => some d
  | .answered c _ _ => some (.case c)
  | .reported m => some (.malformed m)
  | _ => none

/-- The result that an item came to. -/
def result? (o : RunOptions) : Note → Option Result
  | .answered c a elapsed => some (c.resultOf o.budget a elapsed)
  | .reported m => some (.ofMalformed m)
  | _ => none

def event? : Note → Option Event
  | .received e => some e
  | _ => none

def handed? : Note → Option Case
  | .handed c => some c
  | _ => none

def answer? : Note → Option (Case × Answer)
  | .answered c a _ => some (c, a)
  | _ => none

end Note

def received (notes : List Note) : List Event := notes.filterMap Note.event?

namespace State

/-- The events that were sent, in order. -/
def sent (notes : List Note) (s : State) : List Event := received notes ++ s.events

/-- The journal and the state of a run agree on what became of the items. -/
structure Balanced (o : RunOptions) (items : List Item) (notes : List Note) (s : State) : Prop where
  tally : s.tally = .ofCalls ((received notes).filterMap Event.call?)
  fault : s.fault? = ((received notes).filterMap Event.fault?).head?
  announced : (s.sent notes).filterMap Event.item? ++ s.feeder.ahead o = o.scope items
  faults : (s.sent notes).filterMap Event.fault? ++ (firstFault? s.feeder.rest).toList
    = (firstFault? items).toList
  items : ((s.sent notes).filterMap Event.item?).Perm
    (notes.filterMap Note.item? ++ s.feeder.held ++ s.jobs.map .case
      ++ s.workers.filterMap Worker.held?)
  results : ((s.sent notes).filterMap Event.result? ++ s.workers.filterMap Worker.result?).Perm
    (notes.filterMap (Note.result? o))
  handed : (notes.filterMap Note.handed?).Perm
    ((notes.filterMap Note.answer?).map Prod.fst ++ s.workers.filterMap Worker.evaluated?)
  history : s.history = ((notes.filterMap Note.handed?).map Case.program).reverse
  seen : ∀ d rest, s.feeder = .announcing d true rest → s.cancelled = true
  skipped : ∀ d, .skipped d ∈ notes → s.cancelled = true

variable {o : RunOptions} {items : List Item} {notes : List Note} {s t : State} {m : Move}
  {n : Option Note}

theorem count_filterMap {β : Type} [DecidableEq β] (f : Worker → Option β) (x : β)
    (workers : List Worker) :
    (workers.filterMap f).count x = (workers.map fun w => (f w).toList.count x).sum := by
  induction workers with
  | nil => rfl
  | cons w workers ih =>
    rw [List.filterMap_cons, List.map_cons, List.sum_cons, ← ih]
    cases f w <;> simp [List.count_cons, Nat.add_comm]

theorem count_filterMap_set {β : Type} [DecidableEq β] (f : Worker → Option β)
    {workers : List Worker} {i : Nat} {w : Worker} (h : workers[i]? = some w) (w' : Worker)
    (x : β) :
    ((workers.set i w').filterMap f).count x + (f w).toList.count x
      = (workers.filterMap f).count x + (f w').toList.count x := by
  rw [count_filterMap, count_filterMap]
  exact sum_map_set (fun w => (f w).toList.count x) h w'

theorem received_append (notes : List Note) (n : Option Note) :
    received (notes ++ n.toList) = received notes ++ (n.bind Note.event?).toList := by
  rw [received, List.filterMap_append, received]
  cases n with
  | none => rfl
  | some n => cases h : n.event? <;> simp [h]

theorem sent_append (notes : List Note) (n : Option Note) (s : State) :
    s.sent (notes ++ n.toList) = received notes ++ ((n.bind Note.event?).toList ++ s.events) := by
  rw [sent, received_append, List.append_assoc]

/-- An event that was received counts as sent before and after. -/
theorem sent_receive {e : Event} {events : List Event} (h : s.events = e :: events)
    (notes : List Note) :
    ({ s with events }.receive o e).sent (notes ++ [Note.received e]) = s.sent notes := by
  have hevents : ({ s with events }.receive o e).events = events := by cases e <;> rfl
  have hsent := sent_append notes (some (.received e)) ({ s with events }.receive o e)
  rw [hevents] at hsent
  refine hsent.trans ?_
  rw [sent, h]
  rfl

/-! ### What each step keeps -/

theorem tally_step (h : Step o s m n t)
    (ih : s.tally = .ofCalls ((received notes).filterMap Event.call?)) :
    t.tally = .ofCalls ((received (notes ++ n.toList)).filterMap Event.call?) := by
  rw [received_append, List.filterMap_append]
  cases h with
  | @receive e events h =>
    cases e with
    | announced d =>
      refine Eq.trans ?_ (Tally.ofCalls_concat _ _).symm
      rw [← ih]
      rfl
    | finished r =>
      refine Eq.trans ?_ (Tally.ofCalls_concat _ _).symm
      rw [← ih]
      rfl
    | fault a =>
      rw [show (Option.bind (some (Note.received (.fault a))) Note.event?).toList.filterMap
        Event.call? = [] from rfl, List.append_nil]
      exact ih
  | _ => simpa [Note.event?] using ih

theorem fault_step (h : Step o s m n t)
    (ih : s.fault? = ((received notes).filterMap Event.fault?).head?) :
    t.fault? = ((received (notes ++ n.toList)).filterMap Event.fault?).head? := by
  rw [received_append, List.filterMap_append]
  cases h with
  | @receive e events h => cases e <;> simp [Note.event?, State.receive, Event.fault?, ih]
  | _ => simpa [Note.event?] using ih

theorem announced_step (h : Step o s m n t)
    (ih : (s.sent notes).filterMap Event.item? ++ s.feeder.ahead o = o.scope items) :
    (t.sent (notes ++ n.toList)).filterMap Event.item? ++ t.feeder.ahead o = o.scope items := by
  cases h with
  | @receive e events h =>
    rw [Option.toList_some, sent_receive h]
    cases e <;> exact ih
  | _ =>
    -- what is sent here was ahead of the feeder before, so the list is cut at another place
    rw [← ih, sent_append, sent]
    simp_all [Note.event?, Feeder.ahead, Feeder.rest, RunOptions.scope, Event.item?]

theorem faults_step (h : Step o s m n t)
    (ih : (s.sent notes).filterMap Event.fault? ++ (firstFault? s.feeder.rest).toList
      = (firstFault? items).toList) :
    (t.sent (notes ++ n.toList)).filterMap Event.fault? ++ (firstFault? t.feeder.rest).toList
      = (firstFault? items).toList := by
  cases h with
  | @receive e events h =>
    rw [Option.toList_some, sent_receive h]
    cases e <;> exact ih
  | _ =>
    rw [← ih, sent_append, sent]
    simp_all [Note.event?, Feeder.rest, firstFault?, Event.fault?]

/-- Lists that agree as multisets still do after a step that adds to both what it takes from
them. -/
theorem perm_of_count {β : Type} [DecidableEq β] {before after before' after' : List β}
    (ih : before.Perm after)
    (h : ∀ x, before.count x = after.count x → before'.count x = after'.count x) :
    before'.Perm after' :=
  List.perm_iff_count.2 fun x => h x (ih.count_eq x)

theorem items_step (h : Step o s m n t)
    (ih : ((s.sent notes).filterMap Event.item?).Perm
      (notes.filterMap Note.item? ++ s.feeder.held ++ s.jobs.map .case
        ++ s.workers.filterMap Worker.held?)) :
    ((t.sent (notes ++ n.toList)).filterMap Event.item?).Perm
      ((notes ++ n.toList).filterMap Note.item? ++ t.feeder.held ++ t.jobs.map .case
        ++ t.workers.filterMap Worker.held?) := by
  cases h with
  | @receive e events h =>
    rw [Option.toList_some, sent_receive h, List.filterMap_append]
    cases e <;> simpa [Note.item?, State.receive, List.filterMap_cons] using ih
  | take hi | stop hi | skip hi | hand hi | answer hi | deliver hi =>
    -- one item changes hands between the queue, this worker and the journal
    refine perm_of_count ih fun d hd => ?_
    have hset := count_filterMap_set Worker.held? hi
    rw [sent] at hd
    rw [sent_append]
    grind [Worker.held?, Note.item?, Note.event?, Event.item?]
  | _ =>
    refine perm_of_count ih fun d hd => ?_
    rw [sent] at hd
    rw [sent_append]
    grind [Feeder.held, Note.item?, Note.event?, Event.item?]

theorem results_step (h : Step o s m n t)
    (ih : ((s.sent notes).filterMap Event.result? ++ s.workers.filterMap Worker.result?).Perm
      (notes.filterMap (Note.result? o))) :
    ((t.sent (notes ++ n.toList)).filterMap Event.result?
      ++ t.workers.filterMap Worker.result?).Perm
      ((notes ++ n.toList).filterMap (Note.result? o)) := by
  cases h with
  | @receive e events h =>
    rw [Option.toList_some, sent_receive h, List.filterMap_append]
    cases e <;> simpa [Note.result?, State.receive, List.filterMap_cons] using ih
  | take hi | stop hi | skip hi | hand hi | answer hi | deliver hi =>
    refine perm_of_count ih fun r hr => ?_
    have hset := count_filterMap_set Worker.result? hi
    rw [sent] at hr
    rw [sent_append]
    grind [Worker.result?, Note.result?, Note.event?, Event.result?]
  | _ =>
    refine perm_of_count ih fun r hr => ?_
    rw [sent] at hr
    rw [sent_append]
    grind [Note.result?, Note.event?, Event.result?]

theorem handed_step (h : Step o s m n t)
    (ih : (notes.filterMap Note.handed?).Perm
      ((notes.filterMap Note.answer?).map Prod.fst ++ s.workers.filterMap Worker.evaluated?)) :
    ((notes ++ n.toList).filterMap Note.handed?).Perm
      (((notes ++ n.toList).filterMap Note.answer?).map Prod.fst
        ++ t.workers.filterMap Worker.evaluated?) := by
  cases h with
  | @receive e events h =>
    cases e <;> simpa [Note.handed?, Note.answer?, State.receive, List.filterMap_cons] using ih
  | take hi | stop hi | skip hi | hand hi | answer hi | deliver hi =>
    refine perm_of_count ih fun c hc => ?_
    have hset := count_filterMap_set Worker.evaluated? hi
    grind [Worker.evaluated?, Note.handed?, Note.answer?]
  | _ => simpa [Note.handed?, Note.answer?, List.filterMap_cons] using ih

theorem history_step (h : Step o s m n t)
    (ih : s.history = ((notes.filterMap Note.handed?).map Case.program).reverse) :
    t.history = (((notes ++ n.toList).filterMap Note.handed?).map Case.program).reverse := by
  rw [List.filterMap_append, List.map_append, List.reverse_append, ← ih]
  cases h with
  | @receive e events h => cases e <;> rfl
  | _ => rfl

theorem cancelled_step (h : Step o s m n t) (hc : s.cancelled = true) : t.cancelled = true := by
  cases h with
  | @receive e events h =>
    cases e with
    | announced d => exact hc
    | finished r => exact Bool.or_eq_true_iff.2 (.inl hc)
    | fault a => rfl
  | cancel => rfl
  | _ => exact hc

theorem seen_step (h : Step o s m n t)
    (ih : ∀ d rest, s.feeder = .announcing d true rest → s.cancelled = true) (d : Discovered)
    (rest : List Item) (hf : t.feeder = .announcing d true rest) : t.cancelled = true := by
  have hold := fun hf => cancelled_step h (ih d rest hf)
  cases h with
  | accept => exact (Feeder.announcing.inj hf).2.1
  | @receive e events h => cases e <;> exact hold hf
  | exhaust | abort | reject | leave | announceCase | announceMalformed | submit | report =>
    cases hf
  | _ => exact hold hf

theorem skipped_step (h : Step o s m n t)
    (hseen : ∀ d rest, s.feeder = .announcing d true rest → s.cancelled = true)
    (ih : ∀ d, .skipped d ∈ notes → s.cancelled = true) (d : Discovered)
    (hd : .skipped d ∈ notes ++ n.toList) : t.cancelled = true := by
  rcases List.mem_append.1 hd with hd | hd
  · exact cancelled_step h (ih d hd)
  · cases h with
    | leave hf => exact hseen _ _ hf
    | skip hi hcancelled => exact hcancelled
    | _ => simp at hd

/-! ### Every run is balanced -/

theorem balanced_start (o : RunOptions) (items : List Item) (cancelled : Bool) :
    (start o items cancelled).Balanced o items [] := by
  have hsent : (start o items cancelled).sent [] = [] := rfl
  have hworkers {β : Type} (f : Worker → Option β) (hf : f .idle = none) :
      (start o items cancelled).workers.filterMap f = [] := by
    rw [List.filterMap_eq_nil_iff]
    intro w hw
    rw [List.eq_of_mem_replicate hw, hf]
  refine ⟨rfl, rfl, rfl, rfl, ?_, ?_, ?_, rfl, nofun, nofun⟩
  · rw [hsent, hworkers Worker.held? rfl]
    exact .nil
  · rw [hsent, hworkers Worker.result? rfl]
    exact .nil
  · rw [hworkers Worker.evaluated? rfl]
    exact .nil

theorem Balanced.step (hb : s.Balanced o items notes) (h : Step o s m n t) :
    t.Balanced o items (notes ++ n.toList) where
  tally := tally_step h hb.tally
  fault := fault_step h hb.fault
  announced := announced_step h hb.announced
  faults := faults_step h hb.faults
  items := items_step h hb.items
  results := results_step h hb.results
  handed := handed_step h hb.handed
  history := history_step h hb.history
  seen := seen_step h hb.seen
  skipped := skipped_step h hb.seen hb.skipped

theorem balanced_of_follow {cancelled : Bool} {moves : List Move}
    (h : (start o items cancelled).follow o moves = some t) :
    t.Balanced o items ((start o items cancelled).journal o moves) :=
  run_induction (P := fun notes s => s.Balanced o items notes)
    (balanced_start o items cancelled) (fun _ _ _ _ _ _ hb hstep => hb.step hstep) h

theorem Balanced.announced_sublist (hb : s.Balanced o items notes) :
    ((s.sent notes).filterMap Event.item?).Sublist (o.scope items) := by
  rw [← hb.announced]
  exact List.sublist_append_left _ _

/-- What came to its end was announced before, and so accepted. -/
theorem Balanced.ended_subperm (hb : s.Balanced o items notes) :
    (notes.filterMap Note.item?).Subperm (o.scope items) := by
  refine .trans ?_ hb.announced_sublist.subperm
  refine .trans (List.Sublist.subperm ?_) hb.items.symm.subperm
  rw [List.append_assoc, List.append_assoc]
  exact List.sublist_append_left _ _

end State

end Pool

end Conformance
