import Conformance.Proofs.Pool.Accounting
import Conformance.Proofs.Pool.Fault
import Conformance.Proofs.Pool.Order
import Conformance.Proofs.Pool.Sequential
import Mathlib.Data.List.Chain

/-!
# Runs that share a token

Several runs may be made with one token, one after the other. Each starts with the token as the one
before has left it, and nobody ever takes it back. So once it is set, be it from outside, at the
limit or by a fault, it is set in every later run from its first move on, and such a run does
nothing: the feeder announces what it takes and hands none of it on, cases and malformed ones alike
(`Barred`). All that is accepted is left out, and the summary names it.
-/

namespace Conformance

/-- The summary of a run that has left out everything that was accepted. -/
structure Summary.LeavesOut (accepted : List Discovered) (s : Summary) : Prop where
  total : s.total = 0
  passed : s.passed = 0
  failed : s.failed = 0
  crashed : s.crashed = 0
  sections : s.sections = .empty
  failures : s.failures = []
  notRun : s.notRun.Perm (accepted.map Discovered.id)
  notRun_sorted : s.notRun.Pairwise fun a b => Text.Utf8.octets a ≤ Text.Utf8.octets b
  success_iff : s.success = true ↔ accepted = []

namespace Pool

namespace State

variable {o : RunOptions} {items : List Item} {found : List Discovered} {cancelled : Bool}
  {moves : List Move} {notes : List Note} {s t : State} {m : Move} {n : Option Note}

/-! ### What sets the token -/

theorem cancelled_of_start (h : (start o items true).follow o moves = some t) :
    t.cancelled = true := by
  apply run_induction (P := fun _ t => t.cancelled = true) rfl ?_ h
  intro _ s m n t _ hc hstep
  exact cancelled_step hstep hc

theorem cancelled_of_cancel (h : (start o items cancelled).follow o moves = some t)
    (hm : .cancel ∈ moves) : t.cancelled = true := by
  by_contra hquiet
  have hworking := working_of_follow h (Bool.eq_false_iff.2 hquiet) .cancel hm
  cases hworking

theorem cancelled_of_limitReached_step (h : Step o s m n t)
    (ih : s.tally.recorded ≠ [] → limitReached o s.tally = true → s.cancelled = true)
    (hrecorded : t.tally.recorded ≠ []) (hlimit : limitReached o t.tally = true) :
    t.cancelled = true := by
  cases h with
  | @receive e events h =>
    cases e with
    | announced d =>
      -- an announcement changes nothing that the limit is about
      have hkept : (s.tally.expect d.id d.path d.sectionKey).recorded = s.tally.recorded ∧
          (s.tally.expect d.id d.path d.sectionKey).failures = s.tally.failures := by
        rw [Tally.expect]
        split <;> exact ⟨rfl, rfl⟩
      simp only [receive, limitReached, Tally.failingCount, hkept] at hrecorded hlimit
      exact ih hrecorded hlimit
    | finished r => exact Bool.or_eq_true_iff.2 (.inr hlimit)
    | fault a => rfl
  | cancel => rfl
  | _ => exact ih hrecorded hlimit

/-- Whoever has received a result and counts as many failures as the limit has set the token. -/
theorem cancelled_of_limitReached (h : (start o items cancelled).follow o moves = some t)
    (hrecorded : t.tally.recorded ≠ []) (hlimit : limitReached o t.tally = true) :
    t.cancelled = true := by
  apply run_induction
    (P := fun _ t => t.tally.recorded ≠ [] → limitReached o t.tally = true → t.cancelled = true)
    ?_ ?_ h hrecorded hlimit
  · intro hne
    exact absurd rfl hne
  · intro _ s m n t _ ih hstep
    exact cancelled_of_limitReached_step hstep ih

/-! ### A run that starts with the token set -/

/-- The token is set, nothing is on its way from the feeder, and nothing has come to a result. -/
structure Barred (notes : List Note) (s : State) : Prop where
  cancelled : s.cancelled = true
  announcing : ∀ d rest, s.feeder ≠ .announcing d false rest
  held : s.feeder.held = []
  handed : notes.filterMap Note.handed? = []
  reported : ∀ m, .reported m ∉ notes

theorem Barred.step (hb : s.Barred notes) (h : Step o s m n t) : t.Barred (notes ++ n.toList) := by
  refine ⟨cancelled_step h hb.cancelled, ?_, ?_, ?_, ?_⟩
  · intro d rest hf
    cases h with
    | accept => exact Bool.noConfusion (hb.cancelled.symm.trans (Feeder.announcing.inj hf).2.1)
    | @receive e events h => cases e <;> exact hb.announcing d rest hf
    | exhaust | abort | reject | leave | announceCase | announceMalformed | submit | report =>
      cases hf
    | _ => exact hb.announcing d rest hf
  · cases h with
    | announceCase h | announceMalformed h => exact absurd h (hb.announcing _ _)
    | @receive e events h => cases e <;> exact hb.held
    | exhaust | abort | reject | accept | leave | submit | report => rfl
    | _ => exact hb.held
  · rw [handed_of_cancelled_step h hb.cancelled, hb.handed]
  · intro m' hm'
    rcases List.mem_append.1 hm' with hm' | hm'
    · exact hb.reported m' hm'
    · cases h with
      | report h =>
        have hheld := hb.held
        rw [h] at hheld
        cases hheld
      | _ => simp at hm'

theorem barred_of_follow (h : (start o items true).follow o moves = some t) :
    t.Barred ((start o items true).journal o moves) := by
  apply run_induction (P := fun notes t => t.Barred notes) ?_ ?_ h
  · exact ⟨rfl, nofun, rfl, rfl, fun _ => List.not_mem_nil⟩
  · intro notes s m n t _ hb hstep
    exact hb.step hstep

theorem Barred.results_eq_nil (hb : t.Barred notes) (h : t.Settled o items notes) :
    notes.filterMap (Note.result? o) = [] := by
  rw [List.filterMap_eq_nil_iff]
  intro n hn
  cases n with
  | answered c a elapsed =>
    have hanswer : (c, a) ∈ notes.filterMap Note.answer? := List.mem_filterMap.2 ⟨_, hn, rfl⟩
    have hhanded := h.handed.mem_iff.2 (List.mem_map_of_mem hanswer)
    rw [hb.handed] at hhanded
    cases hhanded
  | reported m => exact absurd hn (hb.reported m)
  | skipped | handed | received | cancelled => rfl

/-- If no accepted path has a result, the cases that are pending are the accepted ones. -/
theorem Settled.pending_ids_perm (h : t.Settled o items notes)
    (hdistinct : Path.Distinct ((o.scope items).map Discovered.path))
    (hrecorded : t.tally.recorded = []) :
    (t.tally.pending.map Pending.id).Perm ((o.scope items).map Discovered.id) := by
  have hnodup : ((o.scope items).map (·.path.parts)).Nodup := by
    rw [Path.distinct_iff_nodup, List.map_map] at hdistinct
    exact hdistinct
  have hpaths : (t.tally.pending.map (·.path.parts)).Perm ((o.scope items).map (·.path.parts)) := by
    have := h.paths_perm
    rw [hrecorded, List.append_nil, List.map_map, hnodup.dedup] at this
    exact this
  -- a path stands for one item, so it is enough to compare paths and names together
  have hpairs : (t.tally.pending.map fun p => (p.path.parts, p.id)).Perm
      ((o.scope items).map fun d => (d.path.parts, d.id)) := by
    apply List.Subperm.perm_of_length_le
    · apply List.subperm_of_subset
      · apply List.Nodup.of_map Prod.fst
        rw [List.map_map]
        exact hpaths.nodup_iff.2 hnodup
      · intro pair hpair
        obtain ⟨p, hp, rfl⟩ := List.mem_map.1 hpair
        obtain ⟨d, hd, hid, _, hsame⟩ := h.exists_item_of_pending hp
        exact List.mem_map.2 ⟨d, hd, Prod.ext hsame hid.symm⟩
    · have hlength := hpaths.length_eq
      rw [List.length_map, List.length_map] at hlength ⊢
      exact hlength.ge
  have hids := hpairs.map Prod.snd
  rwa [List.map_map, List.map_map] at hids

/-- A run that starts with the token set leaves out everything that is accepted. -/
theorem exists_leavesOut (hrun : (start o (found.map .ok) true).follow o moves = some t)
    (hfinished : t.finished = true)
    (hdistinct : Path.Distinct ((found.filter o.accepts).map Discovered.path)) :
    ∃ s, t.outcome = .ok s ∧ s.LeavesOut (found.filter o.accepts) := by
  have h := settled_of_follow hrun hfinished
  have hresults := (barred_of_follow hrun).results_eq_nil h
  have hcounted : Tally.counted (calls ((start o (found.map .ok) true).journal o moves)) = [] := by
    rw [List.eq_nil_iff_forall_not_mem]
    intro r hr
    have hmem := h.mem_results_of_counted hr
    rw [hresults] at hmem
    cases hmem
  have htally := h.tally_eq
  rw [hcounted] at htally
  have hids := h.pending_ids_perm ((scope_map_ok o found).symm ▸ hdistinct) (by rw [htally]; rfl)
  rw [scope_map_ok] at hids
  refine ⟨_, h.outcome (firstFault?_map_ok found), ?_⟩
  rw [htally]
  refine ⟨rfl, rfl, rfl, rfl, rfl, List.mergeSort_nil, (List.mergeSort_perm _ _).trans hids,
    Text.pairwise_sort _, ?_⟩
  rw [Tally.success_summary_iff]
  have hnil : t.tally.pending.map Pending.id = [] ↔ found.filter o.accepts = [] := by
    rw [← List.length_eq_zero_iff, hids.length_eq, List.length_map, List.length_eq_zero_iff]
  exact ⟨fun hs => hnil.1 hs.2, fun haccepted => ⟨rfl, hnil.2 haccepted⟩⟩

end State

open State

/-- One of several runs that share a token. -/
structure Round where
  items : List Item
  /-- What the token says when the run starts. -/
  cancelled : Bool
  moves : List Move
  /-- The state that the moves lead to. -/
  last : State

/-- Something in the run has set the token, or it was set before. The limit is looked at whenever a
result comes in, so where it is zero it takes one result to reach it. -/
inductive Round.Cancels (o : RunOptions) (r : Round) : Prop
  | before (h : r.cancelled = true)
  | outside (h : .cancel ∈ r.moves)
  | limit (h : limitReached o r.last.tally = true) (hrecorded : r.last.tally.recorded ≠ [])
  | fault {a : Abort} (h : .error a ∈ r.items)

/-- Runs with one set of options, one after the other. Each starts when the one before has come to
its end, with the token as that one left it unless somebody has set it in between. -/
structure Session (o : RunOptions) (rounds : List Round) : Prop where
  follow : ∀ r ∈ rounds, (start o r.items r.cancelled).follow o r.moves = some r.last
  chain : rounds.IsChain fun r r' =>
    r.last.finished = true ∧ (r.last.cancelled = true → r'.cancelled = true)

theorem exists_firstFault? {items : List Item} {a : Abort} (h : .error a ∈ items) :
    ∃ b, firstFault? items = some b := by
  cases hfault : firstFault? items with
  | none => exact absurd h (error_not_mem hfault a)
  | some b => exact ⟨b, rfl⟩

variable {o : RunOptions} {r : Round} {rounds : List Round}

theorem Round.Cancels.cancelled (h : r.Cancels o)
    (hrun : (start o r.items r.cancelled).follow o r.moves = some r.last)
    (hfinished : r.last.finished = true) : r.last.cancelled = true := by
  cases h with
  | before h =>
    rw [h] at hrun
    exact cancelled_of_start hrun
  | outside h => exact cancelled_of_cancel hrun h
  | limit h hrecorded => exact cancelled_of_limitReached hrun hrecorded h
  | fault h =>
    obtain ⟨b, hb⟩ := exists_firstFault? h
    exact cancelled_of_fault hrun ((settled_of_follow hrun hfinished).fault.trans hb)

namespace Session

theorem of_append {before : List Round} (h : Session o (before ++ rounds)) : Session o rounds :=
  ⟨fun r' hr' => h.follow r' (List.mem_append_right before hr'), h.chain.right_of_append⟩

/-- Whatever sets the token in a run or before it, it is set in all later runs. -/
theorem cancelled_of_cancels (h : Session o (r :: rounds)) (hr : r.Cancels o) :
    ∀ later ∈ rounds, later.cancelled = true := by
  induction rounds generalizing r with
  | nil => exact fun _ hmem => absurd hmem List.not_mem_nil
  | cons next rounds ih =>
    obtain ⟨⟨hfinished, hnext⟩, _⟩ := List.isChain_cons_cons.1 h.chain
    have hcancelled := hnext (hr.cancelled (h.follow r List.mem_cons_self) hfinished)
    have hsplit : Session o ([r] ++ next :: rounds) := h
    exact List.forall_mem_cons.2 ⟨hcancelled, ih hsplit.of_append (.before hcancelled)⟩

/-- Once the token is set before a run starts, from outside or by an earlier run, that run and every
later one hands nothing to the engine. Over what was found, no accepted paths of which are the same,
such a run comes to its end with a summary that leaves out everything that is accepted. -/
theorem leaves_out_of_cancelled {before after : List Round}
    (h : Session o (before ++ r :: after))
    (hset : r.cancelled = true ∨ ∃ earlier ∈ before, earlier.Cancels o) :
    ∀ later ∈ r :: after, later.cancelled = true ∧ later.last.history = [] ∧
      ∀ found : List Discovered, later.items = found.map .ok →
        Path.Distinct ((found.filter o.accepts).map Discovered.path) →
        (later.moves.filter Move.working).length ≤ moveBound o later.items ∧
        (later.last.Halted o → later.last.finished = true ∧
          ∃ s, later.last.outcome = .ok s ∧ s.LeavesOut (found.filter o.accepts)) := by
  have hlater : ∀ later ∈ r :: after, later.cancelled = true := by
    rcases hset with hset | ⟨earlier, hearlier, hcancels⟩
    · exact List.forall_mem_cons.2 ⟨hset, h.of_append.cancelled_of_cancels (.before hset)⟩
    · obtain ⟨front, between, rfl⟩ := List.append_of_mem hearlier
      rw [List.append_assoc, List.cons_append] at h
      intro later hmem
      exact h.of_append.cancelled_of_cancels hcancels later (List.mem_append_right _ hmem)
  intro later hmem
  have hcancelled := hlater later hmem
  have hrun := h.follow later (List.mem_append_right _ hmem)
  rw [hcancelled] at hrun
  have hbarred := barred_of_follow hrun
  refine ⟨hcancelled, ?_, fun found hfound hdistinct => ⟨length_le_moveBound hrun, ?_⟩⟩
  · rw [(balanced_of_follow hrun).history, hbarred.handed]
    rfl
  · intro hhalted
    have hfinished := (sound_of_follow hrun).finished_of_halted hhalted
    rw [hfound] at hrun
    exact ⟨hfinished, exists_leavesOut hrun hfinished hdistinct⟩

/-- A malformed case, which is one failure. -/
def onlyMalformed : List Discovered := [.malformed ⟨.ofText "x.js", "x", "bad"⟩]

def limitReachedAtOnce : List Move := .replicate 4 .feed ++ [.work 0] ++ .replicate 3 .collect

/-- What is found the next time, not in the order of the names. -/
def foundLater : List Discovered :=
  [.case (.plain "z.js" none), .malformed ⟨.ofText "m.js", "m", "bad"⟩, .case (.plain "a.js" none)]

def allLeftOut : List Move := .replicate 7 .feed ++ [.work 0] ++ .replicate 4 .collect

theorem leaves_out_of_cancelled_limitReachedAtOnce :
    ∃ t t', Session firstFailureEnds
        [⟨onlyMalformed.map .ok, false, limitReachedAtOnce, t⟩,
          ⟨foundLater.map .ok, true, allLeftOut, t'⟩] ∧
      Round.Cancels firstFailureEnds ⟨onlyMalformed.map .ok, false, limitReachedAtOnce, t⟩ ∧
      t'.history = [] ∧
      ∃ s, t'.outcome = .ok s ∧ s.LeavesOut (foundLater.filter firstFailureEnds.accepts) := by
  obtain ⟨t, hrun, hfinished, hlimit, hrecorded⟩ :
      ∃ t, (start firstFailureEnds (onlyMalformed.map .ok) false).follow firstFailureEnds
          limitReachedAtOnce = some t ∧ t.finished = true ∧
        limitReached firstFailureEnds t.tally = true ∧ t.tally.recorded ≠ [] :=
    ⟨_, rfl, rfl, rfl, List.cons_ne_nil _ _⟩
  obtain ⟨t', hrun', hfinished'⟩ :
      ∃ t', (start firstFailureEnds (foundLater.map .ok) true).follow firstFailureEnds allLeftOut
          = some t' ∧ t'.finished = true := ⟨_, rfl, rfl⟩
  let first : Round := ⟨onlyMalformed.map .ok, false, limitReachedAtOnce, t⟩
  let second : Round := ⟨foundLater.map .ok, true, allLeftOut, t'⟩
  have hsession : Session firstFailureEnds ([first] ++ second :: []) := by
    refine ⟨fun r hr => ?_, List.isChain_pair.2 ⟨hfinished, fun _ => rfl⟩⟩
    rcases List.mem_pair.1 hr with rfl | rfl
    · exact hrun
    · exact hrun'
  have hcancels : first.Cancels firstFailureEnds := .limit hlimit hrecorded
  obtain ⟨_, hhistory, hfound⟩ := leaves_out_of_cancelled hsession
    (.inr ⟨first, List.mem_singleton_self first, hcancels⟩) second List.mem_cons_self
  have hleft := (hfound foundLater rfl (by decide)).2 (halted_of_finished hfinished')
  exact ⟨t, t', hsession, hcancels, hhistory, hleft.2⟩

end Session

end Pool

end Conformance
