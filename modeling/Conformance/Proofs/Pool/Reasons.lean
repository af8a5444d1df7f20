import Conformance.Proofs.Pool.Accounting
import Conformance.Settings

/-!
# Why cases did not pass

Results are made in different places: of what an engine answered, of a malformed file, and of a
case that was left without one. `Reason.Fits` says for each reason which verdict stands beside it
and what must have happened, as a note of the journal. Every result of a run that is no pass has a
reason that fits (`Pool.Note.exists_reason`), and the entries of a summary are copies of such
results.
-/

namespace Conformance

open Pool

theorem Duration.milliseconds_ofMilliseconds {n : Nat} (h : n < Word.size) :
    (ofMilliseconds n).milliseconds = n := by
  rw [milliseconds, ofMilliseconds, Nat.mul_div_cancel n (by decide), Nat.mod_eq_of_lt h]

theorem Settings.milliseconds_timeout {s : Settings} (h : s.timeoutMs < Word.size) :
    s.timeout.milliseconds = s.timeoutMs := Duration.milliseconds_ofMilliseconds h

namespace Expectation

theorem describe_ne_of_accepts_eq_false {e : Expectation} {kind : String}
    (h : e.accepts kind = false) : e = .kind e.describe ∧ e.describe ≠ kind := by
  cases e with
  | anyError => cases h
  | kind name =>
    rw [accepts, beq_eq_false_iff_ne] at h
    exact ⟨rfl, h⟩

end Expectation

/-- The reason fits the verdict beside it and the note `n` of what became of the item. -/
def Reason.Fits (budget : Duration) (n : Note) (verdict : Verdict) : Reason → Prop
  | .malformed detail => verdict = .crash ∧ ∃ m, n = .reported m ∧ m.detail = detail
  | .assertionFailed name message => verdict = .fail ∧ ∃ c primitive elapsed,
      n = .answered c (.outcome (.reported primitive message)) elapsed ∧ primitive.name = name
  | .unexpectedError kind message none => verdict = .crash ∧ ∃ c elapsed,
      n = .answered c (.outcome (.threw kind message)) elapsed ∧ c.metadata.expectation? = none
  | .unexpectedError kind message (some expected) => verdict = .fail ∧ expected ≠ kind ∧
      ∃ c elapsed, n = .answered c (.outcome (.threw kind message)) elapsed ∧
        c.metadata.expectation? = some (.kind expected)
  | .expectedErrorMissing expected => verdict = .fail ∧ ∃ c elapsed e,
      n = .answered c (.outcome .completed) elapsed ∧ c.metadata.expectation? = some e ∧
        e.describe = expected
  | .timeout milliseconds => verdict = .crash ∧
      (∃ c elapsed, n = .answered c (.outcome .timedOut) elapsed) ∧
      ∀ s : Settings, s.timeoutMs < Word.size → s.timeout = budget → milliseconds = s.timeoutMs
  | .engineFault detail => verdict = .crash ∧ ∃ c a elapsed,
      n = .answered c a elapsed ∧ a.capture = .error detail
  | .notExecuted => False

/-- The entry says why the item `d` did not pass, `n` being the note of what became of it. -/
structure Failure.Explains (budget : Duration) (n : Note) (d : Discovered) (reason : Reason)
    (f : Failure) : Prop where
  id : f.id = d.id
  path : f.path = d.path.text
  sectionKey : f.sectionKey = d.sectionKey
  reason? : f.reason? = some reason
  fits : reason.Fits budget n f.verdict
  /-- What was reported is repeated as it is. -/
  reported : ∀ name message, reason = .assertionFailed name message → f.message = message
  described : (∀ name message, reason ≠ .assertionFailed name message) →
    f.message = reason.describe

theorem Reason.message_eq_describe {r : Reason}
    (h : ∀ name message, r ≠ .assertionFailed name message) : r.message = r.describe := by
  cases r with
  | assertionFailed name message => exact absurd rfl (h name message)
  | malformed | unexpectedError | expectedErrorMissing | timeout | engineFault | notExecuted => rfl

theorem Case.message_resultOf (c : Case) (budget : Duration) (a : Answer) (elapsed : Duration) :
    (c.resultOf budget a elapsed).message
      = ((c.resultOf budget a elapsed).reason?.map Reason.message).getD "" := rfl

theorem Case.exists_reason_resultOf (c : Case) (budget : Duration) (a : Answer)
    (elapsed : Duration) (h : (c.resultOf budget a elapsed).verdict ≠ .pass) :
    ∃ reason, (c.resultOf budget a elapsed).reason? = some reason ∧
      reason.Fits budget (.answered c a elapsed) (c.resultOf budget a elapsed).verdict := by
  -- two of the ways to go on are passes: to complete as expected, and to raise what is expected
  simp only [resultOf, result, Result.make] at h ⊢
  cases hcapture : a.capture with
  | error detail => exact ⟨_, rfl, rfl, c, a, elapsed, rfl, hcapture⟩
  | ok outcome =>
    obtain rfl := Answer.capture_eq_ok_iff.1 hcapture
    rw [hcapture] at h
    cases outcome with
    | timedOut =>
      refine ⟨_, rfl, rfl, ⟨c, elapsed, rfl⟩, fun s hs hbudget => ?_⟩
      rw [← hbudget]
      exact Settings.milliseconds_timeout hs
    | reported primitive message => exact ⟨_, rfl, rfl, c, primitive, elapsed, rfl, rfl⟩
    | completed =>
      cases he : c.metadata.expectation? with
      | none => exact absurd (by rw [he]; rfl) h
      | some e => exact ⟨_, rfl, rfl, c, elapsed, e, rfl, he, rfl⟩
    | threw kind message =>
      cases he : c.metadata.expectation? with
      | none => exact ⟨_, rfl, rfl, c, elapsed, rfl, he⟩
      | some e =>
        rw [he] at h
        cases haccepts : e.accepts kind with
        | true => exact absurd (by simp only [judge, haccepts, if_true]) h
        | false =>
          obtain ⟨hkind, hne⟩ := e.describe_ne_of_accepts_eq_false haccepts
          simp only [judge, haccepts]
          exact ⟨_, rfl, rfl, hne, c, elapsed, rfl, hkind ▸ he⟩

namespace Pool

/-- A result that is no pass has a reason that fits its note, and the message of that reason. -/
theorem Note.exists_reason {o : RunOptions} {n : Note} {r : Result} (h : n.result? o = some r)
    (hfailing : r.verdict ≠ .pass) :
    ∃ reason, r.reason? = some reason ∧ r.message = reason.message ∧
      reason.Fits o.budget n r.verdict := by
  cases n with
  | answered c a elapsed =>
    cases h
    obtain ⟨reason, hreason, hfits⟩ := c.exists_reason_resultOf o.budget a elapsed hfailing
    refine ⟨reason, hreason, ?_, hfits⟩
    rw [c.message_resultOf, hreason]
    rfl
  | reported m =>
    cases h
    exact ⟨_, rfl, rfl, rfl, m, rfl, rfl⟩
  | skipped | handed | received | cancelled => cases h

namespace State

variable {o : RunOptions} {items : List Item} {notes : List Note} {t : State}

theorem Settled.exists_explains (h : t.Settled o items notes) {notRun : List String} {f : Failure}
    (hf : f ∈ (t.tally.summary notRun).failures) :
    ∃ n ∈ notes, ∃ d ∈ o.scope items, n.item? = some d ∧
      ∃ reason, f.Explains o.budget n d reason := by
  obtain ⟨r, hr, hfailing, rfl⟩ := h.exists_result_of_failure hf
  obtain ⟨n, hn, hnr⟩ := List.mem_filterMap.1 hr
  obtain ⟨d, hd, hof⟩ := n.exists_item_of_result hnr
  obtain ⟨reason, hreason, hmessage, hfits⟩ := n.exists_reason hnr hfailing
  have hscope : d ∈ o.scope items := h.items.mem_iff.2 (List.mem_filterMap.2 ⟨n, hn, hd⟩)
  refine ⟨n, hn, d, hscope, hd, reason, hof.id, congrArg Path.text hof.path, hof.sectionKey,
    hreason, hfits, ?_, fun hother => hmessage.trans (reason.message_eq_describe hother)⟩
  rintro name message rfl
  exact hmessage

/-- Every entry of a run's summary says of an accepted item why it did not pass, and reason, verdict
and message of it fit what happened to that item. What a case comes to does not depend on messages,
budget and time. -/
theorem failures_explained_of_follow {cancelled : Bool} {moves : List Move} {summary : Summary}
    (hrun : (start o items cancelled).follow o moves = some t) (hfinished : t.finished = true)
    (hok : t.outcome = .ok summary) :
    (∀ f ∈ summary.failures, ∃ n ∈ (start o items cancelled).journal o moves,
      ∃ d ∈ o.accepted items, n.item? = some d ∧ ∃ reason, f.Explains o.budget n d reason) ∧
    ∀ (c : Case) (u v : Trace), u.bare = v.bare → (c.result u).verdict = (c.result v).verdict := by
  have h := settled_of_follow hrun hfinished
  have hfault := h.firstFault?_eq_none hok
  refine ⟨fun f hf => ?_, fun c u v hbare => ?_⟩
  · rw [h.outcome hfault] at hok
    cases hok
    rw [← o.scope_eq_accepted hfault]
    exact h.exists_explains hf
  · rw [← c.verdict_result_bare u, hbare, c.verdict_result_bare]

/-- One worker, and a quarter of a second for a case. -/
def quarterSecond : RunOptions := ⟨1, none, none, .ofMilliseconds 250⟩

/-- A case that expects an error of a kind, one that expects none, and a malformed one. -/
def negativePlainMalformed : List Item :=
  [.ok (.case (.plain "a.js" (some (.kind "RangeError")))), .ok (.case (.plain "b.js" none)),
    .ok (.malformed ⟨.ofText "c.js", "c", "bad"⟩)]

/-- An error of another kind is raised, and the other case takes too long. -/
def raisedThenTimedOut : List Move :=
  [.feed, .feed, .feed, .feed, .feed, .feed, .feed, .feed, .feed, .feed,
    .work 0, .work 0, .answer 0 (.outcome (.threw "TypeError" "x")) ⟨0⟩, .work 0,
    .work 0, .work 0, .answer 0 (.outcome .timedOut) ⟨0⟩, .work 0, .work 0]
    ++ .replicate 7 .collect

theorem failures_explained_raisedThenTimedOut :
    ∃ t summary, (start quarterSecond negativePlainMalformed false).follow quarterSecond
        raisedThenTimedOut = some t ∧
      t.finished = true ∧ t.outcome = .ok summary ∧ summary.failures.length = 3 ∧
      (∀ f ∈ summary.failures,
        ∃ n ∈ (start quarterSecond negativePlainMalformed false).journal quarterSecond
          raisedThenTimedOut,
        ∃ d ∈ quarterSecond.accepted negativePlainMalformed, n.item? = some d ∧
          ∃ reason, f.Explains quarterSecond.budget n d reason) ∧
      ∀ (c : Case) (u v : Trace), u.bare = v.bare →
        (c.result u).verdict = (c.result v).verdict := by
  obtain ⟨t, hrun, hfinished, hok, hpending, hthree⟩ :
      ∃ t, (start quarterSecond negativePlainMalformed false).follow quarterSecond
          raisedThenTimedOut = some t ∧
        t.finished = true ∧ t.outcome = .ok (t.tally.finish .complete) ∧ t.tally.pending = [] ∧
        t.tally.failures.length = 3 :=
    ⟨_, rfl, rfl, rfl, rfl, rfl⟩
  have hlength : (t.tally.finish .complete).failures.length = 3 := by
    rw [Tally.finish_complete hpending, Tally.summary, List.length_mergeSort, List.length_reverse,
      hthree]
  exact ⟨t, _, hrun, hfinished, hok, hlength, failures_explained_of_follow hrun hfinished hok⟩

end State

end Pool

end Conformance
