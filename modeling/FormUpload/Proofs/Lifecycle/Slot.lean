import FormUpload.Proofs.Lifecycle.History

/-!
# The slot of overlapping uploads

Calls begin, complete and vanish in any order and share one slot.  The slot follows
the completions, not the beginnings: after every run it holds the response of the call
that was the last to complete with one, whatever that response says
(`slot_follows_completions`).  Every call is handed the lifecycle's endpoint and its own
parts, and its outcome is made of its own answer and the formatter that was in place
when it began.
-/

namespace FormUpload

/-! ## §1. A call from its beginning to its end. -/

/-- The call that an event is about. -/
def Event.call? : Event → Option String
  | .begin call _ => some call
  | .complete call _ => some call
  | .drop call => some call
  | _ => none

/-- A call still waits after events about other calls. -/
theorem Past.waits_append (call : String) (past : List Event) (later : List Event)
    (h : ∀ e ∈ later, e.call? ≠ some call) (hw : Past.waits call past = true) :
    Past.waits call (later ++ past) = true := by
  induction later with
  | nil => exact hw
  | cons e r ih =>
      have hr := ih fun e' he' => h e' (List.mem_cons_of_mem e he')
      have he := h e List.mem_cons_self
      cases e with
      | begin c form => simp [Past.waits, hr]
      | complete c answer => simpa [Past.waits, hr, Event.call?] using he
      | drop c => simpa [Past.waits, hr, Event.call?] using he
      | _ => exact hr

/-- The formatter stays as long as the call waits. -/
theorem Past.formatterIn_append (start : Formatter) (call : String) (past : List Event)
    (later : List Event) (h : ∀ e ∈ later, e.call? ≠ some call)
    (hw : Past.waits call past = true) :
    Past.formatterIn start (later ++ past) = Past.formatterIn start past := by
  induction later with
  | nil => rfl
  | cons e r ih =>
      have hlater : ∀ e' ∈ r, e'.call? ≠ some call :=
        fun e' he' => h e' (List.mem_cons_of_mem e he')
      rw [List.cons_append, Past.formatterIn_cons_of_waits start call e (r ++ past)
        (Past.waits_append call past r hlater hw)]
      exact ih hlater

/-- **A call's outcome is made of its own answer**, however many events of other calls
lie between its beginning and its end. -/
theorem outcome_of_begun (l : Lifecycle) (past : List Event) (s : Session)
    (hs : Reflects l past s) (call : String) (form : Form) (later : List Event)
    (answer : Answer) (h : ∀ e ∈ later, e.call? ≠ some call) :
    ((s.run (.begin call form :: later)).1.step (.complete call answer)).2.outcome
      = some (.ofAnswer (Past.formatterIn l.formatter past) answer) := by
  have hrun := reflects_run l past s (.begin call form :: later) hs
  have hbegun : Past.waits call (.begin call form :: past) = true := by
    simp [Past.waits]
  have hlater : ∀ e ∈ later.reverse, e.call? ≠ some call := by
    intro e he
    exact h e (List.mem_reverse.mp he)
  -- the beginning lies between what came before and what came later
  have hpast : (Event.begin call form :: later).reverse ++ past
      = later.reverse ++ .begin call form :: past := by simp
  rw [hpast] at hrun
  rw [hrun.outcome_step, Past.completed?, Past.waits_append call _ _ hlater hbegun,
    Past.formatterIn_append l.formatter call _ _ hlater hbegun]
  rfl

/-! ## §2. The slot. -/

/-- A new lifecycle has the endpoint that was read and no response. -/
theorem Lifecycle.of_create (endpoint : String) (notifier : Notifier) (formatter : Formatter)
    (l : Lifecycle) (h : Lifecycle.create endpoint notifier formatter = .ok l) :
    readEndpoint endpoint = .ok l.endpoint
      ∧ l.notifier = notifier ∧ l.formatter = formatter ∧ l.last = none := by
  unfold Lifecycle.create at h
  cases he : readEndpoint endpoint with
  | error f =>
      rw [he] at h
      cases h
  | ok url =>
      rw [he] at h
      cases h
      exact ⟨rfl, rfl, rfl, rfl⟩

/-- **The slot follows the completions.**  After every run of a new lifecycle the slot
holds the response of the call that completed with one last; no other event changes it.
The endpoint stays.  Every begun call hands the endpoint and its own parts to the
transport, and what it ends with depends on its own answer alone. -/
theorem slot_follows_completions (endpoint : String) (notifier : Notifier)
    (formatter : Formatter) (l : Lifecycle)
    (h : Lifecycle.create endpoint notifier formatter = .ok l) (es : List Event) :
    let s := ((Session.ofLifecycle l).run es).1
    s.lifecycle.last = (Past.responses es.reverse).getLast?
      ∧ readEndpoint endpoint = .ok s.lifecycle.endpoint
      ∧ (∀ e, (∀ r, Past.completed? (e :: es.reverse) ≠ some (.ok r)) →
          (s.step e).1.lifecycle.last = s.lifecycle.last)
      ∧ (∀ e, (s.step e).2.sent
          = match e with
            | .begin _ form => some (l.endpoint, form.parts)
            | _ => none)
      ∧ (∀ e, (s.step e).2.outcome
          = (Past.completed? (e :: es.reverse)).map
              (.ofAnswer (Past.formatterIn formatter es.reverse)))
      ∧ (∀ call form later answer, (∀ e ∈ later, e.call? ≠ some call) →
          ((s.run (.begin call form :: later)).1.step (.complete call answer)).2.outcome
            = some (.ofAnswer (Past.formatterIn formatter es.reverse) answer)) := by
  intro s
  obtain ⟨hread, hnotifier, hformatter, hlast⟩ :=
    Lifecycle.of_create endpoint notifier formatter l h
  have hs : Reflects l es.reverse s := reflects_run_ofLifecycle l es hlast
  refine ⟨hs.last, ?_, ?_, hs.sent_step, ?_, ?_⟩
  · rw [hs.endpoint]
    exact hread
  · intro e he
    rw [(hs.step e).last, hs.last, Past.responses]
    -- without a response there is nothing to add to those already there
    cases hdone : Past.completed? (e :: es.reverse) with
    | none => simp
    | some answer =>
        cases answer with
        | ok r => exact absurd hdone (he r)
        | error f => simp [Past.received?]
  · intro e
    rw [← hformatter]
    exact hs.outcome_step e
  -- the past of the call's beginning is the whole run so far
  · intro call form later answer hlater
    rw [← hformatter]
    exact outcome_of_begun l es.reverse s hs call form later answer hlater

/-- Of two calls the one that was begun first completes last, and a third is dropped. -/
theorem slot_of_overtaken_call :
    ∃ l, Lifecycle.create "http://localhost:12345/v0/files" .direct .standard = .ok l
      ∧ (((Session.ofLifecycle l).run [.begin "a" .empty, .begin "b" .empty, .begin "c" .empty,
          .complete "b" (.ok (.ofData 200 (.bool true))), .drop "c",
          .complete "c" (.ok (.ofData 201 .null)),
          .complete "a" (.ok (.ofData 500 .null))]).1.lifecycle.last
        = some (.ofData 500 .null)) :=
  ⟨_, rfl, (slot_follows_completions "http://localhost:12345/v0/files" .direct .standard _ rfl
    _).1⟩

end FormUpload
