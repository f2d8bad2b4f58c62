import FormUpload.Proofs.Lifecycle.Slot
import Mathlib.Data.List.Induction

/-!
# Who is told of failures

Every completed call that failed is told once, to the notifier in place, and nothing
else is told to anybody (`failures_told_once`).  What is told over a whole run is the
list `Past.told`, which is read off the events alone; notices, outcomes and that list
agree.
-/

namespace FormUpload

open FormUpload.Json (Value)

/-! ## §1. Whole runs. -/

/-- What a notifier makes of what it was told. -/
def noticeOf (t : Notifier × String) : Notice := t.1.notify t.2

/-- A function of notices that is empty for no notice, collected over a run, is that
function collected over what was told. -/
theorem flatMap_notices {α : Type} (f : Notice → List α) (hf : f .none = []) (l : Lifecycle)
    (hl : l.last = none) (es : List Event) :
    ((Session.ofLifecycle l).run es).2.flatMap (fun r => f r.notice)
      = (Past.told l.notifier l.formatter es.reverse).flatMap (fun t => f (noticeOf t)) := by
  induction es using List.reverseRecOn with
  | nil => rfl
  | append_singleton es e ih =>
      have hs := reflects_run_ofLifecycle l es hl
      rw [Session.run_concat, List.flatMap_append, ih, List.reverse_append, List.reverse_singleton,
        List.singleton_append, Past.told, List.flatMap_append]
      congr 1
      -- the last event adds its own notice, whether there is one or not
      rw [List.flatMap_singleton, hs.notice_step]
      cases Past.failed? l.notifier l.formatter (e :: es.reverse) with
      | none => simpa using hf
      | some t => simp [noticeOf]

/-- The messages of the outcomes of a run are what was told. -/
theorem filterMap_messages (l : Lifecycle) (hl : l.last = none) (es : List Event) :
    (((Session.ofLifecycle l).run es).2.filterMap fun r => r.outcome.bind Outcome.message?)
      = (Past.told l.notifier l.formatter es.reverse).map (·.2) := by
  induction es using List.reverseRecOn with
  | nil => rfl
  | append_singleton es e ih =>
      have hs := reflects_run_ofLifecycle l es hl
      rw [Session.run_concat, List.filterMap_append, ih, List.reverse_append,
        List.reverse_singleton, List.singleton_append, Past.told, List.map_append]
      congr 1
      rw [List.filterMap_cons, hs.outcome_step, Past.failed?]
      cases Past.completed? (e :: es.reverse) with
      | none => rfl
      | some answer =>
          -- outcome and notice are worded by the same formatter
          rw [Option.map_some, Option.bind_some, Past.message?_ofAnswer, Option.bind_some]
          cases Past.failureText (Past.formatterIn l.formatter es.reverse) answer <;> rfl

/-- Outcomes do not depend on the notifier. -/
theorem outcomes_of_notifier (l : Lifecycle) (hl : l.last = none) (n : Notifier)
    (es : List Event) :
    ((Session.ofLifecycle (l.withNotifier n)).run es).2.map (·.outcome)
      = ((Session.ofLifecycle l).run es).2.map (·.outcome) := by
  induction es using List.reverseRecOn with
  | nil => rfl
  | append_singleton es e ih =>
      have hs := reflects_run_ofLifecycle l es hl
      have hn := reflects_run_ofLifecycle (l.withNotifier n) es hl
      rw [Session.run_concat, Session.run_concat, List.map_append, List.map_append, ih]
      congr 1
      -- both outcomes are told by events and formatter alone
      rw [List.map_singleton, List.map_singleton, hs.outcome_step, hn.outcome_step]
      rfl

/-! ## §2. Queues. -/

/-- Whether an event leaves the notifier where it is. -/
def Event.keepsNotifier : Event → Bool
  | .setNotifier _ => false
  | .hangUp => false
  | _ => true

/-- Without a change the notifier is the first one. -/
theorem Past.notifierIn_of_kept (start : Notifier) (past : List Event)
    (h : ∀ e ∈ past, e.keepsNotifier = true) : Past.notifierIn start past = start := by
  induction past with
  | nil => rw [Past.notifierIn]
  | cons e r ih =>
      have hr := ih fun e' he' => h e' (List.mem_cons_of_mem e he')
      have he := h e List.mem_cons_self
      cases e with
      | setNotifier n => exact absurd he (by simp [Event.keepsNotifier])
      | hangUp => exact absurd he (by simp [Event.keepsNotifier])
      | _ => exact hr

/-- Without a change it is the first notifier that is told everything. -/
theorem Past.told_of_kept (start : Notifier) (formatter : Formatter) (past : List Event)
    (h : ∀ e ∈ past, e.keepsNotifier = true) :
    ∀ t ∈ Past.told start formatter past, t.1 = start := by
  induction past with
  | nil =>
      intro t ht
      cases ht
  | cons e r ih =>
      have hlater : ∀ e' ∈ r, e'.keepsNotifier = true :=
        fun e' he' => h e' (List.mem_cons_of_mem e he')
      intro t ht
      rw [Past.told, List.mem_append] at ht
      rcases ht with ht | ht
      · exact ih hlater t ht
      · rw [Option.mem_toList, Past.failed?, Option.map_eq_some_iff] at ht
        obtain ⟨message, _, rfl⟩ := ht
        exact Past.notifierIn_of_kept start r hlater

/-- What a queue makes of messages. -/
theorem flatMap_of_kept {α : Type} (f : Notice → List α) (start : Notifier)
    (told : List (Notifier × String)) (h : ∀ t ∈ told, t.1 = start) :
    told.flatMap (fun t => f (noticeOf t)) = told.flatMap (fun t => f (start.notify t.2)) := by
  rw [List.flatMap_def, List.flatMap_def]
  congr 1
  apply List.map_congr_left
  intro t ht
  rw [noticeOf, h t ht]

/-! ## §3. Exactly once. -/

/-- The record of a message that nobody was there to receive. -/
def droppedRecord (message : String) : Log.Record :=
  ⟨.warn, "notification dropped, receiver closed: " ++ message⟩

/-- **Every failure is told once, in the order of completion, to the notifier in
place.**  Outcomes agree with what was told, whoever is told; a queue that somebody
receives from gets exactly these messages, and one that nobody receives from loses them
to the log. -/
theorem failures_told_once (endpoint : String) (notifier : Notifier) (formatter : Formatter)
    (l : Lifecycle) (h : Lifecycle.create endpoint notifier formatter = .ok l)
    (es : List Event) :
    let s := ((Session.ofLifecycle l).run es).1
    let reports := ((Session.ofLifecycle l).run es).2
    let told := Past.told notifier formatter es.reverse
    (∀ e, (s.step e).2.notice
        = match Past.failed? notifier formatter (e :: es.reverse) with
          | some (n, message) => n.notify message
          | none => .none)
      ∧ reports.flatMap (·.notice.delivered) = told.flatMap (fun t => (noticeOf t).delivered)
      ∧ reports.flatMap (·.notice.logs) = told.flatMap (fun t => (noticeOf t).logs)
      ∧ (reports.filterMap fun r => r.outcome.bind Outcome.message?) = told.map (·.2)
      ∧ (∀ e answer, Past.completed? (e :: es.reverse) = some answer →
          ∃ o, (s.step e).2.outcome = some o
            ∧ o.message? = (Past.failed? notifier formatter (e :: es.reverse)).map (·.2)
            ∧ (o.isSuccess = true ↔ Past.failed? notifier formatter (e :: es.reverse) = none)
            ∧ o.response? = match answer with
                | .ok r => some r
                | .error (.status _ r) => some r
                | .error _ => none)
      ∧ (∀ n, ((Session.ofLifecycle (l.withNotifier n)).run es).2.map (·.outcome)
          = reports.map (·.outcome)
        ∧ ((Session.ofLifecycle (l.withNotifier n)).run es).1.lifecycle.last = s.lifecycle.last)
      ∧ ((∀ e ∈ es, e.keepsNotifier = true) →
          (notifier = .channel true →
            reports.flatMap (·.notice.delivered) = told.map (·.2)
              ∧ reports.flatMap (·.notice.logs) = [])
          ∧ (notifier = .channel false →
            reports.flatMap (·.notice.delivered) = []
              ∧ reports.flatMap (·.notice.logs) = told.map (droppedRecord ·.2))) := by
  intro s reports told
  obtain ⟨_, rfl, rfl, hl⟩ := Lifecycle.of_create endpoint notifier formatter l h
  have hs : Reflects l es.reverse s := reflects_run_ofLifecycle l es hl
  have hdelivered := flatMap_notices Notice.delivered rfl l hl es
  have hlogs := flatMap_notices Notice.logs rfl l hl es
  refine ⟨hs.notice_step, hdelivered, hlogs, filterMap_messages l hl es, ?_, ?_, ?_⟩
  · intro e answer hdone
    have ho := hs.outcome_step e
    rw [hdone] at ho
    refine ⟨_, ho, ?_, ?_, ?_⟩
    · rw [Past.message?_ofAnswer, Past.failed?, hdone, Option.bind_some, Option.map_map]
      exact Option.map_id'.symm
    · rw [Past.isSuccess_ofAnswer, Past.failed?, hdone, Option.bind_some, Option.map_eq_none_iff,
        Option.isNone_iff_eq_none]
    · rw [Past.response?_ofAnswer]
      cases answer with
      | ok r => rfl
      | error f => cases f <;> rfl
  · intro n
    refine ⟨outcomes_of_notifier l hl n es, ?_⟩
    have hn := reflects_run_ofLifecycle (l.withNotifier n) es hl
    rw [hn.last, hs.last]
  · intro hkept
    -- nobody else was ever told, so queues can be looked at one by one
    have htold : ∀ t ∈ told, t.1 = l.notifier := by
      apply Past.told_of_kept
      intro e he
      exact hkept e (List.mem_reverse.mp he)
    rw [flatMap_of_kept Notice.delivered l.notifier told htold] at hdelivered
    rw [flatMap_of_kept Notice.logs l.notifier told htold] at hlogs
    constructor
    · intro hn
      rw [hn] at hdelivered hlogs
      -- somebody receives: every message arrives, and none is logged
      refine ⟨hdelivered.trans ?_, hlogs.trans ?_⟩
      · exact List.map_eq_flatMap.symm
      · simp [Notifier.notify]
    · intro hn
      rw [hn] at hdelivered hlogs
      -- nobody receives: every message is logged instead
      refine ⟨hdelivered.trans ?_, hlogs.trans ?_⟩
      · simp [Notifier.notify]
      · exact List.map_eq_flatMap.symm

/-- Two calls fail in the order opposite to that of their beginnings; a third
succeeds. -/
theorem failures_of_overtaken_call :
    ∃ l, Lifecycle.create "http://localhost:12345/v0/files" (.channel true) .standard = .ok l
      ∧ ((Session.ofLifecycle l).run [.begin "a" .empty, .begin "b" .empty, .begin "c" .empty,
          .complete "b" (.error (.custom "connection reset")),
          .complete "c" (.ok (.ofData 200 (.object [("isSuccess", .bool true)]))),
          .complete "a" (.ok (.ofData 500 .null))]).2.flatMap (·.notice.delivered)
        = ["connection reset", "Upload failed with status 500"] :=
  ⟨_, rfl, ((failures_told_once "http://localhost:12345/v0/files" (.channel true) .standard _ rfl
    _).2.2.2.2.2.2 (by decide)).1 rfl |>.1⟩

end FormUpload
