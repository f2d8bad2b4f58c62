import FormUpload.Lifecycle.Session

/-!
# Histories of sessions

What a session has come to, told from the events alone.  A *past* is a list of events
with the latest first; the functions below recurse on it and never look at a session:

* `waits` — a call waits if the last event that names it is its beginning,
* `completed?` — the answer with which the latest event completes a waiting call,
* `responses` — the responses of all completed calls, in the order of completion,
* `notifierIn`, `formatterIn` — the collaborators that are in place,
* `failed?`, `told` — whom the latest event, and all of them, tell what.

`Reflects` ties a session to its past.  Every event keeps it (`Reflects.step`), so it
holds along every run (`reflects_run`).
-/

namespace FormUpload

open FormUpload.Json (Value)

namespace Past

/-! ## §1. Calls. -/

/-- Whether a call waits: it was begun, and neither completed nor dropped since. -/
def waits (call : String) : List Event → Bool
  | [] => false
  | .begin c _ :: earlier => c == call || waits call earlier
  | .complete c _ :: earlier => c != call && waits call earlier
  | .drop c :: earlier => c != call && waits call earlier
  | _ :: earlier => waits call earlier

/-- The calls that were ever begun. -/
def begun : List Event → List String
  | [] => []
  | .begin c _ :: earlier => c :: begun earlier
  | _ :: earlier => begun earlier

/-- Whether no call waits. -/
def isQuiet (past : List Event) : Bool := (begun past).all fun c => !waits c past

/-- The answer with which the latest event completes a waiting call. -/
def completed? : List Event → Option Answer
  | .complete c answer :: earlier => if waits c earlier then some answer else none
  | _ => none

/-- The response of an answer that has one. -/
def received? : Answer → Option Response
  | .ok r => some r
  | .error _ => none

/-- The responses of the completed calls, in the order of completion. -/
def responses : List Event → List Response
  | [] => []
  | e :: earlier => responses earlier ++ ((completed? (e :: earlier)).bind received?).toList

/-! ## §2. Collaborators. -/

/-- The notifier that is in place. -/
def notifierIn (start : Notifier) : List Event → Notifier
  | [] => start
  | .setNotifier n :: earlier => if isQuiet earlier then n else notifierIn start earlier
  | .hangUp :: earlier => (notifierIn start earlier).unattended
  | _ :: earlier => notifierIn start earlier

/-- The formatter that is in place. -/
def formatterIn (start : Formatter) : List Event → Formatter
  | [] => start
  | .setFormatter f :: earlier => if isQuiet earlier then f else formatterIn start earlier
  | _ :: earlier => formatterIn start earlier

/-! ## §3. Failures. -/

/-- The message for an answer that is no success: only a document that says
`isSuccess: true` is one. -/
def failureText (formatter : Formatter) : Answer → Option String
  | .ok r =>
      match r.data.get? "isSuccess" with
      | some (.bool true) => none
      | _ => some (formatter.ofResponse r)
  | .error f => some (formatter.ofFailure f)

/-- Whom the latest event tells what, if it completes a call that failed. -/
def failed? (notifier : Notifier) (formatter : Formatter) : List Event → Option (Notifier × String)
  | [] => none
  | e :: earlier =>
      ((completed? (e :: earlier)).bind (failureText (formatterIn formatter earlier))).map
        fun message => (notifierIn notifier earlier, message)

/-- Who was told what, in order. -/
def told (notifier : Notifier) (formatter : Formatter) : List Event → List (Notifier × String)
  | [] => []
  | e :: earlier =>
      told notifier formatter earlier ++ (failed? notifier formatter (e :: earlier)).toList

end Past

namespace Past

/-! ## §4. Facts about pasts. -/

/-- Only a call that was begun can wait. -/
theorem mem_begun_of_waits (call : String) (past : List Event) (h : waits call past = true) :
    call ∈ begun past := by
  induction past with
  | nil => simp [waits] at h
  | cons e earlier ih =>
      cases e with
      | begin c form =>
          simp only [waits, Bool.or_eq_true, beq_iff_eq] at h
          rcases h with h | h
          · exact List.mem_cons.mpr (Or.inl h.symm)
          · exact List.mem_cons_of_mem c (ih h)
      | complete c answer =>
          simp only [waits, Bool.and_eq_true] at h
          exact ih h.2
      | drop c =>
          simp only [waits, Bool.and_eq_true] at h
          exact ih h.2
      | read => exact ih h
      | setNotifier n => exact ih h
      | setFormatter f => exact ih h
      | hangUp => exact ih h

theorem isQuiet_iff (past : List Event) : isQuiet past = true ↔ ∀ c, waits c past = false := by
  unfold isQuiet
  rw [List.all_eq_true]
  constructor
  · intro h c
    cases hc : waits c past with
    | false => rfl
    | true => simpa [hc] using h c (mem_begun_of_waits c past hc)
  · intro h c _
    rw [h c]
    rfl

/-- A call that waits keeps the formatter from being changed. -/
theorem formatterIn_cons_of_waits (start : Formatter) (call : String) (e : Event)
    (past : List Event) (h : waits call past = true) :
    formatterIn start (e :: past) = formatterIn start past := by
  -- no collaborator is exchanged while a call waits
  have hq : isQuiet past = false := by
    rw [Bool.eq_false_iff]
    intro hq
    rw [(isQuiet_iff past).mp hq call] at h
    exact Bool.noConfusion h
  cases e <;> simp [formatterIn, hq]

/-- Words for a failed answer are found exactly if its outcome is no success. -/
theorem message?_ofAnswer (formatter : Formatter) (answer : Answer) :
    (Outcome.ofAnswer formatter answer).message? = failureText formatter answer := by
  cases answer with
  | error f => rfl
  | ok r =>
      unfold Outcome.ofAnswer failureText Response.succeeded Response.successField
      cases hd : r.data.get? "isSuccess" with
      | none => simp [hd, Outcome.message?]
      | some v =>
          -- only the truth value `true` counts; a text that says so does not
          cases v with
          | bool b => cases b <;> simp [hd, Value.asBool?, Outcome.message?]
          | _ => simp [hd, Value.asBool?, Outcome.message?]

theorem isSuccess_ofAnswer (formatter : Formatter) (answer : Answer) :
    (Outcome.ofAnswer formatter answer).isSuccess = (failureText formatter answer).isNone := by
  rw [← message?_ofAnswer]
  unfold Outcome.ofAnswer
  cases answer with
  | error f => rfl
  | ok r => cases hs : r.succeeded <;> simp [hs, Outcome.isSuccess, Outcome.message?]

/-- The response of an outcome is that of the answer, or the one that came with its
failure. -/
theorem response?_ofAnswer (formatter : Formatter) (answer : Answer) :
    (Outcome.ofAnswer formatter answer).response?
      = match answer with
        | .ok r => some r
        | .error f => f.response? := by
  unfold Outcome.ofAnswer
  cases answer with
  | error f => rfl
  | ok r => cases hs : r.succeeded <;> simp [hs, Outcome.response?]

end Past

/-! ## §5. Sessions and their pasts. -/

/-- **What a session owes to its past**, if it began with the lifecycle `l`: each field
is a function of the events. -/
structure Reflects (l : Lifecycle) (past : List Event) (s : Session) : Prop where
  waiting : ∀ c, (s.form? c).isSome = Past.waits c past
  endpoint : s.lifecycle.endpoint = l.endpoint
  notifier : s.lifecycle.notifier = Past.notifierIn l.notifier past
  formatter : s.lifecycle.formatter = Past.formatterIn l.formatter past
  last : s.lifecycle.last = (Past.responses past).getLast?

namespace Session

theorem isSome_form? (s : Session) (c : String) :
    (s.form? c).isSome = s.waiting.any (·.1 == c) := by
  unfold form?
  rw [Option.isSome_map, List.isSome_find?]

theorem any_without (s : Session) (call c : String) :
    (s.without call).any (·.1 == c) = (call != c && s.waiting.any (·.1 == c)) := by
  unfold without
  rw [List.any_filter, Bool.eq_iff_iff]
  simp only [List.any_eq_true, Bool.and_eq_true, bne_iff_ne, beq_iff_eq]
  constructor
  · rintro ⟨w, hw, hne, rfl⟩
    exact ⟨hne.symm, w, hw, rfl⟩
  · rintro ⟨hne, w, hw, rfl⟩
    exact ⟨w, hw, hne.symm, rfl⟩

end Session

namespace Reflects

variable {l : Lifecycle} {past : List Event} {s : Session}

theorem start (l : Lifecycle) (h : l.last = none) : Reflects l [] (.ofLifecycle l) where
  waiting := fun _ => rfl
  endpoint := rfl
  notifier := by rw [Past.notifierIn]; rfl
  formatter := by rw [Past.formatterIn]; rfl
  last := h

/-- No call waits in the session exactly if none waits by its past. -/
theorem isEmpty_waiting (h : Reflects l past s) : s.waiting.isEmpty = Past.isQuiet past := by
  rw [Bool.eq_iff_iff, List.isEmpty_iff, Past.isQuiet_iff]
  constructor
  · intro hs c
    rw [← h.waiting c, Session.isSome_form?, hs]
    rfl
  · intro hq
    cases hw : s.waiting with
    | nil => rfl
    | cons w r =>
        have hc := h.waiting w.1
        rw [hq w.1, Session.isSome_form?, hw] at hc
        simp at hc

/-- The waiting calls of a session that has lost one of them. -/
theorem waiting_without (h : Reflects l past s) (call c : String) (lifecycle : Lifecycle) :
    ((⟨lifecycle, s.without call⟩ : Session).form? c).isSome
      = (call != c && Past.waits c past) := by
  rw [Session.isSome_form?]
  show (s.without call).any (·.1 == c) = _
  rw [Session.any_without, ← Session.isSome_form?, h.waiting c]

/-! ## §6. One event. -/

theorem step_begin (h : Reflects l past s) (call : String) (form : Form) :
    Reflects l (.begin call form :: past) (s.step (.begin call form)).1 where
  waiting := by
    intro c
    rw [Session.isSome_form?]
    -- a call that begins anew takes the place of the one before it
    show (s.without call ++ [(call, form)]).any (·.1 == c) = (call == c || Past.waits c past)
    rw [List.any_append, Session.any_without, ← Session.isSome_form?, h.waiting c]
    show ((!(call == c) && Past.waits c past) || ((call, form).1 == c || false)) = _
    cases hc : call == c <;> simp
  endpoint := h.endpoint
  notifier := h.notifier
  formatter := h.formatter
  last := by
    rw [Past.responses, Past.completed?, Option.bind_none, Option.toList_none, List.append_nil]
    exact h.last
    all_goals simp

theorem step_complete (h : Reflects l past s) (call : String) (answer : Answer) :
    Reflects l (.complete call answer :: past) (s.step (.complete call answer)).1 := by
  have hw := h.waiting call
  cases hcall : Past.waits call past with
  | false =>
      rw [hcall] at hw
      -- a call that does not wait can not complete
      have hs : (s.step (.complete call answer)).1 = s := by
        simp [Session.step, hw]
      rw [hs]
      refine ⟨fun c => ?_, h.endpoint, h.notifier, h.formatter, ?_⟩
      · rw [h.waiting c, Past.waits]
        by_cases hc : call = c
        · rw [← hc, hcall]
          simp
        · simp [hc]
      · rw [Past.responses, Past.completed?, hcall]
        simpa using h.last
  | true =>
      rw [hcall] at hw
      -- a call that waits leaves, and its response is kept
      have hs : (s.step (.complete call answer)).1
          = ⟨s.lifecycle.keep answer, s.without call⟩ := by
        simp [Session.step, hw, Lifecycle.complete]
      rw [hs]
      refine ⟨fun c => ?_, ?_, ?_, ?_, ?_⟩
      · rw [h.waiting_without, Past.waits]
      · cases answer <;> exact h.endpoint
      · cases answer <;> exact h.notifier
      · cases answer <;> exact h.formatter
      -- a failure without a response leaves the slot as it is
      · rw [Past.responses, Past.completed?, hcall]
        cases answer with
        | ok r => simp [Lifecycle.keep, Past.received?]
        | error f => simpa [Lifecycle.keep, Past.received?] using h.last

/-- An event that names no call leaves calls and slot alone. -/
theorem of_lifecycle (h : Reflects l past s) (e : Event) (lifecycle : Lifecycle)
    (hwaits : ∀ c, Past.waits c (e :: past) = Past.waits c past)
    (hdone : Past.completed? (e :: past) = none)
    (hendpoint : lifecycle.endpoint = s.lifecycle.endpoint)
    (hnotifier : lifecycle.notifier = Past.notifierIn l.notifier (e :: past))
    (hformatter : lifecycle.formatter = Past.formatterIn l.formatter (e :: past))
    (hlast : lifecycle.last = s.lifecycle.last) :
    Reflects l (e :: past) ⟨lifecycle, s.waiting⟩ where
  waiting := by
    intro c
    rw [hwaits c]
    exact h.waiting c
  endpoint := hendpoint.trans h.endpoint
  notifier := hnotifier
  formatter := hformatter
  last := by
    rw [Past.responses, hdone]
    simpa using hlast.trans h.last

theorem step_drop (h : Reflects l past s) (call : String) :
    Reflects l (.drop call :: past) (s.step (.drop call)).1 where
  waiting := by
    intro c
    exact h.waiting_without call c s.lifecycle
  endpoint := h.endpoint
  notifier := h.notifier
  formatter := h.formatter
  last := by
    rw [Past.responses, Past.completed?, Option.bind_none, Option.toList_none, List.append_nil]
    exact h.last
    all_goals simp

theorem step_setNotifier (h : Reflects l past s) (n : Notifier) :
    Reflects l (.setNotifier n :: past) (s.step (.setNotifier n)).1 := by
  have hq := h.isEmpty_waiting
  have hn : Past.notifierIn l.notifier (.setNotifier n :: past)
      = if Past.isQuiet past then n else Past.notifierIn l.notifier past := rfl
  cases hs : s.waiting.isEmpty with
  | true =>
      rw [hs] at hq
      simp only [Session.step, hs, if_true]
      refine h.of_lifecycle _ _ (fun _ => rfl) rfl rfl ?_ h.formatter rfl
      rw [hn, ← hq]
      rfl
  | false =>
      rw [hs] at hq
      simp only [Session.step, hs, Bool.false_eq_true, if_false]
      refine h.of_lifecycle _ s.lifecycle (fun _ => rfl) rfl rfl ?_ h.formatter rfl
      rw [hn, ← hq]
      exact h.notifier

theorem step_setFormatter (h : Reflects l past s) (f : Formatter) :
    Reflects l (.setFormatter f :: past) (s.step (.setFormatter f)).1 := by
  have hq := h.isEmpty_waiting
  have hf : Past.formatterIn l.formatter (.setFormatter f :: past)
      = if Past.isQuiet past then f else Past.formatterIn l.formatter past := rfl
  cases hs : s.waiting.isEmpty with
  | true =>
      rw [hs] at hq
      simp only [Session.step, hs, if_true]
      refine h.of_lifecycle _ _ (fun _ => rfl) rfl rfl h.notifier ?_ rfl
      rw [hf, ← hq]
      rfl
  | false =>
      rw [hs] at hq
      simp only [Session.step, hs, Bool.false_eq_true, if_false]
      refine h.of_lifecycle _ s.lifecycle (fun _ => rfl) rfl rfl h.notifier ?_ rfl
      rw [hf, ← hq]
      exact h.formatter

/-- **Every event keeps the tie between a session and its past.** -/
theorem step (h : Reflects l past s) (e : Event) : Reflects l (e :: past) (s.step e).1 := by
  cases e with
  | begin call form => exact h.step_begin call form
  | complete call answer => exact h.step_complete call answer
  | drop call => exact h.step_drop call
  | read => exact h.of_lifecycle .read s.lifecycle (fun _ => rfl) rfl rfl h.notifier h.formatter rfl
  | setNotifier n => exact h.step_setNotifier n
  | setFormatter f => exact h.step_setFormatter f
  | hangUp =>
      refine h.of_lifecycle .hangUp _ (fun _ => rfl) rfl rfl ?_ h.formatter rfl
      show s.lifecycle.notifier.unattended = (Past.notifierIn l.notifier past).unattended
      rw [h.notifier]

/-! ## §7. What an event shows. -/

/-- Only a call that begins hands something to the transport. -/
theorem sent_step (h : Reflects l past s) (e : Event) :
    (s.step e).2.sent
      = match e with
        | .begin _ form => some (l.endpoint, form.parts)
        | _ => none := by
  cases e with
  | begin call form =>
      show some (s.lifecycle.endpoint, form.parts) = _
      rw [h.endpoint]
  | complete call answer =>
      simp only [Session.step]
      split <;> rfl
  | _ => rfl

/-- An outcome is made of the call's own answer and the formatter. -/
theorem outcome_step (h : Reflects l past s) (e : Event) :
    (s.step e).2.outcome
      = (Past.completed? (e :: past)).map (.ofAnswer (Past.formatterIn l.formatter past)) := by
  cases e with
  | complete call answer =>
      rw [Past.completed?, ← h.waiting call, ← h.formatter]
      cases hw : (s.form? call).isSome <;> simp [Session.step, hw, Lifecycle.complete,
        Lifecycle.outcome, Report.silent]
  | _ => rfl

/-- Only a call that failed gives notice, to the notifier in place. -/
theorem notice_step (h : Reflects l past s) (e : Event) :
    (s.step e).2.notice
      = match Past.failed? l.notifier l.formatter (e :: past) with
        | some (notifier, message) => notifier.notify message
        | none => .none := by
  cases e with
  | complete call answer =>
      rw [Past.failed?, Past.completed?, ← h.waiting call, ← h.formatter, ← h.notifier]
      cases hw : (s.form? call).isSome with
      | false => simp [Session.step, hw, Report.silent]
      | true =>
          simp only [Session.step, hw, if_true, Lifecycle.complete, Lifecycle.notice,
            Lifecycle.outcome, Past.message?_ofAnswer, Option.bind_some]
          cases Past.failureText s.lifecycle.formatter answer <;> rfl
  | _ => rfl

end Reflects

/-! ## §8. Runs. -/

/-- **A session reflects its whole past after every run.** -/
theorem reflects_run (l : Lifecycle) (past : List Event) (s : Session) (es : List Event)
    (h : Reflects l past s) : Reflects l (es.reverse ++ past) (s.run es).1 := by
  -- the past grows at its head, as the run goes on
  induction es generalizing past s with
  | nil => exact h
  | cons e r ih =>
      have hr := ih (e :: past) (s.step e).1 (h.step e)
      rw [List.reverse_cons, List.append_assoc]
      exact hr

theorem reflects_run_ofLifecycle (l : Lifecycle) (es : List Event) (h : l.last = none) :
    Reflects l es.reverse ((Session.ofLifecycle l).run es).1 := by
  have hr := reflects_run l [] (.ofLifecycle l) es (Reflects.start l h)
  rwa [List.append_nil] at hr

namespace Session

theorem run_append (s : Session) (es fs : List Event) :
    s.run (es ++ fs)
      = (((s.run es).1.run fs).1, (s.run es).2 ++ ((s.run es).1.run fs).2) := by
  induction es generalizing s with
  | nil => rfl
  | cons e r ih =>
      show (((s.step e).1.run (r ++ fs)).1, (s.step e).2 :: ((s.step e).1.run (r ++ fs)).2) = _
      rw [ih]
      rfl

/-- A run that goes on by one event. -/
theorem run_concat (s : Session) (es : List Event) (e : Event) :
    s.run (es ++ [e])
      = (((s.run es).1.step e).1, (s.run es).2 ++ [((s.run es).1.step e).2]) := by
  rw [run_append]
  rfl

end Session

end FormUpload
