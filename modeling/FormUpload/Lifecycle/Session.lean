import FormUpload.Lifecycle

/-!
# Overlapping uploads

Uploads through one lifecycle are not put in an order: a session holds the calls that
wait for the transport's answer, and `step` is one event of it.  Calls complete in
any order or are dropped.  Notifier and formatter are changed only while no call
waits; whoever receives from a queue may leave at any time.
-/

namespace FormUpload

/-- A lifecycle and the forms of the calls that wait, each under a name. -/
structure Session where
  lifecycle : Lifecycle
  waiting : List (String × Form)

/-- What happens in a session. -/
inductive Event where
  /-- A call hands its form to the transport and waits. -/
  | begin (call : String) (form : Form)
  /-- The transport answers a waiting call. -/
  | complete (call : String) (answer : Answer)
  /-- A waiting call is given up. -/
  | drop (call : String)
  /-- The last response is looked at. -/
  | read
  | setNotifier (notifier : Notifier)
  | setFormatter (formatter : Formatter)
  /-- Whoever receives the messages of a queue leaves. -/
  | hangUp

/-- What an event shows. -/
structure Report where
  /-- What was handed to the transport. -/
  sent : Option (Url × List Part)
  outcome : Option Outcome
  /-- Whether a waiting call was given up. -/
  dropped : Bool
  notice : Notice
  /-- Everything that was logged, in order. -/
  logs : List Log.Record

/-- The report of an event that shows nothing. -/
def Report.silent : Report := ⟨none, none, false, .none, []⟩

namespace Session

/-- A session without calls. -/
def ofLifecycle (l : Lifecycle) : Session := ⟨l, []⟩

/-- The form of a waiting call. -/
def form? (s : Session) (call : String) : Option Form :=
  (s.waiting.find? fun w => w.1 == call).map (·.2)

/-- The waiting calls but one. -/
def without (s : Session) (call : String) : List (String × Form) :=
  s.waiting.filter fun w => w.1 != call

/-- One event.  A call begun under the name of a waiting one takes its place; an
event for a call that does not wait changes nothing. -/
def step (s : Session) : Event → Session × Report
  | .begin call form =>
      (⟨s.lifecycle, s.without call ++ [(call, form)]⟩,
        { Report.silent with
          sent := some (s.lifecycle.posted form), logs := [s.lifecycle.submitting form] })
  | .complete call answer =>
      if (s.form? call).isSome then
        let (lifecycle, outcome, notice) := s.lifecycle.complete answer
        (⟨lifecycle, s.without call⟩,
          { Report.silent with outcome := some outcome, notice, logs := notice.logs })
      else (s, .silent)
  | .drop call =>
      (⟨s.lifecycle, s.without call⟩, { Report.silent with dropped := (s.form? call).isSome })
  | .read => (s, .silent)
  | .setNotifier notifier =>
      (if s.waiting.isEmpty then { s with lifecycle := s.lifecycle.withNotifier notifier } else s,
        .silent)
  | .setFormatter formatter =>
      (if s.waiting.isEmpty then { s with lifecycle := s.lifecycle.withFormatter formatter }
       else s, .silent)
  | .hangUp =>
      ({ s with lifecycle := s.lifecycle.withNotifier s.lifecycle.notifier.unattended }, .silent)

/-- The session and the reports after some events. -/
def run (s : Session) : List Event → Session × List Report
  | [] => (s, [])
  | e :: r =>
      let (s, report) := s.step e
      let (s, reports) := s.run r
      (s, report :: reports)

end Session

end FormUpload
