import FormUpload.Transport

/-!
# Uploaders

An uploader is a lifecycle with the transport it posts through.  It is made from an
endpoint alone, or from a configuration.  The endpoint is looked at first; then the
name that the transport gives itself, which has to be a header value.
-/

namespace FormUpload

open FormUpload.Text
open FormUpload.Multipart (Boundary)

/-! ## §1. Configurations. -/

/-- An endpoint, and how to post to it. -/
structure Config where
  endpoint : String
  settings : Settings
  userAgent : Option String
deriving DecidableEq, Repr

/-- The configuration that says nothing but the endpoint. -/
def Config.ofEndpoint (endpoint : String) : Config := ⟨endpoint, .standard, none⟩

/-- Whether a text may be a header value: no control characters but tabs. -/
def isHeaderValue (s : String) : Bool := s.toList.all fun c => c == '\t' || !isControl c

/-- The transport of a configuration. -/
def Transport.ofConfig (config : Config) : Except Failure Transport :=
  if config.userAgent.all isHeaderValue then .ok ⟨config.settings, config.userAgent⟩
  else .error (.request (.notBuilt none))

/-! ## §2. Uploaders. -/

/-- A lifecycle and its transport. -/
structure Uploader where
  lifecycle : Lifecycle
  transport : Transport

namespace Uploader

/-- The uploader for an endpoint with a given transport. -/
def create (endpoint : String) (transport : Transport) (notifier : Notifier)
    (formatter : Formatter) : Except Failure Uploader := do
  return ⟨← Lifecycle.create endpoint notifier formatter, transport⟩

/-- The uploader of a configuration.  Failures are logged. -/
def ofConfig (config : Config) : Except Failure Uploader := do
  let _ ← readEndpoint config.endpoint
  let transport ← Transport.ofConfig config
  create config.endpoint transport .log .standard

/-- The uploader for an endpoint. -/
def ofEndpoint (endpoint : String) : Except Failure Uploader :=
  ofConfig (.ofEndpoint endpoint)

/-- The uploader with another notifier. -/
def withNotifier (u : Uploader) (notifier : Notifier) : Uploader :=
  { u with lifecycle := u.lifecycle.withNotifier notifier }

/-! ## §3. Uploads. -/

/-- What one upload shows. -/
structure Upload where
  exchanges : List Http.Exchange
  /-- The outcome; none while the endpoint keeps the client waiting. -/
  outcome : Option Outcome
  delivered : List String
  logs : List Log.Record

/-- Posts a form and completes the upload with the transport's answer. -/
def submit (u : Uploader) (network : Http.Network) (boundary : Boundary) (form : Form) :
    Uploader × Upload :=
  let begun := u.lifecycle.submitting form
  let posting := u.transport.post network boundary u.lifecycle.endpoint form.parts
  match posting.answer with
  | none => (u, ⟨posting.exchanges, none, [], begun :: posting.logs⟩)
  | some answer =>
      let (lifecycle, outcome, notice) := u.lifecycle.complete answer
      ({ u with lifecycle },
        ⟨posting.exchanges, some outcome, notice.delivered,
          begun :: posting.logs ++ notice.logs⟩)

/-! ## §4. One upload after the other. -/

/-- A form in its turn, with the boundary it gets and the network it meets. -/
structure Turn where
  network : Http.Network
  boundary : Boundary
  form : Form

/-- Posts the form whose turn it is. -/
def turn (u : Uploader) (t : Turn) : Uploader × Upload := u.submit t.network t.boundary t.form

/-- The uploader after some turns.  An upload that keeps waiting is given up. -/
def after (u : Uploader) (turns : List Turn) : Uploader := turns.foldl (fun u t => (u.turn t).1) u

end Uploader

end FormUpload
