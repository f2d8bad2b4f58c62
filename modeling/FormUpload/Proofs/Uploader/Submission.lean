import FormUpload.Proofs.Http.Heads
import FormUpload.Proofs.Http.Packing
import FormUpload.Proofs.Http.Scripts
import FormUpload.Proofs.Json.Compact
import FormUpload.Proofs.Lifecycle.History
import FormUpload.Proofs.Multipart.ContentTypes
import FormUpload.Uploader
import Mathlib.Data.List.Induction

/-!
# What an upload comes to

An upload has three stages.  What is received for a form does not depend on the status
policy (`Transport.received`); the policy looks at its status (`judged`); the lifecycle
keeps and words what is left.  Uploads that follow one another change nothing but what is
kept:

    answer_exchange  receiving, then judging
    outcome_turn     the outcome is the lifecycle's word for the answer
    last_turn        a response is kept, a failure keeps the last one
    tells_turn       the notifier is told the message of the outcome, once
    same_after       endpoint, notifier, formatter and transport stay

A document with any status that can have one is received as it was sent
(`Transport.received_document`), also if it comes packed (`Transport.received_packed`).
-/

namespace FormUpload

open FormUpload.Text
open FormUpload.Multipart (Boundary)

/-! ## §1. Receiving and judging. -/

/-- An answer under a status policy. -/
def judged (reject : Bool) (answer : Answer) : Answer :=
  match answer with
  | .ok r => if reject && !Http.isFulfilled r.status then .error (.status r.status r) else .ok r
  | .error f => .error f

theorem judged_false (answer : Answer) : judged false answer = answer := by
  cases answer with
  | ok r => rfl
  | error f => rfl

/-- The statuses from 200 to 299 say that a request was fulfilled. -/
theorem isFulfilled_iff (status : UInt16) :
    Http.isFulfilled status = true ↔ 200 ≤ status.toNat ∧ status.toNat < 300 := by
  unfold Http.isFulfilled
  rw [Bool.and_eq_true, decide_eq_true_iff, decide_eq_true_iff, UInt16.le_iff_toNat_le,
    UInt16.lt_iff_toNat_lt]
  rfl

/-- A response stays one, or becomes a failure that it comes with. -/
theorem judged_ok (reject : Bool) (r : Response) :
    judged reject (.ok r) = .ok r ∨ judged reject (.ok r) = .error (.status r.status r) := by
  unfold judged
  split
  · next r' hr =>
    cases hr
    split
    · exact Or.inr rfl
    · exact Or.inl rfl
  · next f hf => cases hf

theorem judged_of_fulfilled (reject : Bool) (r : Response)
    (h : Http.isFulfilled r.status = true) : judged reject (.ok r) = .ok r := by
  simp only [judged, h, Bool.not_true, Bool.and_false, Bool.false_eq_true, if_false]

theorem judged_of_unfulfilled (r : Response) (h : Http.isFulfilled r.status = false) :
    judged true (.ok r) = .error (.status r.status r) := by
  simp only [judged, h, Bool.not_false, Bool.and_true, if_true]

namespace Transport

/-- What is received for a form, whatever its status is: the response in a complete final
answer, or why there is none. -/
def received (t : Transport) (network : Http.Network) (boundary : Boundary) (endpoint : Url)
    (parts : List Part) : Option Answer :=
  match Multipart.blocks parts with
  | .error f => some (.error f)
  | .ok blocks =>
      (Http.send ⟨t.userAgent, t.settings.timeout⟩ network endpoint
          (sendable boundary blocks)).result.map fun
        | .ok raw => .ok (.ofBody raw.status raw.headers raw.body)
        | .error fault => .error (.request fault)

variable (t : Transport) (network : Http.Network) (boundary : Boundary) (endpoint : Url)
  (parts : List Part)

/-- **The status policy looks at what was received.** -/
theorem answer_exchange : (t.exchange network boundary endpoint parts).2
    = (t.received network boundary endpoint parts).map (judged t.settings.rejectErrorStatus) := by
  unfold exchange received
  cases Multipart.blocks parts with
  | error f => rfl
  | ok blocks =>
      simp only [answerOf, Option.map_map]
      congr 1
      funext result
      cases result with
      | error fault => rfl
      | ok raw => rfl

/-- What is not received is no response either. -/
theorem response?_received (f : Failure)
    (h : t.received network boundary endpoint parts = some (.error f)) : f.response? = none := by
  unfold received at h
  cases hb : Multipart.blocks parts with
  | error f' =>
      rw [hb] at h
      cases h
      obtain ⟨-, p, -, text, -, -, -, -, rfl⟩ := (Multipart.blocks_eq_error_iff parts f).mp hb
      rfl
  | ok blocks =>
      rw [hb] at h
      obtain ⟨result, -, hf⟩ := Option.map_eq_some_iff.mp h
      cases result with
      | error fault =>
          cases hf
          rfl
      | ok raw => cases hf

/-- **What is received in time** is what the final answer comes to, read to its end. -/
theorem received_in_time (blocks : List Multipart.Block)
    (hblocks : Multipart.blocks parts = .ok blocks) {elapsed : Nat} {head : Http.Head}
    {sent : Bytes} {silent : Bool}
    (hf : Http.FinalAnswer ⟨t.userAgent, t.settings.timeout⟩ network endpoint
      (sendable boundary blocks) elapsed head sent silent)
    (hlimit : t.settings.timeout.any (· ≤ elapsed) = false) (framing : Http.Framing)
    (hframing : Http.Framing.of? head = some framing) :
    t.received network boundary endpoint parts
      = (Http.finish t.settings.timeout head framing sent silent).map fun
        | .ok raw => .ok (.ofBody raw.status raw.headers raw.body)
        | .error fault => .error (.request fault) := by
  unfold received
  rw [hblocks]
  simp only [hf.result_in_time hlimit framing hframing]

/-- The exchanges of an accepted form are those of its body. -/
theorem exchanges_exchange (blocks : List Multipart.Block)
    (h : Multipart.blocks parts = .ok blocks) :
    (t.exchange network boundary endpoint parts).1
      = (Http.send ⟨t.userAgent, t.settings.timeout⟩ network endpoint
          (sendable boundary blocks)).exchanges := by
  unfold exchange
  rw [h]

/-- **What is received is the answer to the last request.** -/
theorem last_of_received (r : Response)
    (h : t.received network boundary endpoint parts = some (.ok r)) :
    ∃ e raw, (t.exchange network boundary endpoint parts).1.getLast? = some e
      ∧ e.delivery.answer? = some raw ∧ r = .ofBody raw.status raw.headers raw.body := by
  unfold received at h
  cases hb : Multipart.blocks parts with
  | error f =>
      rw [hb] at h
      cases h
  | ok blocks =>
      rw [hb] at h
      obtain ⟨result, hresult, hr⟩ := Option.map_eq_some_iff.mp h
      cases result with
      | error fault => cases hr
      | ok raw =>
          cases hr
          rw [exchanges_exchange t network boundary endpoint parts blocks hb]
          obtain ⟨e, hlast, hanswer⟩ := (Http.last_send _ network endpoint _).1 raw hresult
          exact ⟨e, raw, hlast, hanswer, rfl⟩

/-- An accepted form fails only in being sent. -/
theorem error_of_received (blocks : List Multipart.Block)
    (hblocks : Multipart.blocks parts = .ok blocks) (f : Failure)
    (h : t.received network boundary endpoint parts = some (.error f)) :
    ∃ fault, f = .request fault := by
  unfold received at h
  rw [hblocks] at h
  obtain ⟨result, -, hf⟩ := Option.map_eq_some_iff.mp h
  cases result with
  | error fault =>
      cases hf
      exact ⟨fault, rfl⟩
  | ok raw => cases hf

/-- **Nothing is received for ever** only if there is no time limit and the last connection
stays open in silence. -/
theorem silent_of_received (h : t.received network boundary endpoint parts = none) :
    t.settings.timeout = none
      ∧ ∃ e, (t.exchange network boundary endpoint parts).1.getLast? = some e
        ∧ e.delivery.isSilent = true := by
  unfold received at h
  cases hb : Multipart.blocks parts with
  | error f =>
      rw [hb] at h
      cases h
  | ok blocks =>
      rw [hb] at h
      rw [exchanges_exchange t network boundary endpoint parts blocks hb]
      exact (Http.last_send _ network endpoint _).2 (Option.map_eq_none_iff.mp h)

/-- A form has a body if and only if it has parts. -/
theorem octets_eq_nil_iff (blocks : List Multipart.Block)
    (h : Multipart.blocks parts = .ok blocks) :
    (sendable boundary blocks).octets = [] ↔ parts = [] := by
  obtain ⟨-, rfl⟩ := (Multipart.blocks_eq_ok parts blocks).mp h
  constructor
  · intro hnil
    by_contra hne
    have hlength := Multipart.length_parts_lt boundary parts hne
    have hnil : Multipart.encode boundary.text (parts.map Multipart.blockFor) = [] := hnil
    rw [hnil] at hlength
    exact absurd hlength (Nat.not_lt_zero _)
  · rintro rfl
    rfl

/-- **Neither the boundary nor the status policy changes what is received** from an endpoint
that goes by a script. -/
theorem received_of_blind (t' : Transport) (boundary' : Boundary) (hblind : network.Blind)
    (huserAgent : t.userAgent = t'.userAgent)
    (htimeout : t.settings.timeout = t'.settings.timeout) :
    t.received network boundary endpoint parts = t'.received network boundary' endpoint parts := by
  unfold received
  cases hb : Multipart.blocks parts with
  | error f => rfl
  | ok blocks =>
      have hoctets := (octets_eq_nil_iff boundary parts blocks hb).trans
        (octets_eq_nil_iff boundary' parts blocks hb).symm
      simp only [huserAgent, htimeout]
      rw [Http.result_of_blind _ network hblind endpoint _ _ hoctets]

end Transport

/-! ## §2. Uploads. -/

namespace Uploader

/-- **What a configuration comes to**: the endpoint is looked at first, then the name that the
transport gives itself. -/
theorem ofConfig_eq (config : Config) : ofConfig config
    = match readEndpoint config.endpoint with
      | .error f => .error f
      | .ok url =>
          if config.userAgent.all isHeaderValue then
            .ok ⟨⟨url, .log, .standard, none⟩, ⟨config.settings, config.userAgent⟩⟩
          else .error (.request (.notBuilt none)) := by
  unfold ofConfig create Lifecycle.create Transport.ofConfig
  cases readEndpoint config.endpoint with
  | error f => rfl
  | ok url =>
      cases config.userAgent.all isHeaderValue with
      | false => rfl
      | true => rfl

variable (u : Uploader) (t : Turn)

/-- What is received in a turn, whatever its status is. -/
def received : Option Answer :=
  u.transport.received t.network t.boundary u.lifecycle.endpoint t.form.parts

/-- The answer that a turn comes to. -/
def answer? : Option Answer :=
  (u.received t).map (judged u.transport.settings.rejectErrorStatus)

/-- The response that a turn comes to. -/
def response? : Option Response :=
  match u.answer? t with
  | some (.ok r) => some r
  | _ => none

/-- What the transport writes to the log in a turn. -/
def postingLogs : List Log.Record :=
  (u.transport.post t.network t.boundary u.lifecycle.endpoint t.form.parts).logs

/-- **A turn takes three stages**: receiving, judging, completing. -/
theorem turn_eq : u.turn t
    = match u.answer? t with
      | none => (u, ⟨(u.transport.exchange t.network t.boundary u.lifecycle.endpoint
            t.form.parts).1, none, [], u.lifecycle.submitting t.form :: u.postingLogs t⟩)
      | some answer =>
          ({ u with lifecycle := u.lifecycle.keep answer },
            ⟨(u.transport.exchange t.network t.boundary u.lifecycle.endpoint t.form.parts).1,
              some (u.lifecycle.outcome answer),
              (u.lifecycle.notice (u.lifecycle.outcome answer)).delivered,
              u.lifecycle.submitting t.form :: u.postingLogs t
                ++ (u.lifecycle.notice (u.lifecycle.outcome answer)).logs⟩) := by
  have hanswer : (u.transport.post t.network t.boundary u.lifecycle.endpoint t.form.parts).answer
      = u.answer? t :=
    u.transport.answer_exchange t.network t.boundary u.lifecycle.endpoint t.form.parts
  unfold turn submit
  simp only [hanswer]
  cases u.answer? t with
  | none => rfl
  | some answer => rfl

/-- **The outcome is the lifecycle's word for the answer.** -/
theorem outcome_turn : (u.turn t).2.outcome = (u.answer? t).map u.lifecycle.outcome := by
  rw [turn_eq]
  cases u.answer? t with
  | none => rfl
  | some answer => rfl

/-- The exchanges of a turn are those of its form. -/
theorem exchanges_turn : (u.turn t).2.exchanges
    = (u.transport.exchange t.network t.boundary u.lifecycle.endpoint t.form.parts).1 := by
  rw [turn_eq]
  cases u.answer? t with
  | none => rfl
  | some answer => rfl

/-- **A response is kept**; without one, the last response stays. -/
theorem last_turn :
    (u.turn t).1.lifecycle.last = (u.response? t).or u.lifecycle.last := by
  rw [turn_eq]
  unfold response?
  cases u.answer? t with
  | none => rfl
  | some answer =>
      cases answer with
      | ok r => rfl
      | error f => rfl

/-- **A turn tells the notifier some messages**: what comes of these is delivered and logged,
and nothing else. -/
structure Tells (messages : List String) : Prop where
  delivered : (u.turn t).2.delivered
    = messages.flatMap fun m => (u.lifecycle.notifier.notify m).delivered
  logs : (u.turn t).2.logs
    = u.lifecycle.submitting t.form :: u.postingLogs t
      ++ messages.flatMap fun m => (u.lifecycle.notifier.notify m).logs

/-- **The notifier is told the message of the outcome**, once. -/
theorem tells_turn : u.Tells t ((u.turn t).2.outcome.bind Outcome.message?).toList := by
  rw [outcome_turn]
  -- what becomes of a message is its notice
  have hnotice : ∀ o : Outcome, u.lifecycle.notice o
      = ⟨o.message?.toList.flatMap fun m => (u.lifecycle.notifier.notify m).delivered,
        o.message?.toList.flatMap fun m => (u.lifecycle.notifier.notify m).logs⟩ := by
    intro o
    unfold Lifecycle.notice
    cases o.message? with
    | none => rfl
    | some m => simp only [Option.toList_some, List.flatMap_singleton]
  cases ha : u.answer? t with
  | none =>
      constructor
      · rw [turn_eq, ha]
        rfl
      · rw [turn_eq, ha]
        simp
  | some answer =>
      constructor
      · rw [turn_eq, ha]
        exact congrArg Notice.delivered (hnotice _)
      · rw [turn_eq, ha]
        exact congrArg (_ ++ ·) (congrArg Notice.logs (hnotice _))

/-- A turn that ends in a failure: what is held stays, and its wording is told. -/
structure Fails (f : Failure) : Prop where
  outcome : (u.turn t).2.outcome = some (.transportFailure f (u.lifecycle.formatter.ofFailure f))
  last : (u.turn t).1.lifecycle.last = u.lifecycle.last
  told : u.Tells t [u.lifecycle.formatter.ofFailure f]

/-- **An answer that is a failure makes the turn fail.** -/
theorem fails_of_answer (f : Failure) (h : u.answer? t = some (.error f)) : u.Fails t f := by
  have houtcome : (u.turn t).2.outcome
      = some (.transportFailure f (u.lifecycle.formatter.ofFailure f)) := by
    rw [outcome_turn, h]
    rfl
  have htells := u.tells_turn t
  rw [houtcome] at htells
  refine ⟨houtcome, ?_, htells⟩
  rw [last_turn]
  unfold response?
  rw [h]
  rfl

/-- A failure to receive comes before the policy. -/
theorem fails_of_received (f : Failure) (h : u.received t = some (.error f)) : u.Fails t f := by
  apply u.fails_of_answer t f
  unfold answer?
  rw [h]
  rfl

/-- **What is received is the response of the outcome**, whatever the policy makes of its
status. -/
theorem response?_of_received (r : Response) (h : u.received t = some (.ok r)) :
    ∃ o, (u.turn t).2.outcome = some o ∧ o.response? = some r := by
  rw [outcome_turn]
  unfold answer?
  rw [h, Option.map_some, Option.map_some]
  refine ⟨_, rfl, ?_⟩
  unfold Lifecycle.outcome
  rw [Past.response?_ofAnswer]
  rcases judged_ok u.transport.settings.rejectErrorStatus r with hr | hr
  · rw [hr]
  · rw [hr]
    rfl

/-- **The response of an outcome was received.** -/
theorem received_of_response? (o : Outcome) (r : Response) (ho : (u.turn t).2.outcome = some o)
    (hr : o.response? = some r) : u.received t = some (.ok r) := by
  cases hreceived : u.received t with
  | none =>
      rw [outcome_turn] at ho
      unfold answer? at ho
      rw [hreceived] at ho
      cases ho
  | some answer =>
      cases answer with
      | ok r' =>
          obtain ⟨o', ho', hr'⟩ := u.response?_of_received t r' hreceived
          rw [ho] at ho'
          cases ho'
          rw [hr] at hr'
          cases hr'
          rfl
      | error f =>
          rw [(u.fails_of_received t f hreceived).outcome] at ho
          cases ho
          have hnone := Transport.response?_received _ _ _ _ _ f hreceived
          rw [show f.response? = some r from hr] at hnone
          cases hnone

/-! ## §3. One upload after the other. -/

/-- Two uploaders that differ at most in what they hold. -/
structure Same (u v : Uploader) : Prop where
  transport : u.transport = v.transport
  endpoint : u.lifecycle.endpoint = v.lifecycle.endpoint
  notifier : u.lifecycle.notifier = v.lifecycle.notifier
  formatter : u.lifecycle.formatter = v.lifecycle.formatter

theorem Same.symm {u v : Uploader} (h : u.Same v) : v.Same u :=
  ⟨h.transport.symm, h.endpoint.symm, h.notifier.symm, h.formatter.symm⟩

theorem Same.trans {u v w : Uploader} (h : u.Same v) (h' : v.Same w) : u.Same w :=
  ⟨h.transport.trans h'.transport, h.endpoint.trans h'.endpoint, h.notifier.trans h'.notifier,
    h.formatter.trans h'.formatter⟩

/-- A turn changes nothing but what is held. -/
theorem same_turn : (u.turn t).1.Same u := by
  rw [turn_eq]
  cases u.answer? t with
  | none => exact ⟨rfl, rfl, rfl, rfl⟩
  | some answer =>
      cases answer with
      | ok r => exact ⟨rfl, rfl, rfl, rfl⟩
      | error f => exact ⟨rfl, rfl, rfl, rfl⟩

theorem after_concat (ts : List Turn) : u.after (ts ++ [t]) = ((u.after ts).turn t).1 :=
  List.foldl_concat _ u t ts

/-- **Any number of turns changes nothing but what is held.** -/
theorem same_after (ts : List Turn) : (u.after ts).Same u := by
  induction ts using List.reverseRecOn with
  | nil => exact ⟨rfl, rfl, rfl, rfl⟩
  | append_singleton ts t ih =>
      rw [after_concat]
      exact (same_turn (u.after ts) t).trans ih

/-- What is received in a turn depends on nothing that is held. -/
theorem received_of_same {u v : Uploader} (h : u.Same v) : u.received t = v.received t := by
  unfold received
  rw [h.transport, h.endpoint]

theorem response?_of_same {u v : Uploader} (h : u.Same v) : u.response? t = v.response? t := by
  unfold response? answer?
  rw [received_of_same t h, h.transport]

/-- **What is held is the last response**, of any number of turns. -/
theorem last_after (ts : List Turn) : (u.after ts).lifecycle.last
    = ((ts.filterMap u.response?).getLast?).or u.lifecycle.last := by
  induction ts using List.reverseRecOn with
  | nil => rfl
  | append_singleton ts t ih =>
      rw [after_concat, last_turn, response?_of_same t (u.same_after ts), ih,
        List.filterMap_append, List.getLast?_append]
      cases hr : u.response? t with
      | none => simp [hr]
      | some r => simp [hr]

end Uploader

/-! ## §4. Endpoints that answer with documents. -/

/-- An endpoint on the same machine, `http://localhost:12345/v0/files`. -/
def filesEndpoint : Url :=
  ⟨"http", "", none, some (.domain "localhost"), some 12345, .slashed ["v0", "files"], none, none⟩

theorem isReachable_files : Http.isReachable (Http.withoutUser filesEndpoint).1 = true := by
  decide +kernel

/-- A document that calls an upload a success. -/
def successDocument : Json.Value := .object [("isSuccess", .bool true)]

theorem regular_success : Json.Regular successDocument := ⟨rfl, trivial, trivial⟩

/-- An answer with a status and a document, without headers: it ends with the connection. -/
def documentAnswer (status : Nat) (v : Json.Value) : Http.Delivery :=
  .received 0 (Http.headOctets true status [0x58] [] ++ bytesOf v.text) false

/-- The same answer with its document packed. -/
def packedAnswer (status : Nat) (v : Json.Value) : Http.Delivery :=
  .received 0 (Http.headOctets true status [0x58] [(bytesOf "Content-Encoding", bytesOf "gzip")]
    ++ Http.pack (bytesOf v.text)) false

section

variable (t : Transport) (boundary : Boundary) (endpoint : Url) (parts : List Part)
  (blocks : List Multipart.Block) (hblocks : Multipart.blocks parts = .ok blocks)
  (hlimit : t.settings.timeout ≠ some 0)
  (hreachable : Http.isReachable (Http.withoutUser endpoint).1 = true)
  (status : Nat) (hlow : 200 ≤ status) (hno : status ≠ 204 ∧ status ≠ 304)

include hblocks hlimit hreachable hlow hno

/-- **An answer that comes at once is received**, if its head sends the client nowhere and leaves
the body to end with the connection. -/
theorem Transport.received_at_once (octets sent : Bytes) (headers : Http.Headers)
    (hread : Http.Head.read octets = .done ⟨true, status, headers⟩ sent)
    (hlocation : headers.first? "location" = none)
    (hcoding : Http.Headers.all headers "transfer-encoding" = [])
    (hlength : Http.Headers.all headers "content-length" = []) (raw : Http.RawResponse)
    (hraw : Http.finalAnswer? ⟨true, status, headers⟩ sent = some raw) :
    t.received (.scripted [.received 0 octets false]) boundary endpoint parts
      = some (.ok (.ofBody raw.status raw.headers raw.body)) := by
  have hstay : (Http.Hop.first endpoint (sendable boundary blocks)).next? ⟨true, status, headers⟩
      = .stay := by
    unfold Http.Hop.next?
    split
    · next hdestination =>
      unfold Http.Hop.destination? at hdestination
      rw [hlocation] at hdestination
      cases hdestination
    · rfl
  have hpatient := Http.not_late_at_once t.settings.timeout hlimit
  have hframing : Http.Framing.of? ⟨true, status, headers⟩ = some .untilClosed := by
    unfold Http.Framing.of?
    simp only [decide_eq_false (Nat.not_lt.mpr hlow), beq_eq_false_iff_ne.mpr hno.1,
      beq_eq_false_iff_ne.mpr hno.2, hcoding, hlength]
    rfl
  have hf : Http.FinalAnswer ⟨t.userAgent, t.settings.timeout⟩
      (.scripted [.received 0 octets false]) endpoint (sendable boundary blocks) 0
      ⟨true, status, headers⟩ sent false :=
    .of_first hreachable rfl hread hstay
  have hfinish : Http.finish t.settings.timeout ⟨true, status, headers⟩ .untilClosed sent false
      = some (.ok raw) := by
    unfold Http.finish Http.Framing.read
    simp only [Bool.not_false, if_true, hraw]
  rw [t.received_in_time _ boundary endpoint parts blocks hblocks hf hpatient _ hframing, hfinish]
  rfl

variable (hhigh : status < 600) (v : Json.Value) (hv : Json.Regular v)
  (hd : v.depth ≤ Json.nestingLimit)

include hhigh hv hd

/-- **A document is received as it was sent**, whatever its status is. -/
theorem Transport.received_document :
    t.received (.scripted [documentAnswer status v]) boundary endpoint parts
      = some (.ok (.ofData (UInt16.ofNat status) v)) := by
  have hread := Http.read_head true status hlow (hhigh.trans (by decide)) [0x58]
    (List.all_eq_true.mp (by decide)) [] (by simp) (by decide) (bytesOf v.text)
  have hreceived := t.received_at_once boundary endpoint parts blocks hblocks hlimit hreachable
    status hlow hno _ _ [] hread rfl rfl rfl ⟨UInt16.ofNat status, [], bytesOf v.text⟩ rfl
  unfold Response.ofBody at hreceived
  rw [Json.dataOfBody_text v hv hd] at hreceived
  exact hreceived

/-- **So is a document that comes packed**, without a trace of the packing. -/
theorem Transport.received_packed :
    t.received (.scripted [packedAnswer status v]) boundary endpoint parts
      = some (.ok (.ofData (UInt16.ofNat status) v)) := by
  have hname : Http.IsName (bytesOf "Content-Encoding") :=
    Http.isName_of_all _ (by decide) (by decide)
  have hvalue : Http.IsValue (bytesOf "gzip") := Http.isValue_of_all _ (by decide) rfl
  have hread := Http.read_head_one true status hlow (hhigh.trans (by decide)) [0x58]
    (List.all_eq_true.mp (by decide)) _ _ hname hvalue (Http.pack (bytesOf v.text))
  have hraw := Http.finalAnswer?_pack ⟨true, status, [("content-encoding", bytesOf "gzip")]⟩
    (bytesOf v.text) rfl
  have hreceived := t.received_at_once boundary endpoint parts blocks hblocks hlimit hreachable
    status hlow hno _ _ [("content-encoding", bytesOf "gzip")] hread rfl rfl rfl _ hraw
  unfold Response.ofBody at hreceived
  rw [Json.dataOfBody_text v hv hd] at hreceived
  exact hreceived

end

end FormUpload
