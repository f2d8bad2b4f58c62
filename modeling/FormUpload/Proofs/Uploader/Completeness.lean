import FormUpload.Proofs.Response.Headers
import FormUpload.Proofs.Uploader.Submission

/-!
# Responses that are complete

A final answer announces how many octets its body has.  The response counts if so many have
come, and not otherwise (`response_counts_when_complete`): what comes after them is not
looked at, and neither the status nor what a broken body says makes up for what is missing.

    finish_complete  the announced octets are the body, and no more
    finish_short     a body that breaks off is a fault, whatever it says
    finish_waiting   a body that stops coming is waited for
-/

namespace FormUpload

open FormUpload.Text

namespace Http

/-! ## §1. Announced lengths. -/

/-- A head that announces a body of some length: by one header, in decimal digits, and not
packed or coded in any way. -/
structure Announces (head : Head) (length : Nat) : Prop where
  low : 200 ≤ head.status
  high : head.status < 600
  hasBody : head.status ≠ 204 ∧ head.status ≠ 304
  announced : ∃ digits : List Char, digits ≠ [] ∧ (∀ c ∈ digits, isDigitChar c = true)
    ∧ Nat.ofDigitChars 10 digits 0 = length
    ∧ Headers.all head.headers "content-length" = [Utf8.encode digits]
  short : length < 0x8000000000000000
  unpacked : Headers.all head.headers "content-encoding" = []
  uncoded : Headers.all head.headers "transfer-encoding" = []

variable {head : Head} {length : Nat}

/-- **The announced length tells where the body ends.** -/
theorem Announces.framing (h : Announces head length) :
    Framing.of? head = some (.sized length) := by
  obtain ⟨digits, hne, hdigits, hsum, hall⟩ := h.announced
  have hshort := h.short
  have hagreed := agreedLength?_digits digits hne hdigits (by
    rw [hsum]
    unfold sizeLimit
    omega)
  have hlimit : length < lengthLimit := by
    unfold lengthLimit sizeLimit
    omega
  rw [hsum] at hagreed
  unfold Framing.of?
  rw [h.uncoded, hall]
  simp only [decide_eq_false (Nat.not_lt.mpr h.low), beq_eq_false_iff_ne.mpr h.hasBody.1,
    beq_eq_false_iff_ne.mpr h.hasBody.2, hagreed, hlimit, if_true]
  rfl

/-- **A body that is not packed is taken as it is.** -/
theorem Announces.finalAnswer (h : Announces head length) (body : Bytes) :
    ∃ raw, finalAnswer? head body = some raw
      ∧ raw.status = UInt16.ofNat head.status ∧ raw.body = body :=
  ⟨_, finalAnswer?_of_unpacked head body h.unpacked, rfl, rfl⟩

/-! ## §2. Bodies. -/

variable (limit : Option Nat) (sent : Bytes) (silent : Bool)

/-- **The announced octets are the body**, and no others. -/
theorem finish_complete (h : Announces head length) (hsent : length ≤ sent.length) :
    ∃ raw, finish limit head (.sized length) sent silent = some (.ok raw)
      ∧ raw.status = UInt16.ofNat head.status ∧ raw.body = sent.take length := by
  obtain ⟨raw, hraw, hstatus, hbody⟩ := h.finalAnswer (sent.take length)
  refine ⟨raw, ?_, hstatus, hbody⟩
  unfold finish Framing.read
  simp only [hsent, if_true, hraw]

/-- **A body that breaks off is none**, whatever it says. -/
theorem finish_short (hsent : sent.length < length) :
    finish limit head (.sized length) sent false = some (.error (.notReceived false)) := by
  unfold finish Framing.read
  simp only [Nat.not_le.mpr hsent, if_false]
  rfl

/-- **A body that stops coming is waited for.** -/
theorem finish_waiting (hsent : sent.length < length) :
    finish limit head (.sized length) sent true = onSilence limit (.notReceived true) := by
  unfold finish Framing.read
  simp only [Nat.not_le.mpr hsent, if_false]
  rfl

end Http

namespace Uploader

/-! ## §3. Uploads. -/

/-- The final answer to the form of a turn: its head, what was sent after it, and when. -/
def HasFinalAnswer (u : Uploader) (t : Turn) (elapsed : Nat) (head : Http.Head) (sent : Bytes)
    (silent : Bool) : Prop :=
  ∃ blocks, Multipart.blocks t.form.parts = .ok blocks
    ∧ Http.FinalAnswer ⟨u.transport.userAgent, u.transport.settings.timeout⟩ t.network
      u.lifecycle.endpoint (Transport.sendable t.boundary blocks) elapsed head sent silent

/-- Whether the time limit has passed. -/
def IsLate (u : Uploader) (elapsed : Nat) : Bool :=
  u.transport.settings.timeout.any (· ≤ elapsed)

variable {u : Uploader} {t : Turn} {elapsed : Nat} {head : Http.Head} {sent : Bytes}
  {silent : Bool} {length : Nat}

/-- What is received in time, of an answer that announces its length. -/
theorem HasFinalAnswer.received_in_time
    (hf : u.HasFinalAnswer t elapsed head sent silent) (ha : Http.Announces head length)
    (hlate : u.IsLate elapsed = false) :
    u.received t
      = (Http.finish u.transport.settings.timeout head (.sized length) sent silent).map fun
        | .ok raw => .ok (.ofBody raw.status raw.headers raw.body)
        | .error fault => .error (.request fault) := by
  obtain ⟨blocks, hblocks, hf⟩ := hf
  exact u.transport.received_in_time t.network t.boundary u.lifecycle.endpoint t.form.parts blocks
    hblocks hf hlate _ ha.framing

/-- What is received too late is nothing but the time limit. -/
theorem HasFinalAnswer.received_late
    (hf : u.HasFinalAnswer t elapsed head sent silent) (hlate : u.IsLate elapsed = true) :
    ∃ url, u.received t = some (.error (.request (.notSent url true))) := by
  obtain ⟨blocks, hblocks, hf⟩ := hf
  refine ⟨(Http.withoutUser u.lifecycle.endpoint).1.text, ?_⟩
  unfold received Transport.received
  rw [hblocks]
  simp only [hf.result_late hlate]
  rfl

/-- A time limit has a wording of its own. -/
theorem failureText_of_timedOut (fault : RequestFault) (h : fault.timedOut = true) :
    Formatter.failureText (.request fault) = "Upload timed out" := by
  unfold Formatter.failureText
  simp only [Failure.response?, Failure.timedOut, h, if_true]

/-- **A response counts only when it is complete.**  Of a final answer that announces its
length, some octets are sent.  If these are all, and in time, the announced ones are the
response, and nothing more has to come.  If octets are missing when the connection is closed,
the upload fails, and not for lack of time; if they are missing and the connection stays open
in silence, the time limit makes it fail.  A failure leaves what is held and is told once. -/
theorem response_counts_when_complete (u : Uploader) (t : Turn) (elapsed : Nat)
    (head : Http.Head) (sent : Bytes) (silent : Bool) (length : Nat)
    (hf : u.HasFinalAnswer t elapsed head sent silent) (ha : Http.Announces head length) :
    (length ≤ sent.length → u.IsLate elapsed = false →
        ∃ o r, (u.turn t).2.outcome = some o ∧ o.response? = some r
          ∧ r.data = Response.dataOfBody (sent.take length) ∧ r.status.toNat = head.status)
      ∧ (sent.length < length → silent = false →
        ∃ fault, u.Fails t (.request fault) ∧ fault.timedOut = u.IsLate elapsed)
      ∧ (sent.length < length → silent = true → u.transport.settings.timeout.isSome = true →
        ∃ fault, u.Fails t (.request fault) ∧ fault.timedOut = true
          ∧ (u.lifecycle.formatter = .standard →
            u.lifecycle.formatter.ofFailure (.request fault) = "Upload timed out"))
      ∧ (u.IsLate elapsed = true →
        ∃ fault, u.Fails t (.request fault) ∧ fault.timedOut = true) := by
  have htooLate : u.IsLate elapsed = true →
      ∃ fault, u.Fails t (.request fault) ∧ fault.timedOut = true := by
    intro hlate
    obtain ⟨url, hreceived⟩ := hf.received_late hlate
    exact ⟨_, u.fails_of_received t _ hreceived, rfl⟩
  refine ⟨fun hsent hlate => ?_, fun hsent hclosed => ?_, fun hsent hsilent hlimit => ?_, htooLate⟩
  · obtain ⟨raw, hfinish, hstatus, hbody⟩ :=
      Http.finish_complete u.transport.settings.timeout sent silent ha hsent
    have hreceived := hf.received_in_time ha hlate
    rw [hfinish] at hreceived
    obtain ⟨o, houtcome, hresponse⟩ := u.response?_of_received t _ hreceived
    refine ⟨o, _, houtcome, hresponse, congrArg Response.dataOfBody hbody, ?_⟩
    show raw.status.toNat = head.status
    rw [hstatus, UInt16.toNat_ofNat_of_lt' (ha.high.trans (by decide))]
  · cases hlate : u.IsLate elapsed with
    | true => exact htooLate hlate
    | false =>
        have hreceived := hf.received_in_time ha hlate
        rw [hclosed, Http.finish_short _ sent hsent] at hreceived
        exact ⟨_, u.fails_of_received t _ hreceived, rfl⟩
  · -- a limit that has passed already is no different from one that passes in silence
    have hfails : ∃ fault, u.Fails t (.request fault) ∧ fault.timedOut = true := by
      cases hlate : u.IsLate elapsed with
      | true => exact htooLate hlate
      | false =>
          have hreceived := hf.received_in_time ha hlate
          rw [hsilent, Http.finish_waiting _ sent hsent, Http.onSilence, if_pos hlimit]
            at hreceived
          exact ⟨_, u.fails_of_received t _ hreceived, rfl⟩
    obtain ⟨fault, hfails, htimedOut⟩ := hfails
    refine ⟨fault, hfails, htimedOut, fun hformatter => ?_⟩
    rw [hformatter]
    exact failureText_of_timedOut fault htimedOut

/-- An uploader for an endpoint on the same machine, with half a second for each upload. -/
def hurriedUploader : Uploader :=
  ⟨⟨filesEndpoint, .direct, .standard, none⟩, ⟨{ timeout := some 500 }, none⟩⟩

/-- A head that names another place of the endpoint. -/
def movedOctets (status : Nat) : Bytes :=
  Http.headOctets true status [0x58] [(bytesOf "Location", bytesOf "done")]

/-- A redirect to that place. -/
def movedAnswer : Http.Delivery := .received 20 (movedOctets 302 ++ []) false

/-- An answer with status 500 that calls the upload a success, and announces a length. -/
def announcedAnswer (digits : List Char) (silent : Bool) : Http.Delivery :=
  .received 30 (Http.headOctets true 500 [0x58] [(bytesOf "Content-Length", Utf8.encode digits)]
    ++ bytesOf successDocument.text) silent

/-- A turn whose form is sent elsewhere and gets such an answer there. -/
def announcedTurn (digits : List Char) (silent : Bool) : Turn :=
  ⟨.scripted [movedAnswer, announcedAnswer digits silent], ⟨1, 2, 3, 4⟩, ⟨[.text "a" "b"]⟩⟩

/-- The head of such an answer. -/
def announcedHead (digits : List Char) : Http.Head :=
  ⟨true, 500, [("content-length", Utf8.encode digits)]⟩

/-- The request after the redirect. -/
def doneHop : Http.Hop :=
  ⟨.get, { filesEndpoint with path := .slashed ["v0", "done"] },
    "http://localhost:12345/v0/done", none, some "http://localhost:12345/v0/files", none⟩

theorem announces_announcedHead (digits : List Char) (hne : digits ≠ [])
    (hdigits : ∀ c ∈ digits, isDigitChar c = true)
    (hshort : Nat.ofDigitChars 10 digits 0 < 0x8000000000000000) :
    Http.Announces (announcedHead digits) (Nat.ofDigitChars 10 digits 0) :=
  ⟨(by decide : 200 ≤ 500), (by decide : 500 < 600), (by decide : 500 ≠ 204 ∧ 500 ≠ 304),
    ⟨digits, hne, hdigits, rfl, rfl⟩, hshort, rfl, rfl⟩

theorem read_movedOctets (status : Nat) (hlow : 200 ≤ status) (hhigh : status < 1000)
    (sent : Bytes) : Http.Head.read (movedOctets status ++ sent)
      = .done ⟨true, status, [("location", bytesOf "done")]⟩ sent := by
  have hline : Http.readLine (bytesOf "Location", bytesOf "done")
      = ("location", bytesOf "done") := by
    decide
  have hread := Http.read_head_one true status hlow hhigh [0x58]
    (List.all_eq_true.mp (by decide)) (bytesOf "Location") (bytesOf "done")
    (Http.isName_of_all _ (by decide) (by decide))
    (Http.isValue_of_all _ (by decide) (by decide)) sent
  rw [hline] at hread
  exact hread

/-- The redirect leads to that request. -/
theorem next_movedAnswer (body : Http.Sendable) :
    (Http.Hop.first filesEndpoint body).next? ⟨true, 302, [("location", bytesOf "done")]⟩
      = .follow doneHop := by
  have hdestination : (Http.Hop.first filesEndpoint body).destination?
      [("location", bytesOf "done")] = some "http://localhost:12345/v0/done" := by
    have htarget : (Http.Hop.first filesEndpoint body).target
        = "http://localhost:12345/v0/files" := by
      rfl
    unfold Http.Hop.destination?
    rw [htarget]
    decide +kernel
  have hparse : Url.parse "http://localhost:12345/v0/done" = .ok doneHop.url := by rfl
  have hwritable : Http.isWritable doneHop.url = true := by decide +kernel
  have honward : (Http.Hop.first filesEndpoint body).onward? 302 = some (.get, none) := rfl
  have hreferer : (Http.Hop.first filesEndpoint body).refererFor doneHop.url
      = some "http://localhost:12345/v0/files" := by
    rfl
  unfold Http.Hop.next?
  simp only [honward, hdestination, hparse, hwritable, if_true, hreferer]
  rfl

theorem hasFinalAnswer_announced (digits : List Char)
    (hdigits : ∀ c ∈ digits, isDigitChar c = true) (silent : Bool) :
    hurriedUploader.HasFinalAnswer (announcedTurn digits silent) 50 (announcedHead digits)
      (bytesOf successDocument.text) silent := by
  have hline : Http.readLine (bytesOf "Content-Length", Utf8.encode digits)
      = ("content-length", Utf8.encode digits) := by
    have hname : stringLossy ((bytesOf "Content-Length").map lowerByte) = "content-length" := by
      decide
    unfold Http.readLine
    rw [hname, (Http.isValue_digits digits hdigits).2]
  have hread := Http.read_head_one true 500 (by decide) (by decide) [0x58]
    (List.all_eq_true.mp (by decide)) (bytesOf "Content-Length") (Utf8.encode digits)
    (Http.isName_of_all _ (by decide) (by decide))
    (Http.isValue_digits digits hdigits).1 (bytesOf successDocument.text)
  rw [hline] at hread
  refine ⟨_, rfl, isReachable_files, 20, 1, doneHop, 30, _, ?_, rfl, rfl, hread, rfl⟩
  -- one redirect leads from the endpoint to the final answer
  have hanswer : Http.receive (some 500) movedAnswer
      = .answer ⟨true, 302, [("location", bytesOf "done")]⟩ .untilClosed [] false := by
    unfold Http.receive movedAnswer
    simp only [read_movedOctets 302 (by decide) (by decide) []]
    rfl
  refine .leads (?_ : Http.Leads _ _ _ _ _ ⟨true, 302, [("location", bytesOf "done")]⟩) .here
  exact ⟨⟨.untilClosed, [], false, hanswer⟩, next_movedAnswer _, by decide⟩

/-- A form is redirected, and the answer has status 500 and calls the upload a success in 18
octets.  If 18 are announced the connection may stay open; if 19 are announced, the upload
fails when it is closed, and when the time is over. -/
theorem response_of_redirected_form :
    (∃ o r, (hurriedUploader.turn (announcedTurn "018".toList true)).2.outcome = some o
        ∧ o.response? = some r ∧ r.data = successDocument ∧ r.status.toNat = 500)
      ∧ (∃ fault, hurriedUploader.Fails (announcedTurn "19".toList false) (.request fault)
        ∧ fault.timedOut = false)
      ∧ ∃ fault, hurriedUploader.Fails (announcedTurn "19".toList true) (.request fault)
        ∧ fault.timedOut = true
        ∧ Formatter.standard.ofFailure (.request fault) = "Upload timed out" := by
  have hlength : (bytesOf successDocument.text).length = 18 := by decide
  have heighteen : ∀ c ∈ "018".toList, isDigitChar c = true := List.all_eq_true.mp (by decide)
  have hnineteen : ∀ c ∈ "19".toList, isDigitChar c = true := List.all_eq_true.mp (by decide)
  have hcomplete := response_counts_when_complete hurriedUploader _ 50 _ _ true _
    (hasFinalAnswer_announced "018".toList heighteen true)
    (announces_announcedHead "018".toList (by decide) heighteen (by decide))
  have hshort := fun silent => response_counts_when_complete hurriedUploader _ 50 _ _ silent _
    (hasFinalAnswer_announced "19".toList hnineteen silent)
    (announces_announcedHead "19".toList (by decide) hnineteen (by decide))
  refine ⟨?_, ?_, ?_⟩
  · obtain ⟨o, r, houtcome, hresponse, hdata, hstatus⟩ := hcomplete.1 (by decide) (by decide)
    refine ⟨o, r, houtcome, hresponse, ?_, hstatus⟩
    rw [hdata, List.take_of_length_le (by decide)]
    exact Json.dataOfBody_text successDocument regular_success (by decide)
  · exact (hshort false).2.1 (by decide) rfl
  · obtain ⟨fault, hfails, htimedOut, htext⟩ := (hshort true).2.2.1 (by decide) rfl rfl
    exact ⟨fault, hfails, htimedOut, htext rfl⟩

end Uploader

end FormUpload
