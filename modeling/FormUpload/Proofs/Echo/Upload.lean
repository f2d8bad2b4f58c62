import FormUpload.Proofs.Echo.Documents
import FormUpload.Proofs.Http.Answers
import FormUpload.Proofs.MediaType.Guessing
import FormUpload.Proofs.Url.Address
import FormUpload.Uploader
import Mathlib.Data.List.Forall2

/-!
# Uploads to the echo server

A form goes all the way: it is laid out, posted, read by the server, told in an envelope,
and the envelope is read back.  So an upload to the route of successes ends in a success
that tells every part, in order.
-/

namespace FormUpload.Echo

open FormUpload.Text
open FormUpload.Json (Value)
open FormUpload.Multipart (Boundary Accepted dashes blockFor)

/-! ## §1. The endpoint. -/

/-- The characters of a route's name. -/
def successRoute : List Char := "success".toList

theorem isSegment_successRoute : Url.IsSegment successRoute := by
  have hall : (successRoute.all isLetter) = true := by decide
  exact List.all_eq_true.mp hall

/-- The URL of the server that listens at a port, as the server names it. -/
def successUrl (port : Nat) : String := url ("127.0.0.1:" ++ String.ofList (decimal port)) "success"

theorem toList_successUrl (port : Nat) :
    (successUrl port).toList = Url.localChars (some port) successRoute := by
  have hstart : "127.0.0.1:".toList = Url.localHost ++ [':'] := by decide
  have hslash : "/".toList = ['/'] := by decide
  have hroute : "success".toList.dropWhile (· == '/') = successRoute := by decide
  unfold successUrl url Url.localChars Url.portChars
  simp only [String.toList_append, String.toList_ofList, hstart, hslash, hroute,
    List.append_assoc, List.nil_append, List.cons_append]

/-- **The server's own URL is an endpoint.** -/
theorem readEndpoint_successUrl (port : Nat) (hport : port ≤ 65535) :
    readEndpoint (successUrl port) = .ok (Url.localUrl (some port) successRoute) := by
  have hparse := Url.parseChars_local (some port) (fun p hp => by cases hp; exact hport)
    successRoute isSegment_successRoute
  have hvisible := Url.visible_localChars (some port) successRoute isSegment_successRoute
  have hne : Url.localChars (some port) successRoute ≠ [] := List.cons_ne_nil _ _
  have hblank : ∀ c ∈ Url.localChars (some port) successRoute, isBlank c = false := by
    intro c hc
    have := hvisible c hc
    unfold isBlank
    simp only [Bool.or_eq_false_iff, Bool.and_eq_false_iff, decide_eq_false_iff_not,
      beq_eq_false_iff_ne]
    omega
  have htrim : trimBlank (Url.localChars (some port) successRoute)
      = Url.localChars (some port) successRoute := by
    unfold trimBlank
    rw [dropWhile_of_stops _ _ fun c hc => hblank c (List.mem_of_mem_head? hc),
      dropWhile_of_stops _ _ fun c hc => hblank c (List.mem_reverse.mp (List.mem_of_mem_head? hc)),
      List.reverse_reverse]
  unfold readEndpoint
  rw [toList_successUrl, htrim]
  generalize Url.localChars (some port) successRoute = cs at hparse hne
  cases cs with
  | nil => exact absurd rfl hne
  | cons c cs => simp only [hparse]

/-! ## §2. The request. -/

/-- The hop that posts a body to the server. -/
def successHop (port : Nat) (body : Http.Sendable) : Http.Hop :=
  ⟨.post, Url.localUrl (some port) successRoute, (Url.localUrl (some port) successRoute).text, none,
    none, some body⟩

theorem first_successUrl (port : Nat) (body : Http.Sendable) :
    Http.Hop.first (Url.localUrl (some port) successRoute) body = successHop port body := by
  have hnobody : Http.withoutUser (Url.localUrl (some port) successRoute)
      = (Url.localUrl (some port) successRoute, none) := by
    have hnone : Http.credentials? (Url.localUrl (some port) successRoute) = none := rfl
    unfold Http.withoutUser
    rw [hnone]
  unfold Http.Hop.first
  rw [hnobody]
  rfl

theorem hasWebScheme_successUrl (port : Nat) :
    Http.hasWebScheme (Url.localUrl (some port) successRoute) = true := by
  show (("http" == "http") || ("http" == "https")) = true
  decide

theorem isWritable_successUrl (port : Nat) (hport : port ≤ 65535) :
    Http.isWritable (Url.localUrl (some port) successRoute) = true := by
  have hcredentials : (Url.localUrl (some port) successRoute).credentialText.toList = [] := by
    have h : (Url.localUrl (some port) successRoute).credentialText = "" := rfl
    rw [h]
    rfl
  have hhost : ((((Url.localUrl (some port) successRoute).host.map (·.text)).getD "").toList.all
      Http.isAuthorityChar) = true := by
    show ((Url.Host.ipv4 0x7F000001).text.toList.all Http.isAuthorityChar) = true
    decide
  have hlength : (bytesOf (Url.localUrl (some port) successRoute).text).length
      ≤ Http.targetLimit := by
    -- the only part of the target that varies is the port, with five digits at most
    have hdigits := length_decimal_le port 5 (by decide) (by omega)
    have hchars : (Url.portChars (Url.portNamed (some port))).length ≤ 6 := by
      unfold Url.portNamed
      split
      · exact Nat.zero_le _
      · show (decimal port).length + 1 ≤ 6
        omega
    have hfixed : "http://".toList.length = 7 ∧ Url.localHost.length = 9
        ∧ successRoute.length = 7 := by
      decide
    have hoctets := Utf8.length_encode_le
      (Url.localChars (Url.portNamed (some port)) successRoute)
    rw [Url.text_localUrl, bytesOf_ofList]
    unfold Url.localChars at hoctets ⊢
    simp only [List.length_append, List.length_cons] at hoctets
    unfold Http.targetLimit
    omega
  unfold Http.isWritable
  rw [hcredentials, hhost, decide_eq_true hlength]
  rfl

/-- A body for the server is sent: its way begins with the hop that posts it. -/
theorem send_successUrl (client : Http.Client) (network : Http.Network) (port : Nat)
    (hport : port ≤ 65535) (body : Http.Sendable) :
    Http.send client network (Url.localUrl (some port) successRoute) body
      = Http.follow client network (Url.localUrl (some port) successRoute).text
          Http.redirectLimit 0 (successHop port body) := by
  unfold Http.send
  rw [first_successUrl]
  show (if Http.hasWebScheme (Url.localUrl (some port) successRoute)
    && Http.isWritable (Url.localUrl (some port) successRoute) then _ else _) = _
  rw [hasWebScheme_successUrl, isWritable_successUrl port hport]
  rfl

/-- **What the server is asked**: the body is posted with its type. -/
theorem request_successHop (userAgent : Option String) (port : Nat) (body : Http.Sendable) :
    ∃ headers, (successHop port body).request userAgent
        = ⟨false, .post, (Url.localUrl (some port) successRoute).text, headers, body.octets⟩
      ∧ headers.lookup "content-type" = some body.contentType := by
  unfold Http.Hop.request successHop
  refine ⟨_, rfl, ?_⟩
  simp [Http.Hop.header, List.lookup_cons]

/-! ## §3. The reply. -/

/-- What the server says of a form. -/
def report (b : Boundary) (ps : List Part) : Value :=
  successEnvelope (echoOf (Multipart.bodyType b.text) (ps.map fieldOf))

theorem pathOf_successUrl (port : Nat) (hport : port ≤ 65535) (r : Http.Request)
    (hr : r.target = (Url.localUrl (some port) successRoute).text) : pathOf r = "/success" := by
  have hpath : "/" ++ String.ofList successRoute = "/success" := by decide
  unfold pathOf
  rw [hr, Url.parse_text_localUrl _ (fun p hp => by cases hp; exact hport) _ isSegment_successRoute]
  show (Url.localUrl (Url.portNamed (some port)) successRoute).path.text = _
  rw [Url.pathText_localUrl, hpath]

/-- **The server tells of a body that it can read.** -/
theorem reply_report (port : Nat) (hport : port ≤ 65535) (b : Boundary) (ps : List Part)
    (hne : ps ≠ []) (hps : ∀ p ∈ ps, PlainName p) (hfree : ∀ p ∈ ps, ¬ dashes b <:+: p.content)
    (hsize : (Multipart.encode b.text (ps.map blockFor)).length ≤ bodyLimit) (r : Http.Request)
    (hmethod : r.method = .post) (htarget : r.target = (Url.localUrl (some port) successRoute).text)
    (htype : r.headers.lookup "content-type" = some (Multipart.bodyType b.text))
    (hbody : r.body = Multipart.encode b.text (ps.map blockFor)) :
    reply r = .document 200 (report b ps) := by
  have hroute : Route.at? "/success" = some .success := by decide
  have hboundary : afterStart? typeStart (Multipart.bodyType b.text).toList = some b.text := by
    unfold Multipart.bodyType typeStart
    rw [String.toList_append, afterStart?_append, String.toList_ofList]
  have hread := readBody_encode b ps hne hps hfree
  unfold reply
  rw [pathOf_successUrl port hport r htarget, hroute, htype, hmethod, hbody]
  simp only [Option.getD_some, hboundary, hread, Nat.not_lt.mpr hsize, if_false]
  rfl

theorem octets_document (v : Value) : (Reply.document 200 v).octets
    = Http.answerOctets (bytesOf "application/json") (bytesOf v.text) := by
  -- the pieces of an answer whose texts are fixed
  have hline : bytesOf ("HTTP/1.1 " ++ Http.statusText 200 ++ "\r\n") = Http.okLine := by decide
  have htype : bytesOf ("content-type: " ++ "application/json" ++ "\r\n")
      = Http.headerLine (bytesOf "content-type") (bytesOf "application/json") := by decide
  have hlength : bytesOf "content-length: " = bytesOf "content-length" ++ [0x3A, 0x20] := by decide
  have hend : bytesOf "\r\n\r\n" = [0x0D, 0x0A, 0x0D, 0x0A] := by decide
  show bytesOf ("HTTP/1.1 " ++ Http.statusText 200 ++ "\r\n"
    ++ ("content-type: " ++ "application/json" ++ "\r\n") ++ "content-length: "
    ++ String.ofList (decimal (bytesOf v.text).length) ++ "\r\n\r\n") ++ bytesOf v.text = _
  rw [bytesOf_append, bytesOf_append, bytesOf_append, bytesOf_append, hline, htype, hlength, hend,
    bytesOf_ofList (decimal _)]
  unfold Http.answerOctets
  generalize bytesOf v.text = body
  have hheader : Http.headerLine (bytesOf "content-length") (Utf8.encode (decimal body.length))
      = bytesOf "content-length" ++ ([0x3A, 0x20] ++ (Utf8.encode (decimal body.length)
        ++ [0x0D, 0x0A])) := rfl
  rw [hheader]
  simp only [List.append_assoc, List.cons_append, List.nil_append]

/-! ## §4. The answer. -/

/-- What can go wrong with a form on its way to the server, and does not. -/
structure Posted (b : Boundary) (ps : List Part) : Prop where
  accepted : ∀ p ∈ ps, Accepted p
  nonempty : ps ≠ []
  names : ∀ p ∈ ps, PlainName p
  free : ∀ p ∈ ps, ¬ dashes b <:+: p.content
  size : (Multipart.encode b.text (ps.map blockFor)).length ≤ bodyLimit

theorem Posted.within {b : Boundary} {ps : List Part} (h : Posted b ps) :
    ∀ f ∈ ps.map fieldOf, f.Within bodyLimit := by
  intro f hf
  obtain ⟨p, hp, rfl⟩ := List.mem_map.mp hf
  exact within_fieldOf p bodyLimit ((Multipart.length_part_le b ps p hp).trans h.size)

/-- What the server says of a form is short enough to announce its length. -/
theorem Posted.length_report {b : Boundary} {ps : List Part} (h : Posted b ps) :
    (bytesOf (report b ps).text).length < Http.lengthLimit := by
  have htype : (Multipart.bodyType b.text).toList.length ≤ bodyLimit := by
    have hstart : "multipart/form-data; boundary=".toList.length = 30 := by decide
    have hread : (String.ofList b.text).toList = b.text := String.toList_ofList
    unfold Multipart.bodyType
    rw [String.toList_append, hread, List.length_append, hstart, Multipart.length_boundary]
    decide
  have hfields : (ps.map fieldOf).length ≤ bodyLimit := by
    have := Multipart.length_parts_lt b ps h.nonempty
    have := h.size
    rw [List.length_map]
    omega
  -- as many fields as the body has octets, each as long as the body
  have hproduct := Nat.mul_le_mul_right (25 * bodyLimit + 101) hfields
  calc (bytesOf (report b ps).text).length
      ≤ 4 * ((ps.map fieldOf).length * (25 * bodyLimit + 101) + (6 * bodyLimit + 100)) :=
        length_envelope_le _ _ bodyLimit htype h.within
    _ ≤ 4 * (bodyLimit * (25 * bodyLimit + 101) + (6 * bodyLimit + 100)) :=
        Nat.mul_le_mul_left 4 (Nat.add_le_add_right hproduct _)
    _ < Http.lengthLimit := by decide

/-- **The client reads what the server says.** -/
theorem Posted.data_report {b : Boundary} {ps : List Part} (h : Posted b ps) :
    Response.dataOfBody (bytesOf (report b ps).text) = report b ps := by
  have hregular : Json.Regular (report b ps) := by
    apply regular_envelope
    intro f hf
    exact (h.within f hf).content.trans_lt (by decide)
  exact Json.dataOfBody_text (report b ps) hregular (depth_envelope_le _ _)

/-- The response to a form. -/
def reportResponse (b : Boundary) (ps : List Part) : Response :=
  ⟨200, [("content-type", "application/json"),
    ("content-length", String.ofList (decimal (bytesOf (report b ps).text).length))], report b ps⟩

/-- **The network brings what the server says of a form.** -/
theorem Posted.network_report {b : Boundary} {ps : List Part} (h : Posted b ps)
    (userAgent : Option String) (port : Nat) (hport : port ≤ 65535) :
    network 0 ((successHop port (Transport.sendable b (ps.map blockFor))).request userAgent)
      = .received 0 (Http.answerOctets (bytesOf "application/json")
          (bytesOf (report b ps).text)) false := by
  obtain ⟨headers, hrequest, htype⟩ := request_successHop userAgent port
    (Transport.sendable b (ps.map blockFor))
  have hreply := reply_report port hport b ps h.nonempty h.names h.free h.size
    ⟨false, .post, (Url.localUrl (some port) successRoute).text, headers,
      (Transport.sendable b (ps.map blockFor)).octets⟩ rfl rfl htype rfl
  have hoctets := octets_document (report b ps)
  unfold network
  rw [hrequest, hreply]
  show Http.Delivery.received 0 (Reply.document 200 (report b ps)).octets false = _
  rw [hoctets]

/-- **Posting a form to the server comes to what the server says of it.** -/
theorem Posted.exchange {b : Boundary} {ps : List Part} (h : Posted b ps) (t : Transport)
    (port : Nat) (hport : port ≤ 65535) (hlimit : t.settings.timeout ≠ some 0) :
    (t.exchange network b (Url.localUrl (some port) successRoute) ps).2
      = some (.ok (reportResponse b ps)) := by
  have hblocks : Multipart.blocks ps = .ok (ps.map blockFor) :=
    (Multipart.blocks_eq_ok ps _).mpr ⟨h.accepted, rfl⟩
  have htype : Http.IsValue (bytesOf "application/json") := by
    have hall : ((bytesOf "application/json").all Http.isTextOctet) = true := by decide
    refine ⟨List.all_eq_true.mp hall, ?_⟩
    intro b hb
    cases hb
    decide
  have hkept : (bytesOf "application/json").rdropWhile Http.isLineBlank
      = bytesOf "application/json" := by decide
  have hname : stringLossy (bytesOf "application/json") = "application/json" := by decide
  -- the network answers the first request, and that is the final answer
  have hfollow := Http.follow_answer ⟨t.userAgent, t.settings.timeout⟩ network
    (Url.localUrl (some port) successRoute).text Http.redirectLimit 0 _ _ _ hlimit
    htype hkept h.length_report (h.network_report t.userAgent port hport)
  have hsend : (Http.send ⟨t.userAgent, t.settings.timeout⟩ network
      (Url.localUrl (some port) successRoute) (Transport.sendable b (ps.map blockFor))).result
        = some (.ok ⟨200, (reportResponse b ps).headers, bytesOf (report b ps).text⟩) := by
    rw [send_successUrl _ _ port hport, hfollow, hname]
    rfl
  -- status 200 is accepted, with its data, under any settings
  have haccept : Transport.accept t.settings
      ⟨200, (reportResponse b ps).headers, bytesOf (report b ps).text⟩
        = .ok (reportResponse b ps) := by
    have hfulfilled : Http.isFulfilled 200 = true := by decide
    unfold Transport.accept Response.ofBody
    rw [h.data_report]
    simp only [hfulfilled, Bool.not_true, Bool.and_false, Bool.false_eq_true, if_false]
    rfl
  unfold Transport.exchange
  rw [hblocks]
  simp only [hsend, Transport.answerOf, Option.map_some, haccept]

/-- **Without any time a form does not arrive**: the server answers, but nobody waits. -/
theorem Posted.exchange_at_once {b : Boundary} {ps : List Part} (h : Posted b ps) (t : Transport)
    (port : Nat) (hport : port ≤ 65535) (hlimit : t.settings.timeout = some 0) :
    (t.exchange network b (Url.localUrl (some port) successRoute) ps).2
      = some (.error (.request
          (.notSent (Url.localUrl (some port) successRoute).text true))) := by
  have hblocks : Multipart.blocks ps = .ok (ps.map blockFor) :=
    (Multipart.blocks_eq_ok ps _).mpr ⟨h.accepted, rfl⟩
  have hfollow := Http.follow_at_once t.userAgent network
    (Url.localUrl (some port) successRoute).text Http.redirectLimit 0
    (successHop port (Transport.sendable b (ps.map blockFor))) _ _ _
    (h.network_report t.userAgent port hport)
  unfold Transport.exchange
  rw [hblocks, hlimit]
  simp only [send_successUrl _ _ port hport, hfollow, Transport.answerOf, Option.map_some]

/-! ## §5. What is told of a part. -/

/-- The content type that the server reports for a part: none for a text, what the file
name stands for, or the media type that was given, blanks at its end apart. -/
def reportedType : Part → Option String
  | .text _ _ => none
  | .file _ fileName none _ => some (MediaType.guess fileName)
  | .file _ _ (some contentType) _ =>
      (MediaType.parse? contentType).map fun m =>
        String.ofList (MediaType.unpadded m.text.toList)

/-- Whether an item tells of a part. -/
structure Tells (p : Part) (item : Value) : Prop where
  isObject : ∃ members, item = .object members
  size : item.get? "size" = some (.number (.whole p.content.length))
  text : item.get? "text" = some (.string (stringLossy p.content))
  contentType : item.get? "contentType" = some (textOrNull (reportedType p))

theorem unpadded_plain (cs : List Char) (h : MediaType.PlainType cs) :
    MediaType.unpadded cs = cs := by
  apply List.rdropWhile_eq_self_iff.mpr
  intro hne
  have hlast := h.visible _ (List.getLast_mem hne)
  rw [beq_iff_eq]
  intro hblank
  rw [hblank] at hlast
  exact absurd hlast.1 (by decide)

/-- The media type of an accepted part is written in visible characters. -/
theorem visible_mediaType (p : Part) (hp : VisibleType p) (m : MediaType)
    (hm : p.mediaType? = some m) : ∀ c ∈ m.essence ++ m.parameters, isVisible c = true := by
  cases p with
  | text name value => cases hm
  | file name fileName contentType content =>
      cases contentType with
      | none =>
          have hguess : some (MediaType.mk (MediaType.guess fileName).toList []) = some m :=
            (MediaType.parse?_guess fileName).symm.trans hm
          cases hguess
          intro c hc
          rw [List.append_nil] at hc
          have := (MediaType.plainType_guess fileName).visible c hc
          rw [visible_iff]
          omega
      | some contentType => exact visible_of_parse contentType.toList m hm hp

/-- **The reported content type is read from the field of the part.** -/
theorem contentType_reported (p : Part) (hp : VisibleType p) :
    (fieldOf p).contentType = reportedType p := by
  rw [contentType_fieldOf p (visible_mediaType p hp)]
  cases p with
  | text name value => rfl
  | file name fileName contentType content =>
      cases contentType with
      | none =>
          have hguess : (Part.file name fileName none content).mediaType?
              = some ⟨(MediaType.guess fileName).toList, []⟩ := MediaType.parse?_guess fileName
          rw [hguess, Option.map_some, List.append_nil,
            unpadded_plain _ (MediaType.plainType_guess fileName), String.ofList_toList]
          rfl
      -- the text that is cut at its end is the text of the media type
      | some contentType =>
          show (MediaType.parse? contentType).map _ = (MediaType.parse? contentType).map _
          apply congrArg fun f => (MediaType.parse? contentType).map f
          funext m
          unfold MediaType.text
          rw [String.toList_ofList]

theorem tells_document (p : Part) (hp : VisibleType p) : Tells p (fieldOf p).document := by
  have htype := contentType_reported p hp
  rw [document_eq, htype]
  refine ⟨⟨_, rfl⟩, ?_, ?_, ?_⟩
  · simp [Value.get?, fieldOf, Field.ofHeaders]
  · simp [Value.get?, fieldOf, Field.ofHeaders]
  · simp [Value.get?]

/-! ## §6. Uploads. -/

theorem succeeded_report (b : Boundary) (ps : List Part) :
    (reportResponse b ps).succeeded = true := by
  unfold Response.succeeded reportResponse report
  rw [envelope_eq]
  simp [Value.get?, Value.asBool?, Response.successField]

theorem parts_report (b : Boundary) (ps : List Part) :
    ((report b ps).get? "result").bind (·.get? "parts")
      = some (.array (ps.map fun p => (fieldOf p).document)) := by
  unfold report
  rw [envelope_eq, List.map_map]
  simp [Value.get?, Function.comp_def]

/-- **An upload to the server succeeds with what the server says**, and that is kept. -/
theorem Posted.submit {b : Boundary} {form : Form} (h : Posted b form.parts) (u : Uploader)
    (port : Nat) (hport : port ≤ 65535)
    (hendpoint : readEndpoint (successUrl port) = .ok u.lifecycle.endpoint)
    (hlimit : u.transport.settings.timeout ≠ some 0) :
    (u.submit network b form).2.outcome = some (.success (reportResponse b form.parts))
      ∧ (u.submit network b form).1.lifecycle.last = some (reportResponse b form.parts) := by
  rw [readEndpoint_successUrl port hport] at hendpoint
  have hurl := Except.ok.inj hendpoint
  have hanswer : (u.transport.post network b u.lifecycle.endpoint form.parts).answer
      = some (.ok (reportResponse b form.parts)) := by
    rw [← hurl]
    exact h.exchange u.transport port hport hlimit
  -- the envelope names itself a success
  have houtcome : u.lifecycle.outcome (.ok (reportResponse b form.parts))
      = .success (reportResponse b form.parts) := by
    unfold Lifecycle.outcome Outcome.ofAnswer
    simp only [succeeded_report, if_true]
  unfold Uploader.submit
  simp only [hanswer, Lifecycle.complete, houtcome]
  exact ⟨trivial, rfl⟩

/-- An upload without any time fails. -/
theorem Posted.submit_at_once {b : Boundary} {form : Form} (h : Posted b form.parts) (u : Uploader)
    (port : Nat) (hport : port ≤ 65535)
    (hendpoint : readEndpoint (successUrl port) = .ok u.lifecycle.endpoint)
    (hlimit : u.transport.settings.timeout = some 0) :
    ∃ f m, (u.submit network b form).2.outcome = some (.transportFailure f m) := by
  rw [readEndpoint_successUrl port hport] at hendpoint
  have hurl := Except.ok.inj hendpoint
  have hanswer : (u.transport.post network b u.lifecycle.endpoint form.parts).answer
      = some (.error (.request
          (.notSent (Url.localUrl (some port) successRoute).text true))) := by
    rw [← hurl]
    exact h.exchange_at_once u.transport port hport hlimit
  unfold Uploader.submit
  simp only [hanswer]
  exact ⟨_, _, rfl⟩

/-- **A form arrives as it was sent.**  Whatever its names and contents are, an upload to
the route of successes succeeds with status 200, the response is kept, and its document
tells every part, in order. -/
theorem upload_tells_parts (u : Uploader) (port : Nat) (hport : port ≤ 65535)
    (hendpoint : readEndpoint (successUrl port) = .ok u.lifecycle.endpoint)
    (hlimit : u.transport.settings.timeout ≠ some 0) (b : Boundary) (form : Form)
    (bs : List Multipart.Block) (hbs : Multipart.blocks form.parts = .ok bs)
    (hne : form.parts ≠ []) (hnames : ∀ p ∈ form.parts, PlainName p)
    (htypes : ∀ p ∈ form.parts, VisibleType p)
    (hfree : ∀ p ∈ form.parts, ¬ dashes b <:+: p.content)
    (hsize : (Multipart.encode b.text bs).length ≤ bodyLimit) :
    ∃ r items, (u.submit network b form).2.outcome = some (.success r)
      ∧ (u.submit network b form).1.lifecycle.last = some r
      ∧ r.status = 200
      ∧ (r.data.get? "result").bind (·.get? "parts") = some (.array items)
      ∧ List.Forall₂ Tells form.parts items := by
  obtain ⟨haccepted, rfl⟩ := (Multipart.blocks_eq_ok form.parts bs).mp hbs
  have hposted : Posted b form.parts := ⟨haccepted, hne, hnames, hfree, hsize⟩
  obtain ⟨houtcome, hlast⟩ := hposted.submit u port hport hendpoint hlimit
  refine ⟨reportResponse b form.parts, _, houtcome, hlast, rfl, parts_report b form.parts, ?_⟩
  rw [List.forall₂_map_right_iff, List.forall₂_same]
  exact fun p hp => tells_document p (htypes p hp)

/-- An uploader for the server at a port. -/
def localUploader (port : Nat) : Uploader :=
  ⟨⟨Url.localUrl (some port) successRoute, .log, .standard, none⟩, ⟨.standard, none⟩⟩

/-- A form with a text that looks like the end of a body, and two files, one of which
holds no text. -/
def mixedForm : Form :=
  ⟨[.text "note\r\n" "\r\n--", .file "" "report" none [0xFF, 0x0D, 0x0A],
    .file "empty" "a \"b\".txt" (some "Text/Plain; charset=UTF-8") []]⟩

/-- The mixed form arrives: its texts and its octets, its guessed type and its own. -/
theorem upload_tells_mixed_parts :
    ∃ r items, ((localUploader 8080).submit network ⟨1, 2, 3, 4⟩ mixedForm).2.outcome
        = some (.success r)
      ∧ ((localUploader 8080).submit network ⟨1, 2, 3, 4⟩ mixedForm).1.lifecycle.last = some r
      ∧ r.status = 200
      ∧ (r.data.get? "result").bind (·.get? "parts") = some (.array items)
      ∧ List.Forall₂ Tells mixedForm.parts items := by
  have hblocks : Multipart.blocks mixedForm.parts = .ok (mixedForm.parts.map blockFor) :=
    (Multipart.blocks_eq_ok _ _).mpr ⟨by decide, rfl⟩
  exact upload_tells_parts (localUploader 8080) 8080 (by decide)
    (readEndpoint_successUrl 8080 (by decide)) (by decide) ⟨1, 2, 3, 4⟩ mixedForm _ hblocks
    (by decide) (by decide) (by decide) (by decide) (by decide +kernel)

/-- A form with a content type that ends in a blank. -/
def paddedForm : Form := ⟨[.file "f" "a.txt" (some "text/plain; a=\"b\" ") [0x78]]⟩

/-- The same uploader, which does not wait at all. -/
def hastyUploader (port : Nat) : Uploader :=
  ⟨(localUploader port).lifecycle, ⟨{ timeout := some 0 }, none⟩⟩

/-- A blank at the end of a media type is part of it, but does not arrive: nothing is wrong
with the form, and the server reports the media type without it.  And nothing arrives
without any time. -/
theorem upload_drops_padding :
    Posted ⟨1, 2, 3, 4⟩ paddedForm.parts
    ∧ (∀ p ∈ paddedForm.parts, VisibleType p)
    ∧ (MediaType.parse? "text/plain; a=\"b\" ").map MediaType.text
        = some "text/plain; a=\"b\" "
    ∧ (∃ f m, ((hastyUploader 8080).submit network ⟨1, 2, 3, 4⟩ paddedForm).2.outcome
        = some (.transportFailure f m))
    ∧ ∃ r item, ((localUploader 8080).submit network ⟨1, 2, 3, 4⟩ paddedForm).2.outcome
        = some (.success r)
      ∧ (r.data.get? "result").bind (·.get? "parts") = some (.array [item])
      ∧ item.get? "contentType" = some (.string "text/plain; a=\"b\"") := by
  have hposted : Posted ⟨1, 2, 3, 4⟩ paddedForm.parts :=
    ⟨by decide, by decide, by decide, by decide, by decide +kernel⟩
  have hvisible : ∀ p ∈ paddedForm.parts, VisibleType p := by decide
  obtain ⟨houtcome, -⟩ := hposted.submit (localUploader 8080) 8080 (by decide)
    (readEndpoint_successUrl 8080 (by decide)) (by decide)
  have htells := tells_document _ (hvisible _ List.mem_cons_self)
  have htype : reportedType (.file "f" "a.txt" (some "text/plain; a=\"b\" ") [0x78])
      = some "text/plain; a=\"b\"" := by decide
  have hhasty := hposted.submit_at_once (hastyUploader 8080) 8080 (by decide)
    (readEndpoint_successUrl 8080 (by decide)) (by decide)
  refine ⟨hposted, hvisible, by decide, hhasty, _, _, houtcome, parts_report _ _, ?_⟩
  rw [htells.contentType, htype]
  rfl

end FormUpload.Echo
