import FormUpload.Proofs.Uploader.Completeness

/-!
# The requests of an upload

A form is posted once (`form_is_posted_once`).  Its request is the first of an upload; those
that come later ask where redirects lead, and carry nothing.  Nothing is tried twice: an
exchange without a readable answer is the last one, and only the answer of the last one can
be the response.

    first_posts      the first request posts the form to the endpoint
    bare_of_follows  what follows a redirect carries nothing
    last_of_broken   nothing follows an exchange without an answer
    alone_of_repeats a redirect that asks for the form again is not followed
-/

namespace FormUpload

open FormUpload.Text

namespace Http

/-! ## §1. Chains of exchanges. -/

/-- What follows in a chain carries nothing. -/
theorem bare_of_follows (e : Exchange) (later : List Exchange)
    (h : (e :: later).IsChain Follows) : ∀ e' ∈ later, e'.request.IsBare := by
  induction later generalizing e with
  | nil =>
      intro e' he'
      cases he'
  | cons next later ih =>
      obtain ⟨hfollows, hlater⟩ := List.isChain_cons_cons.mp h
      exact List.forall_mem_cons.mpr ⟨hfollows.bare, ih next hlater⟩

/-- **Nothing follows an exchange without a readable answer.** -/
theorem last_of_broken (before after : List Exchange) (e : Exchange)
    (h : (before ++ e :: after).IsChain Follows) (he : e.delivery.head? = none) : after = [] := by
  cases after with
  | nil => rfl
  | cons next after =>
      obtain ⟨-, hchain, -⟩ := List.isChain_append.mp h
      obtain ⟨head, hhead, -⟩ := (List.isChain_cons_cons.mp hchain).1.redirected
      rw [he] at hhead
      cases hhead

/-- **A redirect that asks for the same again is not followed** where something was posted. -/
theorem alone_of_repeats (e : Exchange) (later : List Exchange)
    (h : (e :: later).IsChain Follows) (hpost : e.request.method = .post) (head : Head)
    (hhead : e.delivery.head? = some head) (hrepeats : Hop.repeatsRequest head.status = true) :
    later = [] := by
  cases later with
  | nil => rfl
  | cons next later =>
      obtain ⟨head', hhead', -, -, hno⟩ := (List.isChain_cons_cons.mp h).1.redirected
      rw [hhead] at hhead'
      cases hhead'
      rw [hno hpost] at hrepeats
      cases hrepeats

/-! ## §2. The first request. -/

/-- The URL that is asked for has the scheme of the endpoint. -/
theorem scheme_withoutUser (endpoint : Url) :
    (withoutUser endpoint).1.scheme = endpoint.scheme := by
  unfold withoutUser
  split
  · rfl
  · rfl

/-- A request that posts a body to an endpoint. -/
structure Request.Posts (r : Request) (endpoint : Url) (body : Sendable) : Prop where
  secure : r.secure = (endpoint.scheme == "https")
  method : r.method = .post
  target : r.target = targetText (withoutUser endpoint).1
  carries : r.body = body.octets
  type : r.headers.lookup "content-type" = some body.contentType
  size : r.headers.lookup "content-length" = some (String.ofList (decimal body.length))

/-- **The first request posts the body to the endpoint.** -/
theorem first_posts (endpoint : Url) (body : Sendable) (userAgent : Option String) :
    ((Hop.first endpoint body).request userAgent).Posts endpoint body := by
  have hsecure : ((Hop.first endpoint body).request userAgent).secure
      = (endpoint.scheme == "https") := by
    show ((withoutUser endpoint).1.scheme == "https") = _
    rw [scheme_withoutUser]
  -- the length and the type stand after what is asked for and who asks
  have hheaders : ((Hop.first endpoint body).request userAgent).headers
      = [("accept", "*/*"), ("accept-encoding", "gzip")]
        ++ Hop.header "authorization" (withoutUser endpoint).2
        ++ [("content-length", String.ofList (decimal body.length))]
        ++ [("content-type", body.contentType)]
        ++ [("host", hostText (withoutUser endpoint).1)]
        ++ Hop.header "referer" none ++ Hop.header "user-agent" userAgent := rfl
  refine ⟨hsecure, rfl, rfl, rfl, ?_, ?_⟩
  · rw [hheaders]
    cases (withoutUser endpoint).2 <;> rfl
  · rw [hheaders]
    cases (withoutUser endpoint).2 <;> rfl

/-- A body that holds something is not asked for again. -/
theorem stay_of_repeats (h : Hop) (hsends : h.octets ≠ []) (head : Head)
    (hrepeats : Hop.repeatsRequest head.status = true) : h.next? head = .stay := by
  have honward : h.onward? head.status = none := by
    unfold Hop.onward?
    rw [if_pos hrepeats]
    exact if_neg hsends
  unfold Hop.next?
  rw [honward]

/-! ## §3. Bodies that are sent. -/

variable (client : Client) (network : Network) (endpoint : Url) (body : Sendable)

/-- Exchanges of which only the first carries a body. -/
structure PostsOnce (es : List Exchange) : Prop where
  first : ∀ e later, es = e :: later → e.request.Posts endpoint body
    ∧ later.length ≤ redirectLimit ∧ ∀ e' ∈ later, e'.request.IsBare
  delivery : ∀ i e, es[i]? = some e → e.delivery = network i e.request
  chain : es.IsChain Follows

/-- The way of a body that holds something. -/
theorem exchanges_send (hreachable : isReachable (withoutUser endpoint).1 = true) :
    ∃ later, (send client network endpoint body).exchanges
      = (Hop.first endpoint body).exchange client network 0 :: later :=
  (way_send client network endpoint body hreachable).head

/-- **A body that holds something is posted once.** -/
theorem postsOnce_send (hsends : body.octets ≠ []) :
    PostsOnce network endpoint body (send client network endpoint body).exchanges := by
  cases hreachable : isReachable (withoutUser endpoint).1 with
  | false =>
      -- no request is made at all
      rw [send_of_unreachable client network endpoint body hreachable]
      refine ⟨fun e later h => ?_, fun i e h => ?_, .nil⟩
      · cases h
      · cases h
  | true =>
      have hway := way_send client network endpoint body hreachable
      have hchain := hway.chain (Or.inl hsends)
      refine ⟨fun e later hes => ?_, fun i e he => ?_, hchain⟩
      · obtain ⟨rest, hrest⟩ := exchanges_send client network endpoint body hreachable
        have hlength := hway.length_le
        rw [hes] at hlength hchain
        refine ⟨?_, Nat.le_of_succ_le_succ hlength, bare_of_follows e later hchain⟩
        rw [hes] at hrest
        rw [(List.cons.inj hrest).1]
        exact first_posts endpoint body client.userAgent
      · have hdelivery := hway.delivery i e he
        rw [Nat.zero_add] at hdelivery
        exact hdelivery

/-- **A redirect that asks for the body again is the final answer.** -/
theorem finalAnswer_of_repeats (hsends : body.octets ≠ [])
    (first : Exchange) (later : List Exchange)
    (hes : (send client network endpoint body).exchanges = first :: later) (delay : Nat)
    (octets : Bytes) (silent : Bool) (head : Head) (sent : Bytes)
    (hdelivery : first.delivery = .received delay octets silent)
    (hread : Head.read octets = .done head sent)
    (hrepeats : Hop.repeatsRequest head.status = true) :
    later = [] ∧ FinalAnswer client network endpoint body delay head sent silent := by
  cases hreachable : isReachable (withoutUser endpoint).1 with
  | false =>
      rw [send_of_unreachable client network endpoint body hreachable] at hes
      cases hes
  | true =>
      obtain ⟨rest, hrest⟩ := exchanges_send client network endpoint body hreachable
      have hfirst := (List.cons.inj (hes.symm.trans hrest)).1
      have honce := postsOnce_send client network endpoint body hsends
      have hchain := honce.chain
      rw [hes] at hchain
      constructor
      · cases hhead : first.delivery.head? with
        | none => exact last_of_broken [] later first hchain hhead
        | some head' =>
            have hsame : head' = head := by
              rw [hdelivery] at hhead
              simp only [Delivery.head?, hread, Option.map_eq_some_iff] at hhead
              obtain ⟨-, -, h⟩ := hhead
              exact h.symm
            rw [← hsame] at hrepeats
            exact alone_of_repeats first later hchain (honce.first first later hes).1.method head'
              hhead hrepeats
      · rw [hfirst] at hdelivery
        exact .of_first hreachable hdelivery hread
          (stay_of_repeats (Hop.first endpoint body) hsends head hrepeats)

end Http

namespace Uploader

/-! ## §4. Uploads. -/

variable (u : Uploader) (t : Turn)

/-- The exchanges of a form are those of its body. -/
theorem exchanges_of_form (blocks : List Multipart.Block)
    (hblocks : Multipart.blocks t.form.parts = .ok blocks) : (u.turn t).2.exchanges
      = (Http.send ⟨u.transport.userAgent, u.transport.settings.timeout⟩ t.network
          u.lifecycle.endpoint (Transport.sendable t.boundary blocks)).exchanges := by
  rw [exchanges_turn, Transport.exchanges_exchange _ _ _ _ _ blocks hblocks]

/-- **The first request of an upload posts the form**, if a request can be made at all. -/
theorem posts_of_form (blocks : List Multipart.Block)
    (hblocks : Multipart.blocks t.form.parts = .ok blocks)
    (hreachable : Http.isReachable (Http.withoutUser u.lifecycle.endpoint).1 = true) :
    ∃ first later, (u.turn t).2.exchanges = first :: later
      ∧ first.request.Posts u.lifecycle.endpoint (Transport.sendable t.boundary blocks) := by
  obtain ⟨later, hlater⟩ := Http.exchanges_send
    ⟨u.transport.userAgent, u.transport.settings.timeout⟩ t.network u.lifecycle.endpoint
    (Transport.sendable t.boundary blocks) hreachable
  rw [u.exchanges_of_form t blocks hblocks, hlater]
  exact ⟨_, later, rfl, Http.first_posts u.lifecycle.endpoint _ _⟩

/-- The response of an outcome is the answer to the last request. -/
theorem last_of_outcome (o : Outcome) (r : Response) (ho : (u.turn t).2.outcome = some o)
    (hr : o.response? = some r) :
    ∃ e raw, (u.turn t).2.exchanges.getLast? = some e ∧ e.delivery.answer? = some raw
      ∧ r = .ofBody raw.status raw.headers raw.body := by
  rw [exchanges_turn]
  exact Transport.last_of_received _ _ _ _ _ r (u.received_of_response? t o r ho hr)

/-- An upload whose last exchange has no answer fails, or waits for ever. -/
theorem fails_or_waits (blocks : List Multipart.Block)
    (hblocks : Multipart.blocks t.form.parts = .ok blocks) (e : Http.Exchange)
    (he : (u.turn t).2.exchanges.getLast? = some e) (hanswer : e.delivery.answer? = none) :
    (∃ fault, u.Fails t (.request fault))
      ∨ ((u.turn t).2.outcome = none ∧ u.transport.settings.timeout = none
        ∧ e.delivery.isSilent = true) := by
  rw [exchanges_turn] at he
  cases hreceived : u.received t with
  | none =>
      obtain ⟨htimeout, e', he', hsilent⟩ := Transport.silent_of_received _ _ _ _ _ hreceived
      rw [he] at he'
      cases he'
      refine Or.inr ⟨?_, htimeout, hsilent⟩
      rw [outcome_turn]
      unfold answer?
      rw [hreceived]
      rfl
  | some answer =>
      cases answer with
      | ok r =>
          obtain ⟨e', raw, he', hraw, -⟩ := Transport.last_of_received _ _ _ _ _ r hreceived
          rw [he] at he'
          cases he'
          rw [hanswer] at hraw
          cases hraw
      | error f =>
          obtain ⟨fault, rfl⟩ := Transport.error_of_received _ _ _ _ _ blocks hblocks f hreceived
          exact Or.inl ⟨fault, u.fails_of_received t _ hreceived⟩

/-- **A final answer that is whole is the response**, if it comes in time. -/
theorem HasFinalAnswer.response? {u : Uploader} {t : Turn} {elapsed : Nat} {head : Http.Head}
    {sent : Bytes} {silent : Bool} (hf : u.HasFinalAnswer t elapsed head sent silent)
    (hlate : u.IsLate elapsed = false) (delay : Nat) (octets : Bytes)
    (hread : Http.Head.read octets = .done head sent) (raw : Http.RawResponse)
    (hraw : (Http.Delivery.received delay octets silent).answer? = some raw) :
    ∃ o, (u.turn t).2.outcome = some o
      ∧ o.response? = some (.ofBody raw.status raw.headers raw.body) := by
  obtain ⟨blocks, hblocks, hf⟩ := hf
  obtain ⟨framing, hframing, hfinish⟩ := Http.finish_of_answer? u.transport.settings.timeout delay
    octets sent silent head raw hread hraw
  have hreceived := u.transport.received_in_time t.network t.boundary u.lifecycle.endpoint
    t.form.parts blocks hblocks hf hlate framing hframing
  rw [hfinish] at hreceived
  exact u.response?_of_received t _ hreceived

/-- **A form is posted once.**  Of the requests that an upload makes, only the first carries
the form: it posts it to the endpoint.  Each other one follows a redirect in the answer to the
one before it, whose body is not looked at, and carries nothing; there are ten of these at
most.  A redirect that asks for the form again is not followed: it is the final answer.  An
exchange without a readable answer is the last one, and the upload fails, unless it waits for
ever.  The response of the outcome, if there is one, is the answer to the last request. -/
theorem form_is_posted_once (u : Uploader) (t : Turn) (blocks : List Multipart.Block)
    (hblocks : Multipart.blocks t.form.parts = .ok blocks) (hparts : t.form.parts ≠ []) :
    let es := (u.turn t).2.exchanges
    (Http.isReachable (Http.withoutUser u.lifecycle.endpoint).1 = true → es ≠ [])
      ∧ (∀ first later, es = first :: later →
        first.request.Posts u.lifecycle.endpoint (Transport.sendable t.boundary blocks)
          ∧ first.request.body ≠ [] ∧ later.length ≤ 10 ∧ ∀ e ∈ later, e.request.IsBare)
      ∧ (∀ i e, es[i]? = some e → e.delivery = t.network i e.request)
      ∧ es.IsChain Http.Follows
      ∧ (∀ first later delay octets silent head sent, es = first :: later →
        first.delivery = .received delay octets silent → Http.Head.read octets = .done head sent →
        head.status = 307 ∨ head.status = 308 →
        later = [] ∧ u.HasFinalAnswer t delay head sent silent
          ∧ ∀ raw, first.delivery.answer? = some raw → u.IsLate delay = false →
            ∃ o, (u.turn t).2.outcome = some o
              ∧ o.response? = some (.ofBody raw.status raw.headers raw.body))
      ∧ (∀ before e after, es = before ++ e :: after → e.delivery.head? = none →
        after = [] ∧ e.delivery.answer? = none)
      ∧ (∀ e, es.getLast? = some e → e.delivery.answer? = none →
        (∃ fault, u.Fails t (.request fault))
          ∨ ((u.turn t).2.outcome = none ∧ u.transport.settings.timeout = none
            ∧ e.delivery.isSilent = true))
      ∧ (∀ o r, (u.turn t).2.outcome = some o → o.response? = some r →
        ∃ e raw, es.getLast? = some e ∧ e.delivery.answer? = some raw
          ∧ r = .ofBody raw.status raw.headers raw.body) := by
  intro es
  have hes : es = _ := u.exchanges_of_form t blocks hblocks
  have hsends : (Transport.sendable t.boundary blocks).octets ≠ [] := fun hnil =>
    hparts ((Transport.octets_eq_nil_iff t.boundary t.form.parts blocks hblocks).mp hnil)
  have honce := Http.postsOnce_send ⟨u.transport.userAgent, u.transport.settings.timeout⟩
    t.network u.lifecycle.endpoint (Transport.sendable t.boundary blocks) hsends
  rw [← hes] at honce
  refine ⟨fun hreachable => ?_, fun first later h => ?_, honce.delivery, honce.chain, ?_, ?_,
    u.fails_or_waits t blocks hblocks, u.last_of_outcome t⟩
  · obtain ⟨later, hlater⟩ := Http.exchanges_send
      ⟨u.transport.userAgent, u.transport.settings.timeout⟩ t.network u.lifecycle.endpoint
      (Transport.sendable t.boundary blocks) hreachable
    rw [hes, hlater]
    exact List.cons_ne_nil _ _
  · obtain ⟨hposts, hlength, hbare⟩ := honce.first first later h
    refine ⟨hposts, ?_, hlength, hbare⟩
    rw [hposts.carries]
    exact hsends
  · intro first later delay octets silent head sent h hdelivery hread hstatus
    have hrepeats : Http.Hop.repeatsRequest head.status = true := by
      unfold Http.Hop.repeatsRequest
      rcases hstatus with hstatus | hstatus <;> rw [hstatus] <;> rfl
    obtain ⟨halone, hfinal⟩ := Http.finalAnswer_of_repeats _ _ _ _ hsends first later
      (hes.symm.trans h) delay octets silent head sent hdelivery hread hrepeats
    have hanswer : u.HasFinalAnswer t delay head sent silent := ⟨blocks, hblocks, hfinal⟩
    refine ⟨halone, hanswer, fun raw hraw hlate => ?_⟩
    rw [hdelivery] at hraw
    exact hanswer.response? hlate delay octets hread raw hraw
  · intro before e after h he
    have hchain := honce.chain
    rw [h] at hchain
    exact ⟨Http.last_of_broken before after e hchain he, Http.answer?_of_head? _ he⟩

/-- A turn whose form is asked for again elsewhere, where it would be taken. -/
def repeatTurn : Turn :=
  ⟨.scripted [.received 20 (movedOctets 307 ++ bytesOf successDocument.text) false,
    documentAnswer 200 successDocument], ⟨1, 2, 3, 4⟩, ⟨[.text "a" "b"]⟩⟩

/-- The form is not posted again: there is one request, and its answer is the response. -/
theorem form_is_not_posted_again :
    ∃ e blocks, (hurriedUploader.turn repeatTurn).2.exchanges = [e]
      ∧ Multipart.blocks repeatTurn.form.parts = .ok blocks
      ∧ e.request.Posts filesEndpoint (Transport.sendable ⟨1, 2, 3, 4⟩ blocks)
      ∧ ∃ o, (hurriedUploader.turn repeatTurn).2.outcome = some o
        ∧ o.response? = some ⟨307, [("location", "done")], successDocument⟩ := by
  obtain ⟨hsome, hfirst, hdelivery, -, hrepeats, -⟩ :=
    form_is_posted_once hurriedUploader repeatTurn _ rfl (by decide)
  obtain ⟨e, later, hes⟩ := List.exists_cons_of_ne_nil (hsome isReachable_files)
  obtain ⟨hposts, -⟩ := hfirst e later hes
  have hanswer : e.delivery
      = .received 20 (movedOctets 307 ++ bytesOf successDocument.text) false := by
    rw [hdelivery 0 e (by rw [hes]; rfl)]
    rfl
  have hread := read_movedOctets 307 (by decide) (by decide) (bytesOf successDocument.text)
  obtain ⟨rfl, -, hresponse⟩ := hrepeats e later _ _ _ _ _ hes hanswer hread (Or.inl rfl)
  refine ⟨e, _, hes, rfl, hposts, ?_⟩
  have hraw : e.delivery.answer?
      = some ⟨307, [("location", "done")], bytesOf successDocument.text⟩ := by
    rw [hanswer]
    unfold Http.Delivery.answer?
    simp only [hread]
    rfl
  obtain ⟨o, ho, hr⟩ := hresponse _ hraw (by decide)
  refine ⟨o, ho, ?_⟩
  rw [hr]
  show some (Response.mk 307 [("location", "done")] (Response.dataOfBody _)) = _
  rw [Json.dataOfBody_text successDocument regular_success (by decide)]

end Uploader

end FormUpload
