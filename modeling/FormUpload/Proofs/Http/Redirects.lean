import FormUpload.Http.Exchange
import Mathlib.Data.List.Chain

/-!
# The way to the final answer

A body that is posted makes one request after the other.  What one request can come to is
said once, for a hop in its place:

* `Ending` — it is the last one: one constructor for each way in which this happens,
* `Leads` — its answer sends the client on to another hop.

`Way` puts these together, and `way_follow` says that every run of `follow` is one.  What
holds of all runs is an induction over ways:

    Way.length_le   at most so many requests as redirects are left, and one
    Way.chain       every request but the first follows a redirect
    Way.last        only the answer to the last request can be the result
    Arrives.result  where a way has arrived, the result is decided there
-/

namespace FormUpload.Http

open FormUpload.Text

/-! ## §1. Hops that follow others. -/

/-- The octets that a hop sends. -/
def Hop.octets (h : Hop) : Bytes := (h.body.map (·.octets)).getD []

/-- A hop that asks for something and sends nothing. -/
def Hop.Bare (h : Hop) : Prop := h.method = .get ∧ h.body = none

/-- Nothing is sent twice: what is sent again would have to be empty. -/
def Hop.Once (h : Hop) : Prop := h.octets ≠ [] ∨ h.Bare

/-- **What it takes to be sent on**: a redirect, and a location that is a URL. -/
theorem Hop.next?_eq_follow (h next : Hop) (head : Head) (hnext : h.next? head = .follow next) :
    h.onward? head.status = some (next.method, next.body)
      ∧ h.destination? head.headers = some next.target := by
  unfold Hop.next? at hnext
  split at hnext
  · next method body target honward htarget =>
    split at hnext
    · cases hnext
    · split at hnext
      · cases hnext
        exact ⟨honward, htarget⟩
      · cases hnext
  · cases hnext

/-- A redirect names a location. -/
theorem Hop.location_of_destination (h : Hop) (headers : Headers) (target : String)
    (hd : h.destination? headers = some target) : (headers.first? "location").isSome = true := by
  unfold Hop.destination? at hd
  cases hl : headers.first? "location" with
  | none =>
      rw [hl] at hd
      cases hd
  | some location => rfl

/-- What is sent on. -/
theorem Hop.onward?_eq_some (h : Hop) (status : Nat) (method : Method) (body : Option Sendable)
    (ho : h.onward? status = some (method, body)) :
    isRedirect status = true
      ∧ ((repeatsRequest status = true ∧ h.octets = [] ∧ method = h.method ∧ body = h.body)
        ∨ (repeatsRequest status = false ∧ method = .get ∧ body = none)) := by
  unfold Hop.onward? at ho
  split at ho
  · next hrepeats =>
    -- the same request again, which is a redirect too
    have hredirect : isRedirect status = true := by
      unfold Hop.repeatsRequest at hrepeats
      simp only [Bool.or_eq_true, beq_iff_eq] at hrepeats
      rcases hrepeats with rfl | rfl <;> rfl
    split at ho
    · next hempty =>
      cases ho
      exact ⟨hredirect, Or.inl ⟨hrepeats, hempty, rfl, rfl⟩⟩
    · cases ho
  · next hrepeats =>
    split at ho
    · next hredirect =>
      cases ho
      exact ⟨hredirect, Or.inr ⟨Bool.eq_false_iff.mpr hrepeats, rfl, rfl⟩⟩
    · cases ho

/-- **After a hop that sends something, or asks only, comes one that asks only.** -/
theorem Hop.Once.bare {h : Hop} (honce : h.Once) (next : Hop) (head : Head)
    (hnext : h.next? head = .follow next) : next.Bare := by
  obtain ⟨honward, -⟩ := h.next?_eq_follow next head hnext
  obtain ⟨-, ⟨-, hempty, hmethod, hbody⟩ | ⟨-, hmethod, hbody⟩⟩ :=
    h.onward?_eq_some _ _ _ honward
  -- the same again is asked for only if there was nothing to send
  · rcases honce with hsends | hbare
    · exact absurd hempty hsends
    · exact ⟨hmethod.trans hbare.1, hbody.trans hbare.2⟩
  · exact ⟨hmethod, hbody⟩

/-! ## §2. Requests of hops. -/

/-- A request without a body: it is no `POST`, and nothing in its head tells of one. -/
structure Request.IsBare (r : Request) : Prop where
  method : r.method ≠ .post
  body : r.body = []
  headers : ∀ h ∈ r.headers, h.1 ≠ "content-type" ∧ h.1 ≠ "content-length"

/-- Names of header lines that may be there or not. -/
theorem Hop.mem_header (name : String) (value : Option String) (l : String × String)
    (hl : l ∈ Hop.header name value) : l.1 = name := by
  cases value with
  | none => cases hl
  | some v =>
      rw [Hop.header, List.mem_singleton] at hl
      rw [hl]

/-- **A hop that asks only makes a request without a body.** -/
theorem Hop.Bare.request {h : Hop} (hbare : h.Bare) (userAgent : Option String) :
    (h.request userAgent).IsBare := by
  obtain ⟨hmethod, hbody⟩ := hbare
  -- all the names that head lines of such a request can have
  have hnames : ∀ l ∈ (h.request userAgent).headers, l.1 ∈ ["accept", "accept-encoding",
      "authorization", "host", "referer", "user-agent"] := by
    intro l hl
    unfold Hop.request at hl
    simp only [hbody, Option.map_none, List.mem_append, List.mem_cons, List.not_mem_nil,
      or_false] at hl
    rcases hl with ((((((rfl | rfl) | hl) | hl) | hl) | rfl) | hl) | hl
    · simp
    · simp
    · rw [Hop.mem_header _ _ l hl]
      simp
    · cases hl
    · cases hl
    · simp
    · rw [Hop.mem_header _ _ l hl]
      simp
    · rw [Hop.mem_header _ _ l hl]
      simp
  refine ⟨?_, ?_, ?_⟩
  · show h.method ≠ .post
    rw [hmethod]
    exact Method.noConfusion
  · show (h.body.map (·.octets)).getD [] = []
    rw [hbody]
    rfl
  · intro l hl
    have hname := hnames l hl
    constructor
    · intro h
      rw [h] at hname
      exact absurd hname (by decide)
    · intro h
      rw [h] at hname
      exact absurd hname (by decide)

/-! ## §3. One request. -/

section Way

variable (client : Client) (network : Network) (endpoint : String)

/-- The exchange of a hop in its place. -/
def Hop.exchange (place : Nat) (h : Hop) : Exchange :=
  ⟨h.request client.userAgent, network place (h.request client.userAgent)⟩

/-- What comes of the answer to a hop in its place. -/
def Hop.received (place : Nat) (h : Hop) : Received :=
  receive client.limit (h.exchange client network place).delivery

/-- The client when a hop in its place has been answered. -/
def Hop.later (place : Nat) (h : Hop) : Client :=
  client.after (h.exchange client network place).delivery.delay

/-- The answer to a hop, with the given head, leads to the next hop. -/
structure Leads (place : Nat) (h next : Hop) (head : Head) : Prop where
  answered : ∃ framing rest silent,
    h.received client network place = .answer head framing rest silent
  follows : h.next? head = .follow next
  web : hasWebScheme next.url = true

/-- The ways in which a hop is the last, and what they come to. -/
inductive Ending (place : Nat) (h : Hop) : Result → Prop where
  /-- The connection failed, or what came is no answer. -/
  | broken (hr : h.received client network place = .broken) :
      Ending place h (some (.error (.notSent endpoint false)))
  /-- The network falls silent. -/
  | silent (hr : h.received client network place = .silent) :
      Ending place h (onSilence client.limit (.notSent endpoint true))
  /-- The answer leads nowhere else. -/
  | final (head : Head) (framing : Framing) (rest : Bytes) (silent : Bool)
      (hr : h.received client network place = .answer head framing rest silent)
      (hn : h.next? head = .stay) : Ending place h (finish client.limit head framing rest silent)
  /-- The answer leads to a place that is no URL. -/
  | lost : Ending place h (some (.error (.notBuilt none)))
  /-- There were too many redirects. -/
  | tired : Ending place h (some (.error (.tooManyRedirects h.url.text)))
  /-- The answer leads to a URL that no requests are made for. -/
  | foreign (url : String) : Ending place h (some (.error (.notBuilt (some url))))

/-- A hop, those it leads to, and what they come to. -/
inductive Way (network : Network) (endpoint : String) :
    (client : Client) → (redirects place : Nat) → Hop → Sending → Prop where
  | ends {client : Client} {redirects place : Nat} {h : Hop} {result : Result}
      (he : Ending client network endpoint place h result) :
      Way network endpoint client redirects place h ⟨[h.exchange client network place], result⟩
  | leads {client : Client} {redirects place : Nat} {h next : Hop} {head : Head} {s : Sending}
      (hl : Leads client network place h next head)
      (w : Way network endpoint (h.later client network place) redirects (place + 1) next s) :
      Way network endpoint client (redirects + 1) place h
        ⟨h.exchange client network place :: s.exchanges, s.result⟩

/-- A hop that leads on makes its exchange, and then come those of the next. -/
theorem follow_of_leads (redirects place : Nat) (h next : Hop) (head : Head)
    (hl : Leads client network place h next head) :
    follow client network endpoint (redirects + 1) place h
      = ⟨h.exchange client network place
            :: (follow (h.later client network place) network endpoint redirects (place + 1)
              next).exchanges,
          (follow (h.later client network place) network endpoint redirects (place + 1)
            next).result⟩ := by
  obtain ⟨⟨framing, rest, silent, hr⟩, hnext, hweb⟩ := hl
  have hr : receive client.limit (network place (h.request client.userAgent))
      = .answer head framing rest silent := hr
  rw [follow.eq_def]
  simp only [hr, hnext, hweb, if_true]
  rfl

/-- **One request ends the way or leads on.** -/
theorem follow_cases (redirects place : Nat) (h : Hop) :
    (∃ result, Ending client network endpoint place h result
        ∧ follow client network endpoint redirects place h
          = ⟨[h.exchange client network place], result⟩)
      ∨ ∃ more next head, redirects = more + 1 ∧ Leads client network place h next head := by
  rw [follow.eq_def]
  cases hr : h.received client network place with
  | broken =>
      have hr' : receive client.limit (network place (h.request client.userAgent)) = .broken := hr
      simp only [hr']
      exact Or.inl ⟨_, .broken hr, rfl⟩
  | silent =>
      have hr' : receive client.limit (network place (h.request client.userAgent)) = .silent := hr
      simp only [hr']
      exact Or.inl ⟨_, .silent hr, rfl⟩
  | answer head framing rest silent =>
      have hr' : receive client.limit (network place (h.request client.userAgent))
          = .answer head framing rest silent := hr
      simp only [hr']
      cases hn : h.next? head with
      | stay => exact Or.inl ⟨_, .final head framing rest silent hr hn, rfl⟩
      | lost => exact Or.inl ⟨_, .lost, rfl⟩
      | follow next =>
          cases redirects with
          | zero => exact Or.inl ⟨_, .tired, rfl⟩
          | succ more =>
              cases hw : hasWebScheme next.url with
              | true =>
                  exact Or.inr ⟨more, next, head, rfl, ⟨framing, rest, silent, hr⟩, hn, hw⟩
              | false =>
                  simp only [hw]
                  exact Or.inl ⟨_, .foreign next.url.text, rfl⟩

/-- **Every run is a way.** -/
theorem way_follow (redirects place : Nat) (h : Hop) :
    Way network endpoint client redirects place h
      (follow client network endpoint redirects place h) := by
  induction redirects generalizing client place h with
  | zero =>
      obtain ⟨result, he, hf⟩ | ⟨more, next, head, hz, -⟩ :=
        follow_cases client network endpoint 0 place h
      · rw [hf]
        exact .ends he
      · cases hz
  | succ redirects ih =>
      obtain ⟨result, he, hf⟩ | ⟨more, next, head, hm, hl⟩ :=
        follow_cases client network endpoint (redirects + 1) place h
      · rw [hf]
        exact .ends he
      · rw [follow_of_leads client network endpoint redirects place h next head hl]
        exact .leads hl (ih _ (place + 1) next)

end Way

/-! ## §4. What ways keep. -/

/-- The head of what came back, if a whole one came that does not contradict itself. -/
def Delivery.head? : Delivery → Option Head
  | .refused => none
  | .received _ octets _ =>
      match Head.read octets with
      | .done head _ => (Framing.of? head).map fun _ => head
      | _ => none

/-- The answer in what came back, if it is whole: a head, and all of the body that the head
announces. -/
def Delivery.answer? : Delivery → Option RawResponse
  | .refused => none
  | .received _ octets silent =>
      match Head.read octets with
      | .done head rest =>
          match (Framing.of? head).map (Framing.read · (!silent) rest) with
          | some (.done body _) => finalAnswer? head body
          | _ => none
      | _ => none

/-- An exchange that another one follows was answered by a redirect, and what follows sends
nothing.  Where something was posted, the redirect does not ask for it again. -/
structure Follows (e e' : Exchange) : Prop where
  redirected : ∃ head, e.delivery.head? = some head ∧ Hop.isRedirect head.status = true
    ∧ (Headers.first? head.headers "location").isSome = true
    ∧ (e.request.method = .post → Hop.repeatsRequest head.status = false)
  bare : e'.request.IsBare

variable {client : Client} {network : Network} {endpoint : String}

/-- **What it takes to be received as an answer**: a head comes in time, and does not
contradict itself. -/
theorem receive_eq_answer_iff (limit : Option Nat) (d : Delivery) (head : Head)
    (framing : Framing) (rest : Bytes) (silent : Bool) :
    receive limit d = .answer head framing rest silent ↔ ∃ delay octets,
      d = .received delay octets silent ∧ limit.any (· ≤ delay) = false
        ∧ Head.read octets = .done head rest ∧ Framing.of? head = some framing := by
  constructor
  · intro h
    unfold receive at h
    cases d with
    | refused => cases h
    | received delay octets open' =>
        simp only at h
        split at h
        · cases h
        · next hlimit =>
          split at h
          · cases h
          · split at h
            · cases h
            · cases h
          · next head' rest' hread =>
            split at h
            · next framing' hframing =>
              cases h
              exact ⟨delay, octets, rfl, Bool.eq_false_iff.mpr hlimit, hread, hframing⟩
            · cases h
  · rintro ⟨delay, octets, rfl, hlimit, hread, hframing⟩
    unfold receive
    simp only [hlimit, hread, hframing, Bool.false_eq_true, if_false]

theorem head?_of_answer (limit : Option Nat) (d : Delivery) (head : Head) (framing : Framing)
    (rest : Bytes) (silent : Bool) (h : receive limit d = .answer head framing rest silent) :
    d.head? = some head := by
  obtain ⟨delay, octets, rfl, -, hread, hframing⟩ :=
    (receive_eq_answer_iff limit d head framing rest silent).mp h
  simp only [Delivery.head?, hread, hframing, Option.map_some]

theorem onSilence_ne_ok (limit : Option Nat) (fault : RequestFault) (raw : RawResponse) :
    onSilence limit fault ≠ some (.ok raw) := by
  unfold onSilence
  split
  · intro h
    cases h
  · intro h
    cases h

/-- **Only a whole answer is finished**, whatever the limit is. -/
theorem finish_eq_ok_iff (limit : Option Nat) (head : Head) (framing : Framing) (rest : Bytes)
    (silent : Bool) (raw : RawResponse) :
    finish limit head framing rest silent = some (.ok raw) ↔ ∃ body after,
      framing.read (!silent) rest = .done body after ∧ finalAnswer? head body = some raw := by
  constructor
  · intro h
    unfold finish at h
    split at h
    · next body after hbody =>
      split at h
      · next answer hanswer =>
        cases h
        exact ⟨body, after, hbody, hanswer⟩
      · cases h
    · cases h
    · split at h
      · exact absurd h (onSilence_ne_ok _ _ raw)
      · cases h
  · rintro ⟨body, after, hbody, hanswer⟩
    unfold finish
    rw [hbody]
    simp only [hanswer]

theorem answer?_of_finish (limit : Option Nat) (d : Delivery) (head : Head) (framing : Framing)
    (rest : Bytes) (silent : Bool) (raw : RawResponse)
    (h : receive limit d = .answer head framing rest silent)
    (hf : finish limit head framing rest silent = some (.ok raw)) : d.answer? = some raw := by
  obtain ⟨delay, octets, rfl, -, hread, hframing⟩ :=
    (receive_eq_answer_iff limit d head framing rest silent).mp h
  obtain ⟨body, after, hbody, hanswer⟩ := (finish_eq_ok_iff _ _ _ _ _ raw).mp hf
  simp only [Delivery.answer?, hread, hframing, Option.map_some, hbody]
  exact hanswer

theorem finish_of_answer? (limit : Option Nat) (delay : Nat) (octets rest : Bytes) (silent : Bool)
    (head : Head) (raw : RawResponse) (hread : Head.read octets = .done head rest)
    (h : (Delivery.received delay octets silent).answer? = some raw) :
    ∃ framing, Framing.of? head = some framing
      ∧ finish limit head framing rest silent = some (.ok raw) := by
  simp only [Delivery.answer?, hread] at h
  cases hf : Framing.of? head with
  | none =>
      rw [hf] at h
      cases h
  | some framing =>
      rw [hf, Option.map_some] at h
      split at h
      · next body after hbody =>
        exact ⟨framing, rfl, (finish_eq_ok_iff limit head framing rest silent raw).mpr
          ⟨body, after, Option.some.inj hbody, h⟩⟩
      · cases h

/-- Without a head there is no answer. -/
theorem answer?_of_head? (d : Delivery) (h : d.head? = none) : d.answer? = none := by
  unfold Delivery.head? at h
  unfold Delivery.answer?
  split at h
  · rfl
  · split at h
    · simp only [Option.map_eq_none_iff.mp h, Option.map_none]
    · rfl

/-- Nothing comes of silence only if there is no limit. -/
theorem onSilence_eq_none (limit : Option Nat) (fault : RequestFault)
    (h : onSilence limit fault = none) : limit = none := by
  unfold onSilence at h
  split at h
  · cases h
  · next hnone => exact Option.not_isSome_iff_eq_none.mp hnone

/-- Without a limit, only an open connection is silent. -/
theorem isSilent_of_silent (d : Delivery) (h : receive none d = .silent) : d.isSilent = true := by
  unfold receive at h
  cases d with
  | refused => cases h
  | received delay octets silent =>
      simp only [Option.any_none, Bool.false_eq_true, if_false] at h
      split at h
      · cases h
      · split at h
        · next hsilent => exact hsilent
        · cases h
      · split at h
        · cases h
        · cases h

theorem isSilent_of_finish (limit : Option Nat) (head : Head) (framing : Framing) (rest : Bytes)
    (silent : Bool) (h : finish limit head framing rest silent = none) :
    limit = none ∧ silent = true := by
  unfold finish at h
  split at h
  · split at h
    · cases h
    · cases h
  · cases h
  · split at h
    · next hsilent => exact ⟨onSilence_eq_none _ _ h, hsilent⟩
    · cases h

/-- What the last hop comes to is told by its own answer. -/
theorem Ending.last {place : Nat} {h : Hop} {result : Result}
    (he : Ending client network endpoint place h result) :
    (∀ raw, result = some (.ok raw) →
        (h.exchange client network place).delivery.answer? = some raw)
      ∧ (result = none →
        client.limit = none ∧ (h.exchange client network place).delivery.isSilent = true) := by
  -- a fault is neither an answer nor silence
  have hfault : ∀ fault : RequestFault, (∀ raw, (some (.error fault) : Result) = some (.ok raw) →
        (h.exchange client network place).delivery.answer? = some raw)
      ∧ ((some (.error fault) : Result) = none →
        client.limit = none ∧ (h.exchange client network place).delivery.isSilent = true) := by
    intro fault
    constructor
    · intro raw hraw
      cases hraw
    · intro hnone
      cases hnone
  cases he with
  | broken hr => exact hfault _
  | silent hr =>
      refine ⟨fun raw hraw => absurd hraw (onSilence_ne_ok _ _ raw), fun hnone => ?_⟩
      have hlimit := onSilence_eq_none _ _ hnone
      unfold Hop.received at hr
      rw [hlimit] at hr
      exact ⟨hlimit, isSilent_of_silent _ hr⟩
  | final head framing rest silent hr hn =>
      refine ⟨fun raw hraw => answer?_of_finish _ _ head framing rest silent raw hr hraw,
        fun hnone => ?_⟩
      obtain ⟨hlimit, hsilent⟩ := isSilent_of_finish _ _ _ _ _ hnone
      obtain ⟨delay, octets, hd, -⟩ := (receive_eq_answer_iff _ _ head framing rest silent).mp hr
      refine ⟨hlimit, ?_⟩
      rw [hd]
      exact hsilent
  | lost => exact hfault _
  | tired => exact hfault _
  | foreign url => exact hfault _

/-- A way begins with the exchange of its hop. -/
theorem Way.head {redirects place : Nat} {h : Hop} {s : Sending}
    (w : Way network endpoint client redirects place h s) :
    ∃ later, s.exchanges = h.exchange client network place :: later := by
  cases w with
  | ends he => exact ⟨[], rfl⟩
  | leads hl w => exact ⟨_, rfl⟩

/-- What came back in each exchange is what the network gives for its request. -/
theorem Way.delivery {redirects place : Nat} {h : Hop} {s : Sending}
    (w : Way network endpoint client redirects place h s) (i : Nat) (e : Exchange)
    (he : s.exchanges[i]? = some e) : e.delivery = network (place + i) e.request := by
  induction w generalizing i with
  | ends ho =>
      cases i with
      | zero =>
          cases he
          rfl
      | succ i => cases he
  | leads hl w ih =>
      cases i with
      | zero =>
          cases he
          rfl
      | succ i =>
          rw [Nat.add_succ, ← Nat.succ_add]
          exact ih i he

/-- **A way has at most as many hops as redirects are left, and one.** -/
theorem Way.length_le {redirects place : Nat} {h : Hop} {s : Sending}
    (w : Way network endpoint client redirects place h s) :
    s.exchanges.length ≤ redirects + 1 := by
  induction w with
  | ends he => simp
  | leads hl w ih =>
      rw [List.length_cons]
      exact Nat.succ_le_succ ih

/-- The exchange of a hop is followed by that of the hop it leads to. -/
theorem Leads.followed {place : Nat} {h next : Hop} {head : Head}
    (hl : Leads client network place h next head) (honce : h.Once) (e : Exchange)
    (he : e.request = next.request client.userAgent) :
    Follows (h.exchange client network place) e := by
  obtain ⟨⟨framing, rest, silent, hr⟩, hnext, -⟩ := hl
  obtain ⟨honward, hdestination⟩ := h.next?_eq_follow next head hnext
  obtain ⟨hredirect, hkind⟩ := h.onward?_eq_some _ _ _ honward
  refine ⟨⟨head, head?_of_answer _ _ head framing rest silent hr, hredirect,
    h.location_of_destination _ _ hdestination, fun hpost => ?_⟩, ?_⟩
  -- a hop that posts something is not asked for again
  · rcases hkind with ⟨-, hempty, -⟩ | ⟨hrepeats, -⟩
    · rcases honce with hsends | hbare
      · exact absurd hempty hsends
      · rw [show (h.exchange client network place).request.method = .get from hbare.1] at hpost
        cases hpost
    · exact hrepeats
  · rw [he]
    exact (honce.bare next head hnext).request client.userAgent

/-- **Every exchange but the first follows a redirect, and sends nothing.** -/
theorem Way.chain {redirects place : Nat} {h : Hop} {s : Sending}
    (w : Way network endpoint client redirects place h s) (honce : h.Once) :
    s.exchanges.IsChain Follows := by
  induction w with
  | ends he => exact List.isChain_singleton _
  | leads hl w ih =>
      have hnext := ih (Or.inr (honce.bare _ _ hl.follows))
      obtain ⟨later, hlater⟩ := w.head
      rw [hlater] at hnext ⊢
      exact List.isChain_cons_cons.mpr ⟨hl.followed honce _ rfl, hnext⟩

/-- **Only the answer to the last request can be the result**, and there is none only if the
last connection falls silent and no limit is set. -/
theorem Way.last {redirects place : Nat} {h : Hop} {s : Sending}
    (w : Way network endpoint client redirects place h s) :
    ∃ e, s.exchanges.getLast? = some e
      ∧ (∀ raw, s.result = some (.ok raw) → e.delivery.answer? = some raw)
      ∧ (s.result = none → client.limit = none ∧ e.delivery.isSilent = true) := by
  induction w with
  | ends he => exact ⟨_, rfl, he.last⟩
  | leads hl w ih =>
      obtain ⟨e, hlast, hanswer, hnone⟩ := ih
      refine ⟨e, ?_, hanswer, fun hresult => ?_⟩
      · show List.getLast? (_ :: _) = some e
        rw [List.getLast?_cons, hlast]
        rfl
      -- time passes, but a limit stays one
      · obtain ⟨hlimit, hsilent⟩ := hnone hresult
        exact ⟨Option.map_eq_none_iff.mp hlimit, hsilent⟩

/-! ## §5. Sending. -/

/-- Whether a URL is one that requests can be made for. -/
def isReachable (u : Url) : Bool := hasWebScheme u && isWritable u

theorem send_of_reachable (client : Client) (network : Network) (endpoint : Url) (body : Sendable)
    (h : isReachable (Hop.first endpoint body).url = true) :
    send client network endpoint body
      = follow client network (Hop.first endpoint body).url.text redirectLimit 0
          (Hop.first endpoint body) :=
  if_pos h

theorem send_of_unreachable (client : Client) (network : Network) (endpoint : Url)
    (body : Sendable) (h : isReachable (Hop.first endpoint body).url = false) :
    send client network endpoint body
      = ⟨[], some (.error (.notBuilt (some (Hop.first endpoint body).url.text)))⟩ :=
  if_neg (Bool.eq_false_iff.mp h)

/-- **A body goes a way**, if its endpoint can be reached. -/
theorem way_send (client : Client) (network : Network) (endpoint : Url) (body : Sendable)
    (h : isReachable (Hop.first endpoint body).url = true) :
    Way network (Hop.first endpoint body).url.text client redirectLimit 0
      (Hop.first endpoint body) (send client network endpoint body) := by
  rw [send_of_reachable client network endpoint body h]
  exact way_follow client network _ redirectLimit 0 _

/-- **What sending comes to is told by the last exchange**: only its answer can be the result,
and there is none only if its connection falls silent and no limit is set. -/
theorem last_send (client : Client) (network : Network) (endpoint : Url) (body : Sendable) :
    (∀ raw, (send client network endpoint body).result = some (.ok raw) →
        ∃ e, (send client network endpoint body).exchanges.getLast? = some e
          ∧ e.delivery.answer? = some raw)
      ∧ ((send client network endpoint body).result = none → client.limit = none
        ∧ ∃ e, (send client network endpoint body).exchanges.getLast? = some e
          ∧ e.delivery.isSilent = true) := by
  cases hreachable : isReachable (Hop.first endpoint body).url with
  | false =>
      rw [send_of_unreachable client network endpoint body hreachable]
      constructor
      · intro raw hraw
        cases hraw
      · intro hnone
        cases hnone
  | true =>
      obtain ⟨e, hlast, hanswer, hsilent⟩ := (way_send client network endpoint body hreachable).last
      exact ⟨fun raw hraw => ⟨e, hlast, hanswer raw hraw⟩,
        fun hnone => ⟨(hsilent hnone).1, e, hlast, (hsilent hnone).2⟩⟩

/-! ## §6. Final answers. -/

theorem Client.after_zero (client : Client) : client.after 0 = client := by
  obtain ⟨userAgent, limit⟩ := client
  cases limit with
  | none => rfl
  | some limit => rfl

theorem Client.after_after (client : Client) (a b : Nat) :
    (client.after a).after b = client.after (a + b) := by
  unfold Client.after
  cases client.limit with
  | none => rfl
  | some limit => simp only [Option.map_some, Nat.sub_sub]

/-- What comes at once comes in time, unless nothing is waited for. -/
theorem not_late_at_once (limit : Option Nat) (h : limit ≠ some 0) :
    limit.any (· ≤ 0) = false := by
  cases limit with
  | none => rfl
  | some limit =>
      have hlimit : limit ≠ 0 := fun hzero => h (congrArg some hzero)
      simpa using hlimit

/-- Time that has passed counts for the limit. -/
theorem Client.late_after (client : Client) (elapsed delay : Nat) :
    (client.after elapsed).limit.any (· ≤ delay) = client.limit.any (· ≤ elapsed + delay) := by
  unfold Client.after
  cases client.limit with
  | none => rfl
  | some limit =>
      simp only [Option.map_some, Option.any_some, decide_eq_decide]
      omega

/-- Time that has passed does not end a wait without a limit. -/
theorem Client.finish_after (client : Client) (elapsed : Nat) (head : Head) (framing : Framing)
    (rest : Bytes) (silent : Bool) :
    finish (client.after elapsed).limit head framing rest silent
      = finish client.limit head framing rest silent := by
  have hsilence : ∀ fault, onSilence (client.after elapsed).limit fault
      = onSilence client.limit fault := by
    intro fault
    unfold onSilence Client.after
    rw [Option.isSome_map]
  unfold finish
  simp only [hsilence]

/-- The hops to which a hop is sent on, itself among them, with their places and the time
that passes before. -/
inductive Arrives (network : Network) :
    Client → (redirects place : Nat) → Hop → (elapsed place' : Nat) → Hop → Prop where
  | here {client : Client} {redirects place : Nat} {h : Hop} :
      Arrives network client redirects place h 0 place h
  | leads {client : Client} {redirects place elapsed place' : Nat} {h next h' : Hop} {head : Head}
      (hl : Leads client network place h next head)
      (a : Arrives network (h.later client network place) redirects (place + 1) next elapsed
        place' h') :
      Arrives network client (redirects + 1) place h
        ((h.exchange client network place).delivery.delay + elapsed) place' h'

/-- **Where a way arrives, its result is decided.** -/
theorem Arrives.result {redirects place elapsed place' : Nat} {h h' : Hop}
    (a : Arrives network client redirects place h elapsed place' h') (endpoint : String) :
    ∃ left, (follow client network endpoint redirects place h).result
      = (follow (client.after elapsed) network endpoint left place' h').result := by
  induction a with
  | here =>
      rw [Client.after_zero]
      exact ⟨_, rfl⟩
  | leads hl a ih =>
      obtain ⟨left, hleft⟩ := ih
      refine ⟨left, ?_⟩
      rw [follow_of_leads _ network endpoint _ _ _ _ _ hl, ← Client.after_after]
      exact hleft

/-- A hop with a final answer ends with it. -/
theorem follow_final (endpoint : String) (redirects place : Nat) (h : Hop) (head : Head)
    (framing : Framing) (rest : Bytes) (silent : Bool)
    (hr : h.received client network place = .answer head framing rest silent)
    (hn : h.next? head = .stay) :
    (follow client network endpoint redirects place h).result
      = finish client.limit head framing rest silent := by
  have hr : receive client.limit (network place (h.request client.userAgent))
      = .answer head framing rest silent := hr
  rw [follow.eq_def]
  simp only [hr, hn]

/-- A hop with no answer in time ends with nothing. -/
theorem follow_silent (endpoint : String) (redirects place : Nat) (h : Hop)
    (hr : h.received client network place = .silent) :
    (follow client network endpoint redirects place h).result
      = onSilence client.limit (.notSent endpoint true) := by
  have hr : receive client.limit (network place (h.request client.userAgent)) = .silent := hr
  rw [follow.eq_def]
  simp only [hr]

/-- **The final answer to a posted body**: the way from the endpoint arrives at a request
whose answer, the head `head` and `sent` after it, leads nowhere else.  It is there when some
time has passed; then the connection is closed, or stays open in silence. -/
structure FinalAnswer (client : Client) (network : Network) (endpoint : Url) (body : Sendable)
    (elapsed : Nat) (head : Head) (sent : Bytes) (silent : Bool) : Prop where
  reachable : isReachable (Hop.first endpoint body).url = true
  arrives : ∃ before place h delay octets,
    Arrives network client redirectLimit 0 (Hop.first endpoint body) before place h
      ∧ network place (h.request client.userAgent) = .received delay octets silent
      ∧ before + delay = elapsed
      ∧ Head.read octets = .done head sent
      ∧ h.next? head = .stay

/-- The answer to the first request is the final one, if it leads nowhere else. -/
theorem FinalAnswer.of_first {endpoint : Url} {body : Sendable} {delay : Nat} {octets : Bytes}
    {head : Head} {sent : Bytes} {silent : Bool}
    (hreachable : isReachable (Hop.first endpoint body).url = true)
    (hnetwork : network 0 ((Hop.first endpoint body).request client.userAgent)
      = .received delay octets silent)
    (hread : Head.read octets = .done head sent)
    (hstay : (Hop.first endpoint body).next? head = .stay) :
    FinalAnswer client network endpoint body delay head sent silent :=
  ⟨hreachable, 0, 0, _, delay, octets, .here, hnetwork, Nat.zero_add delay, hread, hstay⟩

/-- **The final answer is read to its end**, if it comes in time and says where that is. -/
theorem FinalAnswer.result_in_time {endpoint : Url} {body : Sendable} {elapsed : Nat}
    {head : Head} {sent : Bytes} {silent : Bool}
    (hf : FinalAnswer client network endpoint body elapsed head sent silent)
    (hlimit : client.limit.any (· ≤ elapsed) = false) (framing : Framing)
    (hframing : Framing.of? head = some framing) :
    (send client network endpoint body).result = finish client.limit head framing sent silent := by
  obtain ⟨hreachable, before, place, h, delay, octets, harrives, hnetwork, rfl, hread,
    hstay⟩ := hf
  rw [← Client.late_after] at hlimit
  have hr : h.received (client.after before) network place = .answer head framing sent silent :=
    (receive_eq_answer_iff _ _ head framing sent silent).mpr
      ⟨delay, octets, hnetwork, hlimit, hread, hframing⟩
  obtain ⟨left, hleft⟩ := harrives.result (Hop.first endpoint body).url.text
  rw [send_of_reachable client network endpoint body hreachable, hleft,
    follow_final _ left place h head framing sent silent hr hstay]
  exact client.finish_after before head framing sent silent

/-- **A final answer that comes too late is none.** -/
theorem FinalAnswer.result_late {endpoint : Url} {body : Sendable} {elapsed : Nat} {head : Head}
    {sent : Bytes} {silent : Bool}
    (hf : FinalAnswer client network endpoint body elapsed head sent silent)
    (hlimit : client.limit.any (· ≤ elapsed) = true) :
    (send client network endpoint body).result
      = some (.error (.notSent (Hop.first endpoint body).url.text true)) := by
  obtain ⟨hreachable, before, place, h, delay, octets, harrives, hnetwork, rfl, -⟩ := hf
  rw [← Client.late_after] at hlimit
  have hr : h.received (client.after before) network place = .silent := by
    have hnetwork : network place (h.request (client.after before).userAgent)
        = .received delay octets silent := hnetwork
    unfold Hop.received Hop.exchange receive
    simp only [hnetwork, hlimit]
    rfl
  have hsome : (client.after before).limit.isSome = true := by
    cases hl : (client.after before).limit with
    | none =>
        rw [hl] at hlimit
        cases hlimit
    | some limit => rfl
  obtain ⟨left, hleft⟩ := harrives.result (Hop.first endpoint body).url.text
  rw [send_of_reachable client network endpoint body hreachable, hleft,
    follow_silent _ left place h hr]
  exact if_pos hsome

end FormUpload.Http
