import FormUpload.Proofs.Http.Redirects

/-!
# Endpoints that go by a script

An endpoint that answers by a script does not look at what it is sent.  Then what sending
comes to does not depend on the body either, as long as there is one
(`result_of_blind`): redirects look at where a hop goes and at whether it sends anything,
and at nothing else (`Parallel.next`).  Where something is sent, it shows in the first request
and in no later one (`alike_send`).
-/

namespace FormUpload.Http

/-! ## §1. Blind networks. -/

/-- A network that sees of a request only whether it is made over TLS. -/
def Network.Blind (network : Network) : Prop :=
  ∀ place (r r' : Request), r.secure = r'.secure → network place r = network place r'

/-- **A script is blind.** -/
theorem Network.blind_scripted (script : List Delivery) : (Network.scripted script).Blind := by
  intro place r r' _
  rfl

/-! ## §2. Hops that go the same way. -/

/-- Hops that differ only in what they send and in whom they name. -/
structure Hop.Parallel (h k : Hop) : Prop where
  method : h.method = k.method
  url : h.url = k.url
  target : h.target = k.target
  octets : h.octets = [] ↔ k.octets = []

variable {client : Client} {network : Network}

/-- Such hops are answered alike. -/
theorem Hop.Parallel.delivery {h k : Hop} (hp : h.Parallel k) (hblind : network.Blind)
    (place : Nat) :
    network place (h.request client.userAgent) = network place (k.request client.userAgent) := by
  apply hblind
  show (h.url.scheme == "https") = (k.url.scheme == "https")
  rw [hp.url]

/-- **Such hops are sent on alike.** -/
theorem Hop.Parallel.next {h k : Hop} (hp : h.Parallel k) (head : Head) :
    (h.next? head = .stay ∧ k.next? head = .stay)
      ∨ (h.next? head = .lost ∧ k.next? head = .lost)
      ∨ ∃ h' k', h.next? head = .follow h' ∧ k.next? head = .follow k' ∧ h'.Parallel k' := by
  have hdestination : h.destination? head.headers = k.destination? head.headers := by
    unfold Hop.destination?
    rw [hp.target]
  -- both are sent on, with the same method and both with a body or without one, or neither is
  have honward : (h.onward? head.status = none ∧ k.onward? head.status = none)
      ∨ ∃ method b c, h.onward? head.status = some (method, b)
        ∧ k.onward? head.status = some (method, c)
        ∧ ((b.map (·.octets)).getD [] = [] ↔ (c.map (·.octets)).getD [] = []) := by
    have hoctets := hp.octets
    unfold Hop.octets at hoctets
    unfold Hop.onward?
    split
    · by_cases hempty : (h.body.map (·.octets)).getD [] = []
      · rw [if_pos hempty, if_pos (hoctets.mp hempty)]
        exact Or.inr ⟨_, _, _, rfl, by rw [hp.method], hoctets⟩
      · rw [if_neg hempty, if_neg fun he => hempty (hoctets.mpr he)]
        exact Or.inl ⟨rfl, rfl⟩
    · split
      · exact Or.inr ⟨_, _, _, rfl, rfl, Iff.rfl⟩
      · exact Or.inl ⟨rfl, rfl⟩
  unfold Hop.next?
  rw [hdestination]
  rcases honward with ⟨hh, hk⟩ | ⟨method, b, c, hh, hk, hempty⟩
  · rw [hh, hk]
    exact Or.inl ⟨rfl, rfl⟩
  · rw [hh, hk]
    cases k.destination? head.headers with
    | none => exact Or.inl ⟨rfl, rfl⟩
    | some target =>
        simp only
        cases Url.parse target with
        | error fault => exact Or.inr (Or.inl ⟨rfl, rfl⟩)
        | ok url =>
            simp only
            cases isWritable url with
            | false => exact Or.inl ⟨rfl, rfl⟩
            | true => exact Or.inr (Or.inr ⟨_, _, rfl, rfl, rfl, rfl, rfl, hempty⟩)

/-- **Hops that go the same way come to the same.** -/
theorem Hop.Parallel.result {h k : Hop} (hp : h.Parallel k) (hblind : network.Blind)
    (endpoint : String) (redirects place : Nat) :
    (follow client network endpoint redirects place h).result
      = (follow client network endpoint redirects place k).result := by
  induction redirects using Nat.strongRecOn generalizing client place h k with
  | ind redirects ih =>
      have hd : network place (h.request client.userAgent)
          = network place (k.request client.userAgent) := hp.delivery hblind place
      rw [follow.eq_def, follow.eq_def client network endpoint redirects place k]
      simp only [hd, hp.url]
      split
      · rfl
      · rfl
      · next head framing rest silent _ =>
        rcases hp.next head with ⟨hh, hk⟩ | ⟨hh, hk⟩ | ⟨h', k', hh, hk, hnext⟩
        · simp only [hh, hk]
        · simp only [hh, hk]
        · simp only [hh, hk, hnext.url]
          cases redirects with
          | zero => rfl
          | succ more =>
              simp only [ih more (Nat.lt_succ_self more) hnext]
              split
              · rfl
              · rfl

/-- **What sending comes to does not depend on the body**, if the endpoint goes by a script. -/
theorem result_of_blind (client : Client) (network : Network) (hblind : network.Blind)
    (endpoint : Url) (body body' : Sendable) (hoctets : body.octets = [] ↔ body'.octets = []) :
    (send client network endpoint body).result = (send client network endpoint body').result := by
  have hp : (Hop.first endpoint body).Parallel (Hop.first endpoint body') :=
    ⟨rfl, rfl, rfl, hoctets⟩
  cases hreachable : isReachable (Hop.first endpoint body).url with
  | false =>
      have hreachable' : isReachable (Hop.first endpoint body').url = false := hreachable
      rw [send_of_unreachable client network endpoint body hreachable,
        send_of_unreachable client network endpoint body' hreachable']
      rfl
  | true =>
      have hreachable' : isReachable (Hop.first endpoint body').url = true := hreachable
      rw [send_of_reachable client network endpoint body hreachable,
        send_of_reachable client network endpoint body' hreachable']
      exact hp.result hblind _ redirectLimit 0

/-! ## §3. Bodies that hold something. -/

/-- Two runs that come to the same and differ at most in their first exchange. -/
structure Sending.Alike (s s' : Sending) : Prop where
  result : s.result = s'.result
  count : s.exchanges.length = s'.exchanges.length
  later : s.exchanges.tail = s'.exchanges.tail

/-- **A hop that sends something is sent on in one way**, whatever it sends: the next hop
does not carry it. -/
theorem Hop.next?_of_sends (h : Hop) (body : Option Sendable) (hsends : h.octets ≠ [])
    (hsends' : ({ h with body } : Hop).octets ≠ []) (head : Head) :
    ({ h with body } : Hop).next? head = h.next? head := by
  have honward : ({ h with body } : Hop).onward? head.status = h.onward? head.status := by
    unfold Hop.octets at hsends hsends'
    unfold Hop.onward?
    rw [if_neg hsends, if_neg hsends']
  have hdestination : ({ h with body } : Hop).destination? head.headers
      = h.destination? head.headers := by
    unfold Hop.destination?
    rfl
  unfold Hop.next?
  rw [honward, hdestination]
  rfl

/-- **Hops that send something go the same way**, from the second request on. -/
theorem Hop.alike_follow (hblind : network.Blind) (endpoint : String) (redirects place : Nat)
    (h : Hop) (body : Option Sendable) (hsends : h.octets ≠ [])
    (hsends' : ({ h with body } : Hop).octets ≠ []) :
    (follow client network endpoint redirects place h).Alike
      (follow client network endpoint redirects place { h with body }) := by
  -- neither the answer nor where it leads depends on what is sent
  have hd : network place (({ h with body } : Hop).request client.userAgent)
      = network place (h.request client.userAgent) := by
    apply hblind
    rfl
  have hn := h.next?_of_sends body hsends hsends'
  rw [follow.eq_def, follow.eq_def client network endpoint redirects place { h with body }]
  simp only [hd, hn]
  split
  · exact ⟨rfl, rfl, rfl⟩
  · exact ⟨rfl, rfl, rfl⟩
  · split
    · exact ⟨rfl, rfl, rfl⟩
    · exact ⟨rfl, rfl, rfl⟩
    · split
      · exact ⟨rfl, rfl, rfl⟩
      · split
        · exact ⟨rfl, rfl, rfl⟩
        · exact ⟨rfl, rfl, rfl⟩

/-- **What is sent shows in the first request and nowhere else**, if the endpoint goes by a
script and there is something to send. -/
theorem alike_send (client : Client) (network : Network) (hblind : network.Blind)
    (endpoint : Url) (body body' : Sendable) (hsends : body.octets ≠ [])
    (hsends' : body'.octets ≠ []) :
    (send client network endpoint body).Alike (send client network endpoint body') := by
  cases hreachable : isReachable (Hop.first endpoint body).url with
  | false =>
      have hreachable' : isReachable (Hop.first endpoint body').url = false := hreachable
      rw [send_of_unreachable client network endpoint body hreachable,
        send_of_unreachable client network endpoint body' hreachable']
      exact ⟨rfl, rfl, rfl⟩
  | true =>
      have hreachable' : isReachable (Hop.first endpoint body').url = true := hreachable
      rw [send_of_reachable client network endpoint body hreachable,
        send_of_reachable client network endpoint body' hreachable']
      exact Hop.alike_follow hblind _ redirectLimit 0 (Hop.first endpoint body) (some body')
        hsends hsends'

end FormUpload.Http
