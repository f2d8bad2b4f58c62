import FormUpload.Proofs.Http.HeadText
import FormUpload.Proofs.Http.Redirects

/-!
# Whole answers

Sending comes to an answer if and only if the way from the endpoint arrives at a hop that is
answered in time, by heads and all of the content that they announce, and sent on nowhere
(`result_eq_ok_iff`).  That is what a `WholeAnswer` is; its heads are given as they are sent.
-/

namespace FormUpload.Http

open FormUpload.Text

/-! ## §1. One request. -/

/-- What comes back is whole: the heads of an answer, and then its content to the end. -/
inductive Delivery.Whole : Delivery → AnswerHeads → (content : Bytes) → Prop where
  | intro (delay : Nat) (silent : Bool) (heads : AnswerHeads) (sent : Bytes) (framing : Framing)
      (content after : Bytes) (hframing : Framing.of? heads.final.head = some framing)
      (hcontent : framing.read (!silent) sent = .done content after) :
      Whole (.received delay (heads.octets ++ sent) silent) heads content

/-- A hop is answered in time by a whole answer that leads nowhere else. -/
structure Hop.Answered (client : Client) (network : Network) (place : Nat) (h : Hop)
    (heads : AnswerHeads) (content : Bytes) : Prop where
  whole : (h.exchange client network place).delivery.Whole heads content
  inTime : client.limit.any (· ≤ (h.exchange client network place).delivery.delay) = false
  stays : h.next? heads.final.head = .stay

variable {client : Client} {network : Network} {endpoint : String} {place : Nat} {h : Hop}
  {raw : RawResponse}

/-- **A hop that ends with an answer has a whole one.** -/
theorem Ending.answered (he : Ending client network endpoint place h (some (.ok raw))) :
    ∃ heads content, h.Answered client network place heads content
      ∧ finalAnswer? heads.final.head content = some raw := by
  generalize hresult : (some (.ok raw) : Result) = result at he
  -- all ways to end but one are faults, or silence
  cases he with
  | broken hr => cases hresult
  | silent hr => exact absurd hresult.symm (onSilence_ne_ok _ _ raw)
  | final head framing sent silent hr hn =>
      obtain ⟨delay, octets, hd, hlimit, hread, hframing⟩ :=
        (receive_eq_answer_iff _ _ _ _ _ _).mp hr
      obtain ⟨content, after, hcontent, hfinal⟩ :=
        (finish_eq_ok_iff _ _ _ _ _ raw).mp hresult.symm
      obtain ⟨heads, rfl, rfl⟩ := (read_eq_done_iff octets sent head).mp hread
      refine ⟨heads, content, ⟨?_, ?_, hn⟩, hfinal⟩
      · rw [hd]
        exact .intro delay silent heads sent framing content after hframing hcontent
      · rw [hd]
        exact hlimit
  | lost => cases hresult
  | tired => cases hresult
  | foreign url => cases hresult

/-- **A hop with a whole answer ends with it.** -/
theorem Hop.Answered.result {heads : AnswerHeads} {content : Bytes}
    (ha : h.Answered client network place heads content) (endpoint : String) (redirects : Nat)
    (hfinal : finalAnswer? heads.final.head content = some raw) :
    (follow client network endpoint redirects place h).result = some (.ok raw) := by
  obtain ⟨hwhole, hlimit, hstays⟩ := ha
  generalize hd : (h.exchange client network place).delivery = d at hwhole hlimit
  cases hwhole with
  | intro delay silent _ sent framing _ after hframing hcontent =>
      have hread := (read_eq_done_iff (heads.octets ++ sent) sent _).mpr ⟨heads, rfl, rfl⟩
      have hr : h.received client network place = .answer heads.final.head framing sent silent :=
        (receive_eq_answer_iff _ _ _ _ _ _).mpr ⟨delay, _, hd, hlimit, hread, hframing⟩
      rw [follow_final endpoint redirects place h _ framing sent silent hr hstays]
      exact (finish_eq_ok_iff _ _ _ _ _ raw).mpr ⟨content, after, hcontent, hfinal⟩

/-! ## §2. Ways. -/

/-- **A way that comes to an answer arrives where it ends.** -/
theorem Way.arrives {redirects : Nat} {s : Sending}
    (w : Way network endpoint client redirects place h s) (hraw : s.result = some (.ok raw)) :
    ∃ elapsed place' h', Arrives network client redirects place h elapsed place' h'
      ∧ Ending (client.after elapsed) network endpoint place' h' (some (.ok raw)) := by
  induction w with
  | ends he =>
      refine ⟨0, _, _, .here, ?_⟩
      rw [Client.after_zero, ← hraw]
      exact he
  | leads hl w ih =>
      obtain ⟨elapsed, place', h', harrives, he⟩ := ih hraw
      -- the time that has passed on the way adds up
      unfold Hop.later at he
      rw [Client.after_after] at he
      exact ⟨_, place', h', .leads hl harrives, he⟩

/-- **A whole answer to a posted body**: the way from the endpoint arrives at a hop that is
answered so, in the time that is left. -/
structure WholeAnswer (client : Client) (network : Network) (endpoint : Url) (body : Sendable)
    (heads : AnswerHeads) (content : Bytes) : Prop where
  reachable : isReachable (Hop.first endpoint body).url = true
  arrives : ∃ elapsed place h,
    Arrives network client redirectLimit 0 (Hop.first endpoint body) elapsed place h
      ∧ h.Answered (client.after elapsed) network place heads content

/-- **Sending comes to an answer if it gets a whole one**, and to that one. -/
theorem result_eq_ok_iff (client : Client) (network : Network) (endpoint : Url) (body : Sendable)
    (raw : RawResponse) :
    (send client network endpoint body).result = some (.ok raw) ↔ ∃ heads content,
      WholeAnswer client network endpoint body heads content
        ∧ finalAnswer? heads.final.head content = some raw := by
  constructor
  · intro hraw
    cases hreachable : isReachable (Hop.first endpoint body).url with
    | false =>
        rw [send_of_unreachable client network endpoint body hreachable] at hraw
        cases hraw
    | true =>
        obtain ⟨elapsed, place, h, harrives, he⟩ :=
          (way_send client network endpoint body hreachable).arrives hraw
        obtain ⟨heads, content, hanswered, hfinal⟩ := he.answered
        exact ⟨heads, content, ⟨hreachable, elapsed, place, h, harrives, hanswered⟩, hfinal⟩
  · rintro ⟨heads, content, ⟨hreachable, elapsed, place, h, harrives, hanswered⟩, hfinal⟩
    obtain ⟨left, hleft⟩ := harrives.result (Hop.first endpoint body).url.text
    rw [send_of_reachable client network endpoint body hreachable, hleft]
    exact hanswered.result _ left hfinal

end FormUpload.Http
