import FormUpload.Proofs.Multipart.Lengths
import FormUpload.Proofs.Uploader.Requests

/-!
# Lengths that are announced

Every request that posts a form carries the whole body and announces its length, once
(`announced_length_is_sent`).  A form that has parts is posted once; one without any may be
posted again where a redirect asks for it, and announces no octets every time.

    Hop.Posts.next   a hop that posts again posts the same body
    Way.carries      every request that posts announces what it carries
-/

namespace FormUpload

open FormUpload.Text

namespace Http

/-! ## §1. Hops. -/

/-- If the hop posts something, it is the given body. -/
def Hop.Posts (h : Hop) (body : Sendable) : Prop := h.method = .post → h.body = some body

/-- A request that carries a body, and announces its length in one header. -/
structure Request.Carries (r : Request) (body : Sendable) : Prop where
  octets : r.body = body.octets
  announced : r.headers.filter (fun line => line.1 = "content-length")
    = [("content-length", String.ofList (decimal body.length))]

/-- **A hop that posts again posts the same body.** -/
theorem Hop.Posts.next {h : Hop} {body : Sendable} (hposts : h.Posts body) (next : Hop)
    (head : Head) (hnext : h.next? head = .follow next) : next.Posts body := by
  intro hmethod
  obtain ⟨honward, -⟩ := h.next?_eq_follow next head hnext
  obtain ⟨-, ⟨-, -, hsame, hbody⟩ | ⟨-, hget, -⟩⟩ := h.onward?_eq_some _ _ _ honward
  · rw [hbody]
    exact hposts (hsame.symm.trans hmethod)
  · rw [hget] at hmethod
    cases hmethod

/-- The header line of another name is not the one that is looked for. -/
theorem filter_header (name other : String) (value : Option String) (h : name ≠ other) :
    (Hop.header name value).filter (fun line => line.1 = other) = [] := by
  rw [List.filter_eq_nil_iff]
  intro line hline
  rw [Hop.mem_header name value line hline]
  simpa using h

/-- **The request of a hop that posts carries the body.** -/
theorem Hop.Posts.request {h : Hop} {body : Sendable} (hposts : h.Posts body)
    (userAgent : Option String) (hmethod : (h.request userAgent).method = .post) :
    (h.request userAgent).Carries body := by
  have hbody : h.body = some body := hposts hmethod
  refine ⟨?_, ?_⟩
  · show (h.body.map (·.octets)).getD [] = body.octets
    rw [hbody]
    rfl
  · have hlines : (h.request userAgent).headers
        = [("accept", "*/*"), ("accept-encoding", "gzip")]
          ++ header "authorization" h.authorization
          ++ header "content-length" (some (String.ofList (decimal body.length)))
          ++ header "content-type" (some body.contentType)
          ++ [("host", hostText h.url)] ++ header "referer" h.referer
          ++ header "user-agent" userAgent := by
      unfold Hop.request
      rw [hbody]
      rfl
    rw [hlines]
    simp only [List.filter_append, filter_header "authorization" "content-length" _ (by decide),
      filter_header "content-type" "content-length" _ (by decide),
      filter_header "referer" "content-length" _ (by decide),
      filter_header "user-agent" "content-length" _ (by decide)]
    rfl

/-! ## §2. Ways. -/

/-- **Every request that posts announces what it carries.** -/
theorem Way.carries {client : Client} {network : Network} {endpoint : String}
    {redirects place : Nat} {h : Hop} {s : Sending} {body : Sendable}
    (w : Way network endpoint client redirects place h s) (hposts : h.Posts body) :
    ∀ e ∈ s.exchanges, e.request.method = .post → e.request.Carries body := by
  induction w with
  | ends he =>
      intro e hmem hmethod
      rw [List.mem_singleton.mp hmem] at hmethod ⊢
      exact hposts.request _ hmethod
  | leads hl w ih =>
      intro e hmem hmethod
      rcases List.mem_cons.mp hmem with rfl | hlater
      · exact hposts.request _ hmethod
      · exact ih (hposts.next _ _ hl.follows) e hlater hmethod

theorem carries_send (client : Client) (network : Network) (endpoint : Url) (body : Sendable) :
    ∀ e ∈ (send client network endpoint body).exchanges,
      e.request.method = .post → e.request.Carries body := by
  cases hreachable : isReachable (withoutUser endpoint).1 with
  | false =>
      rw [send_of_unreachable client network endpoint body hreachable]
      intro e he
      cases he
  | true =>
      have hfirst : (Hop.first endpoint body).Posts body := fun _ => rfl
      exact (way_send client network endpoint body hreachable).carries hfirst

end Http

namespace Uploader

/-! ## §3. Uploads. -/

/-- **The announced length is the sent length.**  Every request of an upload that posts
announces, in one header, the number of octets that it carries.  These are the pieces that the
form is put together from, so there are none for a form without parts; for any other they are,
for each part, the line with the boundary, the header lines, an empty line, the content and a
line end, and then the closing line.  Their number is told by the names, file names, content
types and contents alone.  If a request can be made at all, the first one posts. -/
theorem announced_length_is_sent (u : Uploader) (t : Turn) (blocks : List Multipart.Block)
    (hblocks : Multipart.blocks t.form.parts = .ok blocks) :
    (∀ e ∈ (u.turn t).2.exchanges, e.request.method = .post →
        e.request.headers.filter (fun line => line.1 = "content-length")
            = [("content-length", String.ofList (decimal e.request.body.length))]
          ∧ e.request.body = (Multipart.bodyPieces t.boundary t.form.parts).flatten
          ∧ e.request.body.length = Multipart.formLength t.form.parts)
      ∧ (Http.isReachable (Http.withoutUser u.lifecycle.endpoint).1 = true →
        ∃ first later, (u.turn t).2.exchanges = first :: later
          ∧ first.request.method = .post) := by
  refine ⟨?_, fun hreachable => ?_⟩
  · obtain ⟨-, rfl⟩ := (Multipart.blocks_eq_ok t.form.parts blocks).mp hblocks
    rw [u.exchanges_of_form t _ hblocks]
    intro e he hmethod
    have hcarries := Http.carries_send _ _ _ _ e he hmethod
    have hbody : e.request.body = (Multipart.bodyPieces t.boundary t.form.parts).flatten := by
      rw [hcarries.octets, ← Multipart.encode_eq_flatten]
      rfl
    have hlength : e.request.body.length = Multipart.formLength t.form.parts := by
      rw [hbody, List.length_flatten, Multipart.length_bodyPieces]
    refine ⟨?_, hbody, hlength⟩
    rw [hcarries.announced, hlength]
    show [("content-length", String.ofList (decimal (Multipart.encodedLength _ _)))] = _
    rw [Multipart.encodedLength_eq]
  · obtain ⟨first, later, hes, hposts⟩ := u.posts_of_form t blocks hblocks hreachable
    exact ⟨first, later, hes, hposts.method⟩

/-- A turn whose form has a name that is encoded, and a file name with quotes. -/
def writtenTurn : Turn :=
  ⟨.unreachable, ⟨1, 2, 3, 4⟩,
    ⟨[.text "größe" "1 m",
      .file "jar" "a \"b\".jar" (some "TEXT/Plain; charset=UTF-8") [0x50, 0x4B, 0x03]]⟩⟩

/-- What is announced for it is what its two parts take: 71 and 60 and 4 and 3 and 2 octets, 71
and 107 and 4 and 3 and 2, and 73 for the closing line. -/
theorem length_of_written_names :
    ∃ first later, (hurriedUploader.turn writtenTurn).2.exchanges = first :: later
      ∧ first.request.method = .post
      ∧ first.request.headers.filter (fun line => line.1 = "content-length")
        = [("content-length", "400")]
      ∧ first.request.body.length = 400 := by
  obtain ⟨hall, hsome⟩ := announced_length_is_sent hurriedUploader writtenTurn _ rfl
  obtain ⟨first, later, hes, hmethod⟩ := hsome isReachable_files
  have hmem : first ∈ (hurriedUploader.turn writtenTurn).2.exchanges := by
    rw [hes]
    exact List.mem_cons_self
  obtain ⟨hannounced, -, hlength⟩ := hall first hmem hmethod
  have hcount : Multipart.formLength writtenTurn.form.parts = 400 := by decide +kernel
  rw [hcount] at hlength
  rw [hlength] at hannounced
  exact ⟨first, later, hes, hmethod, hannounced, hlength⟩

end Uploader

end FormUpload
