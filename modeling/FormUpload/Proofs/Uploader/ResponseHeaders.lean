import FormUpload.Proofs.Http.Heads
import FormUpload.Proofs.Http.WholeAnswers
import FormUpload.Proofs.Response.Headers
import FormUpload.Proofs.Uploader.Submission

/-!
# The headers of what is received

A form is answered by a response, or by a failure that comes with one, if and only if there is
a whole final answer to it (`received_eq_ok_iff`).  The headers of that response are the header
lines that were sent in the final head (`headers_follow_lines`): nothing is lost, nothing is
added, and the lines of one name stay in order.
-/

namespace FormUpload

open FormUpload.Text
open FormUpload.Multipart (Boundary)
open FormUpload.Http (AnswerHeads HeadText HeaderLine StatusLine)

namespace Transport

variable (t : Transport) (network : Http.Network) (boundary : Boundary) (endpoint : Url)
  (parts : List Part)

/-- A posted form gets a whole answer: these heads, and after the final one this content. -/
def HasWholeAnswer (heads : AnswerHeads) (content : Bytes) : Prop :=
  ∃ blocks, Multipart.blocks parts = .ok blocks
    ∧ Http.WholeAnswer ⟨t.userAgent, t.settings.timeout⟩ network endpoint
      (sendable boundary blocks) heads content

/-- **A response is received if there is a whole answer**, and it is read from that. -/
theorem received_eq_ok_iff (r : Response) :
    t.received network boundary endpoint parts = some (.ok r) ↔ ∃ heads content raw,
      t.HasWholeAnswer network boundary endpoint parts heads content
        ∧ Http.finalAnswer? heads.final.head content = some raw
        ∧ r = .ofBody raw.status raw.headers raw.body := by
  unfold received HasWholeAnswer
  cases hblocks : Multipart.blocks parts with
  | error f =>
      constructor
      · intro h
        cases h
      · rintro ⟨_, _, _, ⟨_, h, _⟩, _⟩
        cases h
  | ok blocks =>
      simp only [Option.map_eq_some_iff]
      constructor
      · rintro ⟨result, hresult, h⟩
        cases result with
        | error fault => cases h
        | ok raw =>
            cases h
            obtain ⟨heads, content, hwhole, hfinal⟩ :=
              (Http.result_eq_ok_iff _ _ _ _ raw).mp hresult
            exact ⟨heads, content, raw, ⟨blocks, rfl, hwhole⟩, hfinal, rfl⟩
      · rintro ⟨heads, content, raw, ⟨_, hb, hwhole⟩, hfinal, rfl⟩
        cases hb
        exact ⟨.ok raw, (Http.result_eq_ok_iff _ _ _ _ raw).mpr ⟨heads, content, hwhole, hfinal⟩,
          rfl⟩

/-- The answer to a posted form is what was received, under the status policy. -/
theorem answer_post : (t.post network boundary endpoint parts).answer
    = (t.received network boundary endpoint parts).map (judged t.settings.rejectErrorStatus) :=
  t.answer_exchange network boundary endpoint parts

variable {t network boundary endpoint parts}

/-- **The response in an answer was received**, also the one that comes with a failure. -/
theorem received_of_answer (r : Response)
    (h : (t.post network boundary endpoint parts).answer = some (.ok r)
      ∨ ∃ status, (t.post network boundary endpoint parts).answer
        = some (.error (.status status r))) :
    t.received network boundary endpoint parts = some (.ok r) := by
  rw [answer_post] at h
  cases hreceived : t.received network boundary endpoint parts with
  | none =>
      rw [hreceived] at h
      rcases h with h | ⟨status, h⟩ <;> cases h
  | some answer =>
      rw [hreceived, Option.map_some] at h
      cases answer with
      | ok r' =>
          rcases judged_ok t.settings.rejectErrorStatus r' with hr | hr
          · rw [hr] at h
            rcases h with h | ⟨status, h⟩ <;> cases h
            rfl
          · rw [hr] at h
            rcases h with h | ⟨status, h⟩ <;> cases h
            rfl
      | error f =>
          -- a fault comes with no response
          have hnone := response?_received _ _ _ _ _ f hreceived
          rcases h with h | ⟨status, h⟩ <;> cases h
          cases hnone

/-- **What is received of a whole answer** that is not packed keeps its header lines. -/
theorem HasWholeAnswer.received {heads : AnswerHeads} {content : Bytes}
    (h : t.HasWholeAnswer network boundary endpoint parts heads content)
    (hunpacked : ∀ l ∈ heads.final.lines, l.hasName "content-encoding" = false) :
    ∃ r, t.received network boundary endpoint parts = some (.ok r)
      ∧ r.status = UInt16.ofNat heads.final.start.status
      ∧ r.data = Response.dataOfBody content ∧ r.Keeps heads.final.lines := by
  have hnone : Http.Headers.all heads.final.head.headers "content-encoding" = [] := by
    have hname : lower "content-encoding" = "content-encoding" := by decide
    have hlines : heads.final.lines.filter (·.hasName "content-encoding") = [] := by
      rw [List.filter_eq_nil_iff]
      intro l hl
      rw [hunpacked l hl]
      exact Bool.false_ne_true
    have hkept := Http.filter_kept heads.final.lines "content-encoding"
    rw [hname, hlines] at hkept
    exact List.map_eq_nil_iff.mpr hkept
  have hfinal := Http.finalAnswer?_of_unpacked heads.final.head content hnone
  exact ⟨_, (received_eq_ok_iff _ _ _ _ _ _).mpr ⟨heads, content, _, h, hfinal, rfl⟩, rfl, rfl,
    keeps_of_headers rfl⟩

/-- **The headers of a response are the header lines that were sent.**  A whole final answer
that names no content encoding makes a response, or a failure that comes with it if the status
policy says so.  Under every name the response has the values of the lines with this name, in
the order in which they came, and it has nothing else (`Response.Keeps`).  There are no
responses but of whole answers. -/
theorem headers_follow_lines (t : Transport) (network : Http.Network) (boundary : Boundary)
    (endpoint : Url) (parts : List Part) :
    (∀ heads content, t.HasWholeAnswer network boundary endpoint parts heads content →
        (∀ l ∈ heads.final.lines, l.hasName "content-encoding" = false) →
        ∃ r, (t.post network boundary endpoint parts).answer
            = some (judged t.settings.rejectErrorStatus (.ok r))
          ∧ r.status = UInt16.ofNat heads.final.start.status
          ∧ r.data = Response.dataOfBody content ∧ r.Keeps heads.final.lines)
      ∧ ∀ r, ((t.post network boundary endpoint parts).answer = some (.ok r)
          ∨ ∃ status, (t.post network boundary endpoint parts).answer
            = some (.error (.status status r))) →
        ∃ heads content, t.HasWholeAnswer network boundary endpoint parts heads content
          ∧ ((∀ l ∈ heads.final.lines, l.hasName "content-encoding" = false) →
            r.Keeps heads.final.lines) := by
  constructor
  · intro heads content h hunpacked
    obtain ⟨r, hreceived, hstatus, hdata, hkeeps⟩ := h.received hunpacked
    refine ⟨r, ?_, hstatus, hdata, hkeeps⟩
    rw [answer_post, hreceived, Option.map_some]
  · intro r hr
    have hreceived := received_of_answer r hr
    obtain ⟨heads, content, -, h, -⟩ := (received_eq_ok_iff _ _ _ _ _ _).mp hreceived
    refine ⟨heads, content, h, fun hunpacked => ?_⟩
    obtain ⟨r', hreceived', -, -, hkeeps⟩ := h.received hunpacked
    rw [hreceived] at hreceived'
    cases hreceived'
    exact hkeeps

/-- A head that tells of progress. -/
def continueText : HeadText :=
  ⟨[], .ofStatus false 100 (bytesOf "Continue") (by decide) (by decide)
    (List.all_eq_true.mp (by decide)), [], .returnFeed, by decide, by decide⟩

/-- Header lines of two names, one of them in two spellings and around the other, whose value
is no UTF-8. -/
def taggedLines : List HeaderLine :=
  [⟨bytesOf "X-Tag", bytesOf "\t one", .returnFeed, Http.isName_of_all _ (by decide) (by decide),
      List.all_eq_true.mp (by decide)⟩,
    ⟨bytesOf "Note", [0x63, 0xE9, 0x20], .feed, Http.isName_of_all _ (by decide) (by decide),
      List.all_eq_true.mp (by decide)⟩,
    ⟨bytesOf "x-tAG", bytesOf "two ", .returnFeed, Http.isName_of_all _ (by decide) (by decide),
      List.all_eq_true.mp (by decide)⟩]

/-- The heads of an answer with status 503 and these lines. -/
def taggedHeads : AnswerHeads where
  progress := [continueText]
  final := ⟨[.feed], .ofStatus false 503 [] (by decide) (by decide) (List.forall_mem_nil _),
    taggedLines, .returnFeed, by decide, by decide⟩
  isProgress := List.forall_mem_singleton.mpr (by decide)
  isFinal := by decide

/-- A network in which they are sent, with nothing after them. -/
def taggedNetwork : Http.Network := .scripted [.received 5 (taggedHeads.octets ++ []) false]

/-- An answer is rejected for its status and still has its headers: those of one name stay in
order, although another one came between them. -/
theorem headers_of_rejected_answer :
    (⟨.standard, none⟩ : Transport).HasWholeAnswer taggedNetwork ⟨1, 2, 3, 4⟩ filesEndpoint
        [.text "a" "b"] taggedHeads []
      ∧ (∀ l ∈ taggedHeads.final.lines, l.hasName "content-encoding" = false)
      ∧ ∃ r, ((⟨.standard, none⟩ : Transport).post taggedNetwork ⟨1, 2, 3, 4⟩ filesEndpoint
          [.text "a" "b"]).answer = some (.error (.status 503 r))
        ∧ (r.headers.filter (·.1 == "x-tag")).map (·.2) = ["one", "two"]
        ∧ r.header? "X-TAG" = some "one" ∧ r.header? "note" = some "c\uFFFD"
        ∧ r.header? "tag" = none := by
  have hwhole : (⟨.standard, none⟩ : Transport).HasWholeAnswer taggedNetwork ⟨1, 2, 3, 4⟩
      filesEndpoint [.text "a" "b"] taggedHeads [] := by
    refine ⟨_, rfl, isReachable_files, 0, 0, _, .here, ?_, rfl, rfl⟩
    exact .intro 5 false taggedHeads [] .untilClosed [] [] rfl rfl
  have hunpacked : ∀ l ∈ taggedHeads.final.lines, l.hasName "content-encoding" = false := by
    decide
  refine ⟨hwhole, hunpacked, ?_⟩
  obtain ⟨r, hanswer, hstatus, -, hkeeps⟩ := (headers_follow_lines _ _ _ _ _).1 _ _ hwhole hunpacked
  have hstatus : r.status = 503 := hstatus.trans (by decide)
  have hrejected : judged true (.ok r) = .error (.status 503 r) := by
    rw [judged_of_unfulfilled r (by rw [hstatus]; decide), hstatus]
  refine ⟨r, hanswer.trans (congrArg some hrejected), (hkeeps.values "X-Tag").trans (by decide),
    (hkeeps.first "X-TAG").trans (by decide), (hkeeps.first "note").trans (by decide), ?_⟩
  exact (hkeeps.missing "tag").mpr (by decide)

end Transport

end FormUpload
