import FormUpload.Proofs.Multipart.ContentTypes
import FormUpload.Proofs.Uploader.Submission

/-!
# Forms that are refused

A form with a wrong content type is never sent: the upload fails for its first mistyped part,
before the endpoint or the network can make it fail otherwise (`wrong_type_comes_first`).  An
upload fails so for no other reason, whatever endpoint and network do:

    fault_of_sent     sending fails in other ways than a wrong content type
    fails_of_refused  a form that is refused makes the upload fail, with nothing sent
-/

namespace FormUpload

open FormUpload.Text

namespace Uploader

variable (u : Uploader) (t : Turn)

/-! ## §1. Why an upload fails. -/

/-- An upload that ends with a failure was answered with it. -/
theorem answer?_of_failure (f : Failure) (message : String)
    (h : (u.turn t).2.outcome = some (.transportFailure f message)) :
    u.answer? t = some (.error f) := by
  rw [outcome_turn] at h
  obtain ⟨answer, hanswer, houtcome⟩ := Option.map_eq_some_iff.mp h
  cases answer with
  | error f' =>
      cases houtcome
      exact hanswer
  | ok r =>
      -- a response is never a failure to obtain one
      have hok : Outcome.ofAnswer u.lifecycle.formatter (.ok r) = .transportFailure f message :=
        houtcome
      unfold Outcome.ofAnswer at hok
      simp only at hok
      split at hok <;> cases hok

/-- **A form that is sent fails in other ways than a wrong content type**: in its request, or
by the status of its answer. -/
theorem fault_of_sent (blocks : List Multipart.Block)
    (hblocks : Multipart.blocks t.form.parts = .ok blocks) (f : Failure)
    (h : u.answer? t = some (.error f)) :
    (∃ fault, f = .request fault) ∨ ∃ r, f = .status r.status r := by
  unfold answer? at h
  obtain ⟨answer, hreceived, hjudged⟩ := Option.map_eq_some_iff.mp h
  cases answer with
  | error f' =>
      obtain ⟨fault, rfl⟩ := Transport.error_of_received _ _ _ _ _ blocks hblocks f' hreceived
      cases hjudged
      exact Or.inl ⟨fault, rfl⟩
  | ok r =>
      rcases judged_ok u.transport.settings.rejectErrorStatus r with hr | hr
      · rw [hr] at hjudged
        cases hjudged
      · rw [hr] at hjudged
        exact Or.inr ⟨r, (Except.error.inj hjudged).symm⟩

/-- An upload that fails for a content type has a form with a mistyped part. -/
theorem mistyped_of_failure (field text message : String)
    (h : (u.turn t).2.outcome = some (.transportFailure (.contentType field text) message)) :
    ∃ p ∈ t.form.parts, p.Mistyped := by
  have hanswer := u.answer?_of_failure t _ message h
  cases hblocks : Multipart.blocks t.form.parts with
  | error f =>
      obtain ⟨before, p, after, text', hparts, -, hown, hwrong, -⟩ :=
        (Multipart.blocks_eq_error_iff _ f).mp hblocks
      rw [hparts]
      exact ⟨p, List.mem_append_right before List.mem_cons_self, text', hown, hwrong⟩
  | ok blocks =>
      rcases u.fault_of_sent t blocks hblocks _ hanswer with ⟨fault, hfault⟩ | ⟨r, hr⟩
      · cases hfault
      · cases hr

/-! ## §2. Forms with a wrong content type. -/

/-- A form that is refused: nothing is sent, and the upload fails for that reason. -/
theorem fails_of_refused (f : Failure) (h : Multipart.blocks t.form.parts = .error f) :
    (u.turn t).2.exchanges = [] ∧ u.Fails t f := by
  constructor
  · rw [exchanges_turn]
    unfold Transport.exchange
    rw [h]
  · apply u.fails_of_received t f
    unfold received Transport.received
    rw [h]

/-- **A wrong content type comes before everything else.**  An upload fails for a content type
exactly when some part names one that is none.  It is then the first such part that is told of,
whatever stands before and after it, and whatever endpoint, network, settings and last response
are: no request is made, the last response stays, and the notifier is told once, of that
failure; in the usual wording this is the wording of the failure itself. -/
theorem wrong_type_comes_first (u : Uploader) (t : Turn) :
    ((∃ field text message, (u.turn t).2.outcome
          = some (.transportFailure (.contentType field text) message))
        ↔ ∃ p ∈ t.form.parts, p.Mistyped)
      ∧ ∀ before p after text, t.form.parts = before ++ p :: after →
        (∀ q ∈ before, ¬ q.Mistyped) → p.ownType? = some text → MediaType.parse? text = none →
        (u.turn t).2.exchanges = [] ∧ u.Fails t (.contentType p.name text)
          ∧ Formatter.standard.ofFailure (.contentType p.name text)
            = (Failure.contentType p.name text).message := by
  have hfirst : ∀ before p after text, t.form.parts = before ++ p :: after →
      (∀ q ∈ before, ¬ q.Mistyped) → p.ownType? = some text → MediaType.parse? text = none →
      (u.turn t).2.exchanges = [] ∧ u.Fails t (.contentType p.name text) := by
    intro before p after text hparts hbefore hown hwrong
    apply u.fails_of_refused t
    rw [hparts]
    exact Multipart.blocks_of_first before after p text hbefore hown hwrong
  refine ⟨⟨?_, ?_⟩, ?_⟩
  · rintro ⟨field, text, message, h⟩
    exact u.mistyped_of_failure t field text message h
  · intro h
    obtain ⟨before, p, after, hparts, hbefore, text, hown, hwrong⟩ :=
      Multipart.exists_first_mistyped _ h
    obtain ⟨-, hfails⟩ := hfirst before p after text hparts hbefore hown hwrong
    exact ⟨p.name, text, _, hfails.outcome⟩
  · intro before p after text hparts hbefore hown hwrong
    obtain ⟨hnone, hfails⟩ := hfirst before p after text hparts hbefore hown hwrong
    exact ⟨hnone, hfails, rfl⟩

/-- An uploader for an address that no request can be made for, with a response from before. -/
def mailUploader : Uploader :=
  ⟨⟨⟨"mailto", "", none, none, none, .bare "a@b", none, none⟩, .direct, .standard,
    some (.ofData 200 successDocument)⟩, ⟨.standard, none⟩⟩

/-- A turn whose form has two files with wrong content types, after a text and a file without
one. -/
def mistypedTurn : Turn :=
  ⟨.scripted [documentAnswer 200 successDocument], ⟨1, 2, 3, 4⟩,
    ⟨[.text "group" "wk00", .file "conf" "a.json" none [0x7B, 0x7D],
      .file "jar" "a.jar" (some "not a mime type") [0x50, 0x4B], .file "zip" "b.zip" (some "") []]⟩⟩

/-- The upload is told to fail for the first of them, not for the second one and not for the
address. -/
theorem first_of_two_wrong_types :
    readEndpoint "mailto:a@b" = .ok mailUploader.lifecycle.endpoint
      ∧ MediaType.parse? "not a mime type" = none
      ∧ (mailUploader.turn mistypedTurn).2.outcome
        = some (.transportFailure (.contentType "jar" "not a mime type")
          "invalid content type `not a mime type` for field `jar`: builder error")
      ∧ (mailUploader.turn mistypedTurn).2.exchanges = []
      ∧ (mailUploader.turn mistypedTurn).2.delivered
        = ["invalid content type `not a mime type` for field `jar`: builder error"]
      ∧ (mailUploader.turn mistypedTurn).1.lifecycle.last
        = some (.ofData 200 successDocument) := by
  obtain ⟨-, hfirst⟩ := wrong_type_comes_first mailUploader mistypedTurn
  have hbefore : ∀ q ∈ mistypedTurn.form.parts.take 2, Multipart.Accepted q := by decide +kernel
  have hwrong : MediaType.parse? "not a mime type" = none := by decide
  obtain ⟨hnone, hfails, -⟩ := hfirst (mistypedTurn.form.parts.take 2) _ _ "not a mime type" rfl
    (fun q hq => (Multipart.accepted_iff q).mp (hbefore q hq)) rfl hwrong
  refine ⟨rfl, hwrong, hfails.outcome, hnone, ?_, hfails.last⟩
  rw [hfails.told.delivered]
  rfl

end Uploader

end FormUpload
