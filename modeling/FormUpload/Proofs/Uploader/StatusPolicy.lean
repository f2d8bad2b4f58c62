import FormUpload.Proofs.Lifecycle.Slot
import FormUpload.Proofs.Uploader.Submission
import Mathlib.Data.List.Forall2

/-!
# What the status policy changes

Two uploaders post the same forms to the same endpoint, turn by turn; one rejects statuses
that are no success and the other accepts them.  The policy changes how a response is
called, and nothing else (`policy_only_classifies`): both runs receive the same
(`Parallel.received`), a fulfilled request ends alike in both, and a message, where there is
one, is the same.

What the two hold drifts apart, but stays related: one holds the last response, the other
the last one that was fulfilled (`last_lenient`, `last_strict`).
-/

namespace FormUpload

open FormUpload.Multipart (Boundary)

namespace Uploader

/-! ## §1. Turns that differ in their boundaries. -/

/-- Turns with the same form at an endpoint that goes by a script; the boundaries, which are
drawn anew, may differ. -/
structure Turn.Alike (t t' : Turn) : Prop where
  blind : t.network.Blind
  network : t'.network = t.network
  form : t'.form = t.form

/-- Uploaders that post in the same way, whatever their policy is. -/
structure Parallel (u v : Uploader) : Prop where
  endpoint : u.lifecycle.endpoint = v.lifecycle.endpoint
  userAgent : u.transport.userAgent = v.transport.userAgent
  timeout : u.transport.settings.timeout = v.transport.settings.timeout

/-- **They receive the same.** -/
theorem Parallel.received {u v : Uploader} (h : u.Parallel v) {t t' : Turn} (ht : t.Alike t') :
    u.received t = v.received t' := by
  unfold Uploader.received
  rw [ht.network, ht.form, h.endpoint]
  exact Transport.received_of_blind u.transport t.network t.boundary _ _ v.transport t'.boundary
    ht.blind h.userAgent h.timeout

/-- The response in a complete final answer, whatever its status is. -/
def completed? (u : Uploader) (t : Turn) : Option Response :=
  match u.received t with
  | some (.ok r) => some r
  | _ => none

theorem Parallel.completed? {u v : Uploader} (h : u.Parallel v) {t t' : Turn} (ht : t.Alike t') :
    u.completed? t = v.completed? t' := by
  unfold Uploader.completed?
  rw [h.received ht]

/-- They complete the same turns with the same responses. -/
theorem Parallel.completions {u v : Uploader} (h : u.Parallel v) {ts ts' : List Turn}
    (hts : List.Forall₂ Turn.Alike ts ts') :
    ts.filterMap u.completed? = ts'.filterMap v.completed? := by
  induction hts with
  | nil => rw [List.filterMap_nil, List.filterMap_nil]
  | cons ht _ ih => rw [List.filterMap_cons, List.filterMap_cons, h.completed? ht, ih]

/-! ## §2. Strict and lenient uploaders. -/

/-- A lenient uploader keeps every response. -/
theorem response?_lenient (u : Uploader)
    (h : u.transport.settings.rejectErrorStatus = false) (t : Turn) :
    u.response? t = u.completed? t := by
  have hanswer : u.answer? t = u.received t := by
    unfold answer?
    rw [h]
    cases u.received t with
    | none => rfl
    | some answer => rw [Option.map_some, judged_false]
  unfold response?
  rw [hanswer]
  rfl

/-- A strict uploader keeps the responses that were fulfilled. -/
theorem response?_strict (u : Uploader) (h : u.transport.settings.rejectErrorStatus = true)
    (t : Turn) :
    u.response? t = (u.completed? t).filter fun r => Http.isFulfilled r.status := by
  unfold response? completed? answer?
  rw [h]
  cases u.received t with
  | none => rfl
  | some answer =>
      cases answer with
      | error f => rfl
      | ok r =>
          cases hf : Http.isFulfilled r.status with
          | true => simp [judged_of_fulfilled true r hf, Option.filter, hf]
          | false => simp [judged_of_unfulfilled r hf, Option.filter, hf]

/-- **A lenient uploader holds the last response.** -/
theorem last_lenient (u : Uploader) (h : u.transport.settings.rejectErrorStatus = false)
    (hlast : u.lifecycle.last = none) (ts : List Turn) :
    (u.after ts).lifecycle.last = (ts.filterMap u.completed?).getLast? := by
  have hresponses : u.response? = u.completed? := funext (u.response?_lenient h)
  rw [last_after, hlast, Option.or_none, hresponses]

/-- **A strict uploader holds the last response that was fulfilled.** -/
theorem last_strict (u : Uploader) (h : u.transport.settings.rejectErrorStatus = true)
    (hlast : u.lifecycle.last = none) (ts : List Turn) :
    (u.after ts).lifecycle.last
      = ((ts.filterMap u.completed?).filter fun r => Http.isFulfilled r.status).getLast? := by
  have hresponses : u.response?
      = fun t => (u.completed? t).filter fun r => Http.isFulfilled r.status :=
    funext (u.response?_strict h)
  rw [last_after, hlast, Option.or_none, hresponses, ← List.filterMap_eq_filter,
    List.filterMap_filterMap]
  congr 2
  funext t
  cases u.completed? t with
  | none => rfl
  | some r => rfl

/-! ## §3. One turn of each. -/

/-- The statuses from 200 to 299. -/
def IsFulfilled (r : Response) : Prop := 200 ≤ r.status.toNat ∧ r.status.toNat < 300

/-- The endpoint calls the upload a success. -/
def SaysSuccess (r : Response) : Prop := r.data.get? "isSuccess" = some (.bool true)

/-- What a strict and a lenient uploader make of one response. -/
structure Classified (x y : Uploader) (t t' : Turn) (r : Response) : Prop where
  strict : ∃ o, (x.turn t).2.outcome = some o ∧ o.response? = some r
  lenient : ∃ o, (y.turn t').2.outcome = some o ∧ o.response? = some r
  fulfilled : IsFulfilled r → (x.turn t).2.outcome = (y.turn t').2.outcome
    ∧ (x.turn t).1.lifecycle.last = some r ∧ (y.turn t').1.lifecycle.last = some r
  rejected : ¬ IsFulfilled r → (x.turn t).2.outcome
      = some (.transportFailure (.status r.status r) (Formatter.responseText r))
    ∧ (x.turn t).1.lifecycle.last = x.lifecycle.last ∧ x.Tells t [Formatter.responseText r]
  accepted : ¬ IsFulfilled r → (y.turn t').1.lifecycle.last = some r
    ∧ ∃ o, (y.turn t').2.outcome = some o ∧ (o.isSuccess = true ↔ SaysSuccess r)
  worded : ¬ SaysSuccess r →
    x.Tells t [Formatter.responseText r] ∧ y.Tells t' [Formatter.responseText r]
  quiet : SaysSuccess r → (IsFulfilled r → x.Tells t []) ∧ y.Tells t' []

/-- What both make of a failure. -/
structure Failed (x y : Uploader) (t t' : Turn) (f : Failure) : Prop where
  unanswered : f.response? = none
  strict : (x.turn t).2.outcome = some (.transportFailure f (Formatter.failureText f))
    ∧ (x.turn t).1.lifecycle.last = x.lifecycle.last ∧ x.Tells t [Formatter.failureText f]
  lenient : (y.turn t').2.outcome = some (.transportFailure f (Formatter.failureText f))
    ∧ (y.turn t').1.lifecycle.last = y.lifecycle.last ∧ y.Tells t' [Formatter.failureText f]

/-- An upload that does not end: there is no time limit, and the last connection stays open
in silence. -/
structure Waits (u : Uploader) (t : Turn) : Prop where
  outcome : (u.turn t).2.outcome = none
  last : (u.turn t).1.lifecycle.last = u.lifecycle.last
  patient : u.transport.settings.timeout = none
  silent : ∃ e, (u.turn t).2.exchanges.getLast? = some e ∧ e.delivery.isSilent = true

/-- The message of a response that is no success. -/
theorem failureText_of_ok (r : Response) (h : ¬ SaysSuccess r) :
    Past.failureText .standard (.ok r) = some (Formatter.responseText r) := by
  unfold Past.failureText
  simp only
  split
  · next hdata => exact absurd hdata h
  · rfl

/-- A success has no message. -/
theorem failureText_eq_none_iff (formatter : Formatter) (r : Response) :
    Past.failureText formatter (.ok r) = none ↔ SaysSuccess r := by
  unfold Past.failureText SaysSuccess
  simp only
  split
  · next hdata => simp [hdata]
  · next hdata => simpa using hdata

section Turn

variable {x y : Uploader} {t t' : Turn}

/-- An upload with an answer, by the usual formatter. -/
theorem outcome_of_answer (hformatter : x.lifecycle.formatter = .standard) (answer : Answer)
    (h : x.answer? t = some answer) :
    (x.turn t).2.outcome = some (.ofAnswer .standard answer) := by
  rw [outcome_turn, h, Option.map_some, Lifecycle.outcome, hformatter]

/-- Who is told what of an answer. -/
theorem tells_of_answer (hformatter : x.lifecycle.formatter = .standard) (answer : Answer)
    (h : x.answer? t = some answer) :
    x.Tells t (Past.failureText .standard answer).toList := by
  have htells := x.tells_turn t
  rw [outcome_of_answer hformatter answer h, Option.bind_some, Past.message?_ofAnswer] at htells
  exact htells

/-- A failure, worded by the usual formatter. -/
theorem turn_of_error (hformatter : x.lifecycle.formatter = .standard) (f : Failure)
    (h : x.answer? t = some (.error f)) :
    (x.turn t).2.outcome = some (.transportFailure f (Formatter.failureText f))
      ∧ (x.turn t).1.lifecycle.last = x.lifecycle.last
      ∧ x.Tells t [Formatter.failureText f] := by
  obtain ⟨houtcome, hlast, htold⟩ := x.fails_of_answer t f h
  rw [hformatter] at houtcome htold
  exact ⟨houtcome, hlast, htold⟩

/-- A response is held. -/
theorem last_of_ok (r : Response) (h : x.answer? t = some (.ok r)) :
    (x.turn t).1.lifecycle.last = some r := by
  rw [last_turn]
  unfold response?
  rw [h]
  rfl

variable (hx : x.lifecycle.formatter = .standard) (hy : y.lifecycle.formatter = .standard)
include hx hy

/-- **One response, twice**: both uploaders come to it, and only a status that is no success
makes a difference. -/
theorem classified (hstrict : x.transport.settings.rejectErrorStatus = true)
    (hlenient : y.transport.settings.rejectErrorStatus = false) (r : Response)
    (ht : x.received t = some (.ok r)) (ht' : y.received t' = some (.ok r)) :
    Classified x y t t' r := by
  have hxanswer : x.answer? t = some (judged true (.ok r)) := by
    unfold answer?
    rw [ht, hstrict, Option.map_some]
  have hyanswer : y.answer? t' = some (.ok r) := by
    unfold answer?
    rw [ht', hlenient, Option.map_some, judged_false]
  have hyoutcome := outcome_of_answer hy _ hyanswer
  have hxresponse := x.response?_of_received t r ht
  have hyresponse := y.response?_of_received t' r ht'
  have hysuccess : (Outcome.ofAnswer .standard (.ok r)).isSuccess = true ↔ SaysSuccess r := by
    rw [Past.isSuccess_ofAnswer, Option.isNone_iff_eq_none, failureText_eq_none_iff]
  have hytells := tells_of_answer hy _ hyanswer
  have hyquiet : SaysSuccess r → y.Tells t' [] := by
    intro hyes
    rw [(failureText_eq_none_iff _ r).mpr hyes] at hytells
    exact hytells
  cases hf : Http.isFulfilled r.status with
  | true =>
      rw [judged_of_fulfilled true r hf] at hxanswer
      have hxoutcome := outcome_of_answer hx _ hxanswer
      have hxtells := tells_of_answer hx _ hxanswer
      have hfulfilled : IsFulfilled r := (isFulfilled_iff r.status).mp hf
      refine ⟨hxresponse, hyresponse, fun _ => ?_,
        fun h => absurd hfulfilled h, fun h => absurd hfulfilled h, fun hno => ?_, fun hyes => ?_⟩
      · exact ⟨hxoutcome.trans hyoutcome.symm, last_of_ok r hxanswer, last_of_ok r hyanswer⟩
      · rw [failureText_of_ok r hno] at hxtells hytells
        exact ⟨hxtells, hytells⟩
      · rw [(failureText_eq_none_iff _ r).mpr hyes] at hxtells
        exact ⟨fun _ => hxtells, hyquiet hyes⟩
  | false =>
      rw [judged_of_unfulfilled r hf] at hxanswer
      have hrejected := turn_of_error hx _ hxanswer
      have hunfulfilled : ¬ IsFulfilled r := fun h =>
        absurd ((isFulfilled_iff r.status).mpr h) (Bool.eq_false_iff.mp hf)
      refine ⟨hxresponse, hyresponse, fun h => absurd h hunfulfilled, fun _ => hrejected,
        fun _ => ?_, fun hno => ?_, fun hyes => ⟨fun h => absurd h hunfulfilled, hyquiet hyes⟩⟩
      · exact ⟨last_of_ok r hyanswer, _, hyoutcome, hysuccess⟩
      · rw [failureText_of_ok r hno] at hytells
        exact ⟨hrejected.2.2, hytells⟩

/-- **A failure comes before the policy.** -/
theorem failed (f : Failure) (ht : x.received t = some (.error f))
    (ht' : y.received t' = some (.error f)) : Failed x y t t' f := by
  have hxanswer : x.answer? t = some (.error f) := by
    unfold answer?
    rw [ht]
    rfl
  have hyanswer : y.answer? t' = some (.error f) := by
    unfold answer?
    rw [ht']
    rfl
  exact ⟨Transport.response?_received _ _ _ _ _ f ht, turn_of_error hx f hxanswer,
    turn_of_error hy f hyanswer⟩

omit hx hy in
/-- **Where nothing is received, both wait.** -/
theorem waits_of_received (ht : x.received t = none) : x.Waits t := by
  have hanswer : x.answer? t = none := by
    unfold answer?
    rw [ht]
    rfl
  obtain ⟨htimeout, e, he, hsilent⟩ := Transport.silent_of_received _ _ _ _ _ ht
  refine ⟨?_, ?_, htimeout, e, ?_, hsilent⟩
  · rw [outcome_turn, hanswer]
    rfl
  · rw [last_turn]
    unfold response?
    rw [hanswer]
    rfl
  · rw [exchanges_turn]
    exact he

end Turn

/-! ## §4. Two runs. -/

/-- A new uploader holds nothing. -/
theorem of_create (endpoint : String) (transport : Transport) (notifier : Notifier)
    (formatter : Formatter) (u : Uploader)
    (h : Uploader.create endpoint transport notifier formatter = .ok u) :
    u.transport = transport ∧ readEndpoint endpoint = .ok u.lifecycle.endpoint
      ∧ u.lifecycle.notifier = notifier ∧ u.lifecycle.formatter = formatter
      ∧ u.lifecycle.last = none := by
  unfold Uploader.create at h
  cases hl : Lifecycle.create endpoint notifier formatter with
  | error f =>
      rw [hl] at h
      cases h
  | ok l =>
      rw [hl] at h
      cases h
      exact ⟨rfl, Lifecycle.of_create endpoint notifier formatter l hl⟩

/-- **The status policy changes what a response is called, and nothing else.**  After any
turns, a strict and a lenient uploader receive the same in the next one: a response, which
they classify (`Classified`), a failure, which is the same for both (`Failed`), or nothing, so
that both wait for ever (`Waits`).  What they hold are the last responses that were fulfilled,
and the last ones. -/
theorem policy_only_classifies (endpoint : String) (settings : Settings)
    (userAgent : Option String) (notifier : Notifier) (u v : Uploader)
    (hu : Uploader.create endpoint ⟨{ settings with rejectErrorStatus := true }, userAgent⟩
      notifier .standard = .ok u)
    (hv : Uploader.create endpoint ⟨{ settings with rejectErrorStatus := false }, userAgent⟩
      notifier .standard = .ok v)
    (ts ts' : List Turn) (hts : List.Forall₂ Turn.Alike ts ts') (t t' : Turn) (ht : t.Alike t') :
    let x := u.after ts
    let y := v.after ts'
    x.received t = y.received t'
      ∧ (match x.received t with
        | some (.ok r) => Classified x y t t' r
        | some (.error f) => Failed x y t t' f
        | none => x.Waits t ∧ y.Waits t')
      ∧ x.lifecycle.last = ((ts.filterMap u.completed?).filter
          fun r => Http.isFulfilled r.status).getLast?
      ∧ y.lifecycle.last = (ts.filterMap u.completed?).getLast?
      ∧ ∀ us r, (u.after us).lifecycle.last = some r → IsFulfilled r := by
  intro x y
  obtain ⟨hutransport, huread, hunotifier, huformatter, hulast⟩ := of_create _ _ _ _ u hu
  obtain ⟨hvtransport, hvread, hvnotifier, hvformatter, hvlast⟩ := of_create _ _ _ _ v hv
  have hendpoint := Except.ok.inj (huread.symm.trans hvread)
  have hparallel : u.Parallel v :=
    ⟨hendpoint, by rw [hutransport, hvtransport], by rw [hutransport, hvtransport]⟩
  have hx : x.Same u := u.same_after ts
  have hy : y.Same v := v.same_after ts'
  have hxformatter := hx.formatter.trans huformatter
  have hyformatter := hy.formatter.trans hvformatter
  have hstrict : x.transport.settings.rejectErrorStatus = true := by
    rw [hx.transport, hutransport]
  have hlenient : y.transport.settings.rejectErrorStatus = false := by
    rw [hy.transport, hvtransport]
  have hreceived : x.received t = y.received t' := by
    rw [received_of_same t hx, received_of_same t' hy, hparallel.received ht]
  have hulasts := u.last_strict (by rw [hutransport]) hulast
  have hvlasts := v.last_lenient (by rw [hvtransport]) hvlast
  refine ⟨hreceived, ?_, hulasts ts, ?_, ?_⟩
  · cases hr : x.received t with
    | none => exact ⟨waits_of_received hr, waits_of_received (hreceived.symm.trans hr)⟩
    | some answer =>
        cases answer with
        | ok r =>
            exact classified hxformatter hyformatter hstrict hlenient r hr
              (hreceived.symm.trans hr)
        | error f => exact failed hxformatter hyformatter f hr (hreceived.symm.trans hr)
  · rw [hvlasts ts', hparallel.completions hts]
  · intro us r hr
    rw [hulasts us] at hr
    exact (isFulfilled_iff r.status).mp (List.mem_filter.mp (List.mem_of_getLast? hr)).2

/-- A new uploader for an endpoint on the same machine. -/
def filesUploader (reject : Bool) : Uploader :=
  ⟨⟨filesEndpoint, .direct, .standard, none⟩, ⟨{ rejectErrorStatus := reject }, none⟩⟩

/-- A turn of a form with one part, which is answered with a status and a success. -/
def successTurn (status : Nat) (boundary : Boundary) : Turn :=
  ⟨.scripted [documentAnswer status successDocument], boundary, ⟨[.text "a" "b"]⟩⟩

/-- The same turn with a packed answer. -/
def packedTurn (status : Nat) (boundary : Boundary) : Turn :=
  ⟨.scripted [packedAnswer status successDocument], boundary, ⟨[.text "a" "b"]⟩⟩

/-- A document that calls an upload a success comes packed with status 503, after one with 201:
only the lenient uploader believes it and keeps it. -/
theorem policy_of_disguised_failure :
    let x := (filesUploader true).after [successTurn 201 ⟨1, 2, 3, 4⟩]
    let y := (filesUploader false).after [successTurn 201 ⟨5, 6, 7, 8⟩]
    Uploader.create "http://localhost:12345/v0/files" ⟨{ rejectErrorStatus := true }, none⟩ .direct
        .standard = .ok (filesUploader true)
      ∧ Uploader.create "http://localhost:12345/v0/files" ⟨{ rejectErrorStatus := false }, none⟩
        .direct .standard = .ok (filesUploader false)
      ∧ x.received (packedTurn 503 ⟨9, 1, 2, 3⟩) = some (.ok (.ofData 503 successDocument))
      ∧ Classified x y (packedTurn 503 ⟨9, 1, 2, 3⟩) (packedTurn 503 ⟨4, 5, 6, 7⟩)
        (.ofData 503 successDocument)
      ∧ (x.turn (packedTurn 503 ⟨9, 1, 2, 3⟩)).1.lifecycle.last
        = some (.ofData 201 successDocument)
      ∧ (y.turn (packedTurn 503 ⟨4, 5, 6, 7⟩)).1.lifecycle.last
        = some (.ofData 503 successDocument) := by
  intro x y
  have hfirst : (filesUploader true).completed? (successTurn 201 ⟨1, 2, 3, 4⟩)
      = some (.ofData 201 successDocument) := by
    have hreceived : (filesUploader true).received (successTurn 201 ⟨1, 2, 3, 4⟩)
        = some (.ok (.ofData 201 successDocument)) :=
      Transport.received_document _ _ filesEndpoint _ _ rfl (by decide) isReachable_files 201
        (by decide) (by decide) (by decide) successDocument regular_success (by decide)
    unfold completed?
    rw [hreceived]
  have hx : x.received (packedTurn 503 ⟨9, 1, 2, 3⟩) = some (.ok (.ofData 503 successDocument)) :=
    (received_of_same _ (same_after _ _)).trans
      (Transport.received_packed _ _ filesEndpoint _ _ rfl (by decide) isReachable_files 503
        (by decide) (by decide) (by decide) successDocument regular_success (by decide))
  have hpolicy := policy_only_classifies "http://localhost:12345/v0/files" .standard none .direct
    (filesUploader true) (filesUploader false) rfl rfl [successTurn 201 ⟨1, 2, 3, 4⟩]
    [successTurn 201 ⟨5, 6, 7, 8⟩] (.cons ⟨Http.Network.blind_scripted _, rfl, rfl⟩ .nil)
    (packedTurn 503 ⟨9, 1, 2, 3⟩) (packedTurn 503 ⟨4, 5, 6, 7⟩)
    ⟨Http.Network.blind_scripted _, rfl, rfl⟩
  obtain ⟨-, hclassified, hlast, -, -⟩ := hpolicy
  rw [hx] at hclassified
  have hunfulfilled : ¬ IsFulfilled (.ofData 503 successDocument) := by
    unfold IsFulfilled
    decide
  refine ⟨rfl, rfl, hx, hclassified, ?_, (hclassified.accepted hunfulfilled).1⟩
  rw [(hclassified.rejected hunfulfilled).2.1, hlast, List.filterMap_cons_some hfirst]
  rfl

end Uploader

end FormUpload
