import FormUpload.Proofs.Uploader.Completeness
import Mathlib.Data.List.Forall2

/-!
# What does not come from the form

An endpoint that goes by a script answers every form alike.  So what is received does not
depend on the form, as long as it is accepted and holds something (`received_of_forms`), and
neither do the requests after the first (`later_of_forms`).  One turn shows the same for any
two forms (`Turn.Rivals.alike`), and so do any number of turns: the result comes from the
endpoint, never from the form (`result_ignores_form`).
-/

namespace FormUpload

open FormUpload.Multipart (Boundary)

namespace Transport

variable (t : Transport) (network : Http.Network) (boundary boundary' : Boundary)
  (endpoint : Url) (parts parts' : List Part)

/-! ## §1. Two forms. -/

/-- **Accepted forms receive the same** from an endpoint that goes by a script, if both hold
something or neither does. -/
theorem received_of_forms (hblind : network.Blind) (blocks blocks' : List Multipart.Block)
    (hblocks : Multipart.blocks parts = .ok blocks)
    (hblocks' : Multipart.blocks parts' = .ok blocks') (hempty : parts = [] ↔ parts' = []) :
    t.received network boundary endpoint parts = t.received network boundary' endpoint parts' := by
  have hoctets : (sendable boundary blocks).octets = []
      ↔ (sendable boundary' blocks').octets = [] :=
    (octets_eq_nil_iff boundary parts blocks hblocks).trans
      (hempty.trans (octets_eq_nil_iff boundary' parts' blocks' hblocks').symm)
  unfold received
  rw [hblocks, hblocks']
  simp only [Http.result_of_blind _ network hblind endpoint _ _ hoctets]

/-- **Accepted forms that hold something make the same requests**, apart from the first. -/
theorem later_of_forms (hblind : network.Blind) (blocks blocks' : List Multipart.Block)
    (hblocks : Multipart.blocks parts = .ok blocks)
    (hblocks' : Multipart.blocks parts' = .ok blocks') (hparts : parts ≠ [])
    (hparts' : parts' ≠ []) :
    let es := (t.exchange network boundary endpoint parts).1
    let es' := (t.exchange network boundary' endpoint parts').1
    es.length = es'.length ∧ es.tail = es'.tail := by
  intro es es'
  have hes : es = _ := exchanges_exchange t network boundary endpoint parts blocks hblocks
  have hes' : es' = _ := exchanges_exchange t network boundary' endpoint parts' blocks' hblocks'
  have hsends := mt (octets_eq_nil_iff boundary parts blocks hblocks).mp hparts
  have hsends' := mt (octets_eq_nil_iff boundary' parts' blocks' hblocks').mp hparts'
  have halike := Http.alike_send ⟨t.userAgent, t.settings.timeout⟩ network hblind endpoint _ _
    hsends hsends'
  rw [hes, hes']
  exact ⟨halike.count, halike.later⟩

end Transport

namespace Uploader

/-! ## §2. One turn. -/

/-- Turns at an endpoint that goes by a script.  Their forms are accepted and hold something;
they need not have anything else in common. -/
structure Turn.Rivals (t t' : Turn) : Prop where
  blind : t.network.Blind
  network : t'.network = t.network
  accepted : ∃ blocks, Multipart.blocks t.form.parts = .ok blocks
  accepted' : ∃ blocks, Multipart.blocks t'.form.parts = .ok blocks
  holds : t.form.parts ≠ []
  holds' : t'.form.parts ≠ []

/-- Uploads that come to the same, and differ at most in the first exchange and the log. -/
structure Upload.Alike (s s' : Upload) : Prop where
  outcome : s.outcome = s'.outcome
  delivered : s.delivered = s'.delivered
  count : s.exchanges.length = s'.exchanges.length
  later : s.exchanges.tail = s'.exchanges.tail

variable {u v : Uploader} {t t' : Turn}

/-- Rivals receive the same. -/
theorem Turn.Rivals.received (ht : t.Rivals t') (huv : u.Same v) :
    u.received t = v.received t' := by
  obtain ⟨blocks, hblocks⟩ := ht.accepted
  obtain ⟨blocks', hblocks'⟩ := ht.accepted'
  have hempty : t.form.parts = [] ↔ t'.form.parts = [] :=
    ⟨fun h => absurd h ht.holds, fun h => absurd h ht.holds'⟩
  unfold Uploader.received
  rw [ht.network, ← huv.transport, ← huv.endpoint]
  exact Transport.received_of_forms _ _ _ _ _ _ _ ht.blind blocks blocks' hblocks hblocks' hempty

/-- And so they come to the same answer. -/
theorem answer?_of_received (huv : u.Same v) (h : u.received t = v.received t') :
    u.answer? t = v.answer? t' := by
  unfold answer?
  rw [h, huv.transport]

/-- And to the same response. -/
theorem Turn.Rivals.response? (ht : t.Rivals t') (u : Uploader) :
    u.response? t = u.response? t' := by
  have hsame : u.Same u := u.same_after []
  unfold Uploader.response?
  rw [answer?_of_received hsame (ht.received hsame)]

/-- The outcome of turns with the same answer. -/
theorem outcome_of_answer? (huv : u.Same v) (h : u.answer? t = v.answer? t') :
    (u.turn t).2.outcome = (v.turn t').2.outcome := by
  have houtcome : u.lifecycle.outcome = v.lifecycle.outcome := by
    unfold Lifecycle.outcome
    rw [huv.formatter]
  rw [outcome_turn, outcome_turn, h, houtcome]

/-- **One turn shows the same for any two forms.** -/
theorem Turn.Rivals.alike (ht : t.Rivals t') (huv : u.Same v) :
    (u.turn t).2.Alike (v.turn t').2 := by
  obtain ⟨blocks, hblocks⟩ := ht.accepted
  obtain ⟨blocks', hblocks'⟩ := ht.accepted'
  have houtcome := outcome_of_answer? huv (answer?_of_received huv (ht.received huv))
  obtain ⟨hcount, hlater⟩ := Transport.later_of_forms u.transport t.network t.boundary t'.boundary
    u.lifecycle.endpoint _ _ ht.blind blocks blocks' hblocks hblocks' ht.holds ht.holds'
  refine ⟨houtcome, ?_, ?_, ?_⟩
  · rw [(u.tells_turn t).delivered, (v.tells_turn t').delivered, houtcome, huv.notifier]
  · rw [exchanges_turn, exchanges_turn, ht.network, ← huv.transport, ← huv.endpoint]
    exact hcount
  · rw [exchanges_turn, exchanges_turn, ht.network, ← huv.transport, ← huv.endpoint]
    exact hlater

/-! ## §3. Two runs. -/

/-- Rivals have the same responses. -/
theorem responses_of_rivals (u : Uploader) {ts ts' : List Turn}
    (hts : List.Forall₂ Turn.Rivals ts ts') :
    ts.filterMap u.response? = ts'.filterMap u.response? := by
  induction hts with
  | nil => rfl
  | cons ht _ ih =>
      rw [List.filterMap_cons, List.filterMap_cons, ht.response? u, ih]

/-- **The result never comes from the form.**  Two runs post forms that need not have anything
in common, turn by turn to an endpoint that goes by the same script.  After any turns, the next
one has the same outcome in both, delivers the same, leaves the same response behind and makes
the same requests but for the first, and the notifier is told the same messages. -/
theorem result_ignores_form (u : Uploader) (ts ts' : List Turn)
    (hts : List.Forall₂ Turn.Rivals ts ts') (t t' : Turn) (ht : t.Rivals t') :
    let x := u.after ts
    let y := u.after ts'
    (x.turn t).2.Alike (y.turn t').2
      ∧ (x.turn t).1.lifecycle.last = (y.turn t').1.lifecycle.last
      ∧ ∃ messages, x.Tells t messages ∧ y.Tells t' messages := by
  intro x y
  have hsame : x.Same y := (u.same_after ts).trans (u.same_after ts').symm
  have halike := ht.alike hsame
  refine ⟨halike, ?_, _, x.tells_turn t, ?_⟩
  · have hall : List.Forall₂ Turn.Rivals (ts ++ [t]) (ts' ++ [t']) :=
      List.rel_append hts (.cons ht .nil)
    rw [← after_concat, ← after_concat, last_after, last_after, u.responses_of_rivals hall]
  · rw [halike.outcome]
    exact y.tells_turn t'

/-- A turn of a form at an endpoint that goes by a script. -/
def scriptedTurn (script : List Http.Delivery) (boundary : Boundary) (parts : List Part) : Turn :=
  ⟨.scripted script, boundary, ⟨parts⟩⟩

/-- Any two accepted forms that hold something take their turns as rivals. -/
theorem rivals_scriptedTurn (script : List Http.Delivery) (boundary boundary' : Boundary)
    (parts parts' : List Part) (hparts : ∃ blocks, Multipart.blocks parts = .ok blocks)
    (hparts' : ∃ blocks, Multipart.blocks parts' = .ok blocks) (hholds : parts ≠ [])
    (hholds' : parts' ≠ []) :
    (scriptedTurn script boundary parts).Rivals (scriptedTurn script boundary' parts') :=
  ⟨Http.Network.blind_scripted _, rfl, hparts, hparts', hholds, hholds'⟩

/-- An uploader whose endpoint is reached over TLS. -/
def secureUploader : Uploader :=
  { hurriedUploader with lifecycle.endpoint := { filesEndpoint with scheme := "https" } }

theorem isReachable_secure :
    Http.isReachable (Http.withoutUser secureUploader.lifecycle.endpoint).1 = true := by
  decide +kernel

/-- What happens to a form that is sent elsewhere, and rejected there. -/
def rejection : List Http.Delivery := [movedAnswer, documentAnswer 503 successDocument]

/-- What happens to a form that is a success. -/
def acceptance : List Http.Delivery := [documentAnswer 200 successDocument]

/-- Turns of a text that reads like a failure. -/
def textTurn (script : List Http.Delivery) : Turn :=
  scriptedTurn script ⟨1, 2, 3, 4⟩ [.text "isSuccess" "false"]

/-- Turns of two files. -/
def filesTurn (script : List Http.Delivery) : Turn :=
  scriptedTurn script ⟨5, 6, 7, 8⟩
    [.file "jar" "a.jar" none [0x50, 0x4B], .file "conf" "" (some "text/plain") []]

theorem rivals_textTurn (script : List Http.Delivery) :
    (textTurn script).Rivals (filesTurn script) :=
  rivals_scriptedTurn script _ _ _ _ ⟨_, rfl⟩ ⟨_, rfl⟩ (List.cons_ne_nil _ _)
    (List.cons_ne_nil _ _)

/-- A text and two files are posted over TLS.  First they are redirected and rejected, and then
they are a success: nothing but the first requests tells them apart. -/
theorem result_of_unlike_forms :
    (textTurn acceptance).form ≠ (filesTurn acceptance).form
      ∧ (∀ script, (textTurn script).Rivals (filesTurn script))
      ∧ (let x := secureUploader.after [textTurn rejection]
        let y := secureUploader.after [filesTurn rejection]
        (x.turn (textTurn acceptance)).2.Alike (y.turn (filesTurn acceptance)).2
          ∧ (x.turn (textTurn acceptance)).1.lifecycle.last
            = (y.turn (filesTurn acceptance)).1.lifecycle.last
          ∧ ∃ messages, x.Tells (textTurn acceptance) messages
            ∧ y.Tells (filesTurn acceptance) messages)
      ∧ ((secureUploader.after [filesTurn rejection]).turn (filesTurn acceptance)).2.outcome
        = some (.success (.ofData 200 successDocument)) := by
  have hforms : (textTurn acceptance).form ≠ (filesTurn acceptance).form := by
    intro h
    cases h
  refine ⟨hforms, rivals_textTurn, result_ignores_form secureUploader [textTurn rejection]
    [filesTurn rejection] (.cons (rivals_textTurn _) .nil) (textTurn acceptance)
    (filesTurn acceptance) (rivals_textTurn _), ?_⟩
  obtain ⟨blocks, hblocks⟩ :
      ∃ blocks, Multipart.blocks (filesTurn acceptance).form.parts = .ok blocks := ⟨_, rfl⟩
  have hreceived : (secureUploader.after [filesTurn rejection]).received (filesTurn acceptance)
      = some (.ok (.ofData 200 successDocument)) := by
    rw [received_of_same _ (same_after _ _)]
    exact Transport.received_document _ _ _ _ blocks hblocks (by decide) isReachable_secure 200
      (by decide) (by decide) (by decide) successDocument regular_success (by decide)
  -- status 200 is accepted, and a success has no wording
  have hsuccess : ∀ formatter : Formatter, Outcome.ofAnswer formatter
      (.ok (.ofData 200 successDocument)) = .success (.ofData 200 successDocument) :=
    fun _ => rfl
  rw [outcome_turn]
  unfold answer?
  rw [hreceived, Option.map_some, judged_of_fulfilled _ _ rfl, Option.map_some]
  exact congrArg some (hsuccess _)

end Uploader

end FormUpload
