import FormUpload.Proofs.Uploader.Independence
import FormUpload.Proofs.Uploader.Records

/-!
# What the log does not tell

Two forms may have the same parts, and differ in what the parts hold and nowhere else
(`Part.SameButContent`).  Nothing that is logged tells such forms apart:

    partSummary_eq            the summary of a part says how much it holds, not what
    blocks_of_sameButContent  both forms are accepted, or both are refused in one wording
    received                  an endpoint that goes by a script answers both alike
    logs_eq                   so one turn writes the same to the log for both

And so do any number of turns (`logs_hide_contents`).
-/

namespace FormUpload

open FormUpload.Text
open FormUpload.Multipart (Boundary)

/-! ## §1. Parts and forms. -/

/-- Parts that differ at most in what they hold, and hold equally much. -/
inductive Part.SameButContent : Part → Part → Prop where
  | text (name : String) {value value' : String}
      (h : (bytesOf value).length = (bytesOf value').length) :
      SameButContent (.text name value) (.text name value')
  | file (name fileName : String) (contentType : Option String) {content content' : Bytes}
      (h : content.length = content'.length) :
      SameButContent (.file name fileName contentType content)
        (.file name fileName contentType content')

/-- **A summary says how much a part holds**, and not what. -/
theorem Part.SameButContent.partSummary_eq {p q : Part} (h : p.SameButContent q) :
    Transport.partSummary p = Transport.partSummary q := by
  cases h with
  | text name h => simp only [Transport.partSummary, h]
  | file name fileName contentType h => simp only [Transport.partSummary, h]

/-- The parts are refused in one wording, if they are refused. -/
theorem Part.SameButContent.block_alike {p q : Part} (h : p.SameButContent q) :
    (∃ b c, Multipart.blockOf p = .ok b ∧ Multipart.blockOf q = .ok c)
      ∨ ∃ f, Multipart.blockOf p = .error f ∧ Multipart.blockOf q = .error f := by
  cases h with
  | text name h => exact Or.inl ⟨_, _, rfl, rfl⟩
  | file name fileName contentType h =>
      simp only [Multipart.blockOf]
      cases MediaType.parse? (Multipart.typeText fileName contentType) with
      | none => exact Or.inr ⟨_, rfl, rfl⟩
      | some mediaType => exact Or.inl ⟨_, _, rfl, rfl⟩

section Forms

variable {ps qs : List Part} (h : List.Forall₂ Part.SameButContent ps qs)
include h

theorem summary_of_sameButContent : Transport.summary ps = Transport.summary qs := by
  have hmap : ps.map Transport.partSummary = qs.map Transport.partSummary := by
    induction h with
    | nil => rfl
    | cons hp _ ih => rw [List.map_cons, List.map_cons, hp.partSummary_eq, ih]
  unfold Transport.summary
  rw [hmap]

/-- **Either both forms are accepted, or both are refused in one wording.** -/
theorem blocks_of_sameButContent :
    (∃ bs cs, Multipart.blocks ps = .ok bs ∧ Multipart.blocks qs = .ok cs)
      ∨ ∃ f, Multipart.blocks ps = .error f ∧ Multipart.blocks qs = .error f := by
  induction h with
  | nil => exact Or.inl ⟨[], [], rfl, rfl⟩
  | cons hp _ ih =>
      rw [Multipart.blocks, Multipart.blocks]
      obtain ⟨b, c, hb, hc⟩ | ⟨f, hb, hc⟩ := hp.block_alike
      · rw [hb, hc]
        obtain ⟨bs, cs, hbs, hcs⟩ | ⟨f, hbs, hcs⟩ := ih
        · rw [hbs, hcs]
          exact Or.inl ⟨_, _, rfl, rfl⟩
        · rw [hbs, hcs]
          exact Or.inr ⟨f, rfl, rfl⟩
      · rw [hb, hc]
        exact Or.inr ⟨f, rfl, rfl⟩

/-- What the transport logs of forms with one outcome. -/
theorem transportRecords_of_sameButContent (threshold : Log.Threshold) (endpoint : Url)
    (outcome : Option Outcome) :
    Uploader.transportRecords threshold endpoint ⟨ps⟩ outcome
      = Uploader.transportRecords threshold endpoint ⟨qs⟩ outcome := by
  unfold Uploader.transportRecords Uploader.postedText
  simp only [h.length_eq, summary_of_sameButContent h]

end Forms

namespace Uploader

/-! ## §2. One turn. -/

/-- Turns at an endpoint that goes by a script, whose forms differ at most in what their parts
hold. -/
structure Turn.SameButContents (t t' : Turn) : Prop where
  blind : t.network.Blind
  network : t'.network = t.network
  parts : List.Forall₂ Part.SameButContent t.form.parts t'.form.parts

variable {u v : Uploader} {t t' : Turn}

/-- **Such forms receive the same.** -/
theorem Turn.SameButContents.received (ht : t.SameButContents t') (huv : u.Same v) :
    u.received t = v.received t' := by
  unfold Uploader.received
  rw [ht.network, ← huv.transport, ← huv.endpoint]
  obtain ⟨bs, cs, hbs, hcs⟩ | ⟨f, hbs, hcs⟩ := blocks_of_sameButContent ht.parts
  · have hempty : t.form.parts = [] ↔ t'.form.parts = [] := by
      rw [← List.length_eq_zero_iff, ← List.length_eq_zero_iff, ht.parts.length_eq]
    exact Transport.received_of_forms _ _ _ _ _ _ _ ht.blind bs cs hbs hcs hempty
  · unfold Transport.received
    rw [hbs, hcs]

/-- **One turn writes the same to the log**, whatever the parts hold. -/
theorem Turn.SameButContents.logs_eq (ht : t.SameButContents t') (huv : u.Same v) :
    (u.turn t).2.logs = (v.turn t').2.logs := by
  have houtcome := outcome_of_answer? huv (answer?_of_received huv (ht.received huv))
  have hbegun : begunRecord u.lifecycle.endpoint t.form
      = begunRecord u.lifecycle.endpoint t'.form := by
    unfold begunRecord
    rw [ht.parts.length_eq]
  have htransport := transportRecords_of_sameButContent ht.parts
    u.transport.settings.threshold u.lifecycle.endpoint (v.turn t').2.outcome
  rw [logs_turn, logs_turn, houtcome, hbegun, ← huv.transport, ← huv.endpoint, ← huv.notifier,
    show transportRecords _ _ t.form _ = transportRecords _ _ t'.form _ from htransport]

/-! ## §3. Two runs. -/

/-- **The log does not tell what parts hold.**  Two uploaders with the same endpoint,
transport, notifier and formatter post forms whose parts have the same kinds, names, file
names, content types and sizes, turn by turn to an endpoint that goes by the same script.  Then
both write the same to the log, whatever comes of the forms. -/
theorem logs_hide_contents (u v : Uploader) (huv : u.Same v) (ts ts' : List Turn)
    (hts : List.Forall₂ Turn.SameButContents ts ts') : u.logs ts = v.logs ts' := by
  induction hts generalizing u v with
  | nil => rfl
  | @cons t t' ts ts' ht _ ih =>
      have hnext : (u.turn t).1.Same (v.turn t').1 :=
        (u.same_turn t).trans (huv.trans (v.same_turn t').symm)
      rw [logs_cons, logs_cons, ht.logs_eq huv, ih _ _ hnext]

/-- A turn of a text and a file, whose form is sent elsewhere and rejected there. -/
def secretTurn (value : String) (content : Bytes) (contentType : Option String) : Turn :=
  ⟨.scripted [movedAnswer, documentAnswer 503 successDocument], ⟨1, 2, 3, 4⟩,
    ⟨[.text "password" value, .file "key" "id.pem" contentType content]⟩⟩

theorem sameButContents_secretTurn (contentType : Option String) :
    (secretTurn "hunter2" [0x4B, 0x31] contentType).SameButContents
      (secretTurn "pass\nwd" [0x0D, 0x0A] contentType) :=
  ⟨Http.Network.blind_scripted _, rfl,
    .cons (.text "password" (by decide)) (.cons (.file "key" "id.pem" contentType rfl) .nil)⟩

/-- A form that is refused for its content type, and one that is redirected and then rejected,
write the same to the log as those with other contents, at the threshold `trace`. -/
theorem logs_of_secret_forms :
    let u := talkativeUploader
    let v : Uploader := { u with lifecycle.last := some (.ofData 200 .null) }
    u.Same v
      ∧ u.logs [secretTurn "hunter2" [0x4B, 0x31] (some "pem"),
          secretTurn "hunter2" [0x4B, 0x31] none]
        = v.logs [secretTurn "pass\nwd" [0x0D, 0x0A] (some "pem"),
          secretTurn "pass\nwd" [0x0D, 0x0A] none] := by
  intro u v
  have hsame : u.Same v := ⟨rfl, rfl, rfl, rfl⟩
  exact ⟨hsame, logs_hide_contents u v hsame _ _
    (.cons (sameButContents_secretTurn _) (.cons (sameButContents_secretTurn _) .nil))⟩

end Uploader

end FormUpload
