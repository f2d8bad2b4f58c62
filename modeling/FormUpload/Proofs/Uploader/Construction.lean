import FormUpload.Proofs.Text.Trimming
import FormUpload.Proofs.Uploader.Submission

/-!
# Uploaders that can be made

An uploader is made from an endpoint alone, from a configuration, or from parts that are there
already.  A configuration has its endpoint read twice, with the transport made in between.  All
of them come to what the endpoint reads as (`EndpointReads`), and only the name that the
transport gives itself can make a difference (`constructors_agree`):

    readEndpoint_eq_iff   an endpoint is read in exactly one way
    EndpointReads.pad     blanks around it change at most what a failure quotes
    madeFrom              every constructor goes by that reading
-/

namespace FormUpload

open FormUpload.Text

/-! ## §1. What an endpoint reads as. -/

/-- **What a text reads as**, as an endpoint.  A failure quotes the text with the blanks around
it; the URL is what stands between them. -/
inductive EndpointReads (endpoint : String) : Except Failure Url → Prop where
  /-- There is nothing but blanks. -/
  | blank (h : AllBlank endpoint.toList) : EndpointReads endpoint (.error .emptyEndpoint)
  /-- What stands between the blanks is no URL. -/
  | noUrl {core : List Char} {fault : Url.Fault} (hcore : Trimmed endpoint.toList core)
      (hne : core ≠ []) (h : Url.parseChars core = .error fault) :
      EndpointReads endpoint (.error (.invalidEndpoint endpoint fault))
  /-- It is a URL. -/
  | url {core : List Char} {url : Url} (hcore : Trimmed endpoint.toList core) (hne : core ≠ [])
      (h : Url.parseChars core = .ok url) : EndpointReads endpoint (.ok url)

/-- What stands between the blanks is read as a URL. -/
theorem readEndpoint_of_trimmed {endpoint : String} {core : List Char}
    (hcore : Trimmed endpoint.toList core) (hne : core ≠ []) :
    readEndpoint endpoint = (Url.parseChars core).mapError (.invalidEndpoint endpoint) := by
  unfold readEndpoint
  rw [(trimBlank_eq_iff _ _).mpr hcore]
  cases core with
  | nil => exact absurd rfl hne
  | cons c core =>
      cases hparse : Url.parseChars (c :: core) with
      | ok url =>
          simp only [hparse]
          rfl
      | error fault =>
          simp only [hparse]
          rfl

/-- **An endpoint is read in exactly one way.** -/
theorem readEndpoint_eq_iff (endpoint : String) (reading : Except Failure Url) :
    readEndpoint endpoint = reading ↔ EndpointReads endpoint reading := by
  constructor
  · intro h
    subst h
    have hcore := trimmed_trimBlank endpoint.toList
    by_cases hne : trimBlank endpoint.toList = []
    · have hblank : readEndpoint endpoint = .error .emptyEndpoint := by
        unfold readEndpoint
        rw [hne]
      rw [hblank]
      exact .blank ((trimBlank_eq_nil_iff _).mp hne)
    · rw [readEndpoint_of_trimmed hcore hne]
      cases hparse : Url.parseChars (trimBlank endpoint.toList) with
      | ok url => exact .url hcore hne hparse
      | error fault => exact .noUrl hcore hne hparse
  · intro h
    cases h with
    | blank h =>
        unfold readEndpoint
        rw [(trimBlank_eq_nil_iff _).mpr h]
    | noUrl hcore hne h =>
        rw [readEndpoint_of_trimmed hcore hne, h]
        rfl
    | url hcore hne h =>
        rw [readEndpoint_of_trimmed hcore hne, h]
        rfl

/-- A failure as it is told of another text. -/
def Failure.quoting (endpoint : String) : Failure → Failure
  | .invalidEndpoint _ fault => .invalidEndpoint endpoint fault
  | f => f

/-- A text with more around it. -/
def padded (before after : List Char) (s : String) : String :=
  String.ofList (before ++ s.toList ++ after)

/-- **Blanks around an endpoint change at most what a failure quotes.** -/
theorem EndpointReads.pad {endpoint : String} {reading : Except Failure Url}
    (h : EndpointReads endpoint reading) {before after : List Char} (hbefore : AllBlank before)
    (hafter : AllBlank after) :
    EndpointReads (padded before after endpoint)
      (reading.mapError (Failure.quoting (padded before after endpoint))) := by
  have htext : (padded before after endpoint).toList = before ++ endpoint.toList ++ after :=
    String.toList_ofList
  cases h with
  | blank h =>
      refine .blank ?_
      rw [htext]
      intro c hc
      simp only [List.mem_append] at hc
      rcases hc with (hc | hc) | hc
      · exact hbefore c hc
      · exact h c hc
      · exact hafter c hc
  | noUrl hcore hne h => exact .noUrl (htext ▸ hcore.pad hbefore hafter) hne h
  | url hcore hne h => exact .url (htext ▸ hcore.pad hbefore hafter) hne h

/-! ## §2. Constructors. -/

/-- **All constructors go by one reading of the endpoint.**  Where it is a URL, what is made
has that URL and holds no response. -/
structure MadeFrom (endpoint : String) (reading : Except Failure Url) : Prop where
  /-- From the endpoint alone. -/
  alone : Uploader.ofEndpoint endpoint
    = reading.map fun url => ⟨⟨url, .log, .standard, none⟩, ⟨.standard, none⟩⟩
  /-- From a configuration whose transport has no name, or one that can be a header value. -/
  configured : ∀ (settings : Settings) (userAgent : Option String),
    userAgent.all isHeaderValue = true →
    Uploader.ofConfig ⟨endpoint, settings, userAgent⟩
      = reading.map fun url => ⟨⟨url, .log, .standard, none⟩, ⟨settings, userAgent⟩⟩
  /-- From parts. -/
  assembled : ∀ (transport : Transport) (notifier : Notifier) (formatter : Formatter),
    Uploader.create endpoint transport notifier formatter
      = reading.map fun url => ⟨⟨url, notifier, formatter, none⟩, transport⟩
  /-- From parts, whatever the transport is. -/
  lifecycle : ∀ (notifier : Notifier) (formatter : Formatter),
    Lifecycle.create endpoint notifier formatter
      = reading.map fun url => ⟨url, notifier, formatter, none⟩
  /-- From a configuration whose transport can not be made: the endpoint fails first. -/
  misnamed : ∀ (settings : Settings) (userAgent : Option String),
    userAgent.all isHeaderValue = false →
    Uploader.ofConfig ⟨endpoint, settings, userAgent⟩
      = reading.bind fun _ => .error (.request (.notBuilt none))

/-- **Every constructor goes by what the endpoint reads as.** -/
theorem madeFrom {endpoint : String} {reading : Except Failure Url}
    (h : EndpointReads endpoint reading) : MadeFrom endpoint reading := by
  have hread := (readEndpoint_eq_iff endpoint reading).mpr h
  have hconfigured : ∀ (settings : Settings) (userAgent : Option String),
      userAgent.all isHeaderValue = true →
      Uploader.ofConfig ⟨endpoint, settings, userAgent⟩
        = reading.map fun url => ⟨⟨url, .log, .standard, none⟩, ⟨settings, userAgent⟩⟩ := by
    intro settings userAgent hvalid
    rw [Uploader.ofConfig_eq]
    simp only [hread, hvalid, if_true]
    cases reading with
    | ok url => rfl
    | error f => rfl
  have hlifecycle : ∀ (notifier : Notifier) (formatter : Formatter),
      Lifecycle.create endpoint notifier formatter
        = reading.map fun url => ⟨url, notifier, formatter, none⟩ := by
    intro notifier formatter
    unfold Lifecycle.create
    rw [hread]
    cases reading with
    | ok url => rfl
    | error f => rfl
  refine ⟨hconfigured .standard none rfl, hconfigured, ?_, hlifecycle, ?_⟩
  · intro transport notifier formatter
    unfold Uploader.create
    rw [hlifecycle]
    cases reading with
    | ok url => rfl
    | error f => rfl
  · intro settings userAgent hinvalid
    rw [Uploader.ofConfig_eq]
    simp only [hread, hinvalid, Bool.false_eq_true, if_false]
    cases reading with
    | ok url => rfl
    | error f => rfl

/-- **All constructors agree on every endpoint.**  A text reads as an endpoint in exactly one
way, and every constructor goes by it: they succeed together, with the same URL and without a
response, or fail together with the same failure.  A name that can not be a header value makes
a configuration fail, after its endpoint.  With any blanks around the text it reads as the same
URL, or fails in the same way, quoting what was given. -/
theorem constructors_agree (endpoint : String) :
    ∃ reading, EndpointReads endpoint reading
      ∧ (∀ other, EndpointReads endpoint other → other = reading)
      ∧ MadeFrom endpoint reading
      ∧ ∀ before after : List Char, AllBlank before → AllBlank after →
        EndpointReads (padded before after endpoint)
            (reading.mapError (Failure.quoting (padded before after endpoint)))
          ∧ MadeFrom (padded before after endpoint)
            (reading.mapError (Failure.quoting (padded before after endpoint))) := by
  have hreading := (readEndpoint_eq_iff endpoint _).mp rfl
  refine ⟨readEndpoint endpoint, hreading, ?_, madeFrom hreading, ?_⟩
  · intro other hother
    exact ((readEndpoint_eq_iff endpoint other).mpr hother).symm
  · intro before after hbefore hafter
    have hpadded := hreading.pad hbefore hafter
    exact ⟨hpadded, madeFrom hpadded⟩

/-- Blanks of which the reader of URLs knows nothing. -/
def wideBlanks : List Char := ['\u2003', '\u0085', '\u3000']

/-- Between such blanks an endpoint on the same machine is read, and a text without a scheme is
not; there the name of the transport, which has a line break in it, is not even looked at. -/
theorem constructors_agree_in_blanks :
    (∃ u, Uploader.ofEndpoint (padded wideBlanks wideBlanks "http://localhost:12345/v0/files")
        = .ok u ∧ u.lifecycle.endpoint = filesEndpoint ∧ u.lifecycle.last = none)
      ∧ Uploader.ofConfig ⟨"http://localhost:12345/v0/files", .standard, some "a\nb"⟩
        = .error (.request (.notBuilt none))
      ∧ Uploader.ofConfig ⟨padded wideBlanks [] "v0/files", .standard, some "a\nb"⟩
        = .error (.invalidEndpoint (padded wideBlanks [] "v0/files") .noScheme)
      ∧ Lifecycle.create (padded wideBlanks [' '] "") .log .standard = .error .emptyEndpoint := by
  have hblank : AllBlank wideBlanks := by decide
  obtain ⟨reading, -, hfiles, hmade, hpad⟩ := constructors_agree "http://localhost:12345/v0/files"
  have hurl : Except.ok filesEndpoint = reading :=
    hfiles _ ((readEndpoint_eq_iff _ _).mp rfl)
  subst hurl
  obtain ⟨relative, -, hrelative, -, hpadRelative⟩ := constructors_agree "v0/files"
  have hnoUrl : Except.error (.invalidEndpoint "v0/files" .noScheme) = relative :=
    hrelative _ ((readEndpoint_eq_iff _ _).mp rfl)
  subst hnoUrl
  obtain ⟨empty, -, hempty, -, hpadEmpty⟩ := constructors_agree ""
  have hnothing : Except.error .emptyEndpoint = empty :=
    hempty _ (.blank (by decide))
  subst hnothing
  exact ⟨⟨_, (hpad wideBlanks wideBlanks hblank hblank).2.alone, rfl, rfl⟩,
    hmade.misnamed .standard (some "a\nb") (by decide),
    (hpadRelative wideBlanks [] hblank (by decide)).2.misnamed .standard (some "a\nb") (by decide),
    (hpadEmpty wideBlanks [' '] hblank (by decide)).2.lifecycle .log .standard⟩

end FormUpload
