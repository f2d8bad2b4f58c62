import FormUpload.Proofs.Http.HeaderLines
import FormUpload.Proofs.Http.Redirects

/-!
# Whole answers

An answer with status 200 that announces its type and its length is received whole
(`receive_answer`), leads nowhere else, and is the final answer (`follow_answer`).
-/

namespace FormUpload.Http

open FormUpload.Text

/-! ## §1. What is sent. -/

/-- The first line of the answer to a request that was fulfilled. -/
def okLine : Bytes := bytesOf "HTTP/1.1 200 OK\r\n"

/-- Such an answer with a type and a body. -/
def answerOctets (type body : Bytes) : Bytes :=
  okLine ++ (headerLine (bytesOf "content-type") type
    ++ (headerLine (bytesOf "content-length") (Utf8.encode (decimal body.length))
      ++ 0x0D :: 0x0A :: body))

/-- What is read before the body. -/
def answerHead (type body : Bytes) : Head :=
  ⟨false, 200, [("content-type", type), ("content-length", Utf8.encode (decimal body.length))]⟩

/-! ## §2. The head. -/

theorem okLine_eq : okLine = [0x48, 0x54, 0x54, 0x50, 0x2F, 0x31, 0x2E, 0x31, 0x20, 0x32, 0x30,
    0x30, 0x20, 0x4F, 0x4B, 0x0D, 0x0A] := by
  decide

theorem scan_okLine (s : Bytes) : Head.scan (okLine ++ s)
    = (headerLines headerLimit s).andThen fun headers s => .done ⟨false, 200, headers⟩ s := by
  rw [okLine_eq]
  rfl

/-- **The head is read as it was written.** -/
theorem read_answer (type body : Bytes) (htype : IsValue type)
    (hkept : type.rdropWhile isLineBlank = type) :
    Head.read (answerOctets type body) = .done (answerHead type body) body := by
  have htname : IsName (bytesOf "content-type") := isName_of_all _ (by decide) (by decide)
  have hlname : IsName (bytesOf "content-length") := isName_of_all _ (by decide) (by decide)
  have htlower : stringLossy ((bytesOf "content-type").map lowerByte) = "content-type" := by decide
  have hllower : stringLossy ((bytesOf "content-length").map lowerByte) = "content-length" := by
    decide
  obtain ⟨hlength, hdigits⟩ := isValue_decimal body.length
  have hscan : Head.scan (answerOctets type body) = .done (answerHead type body) body := by
    unfold answerOctets
    rw [scan_okLine, headerLimit, headerLines_cons _ _ _ _ htname htype,
      headerLines_cons _ _ _ _ hlname hlength, headerLines_end, htlower, hllower, hkept, hdigits]
    rfl
  unfold Head.read
  rw [Head.scanFinal, hscan]
  rfl

/-- The announced length tells where the body ends. -/
theorem framing_answer (type body : Bytes) (hbody : body.length < lengthLimit) :
    Framing.of? (answerHead type body) = some (.sized body.length) := by
  have hsize : body.length < sizeLimit := hbody.trans (by decide)
  have hagreed := agreedLength?_decimal body.length hsize
  rw [List.flatMap_singleton] at hagreed
  -- no coding is named and one length is announced
  have hcodings : Headers.all (answerHead type body).headers "transfer-encoding" = [] := by
    unfold answerHead Headers.all
    simp
  have hlengths : Headers.all (answerHead type body).headers "content-length"
      = [Utf8.encode (decimal body.length)] := by
    unfold answerHead Headers.all
    simp
  unfold Framing.of?
  rw [hcodings, hlengths]
  simp [answerHead, hagreed, hbody]

/-! ## §3. The answer. -/

/-- **The answer is received**, whatever the time limit is. -/
theorem receive_answer (limit : Option Nat) (hlimit : limit ≠ some 0) (type body : Bytes)
    (htype : IsValue type) (hkept : type.rdropWhile isLineBlank = type)
    (hbody : body.length < lengthLimit) :
    receive limit (.received 0 (answerOctets type body) false)
      = .answer (answerHead type body) (.sized body.length) body false := by
  unfold receive
  simp only [not_late_at_once limit hlimit, read_answer type body htype hkept, framing_answer type body hbody]
  rfl

/-- **The body is read to its end.** -/
theorem finish_answer (limit : Option Nat) (type body : Bytes) :
    finish limit (answerHead type body) (.sized body.length) body false
      = some (.ok ⟨200, [("content-type", stringLossy type),
          ("content-length", String.ofList (decimal body.length))], body⟩) := by
  have hread : (Framing.sized body.length).read true body = .done body [] := by
    show (if body.length ≤ body.length then Scan.done (body.take body.length)
      (body.drop body.length) else .unfinished) = _
    rw [if_pos (Nat.le_refl _), List.take_length, List.drop_length]
  have hdigits : stringLossy (Utf8.encode (decimal body.length))
      = String.ofList (decimal body.length) := by
    unfold stringLossy
    rw [Utf8.lossy_encode]
  have hfinal : finalAnswer? (answerHead type body) body
      = some ⟨200, [("content-type", stringLossy type),
          ("content-length", String.ofList (decimal body.length))], body⟩ := by
    unfold finalAnswer? answerHead isPacked Headers.all Headers.grouped
    simp [groupedFrom, hdigits]
  unfold finish
  rw [Bool.not_false, hread]
  simp only [hfinal]

/-- **A request that is answered so leads nowhere else.** -/
theorem follow_answer (client : Client) (network : Network) (endpoint : String)
    (redirects place : Nat) (hop : Hop) (type body : Bytes)
    (hlimit : client.limit ≠ some 0) (htype : IsValue type)
    (hkept : type.rdropWhile isLineBlank = type) (hbody : body.length < lengthLimit)
    (hnetwork : network place (hop.request client.userAgent)
      = .received 0 (answerOctets type body) false) :
    (follow client network endpoint redirects place hop).result
      = some (.ok ⟨200, [("content-type", stringLossy type),
          ("content-length", String.ofList (decimal body.length))], body⟩) := by
  have hreceive := receive_answer client.limit hlimit type body htype hkept hbody
  -- 200 is no redirect
  have hstay : hop.next? (answerHead type body) = .stay := rfl
  rw [follow.eq_def]
  simp only [hnetwork, hreceive, hstay, finish_answer]

/-! ## §4. No answer. -/

/-- **A client that does not wait hears nothing**, whatever is sent to it. -/
theorem follow_at_once (userAgent : Option String) (network : Network) (endpoint : String)
    (redirects place : Nat) (hop : Hop) (delay : Nat) (octets : Bytes) (silent : Bool)
    (hnetwork : network place (hop.request userAgent) = .received delay octets silent) :
    (follow ⟨userAgent, some 0⟩ network endpoint redirects place hop).result
      = some (.error (.notSent endpoint true)) := by
  have hlate : (some 0 : Option Nat).any (· ≤ delay) = true := decide_eq_true (Nat.zero_le delay)
  have hreceive : receive (some 0) (.received delay octets silent) = .silent := by
    unfold receive
    exact if_pos hlate
  rw [follow.eq_def]
  simp only [hnetwork, hreceive]
  rfl

end FormUpload.Http
