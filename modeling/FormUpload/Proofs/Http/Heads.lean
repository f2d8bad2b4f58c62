import FormUpload.Proofs.Http.HeadText

/-!
# Heads that are read as they were written

`headOctets` writes a head: a version, a status, a reason phrase and header lines.  Whatever
follows, the head is read as it was written (`read_head`), with names in lower case and
without blanks at the ends of values.
-/

namespace FormUpload.Http

open FormUpload.Text

/-! ## §1. What is written. -/

/-- The first line of an answer. -/
def statusLine (isOld : Bool) (status : Nat) (phrase : Bytes) : Bytes :=
  versionOctets isOld ++ (Utf8.encode (decimal status) ++ 0x20 :: (phrase ++ [0x0D, 0x0A]))

/-- The octets of a head. -/
def headOctets (isOld : Bool) (status : Nat) (phrase : Bytes) (headers : List (Bytes × Bytes)) :
    Bytes :=
  statusLine isOld status phrase
    ++ (headers.flatMap (fun h => headerLine h.1 h.2) ++ [0x0D, 0x0A])

/-- A header line as it is read. -/
def readLine (h : Bytes × Bytes) : String × Bytes :=
  (stringLossy (h.1.map lowerByte), h.2.rdropWhile isLineBlank)

/-! ## §2. Lines. -/

theorem length_encode_digits (cs : List Char) (hcs : ∀ c ∈ cs, isDigitChar c = true) :
    (Utf8.encode cs).length = cs.length := by
  induction cs with
  | nil => rfl
  | cons c cs ih =>
      obtain ⟨hc, hcs⟩ := List.forall_mem_cons.mp hcs
      obtain ⟨b, hb, -⟩ := encodeChar_digit c hc
      rw [Utf8.encode_cons, hb, List.singleton_append, List.length_cons, List.length_cons, ih hcs]

/-- A status has three digits. -/
theorem length_status (status : Nat) (hlow : 100 ≤ status) (hhigh : status < 1000) :
    (Utf8.encode (decimal status)).length = 3 := by
  have hle := length_decimal_le status 3 (by decide) (by omega)
  have hge : ¬ (decimal status).length ≤ 2 := by
    rw [show (decimal status).length ≤ 2 ↔ status < 10 ^ 2 from
      Nat.length_toDigits_le_iff (by decide) (by decide)]
    omega
  rw [length_encode_digits _ (isDigitChar_of_mem status)]
  omega

/-- The first line of an answer, as it may be sent. -/
def StatusLine.ofStatus (isOld : Bool) (status : Nat) (phrase : Bytes) (hlow : 100 ≤ status)
    (hhigh : status < 1000) (hphrase : ∀ b ∈ phrase, isTextOctet b = true) : StatusLine :=
  ⟨isOld, Utf8.encode (decimal status), some phrase, .returnFeed,
    length_status status hlow hhigh,
    isDigit_of_mem_encode (decimal status) (isDigitChar_of_mem status),
    fun _ hp => Option.mem_some.mp hp ▸ hphrase⟩

/-- **A status is read as the number it is.** -/
theorem StatusLine.status_ofStatus (isOld : Bool) (status : Nat) (phrase : Bytes)
    (hlow : 100 ≤ status) (hhigh : status < 1000)
    (hphrase : ∀ b ∈ phrase, isTextOctet b = true) :
    (ofStatus isOld status phrase hlow hhigh hphrase).status = status := by
  show (Utf8.encode (decimal status)).foldl (fun n b => n * 10 + digitValue b) 0 = status
  rw [foldl_encode (decimal status) (isDigitChar_of_mem status), ofDigitChars_decimal]

/-- Header lines that are written may be sent. -/
theorem exists_lines (headers : List (Bytes × Bytes))
    (hheaders : ∀ h ∈ headers, IsName h.1 ∧ IsValue h.2) :
    ∃ ls : List HeaderLine, ls.length = headers.length
      ∧ ls.map HeaderLine.kept = headers.map readLine
      ∧ ls.flatMap HeaderLine.octets = headers.flatMap fun h => headerLine h.1 h.2 := by
  induction headers with
  | nil => exact ⟨[], rfl, rfl, rfl⟩
  | cons h headers ih =>
      obtain ⟨⟨hname, hvalue⟩, hheaders⟩ := List.forall_mem_cons.mp hheaders
      obtain ⟨ls, hlength, hkept, hoctets⟩ := ih hheaders
      refine ⟨.written h.1 h.2 hname hvalue :: ls, congrArg (· + 1) hlength, ?_, ?_⟩
      · rw [List.map_cons, List.map_cons, hkept, HeaderLine.kept_written]
        rfl
      · rw [List.flatMap_cons, List.flatMap_cons, hoctets]
        rfl

/-! ## §3. Heads. -/

/-- **A head is read as it was written**, whatever follows it. -/
theorem read_head (isOld : Bool) (status : Nat) (hlow : 200 ≤ status) (hhigh : status < 1000)
    (phrase : Bytes) (hphrase : ∀ b ∈ phrase, isTextOctet b = true)
    (headers : List (Bytes × Bytes)) (hheaders : ∀ h ∈ headers, IsName h.1 ∧ IsValue h.2)
    (hroom : headers.length ≤ headerLimit) (sent : Bytes) :
    Head.read (headOctets isOld status phrase headers ++ sent)
      = .done ⟨isOld, status, headers.map readLine⟩ sent := by
  obtain ⟨lines, hlength, hkept, hoctets⟩ := exists_lines headers hheaders
  have hstatus := StatusLine.status_ofStatus isOld status phrase (by omega) hhigh hphrase
  let head : HeadText := ⟨[], .ofStatus isOld status phrase (by omega) hhigh hphrase, lines,
    .returnFeed, by omega, by omega⟩
  have hhead : head.head = ⟨isOld, status, headers.map readLine⟩ := by
    rw [← hstatus, ← hkept]
    rfl
  have hwritten : headOctets isOld status phrase headers = head.octets := by
    unfold headOctets
    rw [← hoctets]
    rfl
  -- no more heads follow one that is not provisional
  have hfinal : head.head.isProvisional = false := by
    rw [hhead]
    unfold Head.isProvisional
    simp only [decide_eq_false (Nat.not_lt.mpr hlow), Bool.false_and]
  refine (read_eq_done_iff _ sent _).mpr ⟨⟨[], head, List.forall_mem_nil _, hfinal⟩, hhead, ?_⟩
  rw [hwritten]
  rfl

/-- A head with one header line. -/
theorem read_head_one (isOld : Bool) (status : Nat) (hlow : 200 ≤ status) (hhigh : status < 1000)
    (phrase : Bytes) (hphrase : ∀ b ∈ phrase, isTextOctet b = true) (name value : Bytes)
    (hname : IsName name) (hvalue : IsValue value) (sent : Bytes) :
    Head.read (headOctets isOld status phrase [(name, value)] ++ sent)
      = .done ⟨isOld, status, [readLine (name, value)]⟩ sent := by
  refine read_head isOld status hlow hhigh phrase hphrase [(name, value)] ?_
    (by decide : 1 ≤ headerLimit) sent
  intro h hh
  rw [List.mem_singleton.mp hh]
  exact ⟨hname, hvalue⟩

end FormUpload.Http
