import FormUpload.Proofs.Http.HeaderLines

/-!
# What a head says, octet by octet

A `HeadText` is a head as it may be sent: a status line and header lines, with empty lines
before, and with either line end after each line.  `AnswerHeads` are the heads of an answer,
one or more that tell of progress and a final one.  The reader accepts these and nothing else:

    restOfLine_eq_done_iff    text up to the end of its line
    reason_eq_done_iff        a reason phrase, or none
    headerLines_eq_done_iff   header lines up to an empty line, not too many
    scan_octets               a head is read as it was sent
    exists_headText           and nothing else is read as a head
    read_eq_done_iff          the heads of an answer

So what is read of a final head is what is kept of its lines (`HeaderLine.kept`), in the order
in which they were sent.
-/

namespace FormUpload.Http

open FormUpload.Text

/-! ## §1. What is sent. -/

/-- A version and a blank. -/
def versionOctets (isOld : Bool) : Bytes :=
  [0x48, 0x54, 0x54, 0x50, 0x2F, 0x31, 0x2E, if isOld then 0x30 else 0x31, 0x20]

/-- A reason phrase with the blank before it, or nothing. -/
def phraseOctets : Option Bytes → Bytes
  | none => []
  | some phrase => 0x20 :: phrase

/-- The first line of a head: a version, a status of three digits, and a reason phrase, which
may be missing. -/
structure StatusLine where
  isOld : Bool
  digits : Bytes
  phrase : Option Bytes
  ending : LineEnd
  three : digits.length = 3
  isDigits : ∀ b ∈ digits, isDigit b = true
  isText : ∀ p ∈ phrase, ∀ b ∈ p, isTextOctet b = true

/-- The status that the digits spell. -/
def StatusLine.status (l : StatusLine) : Nat :=
  l.digits.foldl (fun n b => n * 10 + digitValue b) 0

/-- The octets of a status line. -/
def StatusLine.octets (l : StatusLine) : Bytes :=
  versionOctets l.isOld ++ (l.digits ++ (phraseOctets l.phrase ++ l.ending.octets))

/-- A head as it is sent. -/
structure HeadText where
  before : List LineEnd
  start : StatusLine
  lines : List HeaderLine
  ending : LineEnd
  real : 100 ≤ start.status
  few : lines.length ≤ headerLimit

namespace HeadText

/-- The octets of a head. -/
def octets (t : HeadText) : Bytes :=
  t.before.flatMap LineEnd.octets
    ++ (t.start.octets ++ (t.lines.flatMap HeaderLine.octets ++ t.ending.octets))

/-- What is read of a head. -/
def head (t : HeadText) : Head :=
  ⟨t.start.isOld, t.start.status, t.lines.map HeaderLine.kept⟩

end HeadText

/-- The heads of an answer: some tell of progress, the last one is final. -/
structure AnswerHeads where
  progress : List HeadText
  final : HeadText
  isProgress : ∀ t ∈ progress, t.head.isProvisional = true
  isFinal : final.head.isProvisional = false

/-- The octets of the heads of an answer. -/
def AnswerHeads.octets (a : AnswerHeads) : Bytes :=
  a.progress.flatMap HeadText.octets ++ a.final.octets

/-! ## §2. Texts and line ends. -/

/-- **What a reader goes on with comes after what it has read.** -/
theorem Scan.andThen_eq_done {α β : Type} (x : Scan α) (f : α → Bytes → Scan β) (b : β)
    (rest : Bytes) :
    x.andThen f = .done b rest ↔ ∃ a s, x = .done a s ∧ f a s = .done b rest := by
  cases x with
  | done a s =>
      constructor
      · intro h
        exact ⟨a, s, rfl, h⟩
      · rintro ⟨a', s', h, hf⟩
        cases h
        exact hf
  | unfinished => simp [Scan.andThen]
  | broken => simp [Scan.andThen]

/-- Text is passed over up to its line end. -/
theorem restOfLine_append (text : Bytes) (htext : ∀ b ∈ text, isTextOctet b = true)
    (e : LineEnd) (s : Bytes) : restOfLine (text ++ (e.octets ++ s)) = .done () s := by
  induction text with
  | nil => cases e <;> rfl
  | cons b text ih =>
      obtain ⟨hb, htext⟩ := List.forall_mem_cons.mp htext
      obtain ⟨hfeed, hreturn⟩ := not_lineEnd_of_isTextOctet b hb
      rw [List.cons_append, restOfLine.eq_5 _ _ hfeed (fun _ h _ => hreturn h)
        (fun h _ => hreturn h), if_pos hb]
      exact ih htext

/-- **The rest of a line is text and a line end.** -/
theorem restOfLine_eq_done_iff (s rest : Bytes) :
    restOfLine s = .done () rest ↔ ∃ (text : Bytes) (e : LineEnd),
      (∀ b ∈ text, isTextOctet b = true) ∧ s = text ++ (e.octets ++ rest) := by
  constructor
  · intro h
    -- the line ends have cases of their own: what is left is one octet of text, or none
    fun_induction restOfLine s with
    | case1 => cases h
    | case2 s =>
        cases h
        exact ⟨[], .feed, List.forall_mem_nil _, rfl⟩
    | case3 s =>
        cases h
        exact ⟨[], .returnFeed, List.forall_mem_nil _, rfl⟩
    | case4 => cases h
    | case5 b s hb hfeed hreturn hlone ih =>
        obtain ⟨text, e, htext, rfl⟩ := ih h
        exact ⟨b :: text, e, List.forall_mem_cons.mpr ⟨hlone, htext⟩, rfl⟩
    | case6 => cases h
  · rintro ⟨text, e, htext, rfl⟩
    exact restOfLine_append text htext e rest

/-- **A reason phrase is text after a blank, or missing.** -/
theorem reason_eq_done_iff (s rest : Bytes) :
    reason s = .done () rest ↔ ∃ (phrase : Option Bytes) (e : LineEnd),
      (∀ p ∈ phrase, ∀ b ∈ p, isTextOctet b = true)
        ∧ s = phraseOctets phrase ++ (e.octets ++ rest) := by
  constructor
  · intro h
    unfold reason at h
    split at h
    · cases h
    · next b r =>
      split at h
      · next hblank =>
        obtain ⟨text, e, htext, rfl⟩ := (restOfLine_eq_done_iff r rest).mp h
        subst hblank
        exact ⟨some text, e, fun p hp => Option.mem_some.mp hp ▸ htext, rfl⟩
      · split at h
        · next hend =>
          obtain ⟨text, e, htext, hs⟩ := (restOfLine_eq_done_iff _ rest).mp h
          cases text with
          | nil => exact ⟨none, e, fun p hp => absurd hp (Option.not_mem_none p), hs⟩
          | cons c text =>
              -- a line end is no text, so the line has ended
              obtain ⟨hfeed, hreturn⟩ :=
                not_lineEnd_of_isTextOctet c (htext c List.mem_cons_self)
              cases hs
              rw [decide_eq_false hfeed, decide_eq_false hreturn] at hend
              cases hend
        · cases h
  · rintro ⟨phrase, e, hphrase, rfl⟩
    cases phrase with
    | none => cases e <;> rfl
    | some text => exact restOfLine_append text (hphrase text rfl) e rest

/-! ## §3. Status lines. -/

/-- **Given octets are read as they are.** -/
theorem expect_eq_done_iff (w s rest : Bytes) : expect w s = .done () rest ↔ s = w ++ rest := by
  induction w generalizing s with
  | nil =>
      constructor
      · intro h
        cases h
        rfl
      · intro h
        rw [h]
        rfl
  | cons a w ih =>
      cases s with
      | nil => simp [expect]
      | cons b s =>
          rw [expect, List.cons_append, List.cons.injEq, ← ih]
          by_cases hb : b = a
          · rw [if_pos hb, and_iff_right hb]
          · simp [hb]

/-- **A version is one of two.** -/
theorem version_eq_done_iff (s rest : Bytes) (isOld : Bool) :
    version s = .done isOld (0x20 :: rest) ↔ s = versionOctets isOld ++ rest := by
  have hname : ∀ r, bytesOf "HTTP/1." ++ r = 0x48 :: 0x54 :: 0x54 :: 0x50 :: 0x2F :: 0x31 :: 0x2E
      :: r := by
    intro r
    rfl
  unfold version
  rw [Scan.andThen_eq_done]
  constructor
  · rintro ⟨u, r, hr, h⟩
    rw [expect_eq_done_iff, hname] at hr
    subst hr
    split at h
    · cases h
    · split at h
      · next hb =>
        cases h
        rw [hb]
        rfl
      · split at h
        · next hb =>
          cases h
          rw [hb]
          rfl
        · cases h
  · rintro rfl
    refine ⟨(), (if isOld then 0x30 else 0x31) :: 0x20 :: rest, ?_, ?_⟩
    · rw [expect_eq_done_iff, hname]
      rfl
    · cases isOld <;> rfl

/-- **A number of so many places is so many digits.** -/
theorem digits_eq_done_iff (places n m : Nat) (s rest : Bytes) :
    digits places n s = .done m rest ↔ ∃ v : Bytes, v.length = places
      ∧ (∀ b ∈ v, isDigit b = true) ∧ v.foldl (fun n b => n * 10 + digitValue b) n = m
      ∧ s = v ++ rest := by
  -- the number read so far is carried along, so the sum is over the digits that are left
  induction places generalizing n s with
  | zero =>
      rw [digits]
      constructor
      · intro h
        cases h
        exact ⟨[], rfl, List.forall_mem_nil _, rfl, rfl⟩
      · rintro ⟨v, hv, -, hm, rfl⟩
        rw [List.length_eq_zero_iff.mp hv] at hm ⊢
        rw [← hm]
        rfl
  | succ places ih =>
      constructor
      · intro h
        cases s with
        | nil => cases h
        | cons b s =>
            rw [digits] at h
            split at h
            · next hb =>
              obtain ⟨v, hv, hdigits, hm, rfl⟩ := (ih _ s).mp h
              exact ⟨b :: v, congrArg (· + 1) hv, List.forall_mem_cons.mpr ⟨hb, hdigits⟩, hm, rfl⟩
            · cases h
      · rintro ⟨v, hv, hdigits, hm, rfl⟩
        obtain ⟨b, v, rfl⟩ := List.exists_cons_of_length_eq_add_one hv
        obtain ⟨hb, hdigits⟩ := List.forall_mem_cons.mp hdigits
        rw [List.cons_append, digits, if_pos hb]
        exact (ih _ _).mpr ⟨v, Nat.succ.inj hv, hdigits, hm, rfl⟩

/-! ## §4. Header lines. -/

theorem isTextOctet_of_isLineBlank (b : UInt8) (h : isLineBlank b = true) :
    isTextOctet b = true := by
  unfold isLineBlank at h
  rw [Bool.or_eq_true, beq_iff_eq, beq_iff_eq] at h
  rcases h with rfl | rfl <;> decide

/-- **A name ends with its colon.** -/
theorem headerName_eq_done (read s name rest : Bytes) (h : headerName read s = .done name rest) :
    ∃ n : Bytes, (∀ b ∈ n, isNameOctet b = true) ∧ (n = [] → read ≠ [])
      ∧ name = read.reverse ++ n.map lowerByte ∧ s = n ++ 0x3A :: rest := by
  induction s generalizing read with
  | nil => cases h
  | cons b s ih =>
      rw [headerName] at h
      split at h
      · next hb =>
        obtain ⟨n, hn, -, hname, rfl⟩ := ih _ h
        refine ⟨b :: n, List.forall_mem_cons.mpr ⟨hb, hn⟩,
          fun hnil => absurd hnil (List.cons_ne_nil b n), ?_, rfl⟩
        rw [hname, List.reverse_cons, List.append_assoc]
        rfl
      · split at h
        · next hcolon =>
          rw [Bool.and_eq_true, decide_eq_true_eq, Bool.not_eq_true', List.isEmpty_eq_false_iff]
            at hcolon
          cases h
          refine ⟨[], List.forall_mem_nil _, fun _ => hcolon.2, by simp, ?_⟩
          rw [hcolon.1]
          rfl
        · cases h

/-- **A value is text up to the end of its line**, without blanks at its end. -/
theorem headerValue_eq_done (read s value rest : Bytes)
    (h : headerValue read s = .done value rest) :
    ∃ (text : Bytes) (e : LineEnd), (∀ b ∈ text, isTextOctet b = true)
      ∧ value = (read.reverse ++ text).rdropWhile isLineBlank
      ∧ s = text ++ (e.octets ++ rest) := by
  have hread : ∀ r : Bytes,
      (r.dropWhile isLineBlank).reverse = (r.reverse ++ []).rdropWhile isLineBlank := by
    intro r
    rw [List.append_nil, List.rdropWhile, List.reverse_reverse]
  fun_induction headerValue read s with
  | case1 => cases h
  | case2 read s =>
      cases h
      exact ⟨[], .feed, List.forall_mem_nil _, hread read, rfl⟩
  | case3 read s =>
      cases h
      exact ⟨[], .returnFeed, List.forall_mem_nil _, hread read, rfl⟩
  | case4 => cases h
  | case5 read b s hfeed hreturn hlone hb ih =>
      obtain ⟨text, e, htext, hvalue, rfl⟩ := ih h
      refine ⟨b :: text, e, List.forall_mem_cons.mpr ⟨hb, htext⟩, ?_, rfl⟩
      rw [hvalue, List.reverse_cons, List.append_assoc]
      rfl
  | case6 => cases h

/-- **A header line is a name, a colon and a value**, and what is kept of it is read. -/
theorem exists_headerLine (s name value rest between : Bytes)
    (hname : headerName [] s = .done name between)
    (hvalue : headerValue [] (between.dropWhile isLineBlank) = .done value rest) :
    ∃ l : HeaderLine, l.kept = (stringLossy name, value) ∧ s = l.octets ++ rest := by
  obtain ⟨n, hn, hne, rfl, rfl⟩ := headerName_eq_done [] s name between hname
  obtain ⟨text, e, htext, rfl, hbetween⟩ := headerValue_eq_done [] _ value rest hvalue
  -- the blanks that the reader has passed over belong to the line
  have hsplit : between = (between.takeWhile isLineBlank ++ text) ++ (e.octets ++ rest) := by
    rw [List.append_assoc, ← hbetween, List.takeWhile_append_dropWhile]
  have hblank : ∀ b ∈ between.takeWhile isLineBlank, isLineBlank b = true :=
    fun b hb => List.mem_takeWhile_imp hb
  have hstops : Stops isLineBlank text := by
    intro b hb
    apply stops_dropWhile isLineBlank between
    rw [hbetween, List.head?_append, hb, Option.some_or]
  have htrim : trimLine (between.takeWhile isLineBlank ++ text) = text.rdropWhile isLineBlank := by
    unfold trimLine
    rw [dropWhile_run isLineBlank _ text hblank hstops]
    rfl
  refine ⟨⟨n, between.takeWhile isLineBlank ++ text, e, ⟨fun h => hne h rfl, hn⟩, ?_⟩, ?_, ?_⟩
  · intro b hb
    rcases List.mem_append.mp hb with hb | hb
    · exact isTextOctet_of_isLineBlank b (hblank b hb)
    · exact htext b hb
  · show (stringLossy (n.map lowerByte), trimLine (between.takeWhile isLineBlank ++ text)) = _
    rw [htrim]
    rfl
  · show n ++ 0x3A :: between
      = (n ++ 0x3A :: (between.takeWhile isLineBlank ++ text ++ e.octets)) ++ rest
    rw [List.append_assoc, List.cons_append, List.append_assoc _ e.octets, ← hsplit]

/-- **Header lines are read up to an empty line**, and there are not too many of them. -/
theorem headerLines_eq_done_iff (room : Nat) (s rest : Bytes) (hs : List (String × Bytes)) :
    headerLines room s = .done hs rest ↔ ∃ (ls : List HeaderLine) (e : LineEnd),
      ls.length ≤ room ∧ ls.map HeaderLine.kept = hs
        ∧ s = ls.flatMap HeaderLine.octets ++ (e.octets ++ rest) := by
  constructor
  · intro h
    fun_induction headerLines room s generalizing hs with
    | case1 => cases h
    | case2 room s =>
        cases h
        exact ⟨[], .feed, Nat.zero_le room, rfl, rfl⟩
    | case3 room s =>
        cases h
        exact ⟨[], .returnFeed, Nat.zero_le room, rfl, rfl⟩
    | case4 => cases h
    | case5 => cases h
    | case6 room s _ _ _ _ ih =>
        -- the line is not empty, so it has to be a header line
        obtain ⟨name, between, hname, h⟩ := (Scan.andThen_eq_done _ _ _ _).mp h
        obtain ⟨value, after, hvalue, h⟩ := (Scan.andThen_eq_done _ _ _ _).mp h
        obtain ⟨more, last, hmore, h⟩ := (Scan.andThen_eq_done _ _ _ _).mp h
        cases h
        obtain ⟨l, hl, rfl⟩ := exists_headerLine s name value after between hname hvalue
        obtain ⟨ls, e, hroom, rfl, rfl⟩ := ih after more hmore
        refine ⟨l :: ls, e, Nat.succ_le_succ hroom, ?_, ?_⟩
        · rw [List.map_cons, hl]
        · rw [List.flatMap_cons, List.append_assoc]
  · rintro ⟨ls, e, hroom, rfl, rfl⟩
    induction ls generalizing room with
    | nil => cases e <;> cases room <;> rfl
    | cons l ls ih =>
        obtain ⟨more, rfl⟩ : ∃ more, room = more + 1 :=
          Nat.exists_eq_add_of_le' (Nat.le_of_add_left_le hroom)
        rw [List.flatMap_cons, List.append_assoc, headerLines_octets,
          ih more (Nat.le_of_succ_le_succ hroom)]
        rfl

/-! ## §5. Heads. -/

/-- **Empty lines before a head are passed over.** -/
theorem skipEmptyLines_append (ends : List LineEnd) (s : Bytes) :
    skipEmptyLines (ends.flatMap LineEnd.octets ++ s) = skipEmptyLines s := by
  induction ends with
  | nil => rfl
  | cons e ends ih =>
      rw [List.flatMap_cons, List.append_assoc, ← ih]
      cases e <;> rfl

theorem skipEmptyLines_eq_done (s rest : Bytes) (h : skipEmptyLines s = .done () rest) :
    ∃ ends : List LineEnd, s = ends.flatMap LineEnd.octets ++ rest := by
  fun_induction skipEmptyLines s with
  | case1 => cases h
  | case2 s ih =>
      obtain ⟨ends, rfl⟩ := ih h
      exact ⟨.feed :: ends, rfl⟩
  | case3 s ih =>
      obtain ⟨ends, rfl⟩ := ih h
      exact ⟨.returnFeed :: ends, rfl⟩
  | case4 => cases h
  | case5 => cases h
  | case6 b s =>
      cases h
      exact ⟨[], rfl⟩

/-- **A head is read as it was sent.** -/
theorem scan_octets (t : HeadText) (s : Bytes) : Head.scan (t.octets ++ s) = .done t.head s := by
  have hline : skipEmptyLines (t.octets ++ s) = .done ()
      (versionOctets t.start.isOld ++ (t.start.digits ++ (phraseOctets t.start.phrase
        ++ (t.start.ending.octets ++ (t.lines.flatMap HeaderLine.octets
          ++ (t.ending.octets ++ s)))))) := by
    unfold HeadText.octets StatusLine.octets
    simp only [List.append_assoc, skipEmptyLines_append]
    rfl
  have hversion : ∀ rest, version (versionOctets t.start.isOld ++ rest)
      = .done t.start.isOld (0x20 :: rest) :=
    fun rest => (version_eq_done_iff _ rest _).mpr rfl
  have hdigits : ∀ rest, digits 3 0 (t.start.digits ++ rest) = .done t.start.status rest :=
    fun rest => (digits_eq_done_iff 3 0 _ _ rest).mpr
      ⟨t.start.digits, t.start.three, t.start.isDigits, rfl, rfl⟩
  have hreason : ∀ rest, reason (phraseOctets t.start.phrase ++ (t.start.ending.octets ++ rest))
      = .done () rest :=
    fun rest => (reason_eq_done_iff _ rest).mpr ⟨_, _, t.start.isText, rfl⟩
  have hlines := (headerLines_eq_done_iff headerLimit _ s _).mpr
    ⟨t.lines, t.ending, t.few, rfl, rfl⟩
  -- every reader stops where the next one begins
  unfold Head.scan
  rw [hline]
  simp only [Scan.andThen, hversion, expect, if_true, hdigits, hreason, hlines,
    Nat.not_lt.mpr t.real, if_false]
  rfl

/-- **Nothing else is read as a head.** -/
theorem exists_headText (s rest : Bytes) (head : Head) (h : Head.scan s = .done head rest) :
    ∃ t : HeadText, t.head = head ∧ s = t.octets ++ rest := by
  unfold Head.scan at h
  obtain ⟨_, r₁, hbefore, h⟩ := (Scan.andThen_eq_done _ _ _ _).mp h
  obtain ⟨isOld, r₂, hversion, h⟩ := (Scan.andThen_eq_done _ _ _ _).mp h
  obtain ⟨_, r₃, hblank, h⟩ := (Scan.andThen_eq_done _ _ _ _).mp h
  obtain ⟨status, r₄, hstatus, h⟩ := (Scan.andThen_eq_done _ _ _ _).mp h
  obtain ⟨_, r₅, hreason, h⟩ := (Scan.andThen_eq_done _ _ _ _).mp h
  obtain ⟨headers, r₆, hlines, h⟩ := (Scan.andThen_eq_done _ _ _ _).mp h
  split at h
  · cases h
  · next hreal =>
    cases h
    obtain ⟨before, rfl⟩ := skipEmptyLines_eq_done s r₁ hbefore
    rw [(expect_eq_done_iff [0x20] r₂ r₃).mp hblank] at hversion
    obtain rfl := (version_eq_done_iff r₁ r₃ isOld).mp hversion
    obtain ⟨v, hthree, hdigits, rfl, rfl⟩ := (digits_eq_done_iff 3 0 status r₃ r₄).mp hstatus
    obtain ⟨phrase, e, hphrase, rfl⟩ := (reason_eq_done_iff r₄ r₅).mp hreason
    obtain ⟨lines, ending, hfew, rfl, rfl⟩ := (headerLines_eq_done_iff _ r₅ rest headers).mp hlines
    refine ⟨⟨before, ⟨isOld, v, phrase, e, hthree, hdigits, hphrase⟩, lines, ending,
      Nat.not_lt.mp hreal, hfew⟩, rfl, ?_⟩
    unfold HeadText.octets StatusLine.octets
    simp only [List.append_assoc]

/-! ## §6. The heads of an answer. -/

/-- Every head takes some octets. -/
theorem length_progress_le (progress : List HeadText) :
    progress.length ≤ (progress.flatMap HeadText.octets).length := by
  induction progress with
  | nil => exact Nat.le_refl 0
  | cons t progress ih =>
      have ht : 1 ≤ t.octets.length := by
        unfold HeadText.octets StatusLine.octets versionOctets
        simp only [List.length_append, List.length_cons]
        omega
      rw [List.flatMap_cons, List.length_append, List.length_cons]
      omega

theorem scanFinal_octets (progress : List HeadText)
    (hprogress : ∀ t ∈ progress, t.head.isProvisional = true) (t : HeadText)
    (ht : t.head.isProvisional = false) (fuel : Nat) (hfuel : progress.length ≤ fuel)
    (s : Bytes) :
    Head.scanFinal (fuel + 1) (progress.flatMap HeadText.octets ++ (t.octets ++ s))
      = .done t.head s := by
  -- one head after the other is passed over, and each takes one unit of fuel
  induction progress generalizing fuel with
  | nil =>
      rw [List.flatMap_nil, List.nil_append, Head.scanFinal, scan_octets]
      simp only [Scan.andThen, ht, Bool.false_eq_true, if_false]
  | cons p progress ih =>
      obtain ⟨hp, hprogress⟩ := List.forall_mem_cons.mp hprogress
      obtain ⟨fuel, rfl⟩ : ∃ more, fuel = more + 1 :=
        Nat.exists_eq_add_of_le' (Nat.le_of_add_left_le hfuel)
      rw [List.flatMap_cons, List.append_assoc, Head.scanFinal, scan_octets]
      simp only [Scan.andThen, hp, if_true]
      exact ih hprogress fuel (Nat.le_of_succ_le_succ hfuel)

theorem exists_answerHeads (fuel : Nat) (s rest : Bytes) (head : Head)
    (h : Head.scanFinal fuel s = .done head rest) :
    ∃ a : AnswerHeads, a.final.head = head ∧ s = a.octets ++ rest := by
  induction fuel generalizing s with
  | zero => cases h
  | succ fuel ih =>
      rw [Head.scanFinal, Scan.andThen_eq_done] at h
      obtain ⟨first, after, hfirst, h⟩ := h
      obtain ⟨t, rfl, rfl⟩ := exists_headText s after first hfirst
      -- a head that tells of progress is put before those that follow it
      split at h
      · next hp =>
        obtain ⟨a, ha, rfl⟩ := ih after h
        refine ⟨⟨t :: a.progress, a.final, List.forall_mem_cons.mpr ⟨hp, a.isProgress⟩,
          a.isFinal⟩, ha, ?_⟩
        unfold AnswerHeads.octets
        rw [List.flatMap_cons, List.append_assoc, List.append_assoc, List.append_assoc]
      · next hp =>
        cases h
        exact ⟨⟨[], t, List.forall_mem_nil _, Bool.eq_false_iff.mpr hp⟩, rfl, rfl⟩

/-- **The reader accepts the heads of an answer and nothing else**, and finds the final one. -/
theorem read_eq_done_iff (s rest : Bytes) (head : Head) :
    Head.read s = .done head rest ↔ ∃ a : AnswerHeads,
      a.final.head = head ∧ s = a.octets ++ rest := by
  constructor
  · exact exists_answerHeads _ s rest head
  · rintro ⟨a, rfl, rfl⟩
    unfold Head.read AnswerHeads.octets
    rw [List.append_assoc]
    apply scanFinal_octets a.progress a.isProgress a.final a.isFinal
    rw [List.length_append]
    exact Nat.le_add_right_of_le (length_progress_le a.progress)

end FormUpload.Http
