import FormUpload.Proofs.Text.Cutting
import FormUpload.Proofs.Text.Decimal
import FormUpload.Url.Reading

/-!
# URLs of a local address

A URL that names a route at `127.0.0.1`, with a port or without, is read as what it names
(`parseChars_local`) and written as it was (`text_localUrl`), but for the port that goes
without saying.
-/

namespace FormUpload.Url

open FormUpload.Text

/-! ## §1. The URL. -/

/-- The digits of an address. -/
def localHost : List Char := "127.0.0.1".toList

/-- A port, if there is one, as a URL names it. -/
def portChars : Option Nat → List Char
  | none => []
  | some p => ':' :: decimal p

/-- A port, unless it goes without saying. -/
def portNamed (port : Option Nat) : Option Nat := if port = some 80 then none else port

/-- The characters of a URL that names a route. -/
def localChars (port : Option Nat) (route : List Char) : List Char :=
  "http://".toList ++ (localHost ++ (portChars port ++ '/' :: route))

/-- What such a URL is read as. -/
def localUrl (port : Option Nat) (route : List Char) : Url :=
  ⟨"http", "", none, some (.ipv4 0x7F000001), portNamed port, .slashed [String.ofList route],
    none, none⟩

/-- Whether a route is one plain segment of a path. -/
def IsSegment (route : List Char) : Prop := ∀ c ∈ route, isLetter c = true

/-! ## §2. Ports. -/

/-- **Digits up to a slash are read as the port they spell.** -/
theorem portFrom_digits (cs r : List Char) (hcs : ∀ c ∈ cs, isDigitChar c = true) (n : Nat)
    (any : Bool) (hany : cs = [] → any = true) (hport : Nat.ofDigitChars 10 cs n ≤ 65535) :
    portFrom n any (cs ++ '/' :: r) = .ok (some (Nat.ofDigitChars 10 cs n), '/' :: r) := by
  induction cs generalizing n any with
  | nil =>
      rw [hany rfl, Nat.ofDigitChars_nil, List.nil_append, portFrom]
      rfl
  | cons c cs ih =>
      obtain ⟨hc, hcs⟩ := List.forall_mem_cons.mp hcs
      have hzero : '0'.toNat = 0x30 := rfl
      rw [Nat.ofDigitChars_cons, Nat.mul_comm, hzero] at hport ⊢
      -- the whole number is a port, so what was read of it is not beyond one
      have hstep : n * 10 + (c.toNat - 0x30) ≤ 65535 := (le_ofDigitChars cs _).trans hport
      rw [List.cons_append, portFrom, if_pos hc]
      show (if 65535 < n * 10 + (c.toNat - 0x30) then Except.error Fault.badPort
        else portFrom (n * 10 + (c.toNat - 0x30)) true (cs ++ '/' :: r)) = _
      rw [if_neg (by omega), ih hcs _ true (fun _ => rfl) hport]

theorem portFrom_decimal (p : Nat) (hp : p ≤ 65535) (r : List Char) :
    portFrom 0 false (decimal p ++ '/' :: r) = .ok (some p, '/' :: r) := by
  have hdigits := ofDigitChars_decimal p
  have h := portFrom_digits (decimal p) r (isDigitChar_of_mem p) 0 false
    (fun h => absurd h (decimal_ne_nil p)) (by omega)
  rw [hdigits] at h
  exact h

/-! ## §3. Characters. -/

/-- The characters of such a URL: letters, digits and three marks. -/
theorem mem_localChars (port : Option Nat) (route : List Char) (hroute : IsSegment route)
    (c : Char) (hc : c ∈ localChars port route) :
    isLetter c = true ∨ isDigitChar c = true ∨ c = ':' ∨ c = '/' ∨ c = '.' := by
  have hfixed : ∀ cs : List Char, (cs.all fun c => isLetter c || isDigitChar c || c == ':'
      || c == '/' || c == '.') = true → ∀ c ∈ cs,
        isLetter c = true ∨ isDigitChar c = true ∨ c = ':' ∨ c = '/' ∨ c = '.' := by
    intro cs h c hc
    have h := List.all_eq_true.mp h c hc
    simp only [Bool.or_eq_true, beq_iff_eq] at h
    tauto
  unfold localChars at hc
  rw [List.mem_append, List.mem_append, List.mem_append] at hc
  rcases hc with hc | hc | hc | hc
  · exact hfixed _ (by decide) c hc
  · exact hfixed _ (by decide) c hc
  · cases port with
    | none => cases hc
    | some p =>
        rcases List.mem_cons.mp hc with rfl | hc
        · exact Or.inr (Or.inr (Or.inl rfl))
        · exact Or.inr (Or.inl (isDigitChar_of_mem p c hc))
  · rcases List.mem_cons.mp hc with rfl | hc
    · exact Or.inr (Or.inr (Or.inr (Or.inl rfl)))
    · exact Or.inl (hroute c hc)

/-- None of them is a blank or a control character. -/
theorem visible_localChars (port : Option Nat) (route : List Char) (hroute : IsSegment route)
    (c : Char) (hc : c ∈ localChars port route) : 0x20 < c.toNat ∧ c.toNat < 0x7F := by
  rcases mem_localChars port route hroute c hc with h | h | rfl | rfl | rfl
  · have := (isLetter_iff c).mp h
    omega
  · have := (isDigitChar_iff c).mp h
    omega
  · decide
  · decide
  · decide

theorem ne_of_isLetter (c d : Char) (hc : isLetter c = true) (hd : isLetter d = false) :
    c ≠ d := by
  rintro rfl
  rw [hc] at hd
  cases hd

/-! ## §4. Routes. -/

/-- Letters are not encoded in a path. -/
theorem percentEncode_segment (route : List Char) (hroute : IsSegment route) :
    percentEncode inPathSet route = route := by
  have hchar : ∀ c ∈ route, percentChar inPathSet c = [c] := by
    intro c hc
    have hc := hroute c hc
    have hnumber := (isLetter_iff c).mp hc
    have hcontrol : isControl c = false := by
      unfold isControl
      rw [Bool.or_eq_false_iff, decide_eq_false_iff_not, beq_eq_false_iff_ne]
      omega
    -- the characters that are encoded are no letters
    have hlist : ∀ cs : List Char, (cs.all fun d => !isLetter d) = true →
        cs.contains c = false := by
      intro cs h
      rw [← Bool.not_eq_true, List.contains_iff_mem]
      intro hmem
      have h := List.all_eq_true.mp h c hmem
      rw [hc] at h
      cases h
    have hset : inPathSet c = false := by
      unfold inPathSet inFragmentSet
      rw [hcontrol, hlist _ (by decide), hlist _ (by decide)]
      rfl
    unfold percentChar
    rw [hset, if_pos]
    simp only [Bool.not_false, Bool.and_true, decide_eq_true_eq]
    omega
  unfold percentEncode
  rw [List.flatMap_congr hchar]
  simp

/-- A route is no way back in a path. -/
theorem not_dots_segment (route : List Char) (hroute : IsSegment route) :
    isDoubleDot route = false ∧ isSingleDot route = false := by
  have hlist : ∀ ls : List (List Char), (ls.all fun l => l.any fun d => !isLetter d) = true →
      ls.contains (route.map lowerChar) = false := by
    intro ls h
    rw [← Bool.not_eq_true, List.contains_iff_mem]
    intro hmem
    obtain ⟨d, hd, hnot⟩ := List.any_eq_true.mp (List.all_eq_true.mp h _ hmem)
    obtain ⟨c, hc, rfl⟩ := List.mem_map.mp hd
    rw [isLetter_lowerChar c (hroute c hc)] at hnot
    cases hnot
  exact ⟨hlist _ (by decide), hlist _ (by decide)⟩

/-- **A route is the path.** -/
theorem pathAfterAuthority_segment (route : List Char) (hroute : IsSegment route) :
    pathAfterAuthority .network ('/' :: route) = (.slashed [String.ofList route], []) := by
  -- neither a query nor a fragment begins in the route
  have hend : ∀ c ∈ '/' :: route, (!endsPath c) = true := by
    intro c hc
    rcases List.mem_cons.mp hc with rfl | hc
    · decide
    · have hc := hroute c hc
      unfold endsPath
      simp [ne_of_isLetter c '?' hc (by decide), ne_of_isLetter c '#' hc (by decide)]
  -- and it is one segment
  have hslash : ∀ c ∈ route, endsSegment .network c = false := by
    intro c hc
    have hc := hroute c hc
    unfold endsSegment
    simp [ne_of_isLetter c '/' hc (by decide), ne_of_isLetter c '\\' hc (by decide)]
  obtain ⟨hdouble, hsingle⟩ := not_dots_segment route hroute
  have hpush : pushSegment .network true [] route = [route] := by
    unfold pushSegment
    simp [hdouble, hsingle]
  have hsegments : segmentsOf .network route = [route] := by
    unfold segmentsOf
    rw [splitWhere_of_none _ _ hslash]
    simp [percentEncode_segment route hroute, hpush]
  have hupTo : upTo endsPath ('/' :: route) = ('/' :: route, []) := by
    unfold upTo
    rw [List.takeWhile_eq_self_iff.mpr hend, List.dropWhile_eq_nil_iff.mpr hend]
  unfold pathAfterAuthority
  rw [hupTo]
  show (slashedOf (segmentsOf .network route), []) = _
  rw [hsegments]
  rfl

/-! ## §5. Reading. -/

theorem strip_localChars (port : Option Nat) (route : List Char) (hroute : IsSegment route) :
    strip (localChars port route) = localChars port route := by
  have hvisible := visible_localChars port route hroute
  generalize localChars port route = cs at hvisible
  have hedge : ∀ c ∈ cs, isEdge c = false := by
    intro c hc
    have := hvisible c hc
    unfold isEdge
    rw [decide_eq_false_iff_not]
    omega
  have hstops : ∀ ds : List Char, (∀ c ∈ ds, c ∈ cs) → ds.dropWhile isEdge = ds := by
    intro ds hds
    exact dropWhile_of_stops _ _ fun c hc => hedge c (hds c (List.mem_of_mem_head? hc))
  have hcounts : ∀ c ∈ cs, (c != '\t' && c != '\n' && c != '\r') = true := by
    intro c hc
    have hnumber := hvisible c hc
    have hne : ∀ d : Char, d.toNat ≤ 0x20 → (c != d) = true := by
      intro d hd
      rw [bne_iff_ne]
      rintro rfl
      omega
    rw [hne _ (by decide), hne _ (by decide), hne _ (by decide)]
    rfl
  unfold strip
  rw [hstops cs fun _ h => h, hstops cs.reverse fun _ h => List.mem_reverse.mp h,
    List.reverse_reverse, List.filter_eq_self.mpr hcounts]

theorem host_local : Host.parse localHost = .ok (.ipv4 0x7F000001) := rfl

/-- No user is named before a host. -/
theorem userInfo_local (port : Option Nat) (route : List Char) :
    userInfo .network (localHost ++ (portChars port ++ '/' :: route))
      = .ok ⟨"", none, localHost ++ (portChars port ++ '/' :: route)⟩ := by
  have hchars : ∀ c ∈ localHost ++ portChars port, isDigitChar c = true ∨ c = '.' ∨ c = ':' := by
    intro c hc
    rcases List.mem_append.mp hc with hc | hc
    · have hall : (localHost.all fun c => isDigitChar c = true ∨ c = '.' ∨ c = ':') = true := by
        decide
      exact of_decide_eq_true (List.all_eq_true.mp hall c hc)
    · cases port with
      | none => cases hc
      | some p =>
          rcases List.mem_cons.mp hc with rfl | hc
          · exact Or.inr (Or.inr rfl)
          · exact Or.inl (isDigitChar_of_mem p c hc)
  -- so none of them ends the authority or a user's name
  have hother : ∀ c ∈ localHost ++ portChars port, ∀ d : Char, isDigitChar d = false → d ≠ '.' →
      d ≠ ':' → (c == d) = false := by
    intro c hc d hdigit hdot hcolon
    rw [beq_eq_false_iff_ne]
    rintro rfl
    rcases hchars c hc with h | h | h
    · rw [hdigit] at h
      cases h
    · exact hdot h
    · exact hcolon h
  have hauthority : ∀ c ∈ localHost ++ portChars port, (!endsAuthority .network c) = true := by
    intro c hc
    unfold endsAuthority
    rw [hother c hc '/' (by decide) (by decide) (by decide),
      hother c hc '?' (by decide) (by decide) (by decide),
      hother c hc '#' (by decide) (by decide) (by decide),
      hother c hc '\\' (by decide) (by decide) (by decide)]
    rfl
  have hstop : Stops (fun c => !endsAuthority .network c) ('/' :: route) := by
    rw [stops_cons]
    rfl
  have hupTo : upTo (endsAuthority .network) (localHost ++ (portChars port ++ '/' :: route))
      = (localHost ++ portChars port, '/' :: route) := by
    unfold upTo
    rw [← List.append_assoc, takeWhile_run _ _ _ hauthority hstop,
      dropWhile_run _ _ _ hauthority hstop]
  have hcut : cutLastAt (localHost ++ portChars port) = none := by
    unfold cutLastAt
    rw [cutWhere_of_none]
    · rfl
    · intro c hc
      exact hother c (List.mem_reverse.mp hc) '@' (by decide) (by decide) (by decide)
  unfold userInfo
  rw [hupTo]
  simp only [hcut]

theorem cutHost_local (port : Option Nat) (route : List Char) :
    cutHost .network false (localHost ++ (portChars port ++ '/' :: route))
      = (localHost, portChars port ++ '/' :: route) := by
  cases port with
  | none => rfl
  | some p => rfl

/-- **A local URL is read as what it names.** -/
theorem parseChars_local (port : Option Nat) (hport : ∀ p, port = some p → p ≤ 65535)
    (route : List Char) (hroute : IsSegment route) :
    parseChars (localChars port route) = .ok (localUrl port route) := by
  have hscheme : schemeOf? (localChars port route)
      = some ("http", '/' :: '/' :: (localHost ++ (portChars port ++ '/' :: route))) := rfl
  have hkind : kindOf "http" = .network := by decide
  have hslashes : ('/' :: '/' :: (localHost ++ (portChars port ++ '/' :: route))).dropWhile
      (fun c => c == '/' || c == '\\') = localHost ++ (portChars port ++ '/' :: route) := rfl
  have hhost : hostOf .network localHost = .ok (.ipv4 0x7F000001) := host_local
  have hpath := pathAfterAuthority_segment route hroute
  -- the scheme names port 80
  have hdefault : ∀ q : Option Nat, (if (q == defaultPort? "http") = true then none else q)
      = portNamed q := by
    intro q
    have h : defaultPort? "http" = some 80 := by decide
    unfold portNamed
    rw [h]
    simp only [beq_iff_eq]
  unfold parseChars
  rw [strip_localChars port route hroute, hscheme]
  simp only [hkind, hslashes]
  unfold withAuthority
  rw [userInfo_local]
  cases port with
  | none =>
      have hcut := cutHost_local none route
      have hrest : portChars none ++ '/' :: route = '/' :: route := rfl
      rw [hrest] at hcut ⊢
      simp only [bind, Except.bind, pure, Except.pure, hcut, hhost, hpath, hdefault]
      rfl
  | some p =>
      have hcut := cutHost_local (some p) route
      have hread := portFrom_decimal p (hport p rfl) route
      have hrest : portChars (some p) ++ '/' :: route = ':' :: (decimal p ++ '/' :: route) := rfl
      rw [hrest] at hcut ⊢
      simp only [bind, Except.bind, pure, Except.pure, hcut, hhost, hread, hpath, hdefault]
      rfl

/-! ## §6. Writing. -/

theorem pathText_localUrl (port : Option Nat) (route : List Char) :
    (localUrl port route).path.text = "/" ++ String.ofList route := by
  unfold localUrl Path.text
  simp [String.join]

theorem authorityText_localUrl (port : Option Nat) (route : List Char) :
    (localUrl port route).authorityText
      = "//" ++ String.ofList localHost ++ String.ofList (portChars (portNamed port)) := by
  have hhost : (Host.ipv4 0x7F000001).text = String.ofList localHost := by decide
  have hcredentials : (localUrl port route).credentialText = "" := rfl
  unfold authorityText
  rw [hcredentials]
  unfold localUrl
  simp only [hhost, String.append_empty]
  cases portNamed port with
  | none => rfl
  | some p =>
      apply String.toList_inj.mp
      simp [portChars]

/-- **A local URL is written as it was**, but for a port that goes without saying. -/
theorem text_localUrl (port : Option Nat) (route : List Char) :
    (localUrl port route).text = String.ofList (localChars (portNamed port) route) := by
  have hquery : (localUrl port route).queryText = "" := rfl
  have hfragment : (localUrl port route).fragmentText = "" := rfl
  have hscheme : (localUrl port route).scheme = "http" := rfl
  have htext : (localUrl port route).text
      = "http" ++ ":" ++ ("//" ++ String.ofList localHost
        ++ String.ofList (portChars (portNamed port))) ++ ("/" ++ String.ofList route)
        ++ "" ++ "" := by
    unfold text textUpToQuery
    rw [authorityText_localUrl, pathText_localUrl, hquery, hfragment, hscheme]
  have hstart : "http://".toList = "http".toList ++ ":".toList ++ "//".toList := by decide
  have hslash : "/".toList = ['/'] := by decide
  have hempty : "".toList = [] := by decide
  rw [htext]
  apply String.toList_inj.mp
  unfold localChars
  simp only [String.toList_append, String.toList_ofList, hstart, hslash, hempty,
    List.append_nil, List.append_assoc, List.singleton_append]

/-- The URL of a route, when it is read from its own text. -/
theorem parse_text_localUrl (port : Option Nat) (hport : ∀ p, port = some p → p ≤ 65535)
    (route : List Char) (hroute : IsSegment route) :
    parse (localUrl port route).text = .ok (localUrl (portNamed port) route) := by
  unfold parse
  rw [text_localUrl, String.toList_ofList]
  apply parseChars_local _ _ _ hroute
  intro p hp
  unfold portNamed at hp
  split at hp
  · cases hp
  · exact hport p hp

end FormUpload.Url
