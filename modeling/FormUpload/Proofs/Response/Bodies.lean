import FormUpload.CommandLine.Run
import FormUpload.Proofs.Json.Nesting
import FormUpload.Proofs.Json.Pretty

/-!
# What becomes of a body

A body that spells a document is decoded as that document, up to the nesting limit; beyond it
the body is a text, and a text is no success (`decode_undoes_print`).  The endpoint's word is
the last member `isSuccess` of the object that the body spells, in whatever way it is spelled;
no other body is a success (`success_is_last_flag`).
-/

namespace FormUpload.Json

open FormUpload.Text

/-! ## §1. The members of an object. -/

theorem find?_insertMember_self (k : String) (v : Value) (ms : List (String × Value)) :
    (insertMember k v ms).find? (·.1 == k) = some (k, v) := by
  induction ms with
  | nil => simp [insertMember]
  | cons m ms ih =>
      obtain ⟨k', v'⟩ := m
      rw [insertMember]
      split
      · simp
      · next hlt =>
        split
        · simp
        · next hne => rw [List.find?_cons_of_neg (by simpa using Ne.symm hne), ih]

theorem find?_insertMember_ne (j k : String) (v : Value) (ms : List (String × Value))
    (h : k ≠ j) : (insertMember k v ms).find? (·.1 == j) = ms.find? (·.1 == j) := by
  have hk : ∀ rest, ((k, v) :: rest).find? (·.1 == j) = rest.find? (·.1 == j) :=
    fun rest => List.find?_cons_of_neg (by simpa using h)
  induction ms with
  | nil => exact hk []
  | cons m ms ih =>
      obtain ⟨k', v'⟩ := m
      rw [insertMember]
      split
      · exact hk _
      · split
        · next heq =>
          subst heq
          rw [hk, List.find?_cons_of_neg (by simpa using h)]
        · rw [List.find?_cons, List.find?_cons, ih]

/-- Of the members with one key the last is found. -/
theorem find?_sortMembers (k : String) (ms : List (String × Value)) :
    (sortMembers ms).find? (·.1 == k) = ms.reverse.find? (·.1 == k) := by
  induction ms using List.reverseRecOn with
  | nil => rfl
  | append_singleton ms m ih =>
      obtain ⟨k', v⟩ := m
      have hlast : sortMembers (ms ++ [(k', v)]) = insertMember k' v (sortMembers ms) := by
        unfold sortMembers
        rw [List.foldl_append]
        rfl
      rw [hlast, List.reverse_append, List.reverse_singleton, List.singleton_append]
      by_cases h : k' = k
      · subst h
        rw [find?_insertMember_self, List.find?_cons_of_pos (by simp)]
      · rw [find?_insertMember_ne k k' v _ h, ih, List.find?_cons_of_neg (by simpa using h)]

/-- **A key of an object has the value of its last member.** -/
theorem get?_ofMembers (ms : List (String × Value)) (k : String) (v : Value) :
    (Value.ofMembers ms).get? k = some v
      ↔ ∃ before after, ms = before ++ (k, v) :: after ∧ ∀ m ∈ after, m.1 ≠ k := by
  have hget : (Value.ofMembers ms).get? k = (ms.reverse.find? (·.1 == k)).map (·.2) := by
    show ((sortMembers ms).find? (·.1 == k)).map (·.2) = _
    rw [find?_sortMembers]
  rw [hget]
  constructor
  · intro h
    obtain ⟨⟨k', w⟩, hfind, rfl⟩ := Option.map_eq_some_iff.mp h
    obtain ⟨hk, as, bs, hms, has⟩ := List.find?_eq_some_iff_append.mp hfind
    have hk : k' = k := by simpa using hk
    subst hk
    -- what stands before it in the reversed list stands behind it in the list
    refine ⟨bs.reverse, as.reverse, ?_, fun m hm => ?_⟩
    · rw [← List.reverse_reverse ms, hms]
      simp
    · simpa using has m (List.mem_reverse.mp hm)
  · rintro ⟨before, after, rfl, hafter⟩
    have hfind : (before ++ (k, v) :: after).reverse.find? (·.1 == k) = some (k, v) := by
      refine List.find?_eq_some_iff_append.mpr
        ⟨by simp, after.reverse, before.reverse, by simp, fun m hm => ?_⟩
      simpa using hafter m (List.mem_reverse.mp hm)
    rw [hfind]
    rfl

/-- A scalar has no members, and an array has none. -/
theorem get?_of_depth (v : Value) (h : v.depth = 0) (k : String) : v.get? k = none := by
  cases v with
  | object ms => exact absurd h (Nat.succ_ne_zero _)
  | _ => rfl

/-- Only what begins with a brace has members. -/
theorem get?_of_read (s : Bytes) (v : Value) (hs : (skipSpace s).head? ≠ some 0x7B)
    (h : Value.read s = .ok v) (k : String) : v.get? k = none := by
  obtain ⟨⟨w, rest⟩, hw, h⟩ := (bind_eq_ok _ _ _).mp h
  obtain ⟨-, -, hv⟩ := (bind_eq_ok _ _ _).mp h
  obtain rfl : w = v := Except.ok.inj hv
  obtain ⟨hdepth, -⟩ | ⟨n, ws, r, vs, -, -, -, rfl, -⟩ | ⟨n, ws, r, ms, -, hws, rfl, -⟩ :=
    value_cases nestingLimit s w rest hw
  · exact get?_of_depth w hdepth k
  · rfl
  · rw [skipSpace_cons ws 0x7B r hws (by decide)] at hs
    exact absurd rfl hs

/-- The spellings of an object by the list of its members, blanks around it, with at most
`levels` arrays and objects inside one another in a member. -/
def ObjectSpelling (levels : Nat) (ms : List (String × Value)) (s : Bytes) : Prop :=
  ∃ ws t ws', Blank ws ∧ Blank ws' ∧ MembersSpelling (Spelling levels) false ms t
    ∧ s = ws ++ 0x7B :: (t ++ ws')

/-- Behind an object nothing but blanks may stand. -/
theorem read_objectSpelling_more (ms : List (String × Value)) (s : Bytes)
    (h : ObjectSpelling 126 ms s) (b : UInt8) (rest : Bytes) (hb : isSpace b = false) :
    ∃ fault, Value.read (s ++ b :: rest) = .error fault := by
  obtain ⟨ws, t, ws', hws, hws', hms, rfl⟩ := h
  have hmembers := members_spelling _ _ (reads_spelling 126) false ms t hms
    ((t ++ (ws' ++ b :: rest)).length + 1) (by rw [List.length_append]; omega) []
    (ws' ++ b :: rest)
  have hvalue := value_of_members 126 ws (t ++ (ws' ++ b :: rest)) hws _ _ hmembers
  have hs : ws ++ 0x7B :: (t ++ ws') ++ b :: rest = ws ++ 0x7B :: (t ++ (ws' ++ b :: rest)) := by
    simp
  have hfinish : finish (ws' ++ b :: rest) = .error (.with .trailingCharacters (b :: rest)) := by
    unfold finish
    rw [skipSpace_cons ws' b rest hws' hb]
  refine ⟨.with .trailingCharacters (b :: rest), ?_⟩
  unfold Value.read nestingLimit
  rw [hs, hvalue]
  show (finish (ws' ++ b :: rest)).bind _ = _
  rw [hfinish]
  rfl

theorem read_objectSpelling (ms : List (String × Value)) (s : Bytes)
    (h : ObjectSpelling 126 ms s) : Value.read s = .ok (Value.ofMembers ms) := by
  obtain ⟨ws, t, ws', hws, hws', hms, rfl⟩ := h
  exact read_spelling (Value.ofMembers ms) ws (0x7B :: t) ws' hws hws'
    (Or.inr (Or.inr ⟨ms, t, rfl, rfl, hms⟩))

end FormUpload.Json

namespace FormUpload.Response

open FormUpload.Text
open FormUpload.Json (Value Regular Spelling Blank ObjectSpelling isSpace skipSpace)

/-! ## §2. Documents of bodies. -/

theorem dataOfBody_of_error (b : UInt8) (r : Bytes) (fault : Json.Fault)
    (h : Value.read (b :: r) = .error fault) :
    dataOfBody (b :: r) = .string (stringLossy (b :: r)) := by
  unfold dataOfBody
  rw [List.isEmpty_cons, if_neg Bool.false_ne_true, h]

theorem succeeded_iff (r : Response) :
    r.succeeded = true ↔ r.data.get? successField = some (.bool true) := by
  unfold succeeded
  cases r.data.get? successField with
  | none => simp
  | some v => cases v <;> simp [Value.asBool?]

theorem succeeded_of_none (r : Response) (h : r.data.get? successField = none) :
    r.succeeded = false := by
  unfold succeeded
  rw [h]
  rfl

/-- **What is read as no document is no success.** -/
theorem succeeded_of_error (status : UInt16) (headers : List (String × String)) (body : Bytes)
    (fault : Json.Fault) (h : Value.read body = .error fault) :
    (ofBody status headers body).succeeded = false := by
  apply succeeded_of_none
  show (dataOfBody body).get? successField = none
  cases body with
  | nil => rfl
  | cons b r =>
      rw [dataOfBody_of_error b r fault h]
      rfl

/-! ## §3. Printed documents. -/

/-- The ways in which a document is printed: on one line, on lines of its own, or as a response
that holds it is shown on the terminal. -/
inductive Printed (v : Value) : String → Prop
  | compact : Printed v v.text
  | pretty : Printed v v.prettyText
  | shown (r : Response) (hr : r.data = v) : Printed v (CommandLine.responseText false r)

/-- A printed document is spelled, with a line break behind it or nothing. -/
theorem Printed.spelling {v : Value} {t : String} (h : Printed v t) (hv : Regular v)
    (levels : Nat) (hd : v.depth ≤ levels) :
    ∃ s ws, bytesOf t = s ++ ws ∧ Blank ws ∧ Spelling levels v s := by
  have hpretty := Json.spelling_pretty v levels hv hd
  cases h with
  | compact =>
      refine ⟨bytesOf v.text, [], (List.append_nil _).symm, Json.blank_nil, ?_⟩
      unfold Value.text
      rw [bytesOf_ofList]
      exact Json.spelling_compact v levels hv hd
  | pretty => exact ⟨_, [], (List.append_nil _).symm, Json.blank_nil, hpretty⟩
  | shown r hr =>
      subst hr
      refine ⟨_, [0x0A], ?_, ?_, hpretty⟩
      · unfold CommandLine.responseText
        rw [if_neg Bool.false_ne_true, bytesOf_append]
        rfl
      · exact Json.blank_singleton 0x0A rfl

/-- **Decoding undoes printing, up to the nesting limit.**  Whichever way a document is
printed, the body is decoded as the document if it nests at most 127 deep, and as the printed
text if it nests deeper, which is then no success and tells no message. -/
theorem decode_undoes_print (status : UInt16) (headers : List (String × String)) (v : Value)
    (hv : Regular v) (t : String) (ht : Printed v t) :
    (v.depth ≤ 127 → ofBody status headers (bytesOf t) = ⟨status, headers, v⟩)
      ∧ (128 ≤ v.depth → ofBody status headers (bytesOf t) = ⟨status, headers, .string t⟩
        ∧ (ofBody status headers (bytesOf t)).succeeded = false
        ∧ (ofBody status headers (bytesOf t)).message? = none) := by
  constructor
  · intro hd
    obtain ⟨s, ws, hs, hws, hspelling⟩ := ht.spelling hv 127 hd
    have hread := Json.read_spelling v [] s ws Json.blank_nil hws hspelling
    rw [List.nil_append, ← hs] at hread
    unfold ofBody
    rw [Json.dataOfBody_of_ok _ v hread]
  · intro hd
    obtain ⟨s, ws, hs, hws, hspelling⟩ := ht.spelling hv v.depth (Nat.le_refl _)
    obtain ⟨fault, hread⟩ := Json.read_of_deep v [] s ws Json.blank_nil hws v.depth hspelling hd
    rw [List.nil_append, ← hs] at hread
    have hdata : dataOfBody (bytesOf t) = .string t := by
      cases hbytes : bytesOf t with
      | nil =>
          -- no spelling is empty
          obtain ⟨b, r, hb, -⟩ := (Json.reads_spelling v.depth).opens v s hspelling
          rw [hbytes, hb] at hs
          cases hs
      | cons b r =>
          rw [hbytes] at hread
          rw [dataOfBody_of_error b r fault hread, ← hbytes, stringLossy_bytesOf]
    have hbody : ofBody status headers (bytesOf t) = ⟨status, headers, .string t⟩ := by
      unfold ofBody
      rw [hdata]
    rw [hbody]
    exact ⟨rfl, rfl, rfl⟩

/-- Arrays inside one another, around nothing. -/
def nestedArrays : Nat → Value
  | 0 => .null
  | n + 1 => .array [nestedArrays n]

theorem depth_nestedArrays (n : Nat) : (nestedArrays n).depth = n := by
  induction n with
  | zero => rfl
  | succ n ih =>
      rw [nestedArrays, Value.depth, Value.depthOfItems, Value.depthOfItems, ih, Nat.max_zero]

theorem regular_nestedArrays (n : Nat) : Regular (nestedArrays n) := by
  induction n with
  | zero => trivial
  | succ n ih => exact ⟨ih, trivial⟩

/-- An envelope that calls the upload a success, around so many arrays. -/
def deepEnvelope (n : Nat) : Value :=
  .object [("isSuccess", .bool true), ("result", nestedArrays n)]

theorem regular_deepEnvelope (n : Nat) : Regular (deepEnvelope n) := by
  have hkeys : ["isSuccess", "result"].Pairwise (· < ·) := by decide
  exact ⟨Json.sortMembers_of_sorted _ hkeys, trivial, regular_nestedArrays n, trivial⟩

theorem depth_deepEnvelope (n : Nat) : (deepEnvelope n).depth = n + 1 := by
  simp [deepEnvelope, Value.depth, Value.depthOfMembers, depth_nestedArrays]

/-- One array more turns a success into a text. -/
theorem decode_deep_envelopes :
    (Regular (deepEnvelope 126) ∧ Printed (deepEnvelope 126) (deepEnvelope 126).prettyText
      ∧ (deepEnvelope 126).depth = 127
      ∧ (ofBody 200 [] (bytesOf (deepEnvelope 126).prettyText)).succeeded = true)
    ∧ (Regular (deepEnvelope 127) ∧ Printed (deepEnvelope 127) (deepEnvelope 127).prettyText
      ∧ (deepEnvelope 127).depth = 128
      ∧ ofBody 200 [] (bytesOf (deepEnvelope 127).prettyText)
        = ⟨200, [], .string (deepEnvelope 127).prettyText⟩
      ∧ (ofBody 200 [] (bytesOf (deepEnvelope 127).prettyText)).succeeded = false) := by
  refine ⟨⟨regular_deepEnvelope 126, .pretty, depth_deepEnvelope 126, ?_⟩,
    regular_deepEnvelope 127, .pretty, depth_deepEnvelope 127, ?_, ?_⟩
  · have h := (decode_undoes_print 200 [] (deepEnvelope 126) (regular_deepEnvelope 126) _
      .pretty).1 (depth_deepEnvelope 126).le
    rw [h]
    rfl
  · exact ((decode_undoes_print 200 [] (deepEnvelope 127) (regular_deepEnvelope 127) _
      .pretty).2 (depth_deepEnvelope 127).ge).1
  · exact ((decode_undoes_print 200 [] (deepEnvelope 127) (regular_deepEnvelope 127) _
      .pretty).2 (depth_deepEnvelope 127).ge).2.1

/-! ## §4. The endpoint's word. -/

/-- **The endpoint's word is the last flag of the envelope, however it is spelled.**  A body
that spells an object is a success exactly if the last member whose key is `isSuccess` has the
value true; with anything but blanks behind the object it is none, and neither is a body that
begins with anything but a brace. -/
theorem success_is_last_flag (status : UInt16) (headers : List (String × String)) :
    (∀ ms s, ObjectSpelling 126 ms s →
      ((ofBody status headers s).succeeded = true
        ↔ ∃ before after, ms = before ++ ("isSuccess", .bool true) :: after
          ∧ ∀ m ∈ after, m.1 ≠ "isSuccess")
      ∧ ∀ b rest, isSpace b = false →
        (ofBody status headers (s ++ b :: rest)).succeeded = false)
    ∧ ∀ body, (skipSpace body).head? ≠ some 0x7B →
      (ofBody status headers body).succeeded = false := by
  refine ⟨fun ms s hs => ⟨?_, fun b rest hb => ?_⟩, fun body hbody => ?_⟩
  · rw [succeeded_iff]
    show (dataOfBody s).get? successField = _ ↔ _
    rw [Json.dataOfBody_of_ok s _ (Json.read_objectSpelling ms s hs)]
    exact Json.get?_ofMembers ms "isSuccess" (.bool true)
  · obtain ⟨fault, hread⟩ := Json.read_objectSpelling_more ms s hs b rest hb
    exact succeeded_of_error status headers _ fault hread
  · cases hread : Value.read body with
    | error fault => exact succeeded_of_error status headers body fault hread
    | ok v =>
        apply succeeded_of_none
        show (dataOfBody body).get? successField = none
        rw [Json.dataOfBody_of_ok body v hread]
        exact Json.get?_of_read body v hbody hread successField

/-- An envelope that tells the flag twice, the second time with an escaped key. -/
def flagTwice : String :=
  "\t\x7b\"isSuccess\":false, \"\\u0069sSuccess\" :true,\"\\ud83d\\ude00\":[]\x7d\n"

/-- The members that it spells. -/
def flagTwiceMembers : List (String × Value) :=
  [("isSuccess", .bool false), ("isSuccess", .bool true), ("😀", .array [])]

theorem objectSpelling_flagTwice : ObjectSpelling 126 flagTwiceMembers (bytesOf flagTwice) := by
  have hblank : Blank [0x20] := Json.blank_singleton 0x20 rfl
  have hfirst := Json.spelling_member (Spelling 126) "isSuccess" (.bool false) _ (Or.inl .false)
  have hsecond : Json.MemberSpelling (Spelling 126) (String.ofList ('i' :: "sSuccess".toList))
      (.bool true) _ :=
    .mk _ _ [0x20] [] _ _
      (.code 0x30 0x30 0x36 0x39 0x69 _ _ rfl rfl rfl (Json.spelling_escaped "sSuccess".toList))
      hblank Json.blank_nil (Or.inl .true)
  have hthird : Json.MemberSpelling (Spelling 126) (String.ofList ['😀']) (.array []) _ :=
    .mk _ _ [] [] _ _
      (.pair 0x64 0x38 0x33 0x64 0x64 0x65 0x30 0x30 0xD83D 0xDE00 [] [] rfl rfl rfl rfl .nil)
      Json.blank_nil Json.blank_nil
      (Or.inr (Or.inl ⟨[], _, rfl, rfl, .close false [] Json.blank_nil⟩))
  refine ⟨[0x09], _, [0x0A], Json.blank_singleton 0x09 rfl, Json.blank_singleton 0x0A rfl,
    .first [] _ _ _ _ _ Json.blank_nil hfirst
      (.next [] [0x20] _ _ _ _ _ Json.blank_nil hblank hsecond
        (.next [] [] _ _ _ _ _ Json.blank_nil Json.blank_nil hthird
          (.close true [] Json.blank_nil))), ?_⟩
  decide

/-- The flag counts that comes last; with a brace too many, or inside an array, none does. -/
theorem success_of_escaped_flag :
    ObjectSpelling 126 flagTwiceMembers (bytesOf flagTwice)
    ∧ (ofBody 500 [] (bytesOf flagTwice)).succeeded = true
    ∧ isSpace 0x7D = false
    ∧ (ofBody 200 [] (bytesOf flagTwice ++ [0x7D])).succeeded = false
    ∧ (skipSpace (bytesOf "[\x7b\"isSuccess\":true\x7d]")).head? ≠ some 0x7B
    ∧ (ofBody 200 [] (bytesOf "[\x7b\"isSuccess\":true\x7d]")).succeeded = false := by
  have hspelled := objectSpelling_flagTwice
  have harray : (skipSpace (bytesOf "[\x7b\"isSuccess\":true\x7d]")).head? ≠ some 0x7B := by decide
  refine ⟨hspelled, ?_, rfl, ?_, harray, ?_⟩
  · refine ((success_is_last_flag 500 []).1 _ _ hspelled).1.mpr
      ⟨[("isSuccess", .bool false)], [("😀", .array [])], rfl, ?_⟩
    intro m hm
    rw [List.mem_singleton] at hm
    rw [hm]
    decide
  · exact ((success_is_last_flag 200 []).1 _ _ hspelled).2 0x7D [] rfl
  · exact (success_is_last_flag 200 []).2 _ harray

end FormUpload.Response
