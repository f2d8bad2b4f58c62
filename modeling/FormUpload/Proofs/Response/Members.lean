import FormUpload.Proofs.Response.Bodies
import FormUpload.Proofs.Response.Fields

/-!
# Reading responses back

A response is read from an object by its members, one after the other.  Whether it can be read
depends on the values of the three fields alone, in whatever order they stand and whatever
stands between them:

* one member is one step of the draft (`draftField_eq_ok`),
* a field is filled by the one member with its key (`steps_fills`),
* so a response is read where its fields are told, each once (`read_members_iff`).

Objects in any layout (`layout_independence`) and printed responses (`read_undoes_text`) are
two cases of it.
-/

namespace FormUpload.Json

open FormUpload.Text

/-! ## §1. Documents within the limit and beyond it. -/

/-- A document that is spelled within the limit, or one that lies beyond it. -/
def Spelled (limit : Nat) (v : Value) (s : Bytes) : Prop :=
  Spelling limit v s ∨ limit < v.depth ∧ ∃ levels, Spelling levels v s

/-- With room enough it is read. -/
theorem value_of_spelled (limit : Nat) (v : Value) (s : Bytes) (h : Spelled limit v s)
    (ws rest : Bytes) (hws : Blank ws) (hrest : Stops isNumberOctet rest) :
    ∃ levels, value levels (ws ++ (s ++ rest)) = .ok (v, rest) := by
  obtain h | ⟨-, levels, h⟩ := h
  · exact ⟨limit, (reads_spelling limit).ok v s h ws rest hws hrest⟩
  · exact ⟨levels, (reads_spelling levels).ok v s h ws rest hws hrest⟩

/-- With the room that there is it is read if it nests no deeper. -/
theorem value_spelled_eq_ok (limit : Nat) (v : Value) (s : Bytes) (h : Spelled limit v s)
    (ws rest : Bytes) (hws : Blank ws) (hrest : Stops isNumberOctet rest) (w : Value)
    (rest' : Bytes) : value limit (ws ++ (s ++ rest)) = .ok (w, rest')
      ↔ rest' = rest ∧ w = v ∧ v.depth ≤ limit := by
  obtain h | ⟨hdeep, levels, h⟩ := h
  · have hvalue := (reads_spelling limit).ok v s h ws rest hws hrest
    have hdepth := depth_value_le limit _ v rest hvalue
    rw [hvalue, Except.ok.injEq, Prod.mk.injEq]
    constructor
    · rintro ⟨rfl, rfl⟩
      exact ⟨rfl, rfl, hdepth⟩
    · rintro ⟨rfl, rfl, -⟩
      exact ⟨rfl, rfl⟩
  · obtain ⟨fault, hvalue⟩ := value_of_deep limit levels v s h hdeep ws rest hws hrest
    rw [hvalue]
    constructor
    · intro h
      cases h
    · rintro ⟨-, -, hle⟩
      omega

end FormUpload.Json

namespace FormUpload.Response

open FormUpload.Text
open FormUpload.Json (Fault Value Regular Spelling Spelled Blank Steps MembersSpelling
  ObjectSpelling bind_eq_ok)

/-! ## §2. One member. -/

/-- Whether a document is the one that a status is told by. -/
def IsStatus (x : UInt16) (v : Value) : Prop := v = .number (.whole x.toNat)

/-- Whether a document is the one that headers are told by. -/
def IsHeaders (hs : List (String × String)) (v : Value) : Prop := v = headerItems hs

/-- Whether a document can be the data of a response that is read. -/
def IsData (x v : Value) : Prop := x = v ∧ v.depth ≤ 126

/-- What a member does to a field: one with the field's key fills it, which must be empty
before; others leave it as it is. -/
def Fills {α : Type} (field : String) (is : α → Value → Prop) (o : Option α) (key : String)
    (v : Value) (o' : Option α) : Prop :=
  if key = field then o = none ∧ ∃ x, is x v ∧ o' = some x else o' = o

theorem fills_self {α : Type} (field : String) (is : α → Value → Prop) (o : Option α)
    (v : Value) (o' : Option α) :
    Fills field is o field v o' ↔ o = none ∧ ∃ x, is x v ∧ o' = some x := by
  rw [Fills, if_pos rfl]

theorem fills_ne {α : Type} (field : String) (is : α → Value → Prop) (o : Option α)
    (key : String) (v : Value) (o' : Option α) (h : key ≠ field) :
    Fills field is o key v o' ↔ o' = o := by
  rw [Fills, if_neg h]

/-- What a member does to a draft. -/
def Takes (d : Draft) (key : String) (v : Value) (d' : Draft) : Prop :=
  Fills "status" IsStatus d.status key v d'.status
    ∧ Fills "headers" IsHeaders d.headers key v d'.headers
    ∧ Fills "data" IsData d.data key v d'.data

theorem takes_status (d : Draft) (v : Value) (d' : Draft) :
    Takes d "status" v d'
      ↔ d.status = none ∧ ∃ x, IsStatus x v ∧ d' = { d with status := some x } := by
  obtain ⟨status', headers', data'⟩ := d'
  rw [Takes, fills_self, fills_ne _ _ _ _ _ _ (by decide), fills_ne _ _ _ _ _ _ (by decide)]
  simp only [Draft.mk.injEq]
  constructor
  · rintro ⟨⟨hnone, x, hx, rfl⟩, rfl, rfl⟩
    exact ⟨hnone, x, hx, rfl, rfl, rfl⟩
  · rintro ⟨hnone, x, hx, rfl, rfl, rfl⟩
    exact ⟨⟨hnone, x, hx, rfl⟩, rfl, rfl⟩

theorem takes_headers (d : Draft) (v : Value) (d' : Draft) :
    Takes d "headers" v d'
      ↔ d.headers = none ∧ ∃ hs, IsHeaders hs v ∧ d' = { d with headers := some hs } := by
  obtain ⟨status', headers', data'⟩ := d'
  rw [Takes, fills_self, fills_ne _ _ _ _ _ _ (by decide), fills_ne _ _ _ _ _ _ (by decide)]
  simp only [Draft.mk.injEq]
  constructor
  · rintro ⟨rfl, ⟨hnone, hs, h, rfl⟩, rfl⟩
    exact ⟨hnone, hs, h, rfl, rfl, rfl⟩
  · rintro ⟨hnone, hs, h, rfl, rfl, rfl⟩
    exact ⟨rfl, ⟨hnone, hs, h, rfl⟩, rfl⟩

theorem takes_data (d : Draft) (v : Value) (d' : Draft) :
    Takes d "data" v d'
      ↔ d.data = none ∧ ∃ x, IsData x v ∧ d' = { d with data := some x } := by
  obtain ⟨status', headers', data'⟩ := d'
  rw [Takes, fills_self, fills_ne _ _ _ _ _ _ (by decide), fills_ne _ _ _ _ _ _ (by decide)]
  simp only [Draft.mk.injEq]
  constructor
  · rintro ⟨rfl, rfl, hnone, x, hx, rfl⟩
    exact ⟨hnone, x, hx, rfl, rfl, rfl⟩
  · rintro ⟨hnone, x, hx, rfl, rfl, rfl⟩
    exact ⟨rfl, rfl, hnone, x, hx, rfl⟩

theorem takes_other (d : Draft) (key : String) (v : Value) (d' : Draft) (hstatus : key ≠ "status")
    (hheaders : key ≠ "headers") (hdata : key ≠ "data") : Takes d key v d' ↔ d' = d := by
  rw [Takes, fills_ne _ _ _ _ _ _ hstatus, fills_ne _ _ _ _ _ _ hheaders,
    fills_ne _ _ _ _ _ _ hdata]
  constructor
  · rintro ⟨hstatus, hheaders, hdata⟩
    cases d
    cases d'
    subst hstatus hheaders hdata
    rfl
  · rintro rfl
    exact ⟨rfl, rfl, rfl⟩

/-- A field that is empty is read behind the colon; one that is not is a fault. -/
theorem field_eq_ok {α : Type} (is : α → Value → Prop) (o : Option α)
    (read : Bytes → Except Fault (α × Bytes)) (put : α → Draft) (field : String) (s t : Bytes)
    (v : Value) (d' : Draft) (rest rest' : Bytes) (hcolon : Json.colon s = .ok t)
    (hread : ∀ x, read t = .ok (x, rest') ↔ rest' = rest ∧ is x v) :
    (if o.isSome then repeated field s
      else do
        let (x, rest) ← read (← Json.colon s)
        return (put x, rest)) = .ok (d', rest')
      ↔ rest' = rest ∧ o = none ∧ ∃ x, is x v ∧ d' = put x := by
  rw [hcolon]
  cases o with
  | some x =>
      rw [Option.isSome_some, if_pos rfl]
      constructor
      · intro h
        cases h
      · rintro ⟨-, h, -⟩
        cases h
  | none =>
      rw [Option.isSome_none, if_neg Bool.false_ne_true]
      show ((read t).bind fun r => .ok (put r.1, r.2)) = _ ↔ _
      constructor
      · intro h
        obtain ⟨⟨x, u⟩, hx, h⟩ := (bind_eq_ok _ _ _).mp h
        cases h
        obtain ⟨hrest, hx⟩ := (hread x).mp hx
        exact ⟨hrest, rfl, x, hx, rfl⟩
      · rintro ⟨hrest, -, x, hx, rfl⟩
        rw [(hread x).mpr ⟨hrest, hx⟩]
        rfl

/-- **One member is one step of the draft.** -/
theorem draftField_eq_ok (d : Draft) (key : String) (v : Value) (s ws ws' rest : Bytes)
    (d' : Draft) (rest' : Bytes) (h : Spelled 126 v s) (hws : Blank ws) (hws' : Blank ws')
    (hrest : Stops Json.isNumberOctet rest) :
    draftField d key (ws ++ 0x3A :: (ws' ++ (s ++ rest))) = .ok (d', rest')
      ↔ rest' = rest ∧ Takes d key v d' := by
  obtain ⟨levels, hvalue⟩ := Json.value_of_spelled 126 v s h ws' rest hws' hrest
  have hcolon := Json.colon_cons ws (ws' ++ (s ++ rest)) hws
  -- the typed readers take the value that is spelled, if it has their type
  have hstatus : ∀ x, Json.typedStatus (ws' ++ (s ++ rest)) = .ok (x, rest')
      ↔ rest' = rest ∧ IsStatus x v := by
    intro x
    rw [Json.typedStatus_eq_ok levels, hvalue, Except.ok.injEq, Prod.mk.injEq, and_comm,
      eq_comm]
    rfl
  have hheaders : ∀ hs, Json.stringPairs (ws' ++ (s ++ rest)) = .ok (hs, rest')
      ↔ rest' = rest ∧ IsHeaders hs v := by
    intro hs
    rw [Json.stringPairs_eq_ok levels,
      Json.value_mono levels (levels + 2) (Nat.le_add_right _ _) _ v rest hvalue, Except.ok.injEq,
      Prod.mk.injEq, and_comm, eq_comm]
    rfl
  have hdata : ∀ x, typedData (ws' ++ (s ++ rest)) = .ok (x, rest')
      ↔ rest' = rest ∧ IsData x v := fun x =>
    Json.value_spelled_eq_ok 126 v s h ws' rest hws' hrest x rest'
  have hskip := Json.skipValue_of_value levels _ v rest hvalue
  unfold draftField
  by_cases hkey₁ : key = "status"
  · subst hkey₁
    rw [if_pos (beq_self_eq_true _), takes_status]
    exact field_eq_ok IsStatus d.status _ (fun x => { d with status := some x }) "status" _ _ v
      d' rest rest' hcolon hstatus
  by_cases hkey₂ : key = "headers"
  · subst hkey₂
    rw [if_neg (by decide), if_pos (beq_self_eq_true _), takes_headers]
    exact field_eq_ok IsHeaders d.headers _ (fun hs => { d with headers := some hs }) "headers"
      _ _ v
      d' rest rest' hcolon hheaders
  by_cases hkey₃ : key = "data"
  · subst hkey₃
    rw [if_neg (by decide), if_neg (by decide), if_pos (beq_self_eq_true _), takes_data]
    exact field_eq_ok IsData d.data _ (fun x => { d with data := some x }) "data" _ _ v
      d' rest rest' hcolon hdata
  rw [beq_eq_false_iff_ne.mpr hkey₁, beq_eq_false_iff_ne.mpr hkey₂, beq_eq_false_iff_ne.mpr hkey₃,
    if_neg Bool.false_ne_true, if_neg Bool.false_ne_true, if_neg Bool.false_ne_true, hcolon,
    takes_other d key v d' hkey₁ hkey₂ hkey₃]
  show ((Json.skipValue (ws' ++ (s ++ rest))).bind fun rest => .ok (d, rest)) = _ ↔ _
  rw [hskip]
  constructor
  · intro h
    cases h
    exact ⟨rfl, rfl⟩
  · rintro ⟨rfl, rfl⟩
    rfl

/-! ## §3. All members. -/

/-- The values of the members with a key, in order. -/
def valuesAt (key : String) (ms : List (String × Value)) : List Value :=
  (ms.filter (·.1 == key)).map (·.2)

theorem valuesAt_cons_self (key : String) (v : Value) (ms : List (String × Value)) :
    valuesAt key ((key, v) :: ms) = v :: valuesAt key ms := by
  simp [valuesAt]

theorem valuesAt_cons_ne (key k : String) (v : Value) (ms : List (String × Value))
    (h : k ≠ key) : valuesAt key ((k, v) :: ms) = valuesAt key ms := by
  simp [valuesAt, h]

/-- **A field is filled by the one member with its key**, or it stays as it is. -/
theorem steps_fills {α : Type} (field : String) (is : α → Value → Prop) (o : Option α)
    (ms : List (String × Value)) (o' : Option α) :
    Steps (Fills field is) o ms o'
      ↔ valuesAt field ms = [] ∧ o' = o
        ∨ o = none ∧ ∃ x v, valuesAt field ms = [v] ∧ is x v ∧ o' = some x := by
  induction ms generalizing o with
  | nil =>
      constructor
      · intro h
        exact Or.inl ⟨rfl, h⟩
      · rintro (⟨-, h⟩ | ⟨-, x, v, hv, -⟩)
        · exact h
        · cases hv
  | cons m ms ih =>
      obtain ⟨key, v⟩ := m
      rw [Steps]
      by_cases hkey : key = field
      · subst hkey
        simp only [fills_self, valuesAt_cons_self, ih]
        constructor
        · rintro ⟨_, ⟨hnone, x, hx, rfl⟩, ⟨hms, rfl⟩ | ⟨h, -⟩⟩
          · exact Or.inr ⟨hnone, x, v, by rw [hms], hx, rfl⟩
          · cases h
        · rintro (⟨h, -⟩ | ⟨hnone, x, w, hms, hx, rfl⟩)
          · cases h
          · obtain ⟨rfl, hnil⟩ := List.cons_eq_cons.mp hms
            exact ⟨some x, ⟨hnone, x, hx, rfl⟩, Or.inl ⟨hnil, rfl⟩⟩
      · simp only [fills_ne field is o key v _ hkey, valuesAt_cons_ne field key v ms hkey]
        constructor
        · rintro ⟨_, rfl, h⟩
          exact (ih _).mp h
        · intro h
          exact ⟨o, rfl, (ih o).mpr h⟩

theorem steps_fills_some {α : Type} (field : String) (is : α → Value → Prop)
    (ms : List (String × Value)) (x : α) :
    Steps (Fills field is) none ms (some x) ↔ ∃ v, valuesAt field ms = [v] ∧ is x v := by
  rw [steps_fills]
  constructor
  · rintro (⟨-, h⟩ | ⟨-, y, v, hms, hy, h⟩)
    · cases h
    · cases h
      exact ⟨v, hms, hy⟩
  · rintro ⟨v, hms, hx⟩
    exact Or.inr ⟨rfl, x, v, hms, hx, rfl⟩

theorem steps_fills_none {α : Type} (field : String) (is : α → Value → Prop)
    (ms : List (String × Value)) :
    Steps (Fills field is) none ms none ↔ valuesAt field ms = [] := by
  rw [steps_fills]
  constructor
  · rintro (⟨hms, -⟩ | ⟨-, x, v, -, -, h⟩)
    · exact hms
    · cases h
  · intro hms
    exact Or.inl ⟨hms, rfl⟩

/-- The fields of a draft are filled independently of each other. -/
theorem steps_takes (d : Draft) (ms : List (String × Value)) (d' : Draft) :
    Steps Takes d ms d'
      ↔ Steps (Fills "status" IsStatus) d.status ms d'.status
        ∧ Steps (Fills "headers" IsHeaders) d.headers ms d'.headers
        ∧ Steps (Fills "data" IsData) d.data ms d'.data := by
  induction ms generalizing d with
  | nil =>
      cases d
      cases d'
      simp only [Steps, Draft.mk.injEq]
  | cons m ms ih =>
      obtain ⟨key, v⟩ := m
      simp only [Steps, ih]
      constructor
      · rintro ⟨d₁, ⟨hstatus, hheaders, hdata⟩, hstatuses, hheaderses, hdatas⟩
        exact ⟨⟨_, hstatus, hstatuses⟩, ⟨_, hheaders, hheaderses⟩, ⟨_, hdata, hdatas⟩⟩
      · rintro ⟨⟨status, hstatus, hstatuses⟩, ⟨headers, hheaders, hheaderses⟩,
          ⟨data, hdata, hdatas⟩⟩
        exact ⟨⟨status, headers, data⟩, ⟨hstatus, hheaders, hdata⟩, hstatuses, hheaderses, hdatas⟩

/-! ## §4. Whole texts. -/

/-- The members that tell a response: its status and data each once, and its headers once or,
if it has none, not at all. -/
structure Tells (ms : List (String × Value)) (r : Response) : Prop where
  status : valuesAt "status" ms = [.number (.whole r.status.toNat)]
  headers : valuesAt "headers" ms = [headerItems r.headers]
    ∨ valuesAt "headers" ms = [] ∧ r.headers = []
  data : valuesAt "data" ms = [r.data]

theorem draft_finish_eq_ok (d : Draft) (s : Bytes) (r : Response) :
    d.finish s = .ok r
      ↔ d.status = some r.status ∧ d.headers.getD [] = r.headers ∧ d.data = some r.data := by
  obtain ⟨status, headers, data⟩ := d
  obtain ⟨status', headers', data'⟩ := r
  cases status with
  | none => simp [Draft.finish]
  | some x =>
      cases data with
      | none => simp [Draft.finish]
      | some v => simp [Draft.finish]

/-- **The fields are told, each once**, where the steps over the members fill a draft that can
be finished. -/
theorem steps_finish_iff (ms : List (String × Value)) (s : Bytes) (r : Response) :
    (∃ d, Steps Takes .empty ms d ∧ d.finish s = .ok r) ↔ Tells ms r ∧ r.data.depth ≤ 126 := by
  constructor
  · rintro ⟨⟨status, headers, data⟩, hsteps, hfinish⟩
    obtain ⟨rfl, hheaders, rfl⟩ := (draft_finish_eq_ok _ s r).mp hfinish
    obtain ⟨hstatuses, hheaderses, hdatas⟩ := (steps_takes _ ms _).mp hsteps
    obtain ⟨_, hstatus, rfl⟩ := (steps_fills_some _ _ ms r.status).mp hstatuses
    obtain ⟨_, hdata, rfl, hdepth⟩ := (steps_fills_some _ _ ms r.data).mp hdatas
    refine ⟨⟨hstatus, ?_, hdata⟩, hdepth⟩
    cases headers with
    | none => exact Or.inr ⟨(steps_fills_none _ _ ms).mp hheaderses, hheaders.symm⟩
    | some hs =>
        obtain ⟨_, hms, rfl⟩ := (steps_fills_some _ _ ms hs).mp hheaderses
        cases hheaders
        exact Or.inl hms
  · rintro ⟨⟨hstatus, hheaders, hdata⟩, hdepth⟩
    have hstatuses := (steps_fills_some "status" IsStatus ms r.status).mpr ⟨_, hstatus, rfl⟩
    have hdatas := (steps_fills_some "data" IsData ms r.data).mpr ⟨_, hdata, rfl, hdepth⟩
    obtain hms | ⟨hms, hnone⟩ := hheaders
    · have hheaderses := (steps_fills_some "headers" IsHeaders ms r.headers).mpr ⟨_, hms, rfl⟩
      exact ⟨⟨some r.status, some r.headers, some r.data⟩,
        (steps_takes _ ms _).mpr ⟨hstatuses, hheaderses, hdatas⟩,
        (draft_finish_eq_ok _ s r).mpr ⟨rfl, rfl, rfl⟩⟩
    · have hheaderses := (steps_fills_none "headers" IsHeaders ms).mpr hms
      exact ⟨⟨some r.status, none, some r.data⟩,
        (steps_takes _ ms _).mpr ⟨hstatuses, hheaderses, hdatas⟩,
        (draft_finish_eq_ok _ s r).mpr ⟨rfl, hnone.symm, rfl⟩⟩

/-- **A response is read from an object exactly where the members tell it**, and its data nest
no deeper than there is room. -/
theorem read_members_iff (ws t ws' : Bytes) (hws : Blank ws) (hws' : Blank ws')
    (ms : List (String × Value)) (hms : MembersSpelling (Spelled 126) false ms t) (r : Response) :
    read (ws ++ 0x7B :: (t ++ ws')) = .ok r ↔ Tells ms r ∧ r.data.depth ≤ 126 := by
  have hmembers : ∀ d rest, Json.members draftField ((t ++ ws').length + 1) false .empty (t ++ ws')
      = .ok (d, rest) ↔ rest = ws' ∧ Steps Takes .empty ms d := fun d rest =>
    Json.members_steps (Spelled 126) draftField Takes draftField_eq_ok false ms t hms _
      (by rw [List.length_append]; omega) .empty ws' d rest
  rw [← steps_finish_iff ms ws', read, Json.skipSpace_cons ws 0x7B _ hws (by decide)]
  show ((readMembers (t ++ ws')).bind fun r => (Json.finish r.2).bind fun _ => .ok r.1) = _ ↔ _
  constructor
  · intro h
    obtain ⟨⟨r', rest⟩, hread, h⟩ := (bind_eq_ok _ _ _).mp h
    obtain ⟨-, -, h⟩ := (bind_eq_ok _ _ _).mp h
    cases h
    obtain ⟨⟨d, rest'⟩, hd, hread⟩ := (bind_eq_ok _ _ _).mp hread
    obtain ⟨x, hx, hread⟩ := (bind_eq_ok _ _ _).mp hread
    cases hread
    obtain ⟨rfl, hsteps⟩ := (hmembers d rest).mp hd
    exact ⟨d, hsteps, hx⟩
  · rintro ⟨d, hsteps, hfinish⟩
    refine (bind_eq_ok _ _ _).mpr ⟨(r, ws'), ?_, (bind_eq_ok _ _ _).mpr
      ⟨(), Json.finish_blank ws' hws', rfl⟩⟩
    exact (bind_eq_ok _ _ _).mpr ⟨(d, ws'), (hmembers d ws').mpr ⟨rfl, hsteps⟩,
      (bind_eq_ok _ _ _).mpr ⟨r, hfinish, rfl⟩⟩

/-- What is read as nothing is a fault. -/
theorem exists_fault (s : Bytes) (h : ∀ r, read s ≠ .ok r) : ∃ fault, read s = .error fault := by
  cases hread : read s with
  | error fault => exact ⟨fault, rfl⟩
  | ok r => exact absurd hread (h r)

/-- **Reading a response does not depend on the layout of its object.**  From an object in any
spelling, with members in any order and any others between them, exactly the response is read
that its fields tell, each once; where the status or the data is missing, a field is told twice,
or the status is no number of 16 bits, nothing is read. -/
theorem layout_independence (ms : List (String × Value)) (s : Bytes)
    (hs : ObjectSpelling 126 ms s) :
    (∀ r, read s = .ok r ↔ Tells ms r)
      ∧ (valuesAt "status" ms = [] ∨ valuesAt "data" ms = []
          ∨ (∃ key ∈ ["status", "headers", "data"], 2 ≤ (valuesAt key ms).length)
          ∨ (∃ v ∈ valuesAt "status" ms, ∀ n : Nat, n < 65536 → v ≠ .number (.whole n)) →
        ∃ fault, read s = .error fault) := by
  have hread : ∀ r, read s = .ok r ↔ Tells ms r := by
    intro r
    obtain ⟨ws, t, ws', hws, hws', hms, rfl⟩ := hs
    have hspelled : MembersSpelling (Spelled 126) false ms t := hms.imp fun v s h => Or.inl h
    rw [read_members_iff ws t ws' hws hws' ms hspelled, and_iff_left_iff_imp]
    -- the data are spelled with the room that there is
    intro htells
    have hmem : r.data ∈ valuesAt "data" ms := by
      rw [htells.data]
      exact List.mem_singleton_self _
    obtain ⟨m, hm, hdata⟩ := List.mem_map.mp hmem
    obtain ⟨u, hu⟩ := Json.exists_of_membersSpelling hms m (List.mem_filter.mp hm).1
    rw [← hdata]
    exact Json.depth_value_le 126 _ _ _
      ((Json.reads_spelling 126).ok m.2 u hu [] [] Json.blank_nil (stops_nil _))
  refine ⟨hread, fun h => exists_fault s fun r hr => ?_⟩
  obtain ⟨hstatus, hheaders, hdata⟩ := (hread r).mp hr
  obtain h | h | ⟨key, hkey, h⟩ | ⟨v, hv, h⟩ := h
  · rw [h] at hstatus
    cases hstatus
  · rw [h] at hdata
    cases hdata
  · -- each field is told once, or not at all
    have hle : (valuesAt key ms).length ≤ 1 := by
      simp only [List.mem_cons, List.not_mem_nil, or_false] at hkey
      obtain rfl | rfl | rfl := hkey
      · rw [hstatus, List.length_singleton]
      · obtain hheaders | ⟨hheaders, -⟩ := hheaders
        · rw [hheaders, List.length_singleton]
        · rw [hheaders]
          exact Nat.zero_le _
      · rw [hdata, List.length_singleton]
    omega
  · rw [hstatus, List.mem_singleton] at hv
    exact h r.status.toNat r.status.toNat_lt hv

/-- Members out of order, with others between them, one of them twice; no headers. -/
def shuffled : List (String × Value) :=
  [("trace", .array [.number (.whole 1)]), ("data", .object [("isSuccess", .bool true)]),
    ("trace", .null), ("status", .number (.whole 200))]

/-- A text that spells them. -/
def shuffledText : String :=
  "\n\x7b\"trace\":[1],\"data\":\x7b\"isSuccess\":true\x7d,\"trace\":null,\"status\":200\x7d "

theorem objectSpelling_shuffled : ObjectSpelling 126 shuffled (bytesOf shuffledText) := by
  have hregular : Json.RegularMembers shuffled :=
    ⟨⟨Json.regular_natural 1 (by decide), trivial⟩, ⟨rfl, trivial, trivial⟩, trivial,
      Json.regular_natural 200 (by decide), trivial⟩
  exact ⟨[0x0A], _, [0x20], Json.blank_singleton 0x0A rfl, Json.blank_singleton 0x20 rfl,
    Json.spelling_members _ _ (Json.spelling_compactMembers shuffled 126 hregular (by decide)),
    by decide⟩

/-- A status too large to be one. -/
def largeStatus : List (String × Value) :=
  [("data", .null), ("status", .number (.whole 65536))]

theorem objectSpelling_largeStatus :
    ObjectSpelling 126 largeStatus (bytesOf "\x7b\"data\":null,\"status\":65536\x7d") := by
  have hregular : Json.RegularMembers largeStatus :=
    ⟨trivial, Json.regular_natural 65536 (by decide), trivial⟩
  exact ⟨[], _, [], Json.blank_nil, Json.blank_nil,
    Json.spelling_members _ _ (Json.spelling_compactMembers largeStatus 126 hregular (by decide)),
    by decide⟩

/-- The response is read from the first text, and none from the second. -/
theorem read_shuffled :
    ObjectSpelling 126 shuffled (bytesOf shuffledText)
    ∧ read (bytesOf shuffledText) = .ok ⟨200, [], .object [("isSuccess", .bool true)]⟩
    ∧ ObjectSpelling 126 largeStatus (bytesOf "\x7b\"data\":null,\"status\":65536\x7d")
    ∧ ∃ fault, read (bytesOf "\x7b\"data\":null,\"status\":65536\x7d") = .error fault := by
  refine ⟨objectSpelling_shuffled, ?_, objectSpelling_largeStatus, ?_⟩
  · exact ((layout_independence shuffled _ objectSpelling_shuffled).1 _).mpr
      ⟨rfl, Or.inr ⟨rfl, rfl⟩, rfl⟩
  · refine (layout_independence largeStatus _ objectSpelling_largeStatus).2 (Or.inr (Or.inr
      (Or.inr ⟨.number (.whole 65536), List.mem_singleton_self _, fun n hn heq => ?_⟩)))
    cases heq
    exact absurd hn (by decide)

/-! ## §5. Printed responses. -/

theorem spelled_compact (limit : Nat) (v : Value) (hv : Regular v) :
    Spelled limit v (Utf8.encode (Json.compact v)) := by
  by_cases hd : v.depth ≤ limit
  · exact Or.inl (Json.spelling_compact v limit hv hd)
  · exact Or.inr ⟨by omega, v.depth, Json.spelling_compact v _ hv (Nat.le_refl _)⟩

theorem regular_headerItems (hs : List (String × String)) : Regular (headerItems hs) := by
  show Json.RegularItems (hs.map _)
  induction hs with
  | nil => trivial
  | cons h hs ih => exact ⟨⟨trivial, trivial, trivial⟩, ih⟩

/-- **A printed response is read back, up to a limit that lies one lower than that of
bodies.**  It is read as itself if its data nest at most 126 deep, and otherwise not at all; a
body can hold data that nest one deeper. -/
theorem read_undoes_text (r : Response) (hr : Regular r.data) :
    (read (bytesOf r.text) = .ok r ↔ r.data.depth ≤ 126)
      ∧ (126 < r.data.depth → ∃ fault, read (bytesOf r.text) = .error fault)
      ∧ (r.data.depth ≤ 127 → ofBody r.status r.headers (bytesOf r.data.text) = r) := by
  have hstatus := Json.regular_natural r.status.toNat (r.status.toNat_lt.trans (by decide))
  have hmembers := Json.spelling_members (Spelled 126) [("status", .number (.whole r.status.toNat)),
    ("headers", headerItems r.headers), ("data", r.data)]
    (List.forall_mem_cons.mpr ⟨spelled_compact 126 _ hstatus, List.forall_mem_cons.mpr
      ⟨spelled_compact 126 _ (regular_headerItems r.headers), List.forall_mem_singleton.mpr
        (spelled_compact 126 _ hr)⟩⟩)
  have hread := read_members_iff [] _ [] Json.blank_nil Json.blank_nil _ hmembers
  rw [List.nil_append, List.append_nil, ← Json.encode_compact_object, ← bytesOf_ofList] at hread
  have htells : ∀ r', Tells [("status", .number (.whole r.status.toNat)),
      ("headers", headerItems r.headers), ("data", r.data)] r' → r'.data = r.data := by
    intro r' h
    exact (List.cons.inj h.data).1.symm
  refine ⟨?_, fun hdeep => exists_fault _ fun r' hr' => ?_, fun hd => ?_⟩
  · refine (hread r).trans ⟨fun h => h.2, fun hd => ⟨⟨rfl, Or.inl rfl, rfl⟩, hd⟩⟩
  · obtain ⟨h, hd⟩ := (hread r').mp hr'
    rw [htells r' h] at hd
    omega
  · unfold ofBody
    rw [Json.dataOfBody_text r.data hr hd]

/-- A response with repeated and empty headers, around so many arrays. -/
def deepResponse (n : Nat) : Response := ⟨200, [("a", ""), ("a", ""), ("", "\n\"")], nestedArrays n⟩

/-- One array more and the response that a body gave cannot be read back. -/
theorem read_deep_responses :
    (Regular (deepResponse 126).data
      ∧ read (bytesOf (deepResponse 126).text) = .ok (deepResponse 126))
    ∧ (Regular (deepResponse 127).data ∧ (deepResponse 127).data.depth = 127
      ∧ ofBody 200 (deepResponse 127).headers (bytesOf (deepResponse 127).data.text)
        = deepResponse 127
      ∧ ∃ fault, read (bytesOf (deepResponse 127).text) = .error fault) := by
  have hdepth := depth_nestedArrays
  refine ⟨⟨regular_nestedArrays 126, ?_⟩, regular_nestedArrays 127, hdepth 127, ?_, ?_⟩
  · exact (read_undoes_text (deepResponse 126) (regular_nestedArrays 126)).1.mpr (hdepth 126).le
  · exact (read_undoes_text (deepResponse 127) (regular_nestedArrays 127)).2.2 (hdepth 127).le
  · exact (read_undoes_text (deepResponse 127) (regular_nestedArrays 127)).2.1 (hdepth 127).ge

end FormUpload.Response
