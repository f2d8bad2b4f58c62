import FormUpload.Proofs.FileTree.Walking

/-!
# Places

A path is read twice: the tree is walked along it, and the file name is cut out of it.  Both
readings are held against a third, which needs neither a stack nor a filter.  A place is the
names of a file or directory from the root on, and `Leads` says where components lead from a
place:

    walk_of_leads       the walk goes where the components lead
    leads_of_walk       and reaches files nowhere else
    read_eq_ok_iff      what is read is the file that the path leads to
    fileName_of_leads   that file is in its directory under the last component
    part_follows_path   the part is made of the place alone
-/

namespace FormUpload.FileTree

open FormUpload.Text

/-! ## §1. Where components lead. -/

section Leading

variable (root : FileTree)

/-- What is at a place, given by its names, the innermost first. -/
def at? : List Bytes → Option FileTree
  | [] => some root
  | name :: above =>
      match at? above with
      | some (.directory entries) => child? name entries
      | _ => none

/-- There is a directory at a place. -/
def IsDirectory (place : List Bytes) : Prop :=
  ∃ entries, root.at? place = some (.directory entries)

/-- A component that can be the name of something. -/
def Nameable (component : Bytes) : Prop :=
  IsName component ∧ component.length ≤ componentLimit ∧ 0 ∉ component

instance : DecidablePred Nameable := fun component =>
  inferInstanceAs (Decidable ((component ≠ [] ∧ component ≠ [dot] ∧ component ≠ [dot, dot])
    ∧ component.length ≤ componentLimit ∧ 0 ∉ component))

/-- **Where components lead** from a place.  Nothing leads out of the root. -/
inductive Leads : (place : List Bytes) → (components : List Bytes) → (goal : List Bytes) → Prop
  /-- No components. -/
  | done (place : List Bytes) : Leads place [] place
  /-- A component that is empty or a dot, in a directory. -/
  | stay {place component components goal} (hstays : component = [] ∨ component = [dot])
      (hdirectory : root.IsDirectory place) (h : Leads place components goal) :
      Leads place (component :: components) goal
  /-- A double dot, in a directory below the root. -/
  | back {name above components goal} (hdirectory : root.IsDirectory (name :: above))
      (h : Leads above components goal) :
      Leads (name :: above) ([dot, dot] :: components) goal
  /-- The name of something that is there. -/
  | enter {place name components goal} (hname : Nameable name)
      (hthere : (root.at? (name :: place)).isSome) (h : Leads (name :: place) components goal) :
      Leads place (name :: components) goal

/-- **A path leads to a file** with the given place and content. -/
def LeadsToFile (path : Bytes) (place : List Bytes) (content : Bytes) : Prop :=
  Leads root [] (betweenSlashes slash path) place ∧ root.at? place = some (.file content)

end Leading

variable {root : FileTree}

/-- What has a name is in a directory. -/
theorem directory_of_at? {name : Bytes} {above : List Bytes} {t : FileTree}
    (h : root.at? (name :: above) = some t) :
    ∃ entries, root.at? above = some (.directory entries) ∧ child? name entries = some t := by
  rw [at?] at h
  split at h
  · next entries hat => exact ⟨entries, hat, h⟩
  · cases h

/-- Components that lead somewhere have no NUL octet. -/
theorem nul_notMem_of_leads {place components goal : List Bytes}
    (h : Leads root place components goal) : ∀ c ∈ components, 0 ∉ c := by
  induction h with
  | done place => exact fun c hc => absurd hc List.not_mem_nil
  | stay hstays _ _ ih =>
      refine List.forall_mem_cons.mpr ⟨?_, ih⟩
      rcases hstays with rfl | rfl <;> decide
  | back _ _ ih => exact List.forall_mem_cons.mpr ⟨by decide, ih⟩
  | enter hname _ _ ih => exact List.forall_mem_cons.mpr ⟨hname.2.2, ih⟩

/-- **The last component to a file is its name.** -/
theorem fileName_of_leads {place components goal : List Bytes} {content : Bytes}
    (h : Leads root place components goal) (hgoal : root.at? goal = some (.file content))
    (hcomponents : components ≠ []) :
    ∃ fileName above, goal = fileName :: above ∧ components.getLast? = some fileName
      ∧ Nameable fileName := by
  induction h with
  | done place => exact absurd rfl hcomponents
  | @stay place component components goal _ hdirectory hrest ih =>
      cases components with
      | nil =>
          -- the walk ends in a directory
          cases hrest
          obtain ⟨entries, hat⟩ := hdirectory
          rw [hat] at hgoal
          cases hgoal
      | cons c cs =>
          rw [List.getLast?_cons_cons]
          exact ih hgoal (List.cons_ne_nil c cs)
  | @back name above components goal hdirectory hrest ih =>
      cases components with
      | nil =>
          cases hrest
          obtain ⟨entries, hat⟩ := hdirectory
          obtain ⟨entries', habove, -⟩ := directory_of_at? hat
          rw [habove] at hgoal
          cases hgoal
      | cons c cs =>
          rw [List.getLast?_cons_cons]
          exact ih hgoal (List.cons_ne_nil c cs)
  | @enter place name components goal hname hthere hrest ih =>
      cases components with
      | nil =>
          cases hrest
          exact ⟨name, place, rfl, rfl, hname⟩
      | cons c cs =>
          rw [List.getLast?_cons_cons]
          exact ih hgoal (List.cons_ne_nil c cs)

/-! ## §2. The stack of a place. -/

/-- The stack with which a walk is at a place.  Above the root there is the directory around
it. -/
def stackAt (root : FileTree) : List Bytes → List FileTree
  | [] => [root, root.around]
  | name :: above => (root.at? (name :: above)).toList ++ stackAt root above

theorem stackAt_cons {name : Bytes} {above : List Bytes} {t : FileTree}
    (h : root.at? (name :: above) = some t) :
    root.stackAt (name :: above) = t :: root.stackAt above := by
  rw [stackAt, h, Option.toList_some, List.singleton_append]

/-- On top of the stack is what is at the place, and above that the way to it. -/
theorem stackAt_eq_cons {place : List Bytes} {t : FileTree} (h : root.at? place = some t) :
    root.stackAt place = t :: (root.stackAt place).tail := by
  cases place with
  | nil =>
      cases h
      rfl
  | cons name above => rw [stackAt_cons h, List.tail_cons]

/-- Below the root there is always something to go back to. -/
theorem isEmpty_stackAt (place : List Bytes) : (root.stackAt place).isEmpty = false := by
  induction place with
  | nil => rfl
  | cons name above ih =>
      rw [List.isEmpty_eq_false_iff] at ih ⊢
      exact List.append_ne_nil_of_right_ne_nil _ ih

/-- **The walk goes where the components lead.** -/
theorem walk_of_leads {place components goal : List Bytes}
    (h : Leads root place components goal) :
    walk (root.stackAt place) components = .ok (root.stackAt goal) := by
  induction h with
  | done place => rfl
  | @stay place component components goal hstays hdirectory _ ih =>
      obtain ⟨entries, hat⟩ := hdirectory
      have hstep : step (root.stackAt place) component = .ok (root.stackAt place) := by
        rw [stackAt_eq_cons hat, step, if_pos hstays]
      rw [walk, hstep]
      exact ih
  | @back name above components goal hdirectory _ ih =>
      obtain ⟨entries, hat⟩ := hdirectory
      have hstep : step (root.stackAt (name :: above)) [dot, dot] = .ok (root.stackAt above) := by
        rw [stackAt_cons hat, step, if_neg (by decide), if_pos rfl, isEmpty_stackAt]
        rfl
      rw [walk, hstep]
      exact ih
  | @enter place name components goal hname hthere _ ih =>
      obtain ⟨t, ht⟩ := Option.isSome_iff_exists.mp hthere
      obtain ⟨entries, hat, hchild⟩ := directory_of_at? ht
      obtain ⟨⟨hempty, hdot, hback⟩, hlength, -⟩ := hname
      have hstep : step (root.stackAt place) name = .ok (root.stackAt (name :: place)) := by
        rw [stackAt_cons ht, stackAt_eq_cons hat, step, if_neg (not_or.mpr ⟨hempty, hdot⟩),
          if_neg hback, if_neg (Nat.not_lt.mpr hlength)]
        simp only [hchild]
      rw [walk, hstep]
      exact ih

/-- **A step is one that leads on**, or it goes out of the tree. -/
theorem leads_of_step {place : List Bytes} {component : Bytes} {next : List FileTree}
    (hplace : (root.at? place).isSome) (hnul : 0 ∉ component)
    (h : step (root.stackAt place) component = .ok next) :
    next = [root.around] ∨ ∃ further, next = root.stackAt further ∧ (root.at? further).isSome
      ∧ ∀ components goal, Leads root further components goal
        → Leads root place (component :: components) goal := by
  obtain ⟨t, hat⟩ := Option.isSome_iff_exists.mp hplace
  cases t with
  | file content =>
      rw [stackAt_eq_cons hat] at h
      cases h
  | directory entries =>
      have hdirectory : root.IsDirectory place := ⟨entries, hat⟩
      have hstack := stackAt_eq_cons hat
      rw [hstack, step] at h
      split at h
      · next hstays =>
        cases h
        exact Or.inr ⟨place, hstack.symm, hplace, fun cs goal => Leads.stay hstays hdirectory⟩
      · next hstays =>
        obtain ⟨hempty, hdot⟩ := not_or.mp hstays
        split at h
        · next hback =>
          subst hback
          cases place with
          | nil =>
              cases h
              exact Or.inl rfl
          | cons name above =>
              obtain ⟨entries', habove, -⟩ := directory_of_at? hat
              rw [stackAt_cons hat, List.tail_cons, isEmpty_stackAt] at h
              cases h
              refine Or.inr ⟨above, rfl, ?_, fun cs goal => Leads.back hdirectory⟩
              rw [habove]
              rfl
        · next hback =>
          split at h
          · cases h
          · next hlength =>
            split at h
            · next t ht =>
              cases h
              have hthere : root.at? (component :: place) = some t := by
                rw [at?, hat]
                exact ht
              refine Or.inr ⟨component :: place, by rw [stackAt_cons hthere, ← hstack], ?_,
                fun cs goal => Leads.enter
                  ⟨⟨hempty, hdot, hback⟩, Nat.le_of_not_lt hlength, hnul⟩ ?_⟩
              all_goals rw [hthere]; rfl
            · cases h

/-- Outside of the tree there are no files. -/
theorem walk_outside (components : List Bytes) (next : List FileTree)
    (hnul : ∀ c ∈ components, 0 ∉ c) (h : walk [root.around] components = .ok next) :
    next = [root.around] := by
  induction components with
  | nil =>
      cases h
      rfl
  | cons c cs ih =>
      obtain ⟨hc, hcs⟩ := List.forall_mem_cons.mp hnul
      rw [walk] at h
      cases hstep : step [root.around] c with
      | error code =>
          rw [hstep] at h
          cases h
      | ok between =>
          rw [hstep] at h
          obtain ⟨entries, above, hstack, hcases⟩ := step_cases _ between c hstep
          cases hstack
          rcases hcases with ⟨-, rfl | ⟨hback, -⟩⟩ | ⟨-, -, t, ht, -⟩
          · exact ih hcs h
          · exact absurd rfl hback
          -- the only name out there can not be spelled
          · have hne : unspelled ≠ c := by
              rintro rfl
              exact hc (by decide)
            rw [child?, if_neg hne] at ht
            cases ht

/-- **A walk that reaches a file goes where the components lead.** -/
theorem leads_of_walk {place components : List Bytes} {content : Bytes} {above : List FileTree}
    (hplace : (root.at? place).isSome) (hnul : ∀ c ∈ components, 0 ∉ c)
    (h : walk (root.stackAt place) components = .ok (.file content :: above)) :
    ∃ goal, Leads root place components goal ∧ root.at? goal = some (.file content) := by
  induction components generalizing place with
  | nil =>
      obtain ⟨t, hat⟩ := Option.isSome_iff_exists.mp hplace
      rw [walk, stackAt_eq_cons hat] at h
      cases h
      exact ⟨place, .done place, hat⟩
  | cons c cs ih =>
      obtain ⟨hc, hcs⟩ := List.forall_mem_cons.mp hnul
      rw [walk] at h
      cases hstep : step (root.stackAt place) c with
      | error code =>
          rw [hstep] at h
          cases h
      | ok next =>
          rw [hstep] at h
          change walk next cs = _ at h
          rcases leads_of_step hplace hc hstep with rfl | ⟨further, rfl, hfurther, hleads⟩
          · cases walk_outside cs _ hcs h
          · obtain ⟨goal, hgoal, hfile⟩ := ih hfurther hcs h
            exact ⟨goal, hleads cs goal hgoal, hfile⟩

/-! ## §3. What is read. -/

/-- An octet of a path is a slash or is in a component. -/
theorem mem_iff_mem_betweenSlashes (path : Bytes) (b : UInt8) (hb : b ≠ slash) :
    b ∈ path ↔ ∃ c ∈ betweenSlashes slash path, b ∈ c := by
  induction path with
  | nil => simp [betweenSlashes]
  | cons a path ih =>
      rw [betweenSlashes, List.mem_cons, ih]
      split
      · next ha => simp [ha, hb]
      · split
        · next hnil => exact absurd hnil (betweenSlashes_ne_nil path)
        · next piece pieces hpieces =>
          rw [hpieces]
          simp [or_assoc]

/-- A relative path is walked from the root of the tree, wherever that is. -/
theorem resolve_relative {path : Bytes} (hrelative : path.head? ≠ some slash)
    (hshort : path.length < pathLimit) (hpath : path ≠ []) :
    root.alone.resolve path = walk (root.stackAt []) (betweenSlashes slash path) := by
  unfold FileSystem.resolve FileSystem.components
  rw [if_neg hpath, if_neg (Nat.not_le.mpr hshort), if_neg hrelative]
  rfl

/-- **What is read is the file that the path leads to.** -/
theorem read_eq_ok_iff {path content : Bytes} (hrelative : path.head? ≠ some slash)
    (hshort : path.length < pathLimit) :
    root.read path = .ok content ↔ ∃ place, root.LeadsToFile path place content := by
  have hnul : path.contains 0 = false
      ↔ ∀ c ∈ betweenSlashes slash path, (0 : UInt8) ∉ c := by
    rw [← Bool.not_eq_true, List.contains_iff_mem,
      mem_iff_mem_betweenSlashes path 0 (by decide)]
    simp only [not_exists, not_and]
  constructor
  · intro h
    have hzero : ∀ c ∈ betweenSlashes slash path, (0 : UInt8) ∉ c := by
      refine hnul.mp (Bool.eq_false_iff.mpr fun hcontains => ?_)
      rw [read, FileSystem.read, if_pos hcontains] at h
      cases h
    obtain ⟨above, hresolve⟩ := root.alone.resolve_of_read path content h
    have hpath : path ≠ [] := by
      rintro rfl
      cases hresolve
    rw [resolve_relative hrelative hshort hpath] at hresolve
    exact leads_of_walk rfl hzero hresolve
  · rintro ⟨place, hleads, hfile⟩
    have hzero := hnul.mpr (nul_notMem_of_leads hleads)
    have hpath : path ≠ [] := by
      rintro rfl
      -- the only component of an empty path is empty
      obtain ⟨fileName, above, -, hlast, hname⟩ :=
        fileName_of_leads hleads hfile (List.cons_ne_nil _ _)
      exact hname.1.1 (Option.some.inj hlast).symm
    have hresolve : root.alone.resolve path
        = .ok (.file content :: (root.stackAt place).tail) := by
      rw [resolve_relative hrelative hshort hpath, ← stackAt_eq_cons hfile]
      exact walk_of_leads hleads
    rw [read, FileSystem.read, hzero, if_neg Bool.false_ne_true]
    simp only [hresolve]

/-- The part of the file that a path leads to. -/
theorem part_of_leads {path content : Bytes} {place : List Bytes} (name : String)
    (hrelative : path.head? ≠ some slash) (hshort : path.length < pathLimit)
    (h : root.LeadsToFile path place content) :
    ∃ fileName above, place = fileName :: above
      ∧ (betweenSlashes slash path).getLast? = some fileName ∧ IsName fileName
      ∧ root.part name path = .ok (.file name (stringLossy fileName)
        (some (MediaType.guess (stringLossy fileName))) content) := by
  obtain ⟨fileName, above, hplace, hlast, hname⟩ :=
    fileName_of_leads h.1 h.2 (betweenSlashes_ne_nil path)
  have hcut : fileName? slash dot path = some fileName := by
    obtain ⟨cs, hcs⟩ := List.getLast?_eq_some_iff.mp hlast
    exact fileName?_of_isName path fileName cs hcs hname.1
  have hread := (read_eq_ok_iff hrelative hshort).mpr ⟨place, h⟩
  obtain ⟨fileName', hcut', hpart⟩ :=
    partFrom_of_read root.alone.named_read name path content hread
  obtain rfl : fileName = fileName' := Option.some.inj (hcut.symm.trans hcut')
  exact ⟨fileName, above, hplace, hlast, hname.1, hpart⟩

/-- **A part follows the path and nothing else.**  Where a relative path leads to a file, the
part has the name that was given, the last component as its file name, the type that this
stands for, and the content of the file; every other spelling of the place gives the same
part.  Where it leads to no file, the failure has the path as it was given.  No readable path
is without a file name. -/
theorem part_follows_path (root : FileTree) (name : String) (path : Bytes)
    (hrelative : path.head? ≠ some slash) (hshort : path.length < pathLimit) :
    (∀ place content, root.LeadsToFile path place content →
      (∃ fileName above, place = fileName :: above
        ∧ (betweenSlashes slash path).getLast? = some fileName ∧ IsName fileName
        ∧ root.part name path = .ok (.file name (stringLossy fileName)
          (some (MediaType.guess (stringLossy fileName))) content))
      ∧ ∀ spelling : Bytes, spelling.head? ≠ some slash → spelling.length < pathLimit
        → Leads root [] (betweenSlashes slash spelling) place
        → root.part name spelling = root.part name path)
    ∧ ((¬ ∃ place content, root.LeadsToFile path place content) →
      ∃ fault, root.part name path = .error (.unreadable path fault))
    ∧ ∀ message, root.part name path ≠ .error (.custom message) := by
  refine ⟨fun place content h => ?_, fun hnowhere => ?_, fun message hcustom => ?_⟩
  · obtain ⟨fileName, above, hplace, hlast, hname, hpart⟩ :=
      part_of_leads name hrelative hshort h
    refine ⟨⟨fileName, above, hplace, hlast, hname, hpart⟩, fun spelling hrel hsh hleads => ?_⟩
    obtain ⟨fileName', above', hplace', -, -, hpart'⟩ :=
      part_of_leads name hrel hsh ⟨hleads, h.2⟩
    obtain ⟨rfl, -⟩ := List.cons.inj (hplace.symm.trans hplace')
    rw [hpart, hpart']
  · cases hread : root.read path with
    | ok content =>
        obtain ⟨place, h⟩ := (read_eq_ok_iff hrelative hshort).mp hread
        exact absurd ⟨place, content, h⟩ hnowhere
    | error fault => exact ⟨fault, partFrom_of_unreadable name path fault hread⟩
  · obtain ⟨fault, -, hfault⟩ :=
      (partFrom_eq_error_iff root.alone.named_read name path _).mp hcustom
    cases hfault

/-- A working directory with `jobs/a.jar` in it. -/
def jobsTree : FileTree :=
  .directory [(Utf8.encode "jobs".toList,
    .directory [(Utf8.encode "a.jar".toList, .file [0x50, 0x4B])])]

/-- Two spellings of the jar in `jobsTree`, and one that asks for more than a file. -/
theorem jar_by_two_spellings :
    jobsTree.part "jar" (Utf8.encode "jobs/a.jar".toList)
        = .ok (.file "jar" (stringLossy (Utf8.encode "a.jar".toList))
          (some (MediaType.guess (stringLossy (Utf8.encode "a.jar".toList)))) [0x50, 0x4B])
      ∧ jobsTree.part "jar" (Utf8.encode "jobs//./../jobs/a.jar".toList)
        = jobsTree.part "jar" (Utf8.encode "jobs/a.jar".toList)
      ∧ ∃ fault, jobsTree.part "jar" (Utf8.encode "jobs/a.jar/.".toList)
        = .error (.unreadable (Utf8.encode "jobs/a.jar/.".toList) fault) := by
  have hdirect : jobsTree.LeadsToFile (Utf8.encode "jobs/a.jar".toList)
      [Utf8.encode "a.jar".toList, Utf8.encode "jobs".toList] [0x50, 0x4B] :=
    ⟨.enter (by decide) rfl (.enter (by decide) rfl (.done _)), rfl⟩
  have hroundabout : Leads jobsTree []
      (betweenSlashes slash (Utf8.encode "jobs//./../jobs/a.jar".toList))
      [Utf8.encode "a.jar".toList, Utf8.encode "jobs".toList] :=
    .enter (by decide) rfl (.stay (.inl rfl) ⟨_, rfl⟩ (.stay (.inr rfl) ⟨_, rfl⟩
      (.back ⟨_, rfl⟩ (.enter (by decide) rfl (.enter (by decide) rfl (.done _))))))
  have hnowhere : ¬ ∃ place content,
      jobsTree.LeadsToFile (Utf8.encode "jobs/a.jar/.".toList) place content := by
    rintro ⟨place, content, hleads, hfile⟩
    obtain ⟨fileName, above, -, hlast, hname⟩ :=
      fileName_of_leads hleads hfile (betweenSlashes_ne_nil _)
    exact hname.1.2.1 (Option.some.inj hlast).symm
  have hjar := part_follows_path jobsTree "jar" (Utf8.encode "jobs/a.jar".toList)
    (by decide) (by decide)
  obtain ⟨⟨fileName, above, hplace, -, -, hpart⟩, hspelling⟩ := hjar.1 _ _ hdirect
  obtain ⟨rfl, -⟩ := List.cons.inj hplace
  exact ⟨hpart, hspelling _ (by decide) (by decide) hroundabout,
    (part_follows_path jobsTree "jar" (Utf8.encode "jobs/a.jar/.".toList)
      (by decide) (by decide)).2.1 hnowhere⟩

end FormUpload.FileTree
