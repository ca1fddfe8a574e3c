import ServerActions.Proofs.Description.Parts
import ServerActions.Settings.File

/-!
# Settings that cannot be read

Settings come from a file that is given or found.  They list the descriptions of the file, one for
one, or those of the environment where the file has none.  Settings that are not as they should be
are refused as such.  A file that cannot be read is not: its octets may be no text, or its text not
of the form that it should have.  Neither is a mapping with keys that are no names, nor anything
else in the place of the tables of tools.  A mapping that directs more than how the environment is
consulted is left to the library: settings or a failure of any kind may come of it.

## Main definitions

* `Failure.IsConfiguration` — a failure is about settings.
* `Settings.Directs` — a mapping directs more than how the environment is consulted.
* `Settings.Lists` — settings are those of a mapping.
* `Settings.Unreadable`, `Settings.Forbids`, `Settings.NoTable` — what is not refused as settings.
* `Settings.Holds`, `Settings.Chosen` — the mapping that a file holds, and the one that is found.
* `Settings.EscapesFile`, `Settings.Escapes` — why reading them fails, and not about settings.
* `Settings.Accounted` — a result of reading settings is one of these.

## Main results

* `Settings.settings_accounted` — **what reading settings comes to.**
-/

namespace ServerActions

/-- A failure is about settings. -/
def Failure.IsConfiguration (f : Failure) : Prop :=
  ∃ wrong path field, f = .configuration wrong path field

theorem Failure.not_isConfiguration_bare (c : Cause) : ¬ (Failure.bare c).IsConfiguration := by
  rintro ⟨_, _, _, h⟩
  cases h

namespace Settings

open Files (Path)
open Loading (Format)

/-! ### Mappings -/

section

variable {library : Library} {env : Environment} {fs : Fields} {settings : Settings} {v : Value}
  {path : String} {c : Cause}

/-- A mapping directs more than how the environment is consulted. -/
def Directs (fs : Fields) : Prop :=
  ∃ name ∈ directionNames, name ∉ lookupNames ∧ ∃ v, Fields.get? fs name = some v ∧ v ≠ .null

theorem isDirected_iff : isDirected fs = true ↔ Directs fs := by
  have hnull : ∀ v : Value, v.isNull = false ↔ v ≠ .null := by
    intro v
    cases v <;> simp [Value.isNull]
  simp only [isDirected, Directs, direction?, List.any_eq_true, Bool.and_eq_true,
    Bool.not_eq_true', List.contains_eq_mem, decide_eq_false_iff_not, Option.isSome_iff_exists,
    Option.filter_eq_some_iff, hnull]

/-- The documents are the items of a value, read one for one. -/
def Documents (v : Value) (ds : List DocumentSettings) : Prop :=
  ∃ items, v.items? = some items ∧
    List.Forall₂ (fun item d => DocumentSettings.model.read item = .valid d) items ds

/-- The settings are those of a mapping, or of the environment where the mapping has none, or what
the library makes of a mapping that directs it. -/
inductive Lists (library : Library) (env : Environment) (fs : Fields) (settings : Settings) : Prop
  | given {v : Value} (hplain : ¬ Directs fs) (hgiven : given? fs = some v)
    (h : Documents v settings.documents) : Lists library env fs settings
  | fallback {v : Value} (hplain : ¬ Directs fs) (hgiven : given? fs = none)
    (henv : fromEnvironment (.ofFields fs) env = .ok (some v))
    (h : Documents v settings.documents) : Lists library env fs settings
  | directed (hdirects : Directs fs) (h : library fs = .ok (.valid settings)) :
    Lists library env fs settings

/-- What forbids a mapping to be one of settings. -/
inductive Forbids (library : Library) (fs : Fields) : Cause → Prop
  /-- A key is no text. -/
  | kind {f : Key × Value} (hf : f ∈ fs) (h : f.1.str? = none) : Forbids library fs .keyKind
  /-- A key is reserved. -/
  | reserved (htexts : ∀ f ∈ fs, f.1.str? ≠ none) (h : Fields.has fs reservedName = true) :
    Forbids library fs (.reservedKey reservedName)
  /-- The library fails as the mapping directs it. -/
  | directed {c : Cause} (htexts : ∀ f ∈ fs, f.1.str? ≠ none)
    (hreserved : Fields.has fs reservedName = false) (hdirects : Directs fs)
    (h : library fs = .error c) : Forbids library fs c

theorem read_eq_error_iff : read library env fs = .error c ↔ Forbids library fs c := by
  have hkind : (fs.any fun f => f.1.str?.isNone) = true ↔ ∃ f ∈ fs, f.1.str? = none := by
    simp only [List.any_eq_true, Option.isNone_iff_eq_none]
  have hnamed : ¬ (fs.any fun f => f.1.str?.isNone) = true ↔ ∀ f ∈ fs, f.1.str? ≠ none := by
    rw [hkind]
    push Not
    rfl
  unfold read forbidden?
  constructor
  · intro h
    by_cases hany : (fs.any fun f => f.1.str?.isNone) = true
    · rw [if_pos hany] at h
      cases h
      obtain ⟨f, hf, hnone⟩ := hkind.mp hany
      exact .kind hf hnone
    · rw [if_neg hany] at h
      by_cases hreserved : Fields.has fs reservedName = true
      · rw [if_pos hreserved] at h
        cases h
        exact .reserved (hnamed.mp hany) hreserved
      · rw [if_neg hreserved] at h
        dsimp only at h
        split_ifs at h with hdirected
        exact .directed (hnamed.mp hany) (Bool.eq_false_iff.mpr hreserved)
          (isDirected_iff.mp hdirected) h
  · intro h
    cases h with
    | @kind f hf h => rw [if_pos (hkind.mpr ⟨f, hf, h⟩)]
    | reserved htexts h => rw [if_neg (hnamed.mpr htexts), if_pos h]
    | directed htexts hreserved hdirects h =>
      rw [if_neg (hnamed.mpr htexts), if_neg (Bool.eq_false_iff.mp hreserved)]
      exact (if_pos (isDirected_iff.mpr hdirects)).trans h

/-- What a mapping lists is what its value lists, or that of the environment. -/
theorem documents_of_ofFields (h : ofFields env fs = .valid settings) :
    ∃ v, Documents v settings.documents ∧ (given? fs = some v ∨
      given? fs = none ∧ fromEnvironment (.ofFields fs) env = .ok (some v)) := by
  unfold ofFields at h
  cases henv : fromEnvironment (.ofFields fs) env with
  | error c =>
    rw [henv] at h
    exact absurd h Checked.fault_ne_valid
  | ok fallback =>
    simp only [henv] at h
    -- What is not foreseen is checked beside the documents and adds nothing to them.
    obtain ⟨make, _, hmake, -, rfl⟩ :=
      Checked.apply_eq_valid.mp (Fields.eq_valid_of_ifNamed h)
    obtain ⟨ds, hds, rfl⟩ := Checked.map_eq_valid.mp hmake
    cases hvalue : (given? fs).or fallback with
    | none =>
      rw [hvalue] at hds
      exact absurd (Checked.under_eq_valid.mp hds) Checked.fault_ne_valid
    | some v =>
      rw [hvalue] at hds
      refine ⟨v, forall₂_of_toListOf (Checked.under_eq_valid.mp hds), ?_⟩
      cases hgiven : given? fs with
      | some w => exact Or.inl (by rwa [hgiven] at hvalue)
      | none =>
        rw [hgiven, Option.none_or] at hvalue
        exact Or.inr ⟨rfl, by rw [hvalue]⟩

theorem lists_of_read (h : read library env fs = .ok (.valid settings)) :
    Lists library env fs settings := by
  unfold read at h
  split at h
  · cases h
  · split_ifs at h with hdirected
    · exact .directed (isDirected_iff.mp hdirected) h
    · have hplain : ¬ Directs fs := fun hdirects => hdirected (isDirected_iff.mpr hdirects)
      obtain ⟨v, hdocuments, hgiven | ⟨hgiven, henv⟩⟩ := documents_of_ofFields (Except.ok.inj h)
      · exact .given hplain hgiven hdocuments
      · exact .fallback hplain hgiven henv hdocuments

/-- A result of reading settings is what a mapping lists, a failure about settings, or one of
certain others. -/
inductive Accounted (library : Library) (env : Environment) (holds : Fields → Prop)
    (escapes : Cause → Prop) : Except Failure Settings → Prop
  | documents {fs : Fields} {settings : Settings} (hholds : holds fs)
    (hlists : Lists library env fs settings) : Accounted library env holds escapes (.ok settings)
  | configuration {wrong : Misconfiguration} {path field : Option String} :
    Accounted library env holds escapes (.error (.configuration wrong path field))
  | bare {c : Cause} (h : escapes c) : Accounted library env holds escapes (.error (.bare c))

theorem Accounted.imp {holds holds' : Fields → Prop} {escapes escapes' : Cause → Prop}
    {result : Except Failure Settings} (h : Accounted library env holds escapes result)
    (hholds : ∀ fs, holds fs → holds' fs) (hescapes : ∀ c, escapes c → escapes' c) :
    Accounted library env holds' escapes' result := by
  cases h with
  | documents hfs hlists => exact .documents (hholds _ hfs) hlists
  | configuration => exact .configuration
  | bare hc => exact .bare (hescapes _ hc)

/-- The settings in a value are what a mapping lists, or the value is refused as settings, or it is
a mapping with forbidden keys. -/
theorem checkWith_accounted (library : Library) (env : Environment) (path : String) (v : Value) :
    Accounted library env (v.fields? = some ·)
      (fun c => ∃ fs, v.fields? = some fs ∧ Forbids library fs c)
      (checkWith library env path v) := by
  unfold checkWith
  cases hfields : v.fields? with
  | none => exact .configuration
  | some fs =>
    dsimp only
    rcases hread : read library env fs with c | checked
    · exact .bare ⟨fs, rfl, read_eq_error_iff.mp hread⟩
    · cases checked with
      | valid settings => exact .documents rfl (lists_of_read hread)
      | invalid faults => exact .configuration

theorem checkWith_of_forbids (hfields : v.fields? = some fs) (h : Forbids library fs c) :
    checkWith library env path v = .error (.bare c) := by
  unfold checkWith
  rw [hfields]
  dsimp only
  rw [read_eq_error_iff.mpr h]

end

/-! ### Contents -/

section

variable {s : Surroundings} {p : Path} {β : Type} {form : List Char → Except Cause β} {b : β}
  {c : Cause}

/-- What the file at a path holds as a text of some form. -/
def content (s : Surroundings) (p : Path) (form : List Char → Except Cause β) : Except Cause β :=
  match s.tree.read s.cwd p with
  | .error c => .error c
  | .ok octets =>
    match Loading.fileText octets with
    | .error c => .error c
    | .ok text => form text

/-- The file at a path cannot be read as a text of some form. -/
inductive Unreadable (s : Surroundings) (p : Path) (form : List Char → Except Cause β) :
    Cause → Prop
  /-- There is no file that could be opened. -/
  | file {c : Cause} (h : s.tree.read s.cwd p = .error c) : Unreadable s p form c
  /-- Its octets are no text. -/
  | octets {octets : ByteArray} {c : Cause} (hfile : s.tree.read s.cwd p = .ok octets)
    (h : Loading.fileText octets = .error c) : Unreadable s p form c
  /-- The text is not of the form. -/
  | text {octets : ByteArray} {text : List Char} {c : Cause}
    (hfile : s.tree.read s.cwd p = .ok octets) (htext : Loading.fileText octets = .ok text)
    (h : form text = .error c) : Unreadable s p form c

theorem content_eq_error_iff : content s p form = .error c ↔ Unreadable s p form c := by
  unfold content
  constructor
  · intro h
    split at h
    · next hfile =>
      cases h
      exact .file hfile
    · next octets hfile =>
      split at h
      · next htext =>
        cases h
        exact .octets hfile htext
      · next text htext => exact .text hfile htext h
  · intro h
    cases h with
    | file h => rw [h]
    | octets hfile h => simp only [hfile, h]
    | text hfile htext h => simp only [hfile, htext, h]

/-- The text of a file is read as what the file holds. -/
theorem textOf_bind {γ : Type} (f : β → Except Failure γ) :
    (textOf s p >>= fun text => bare (form text) >>= f)
      = match content s p form with
        | .error c => .error (.bare c)
        | .ok b => f b := by
  unfold textOf content
  cases s.tree.read s.cwd p with
  | error c => rfl
  | ok octets =>
    change (bare (Loading.fileText octets) >>= _) = _
    cases htext : Loading.fileText octets with
    | error c => simp only [htext]; rfl
    | ok text =>
      simp only [htext]
      change (bare (form text) >>= f) = _
      cases form text <;> rfl

end

/-! ### Tables -/

/-- A value is no table of tools, and looking for the settings in it fails. -/
inductive NoTable : Value → Prop
  /-- A list with the name of the settings. -/
  | list {vs : List Value} (h : .str settingsTable ∈ vs) : NoTable (.list vs)
  /-- A text in which the name of the settings occurs. -/
  | text {t : String} (h : Text.occursIn settingsTable.toList t.toList = true) : NoTable (.str t)
  /-- Neither a mapping nor a list nor a text. -/
  | other {v : Value} (hmap : ∀ fs, v ≠ .map fs) (hlist : ∀ vs, v ≠ .list vs)
    (htext : ∀ t, v ≠ .str t) : NoTable v

theorem namesSettings_iff {v : Value} : namesSettings v = true ↔ v = .str settingsTable := by
  unfold namesSettings settingsTable
  split <;> simp_all

theorem settingsIn_eq_error_iff {tools : Value} {c : Cause} :
    settingsIn tools = .error c ↔ c = .notTable tools ∧ NoTable tools := by
  have hlist : ∀ vs : List Value, vs.any namesSettings = true ↔ .str settingsTable ∈ vs := by
    intro vs
    simp only [List.any_eq_true, namesSettings_iff, exists_eq_right]
  unfold settingsIn
  split
  · next fs =>
    refine ⟨fun h => (nomatch h), fun ⟨_, h⟩ => ?_⟩
    cases h with
    | other hmap => exact absurd rfl (hmap fs)
  · next vs =>
    split_ifs with hmem
    · have htable : NoTable (.list vs) := .list ((hlist vs).mp hmem)
      exact ⟨fun h => ⟨(Except.error.inj h).symm, htable⟩, fun ⟨h, _⟩ => h ▸ rfl⟩
    · refine ⟨fun h => (nomatch h), fun ⟨_, h⟩ => ?_⟩
      cases h with
      | list h => exact absurd ((hlist vs).mpr h) hmem
      | other _ hlist => exact absurd rfl (hlist vs)
  · next t =>
    split_ifs with hoccurs
    · exact ⟨fun h => ⟨(Except.error.inj h).symm, .text hoccurs⟩, fun ⟨h, _⟩ => h ▸ rfl⟩
    · refine ⟨fun h => (nomatch h), fun ⟨_, h⟩ => ?_⟩
      cases h with
      | text h => exact absurd h hoccurs
      | other _ _ htext => exact absurd rfl (htext t)
  · next hmap hlist htext =>
    exact ⟨fun h => ⟨(Except.error.inj h).symm, .other hmap hlist htext⟩, fun ⟨h, _⟩ => h ▸ rfl⟩

/-! ### Files -/

section

variable {library : Library} {s : Surroundings} {p : Path} {given : Option String} {c : Cause}

theorem isMapping_of_fields {v : Value} {fs : Fields} (h : v.fields? = some fs) :
    v.isMapping = true := by
  cases v <;> first | rfl | cases h

/-- A settings file holds a mapping. -/
def Holds (s : Surroundings) (p : Path) (fs : Fields) : Prop :=
  Loading.exists? s.tree s.cwd p = .ok true ∧
    ∃ v, content s p (fileFormat p).read = .ok v ∧ v.fields? = some fs

/-- Why reading a settings file fails as such. -/
inductive EscapesFile (library : Library) (s : Surroundings) (p : Path) : Cause → Prop
  /-- It cannot be looked for. -/
  | sought {c : Cause} (h : Loading.exists? s.tree s.cwd p = .error c) : EscapesFile library s p c
  /-- It cannot be read. -/
  | unreadable {c : Cause} (hthere : Loading.exists? s.tree s.cwd p = .ok true)
    (h : Unreadable s p (fileFormat p).read c) : EscapesFile library s p c
  /-- It holds a mapping with forbidden keys. -/
  | keys {fs : Fields} {c : Cause} (hholds : Holds s p fs) (h : Forbids library fs c) :
    EscapesFile library s p c

/-- A settings file step by step. -/
theorem fromFile_eq (library : Library) (s : Surroundings) (p : Path) : fromFile library s p =
    match Loading.exists? s.tree s.cwd p with
    | .error c => .error (.bare c)
    | .ok false => .error (.configuration .noSuchFile (some p.text) none)
    | .ok true =>
      match content s p (fileFormat p).read with
      | .error c => .error (.bare c)
      | .ok v =>
        if v.isMapping then checkWith library s.environment p.text v
        else .error (.configuration .notMapping (some p.text) none) := by
  unfold fromFile exists?
  cases Loading.exists? s.tree s.cwd p with
  | error c => rfl
  | ok there =>
    cases there with
    | false => rfl
    | true =>
      refine (textOf_bind _).trans ?_
      cases content s p (fileFormat p).read with
      | error c => rfl
      | ok v =>
        dsimp only
        cases v.isMapping <;> rfl

theorem EscapesFile.fromFile (h : EscapesFile library s p c) :
    fromFile library s p = .error (.bare c) := by
  rw [fromFile_eq]
  cases h with
  | sought h => rw [h]
  | unreadable hthere h => simp only [hthere, content_eq_error_iff.mpr h]
  | keys hholds h =>
    obtain ⟨hthere, v, hcontent, hfields⟩ := hholds
    simp only [hthere, hcontent, isMapping_of_fields hfields, if_true,
      checkWith_of_forbids hfields h]

theorem fromFile_accounted (library : Library) (s : Surroundings) (p : Path) :
    Accounted library s.environment (Holds s p) (EscapesFile library s p)
      (fromFile library s p) := by
  rw [fromFile_eq]
  rcases hthere : Loading.exists? s.tree s.cwd p with c | there
  · exact .bare (.sought hthere)
  cases there with
  | false => exact .configuration
  | true =>
    dsimp only
    rcases hcontent : content s p (fileFormat p).read with c | v
    · exact .bare (.unreadable hthere (content_eq_error_iff.mp hcontent))
    · dsimp only
      split_ifs
      · have hholds : ∀ fs, v.fields? = some fs → Holds s p fs :=
          fun fs hfields => ⟨hthere, v, hcontent, hfields⟩
        exact (checkWith_accounted library s.environment p.text v).imp hholds
          fun c ⟨fs, hfields, hforbids⟩ => .keys (hholds fs hfields) hforbids
      · exact .configuration

/-! ### The project file -/

/-- The value in which a project file has the tables of tools. -/
def toolsOf (fs : Fields) : Value :=
  (Fields.get? fs toolsTable).getD (.map [])

/-- The settings in the project file of the working directory. -/
def inProject (library : Library) (s : Surroundings) : Except Failure Settings :=
  match Loading.exists? s.tree s.cwd (here s projectFile) with
  | .error c => .error (.bare c)
  | .ok false => .error (.configuration .nothingFound none none)
  | .ok true =>
    match content s (here s projectFile) projectFields with
    | .error c => .error (.bare c)
    | .ok fs =>
      match settingsIn (toolsOf fs) with
      | .error c => .error (.bare c)
      | .ok none => .error (.configuration .nothingFound none none)
      | .ok (some v) => checkWith library s.environment (here s projectFile).text v

theorem fromProject_eq (library : Library) (s : Surroundings) (p : Path) :
    fromProject library s p =
    match content s p projectFields with
    | .error c => .error (.bare c)
    | .ok fs =>
      match settingsIn (toolsOf fs) with
      | .error c => .error (.bare c)
      | .ok none => .ok none
      | .ok (some v) => (checkWith library s.environment p.text v).map some := by
  refine (textOf_bind _).trans ?_
  cases content s p projectFields with
  | error c => rfl
  | ok fs =>
    dsimp only
    change (bare (settingsIn (toolsOf fs)) >>= _) = _
    rcases settingsIn (toolsOf fs) with c | found
    · rfl
    · cases found with
      | none => rfl
      | some v =>
        change (checkWith library s.environment p.text v >>= _)
          = (checkWith library s.environment p.text v).map some
        cases checkWith library s.environment p.text v <;> rfl

/-- The settings are looked for step by step. -/
theorem findWith_eq (library : Library) (s : Surroundings) (given : Option String) :
    findWith library s given =
    match given.filter (· ≠ "") with
    | some path => fromFile library s (.ofText path)
    | none =>
      match firstThere s (fileNames.map (here s)) with
      | .error e => .error e
      | .ok (some p) => fromFile library s p
      | .ok none => inProject library s := by
  unfold findWith
  -- The file given, then the first file that is there, then the project file; each may fail.
  cases given.filter (· ≠ "") with
  | some path => rfl
  | none =>
    dsimp only
    rcases firstThere s (fileNames.map (here s)) with e | found
    · rfl
    · cases found with
      | some p => rfl
      | none =>
        unfold inProject exists?
        rcases Loading.exists? s.tree s.cwd (here s projectFile) with c | there
        · rfl
        · cases there with
          | false => rfl
          | true =>
            change (fromProject library s (here s projectFile) >>= _) = _
            rw [fromProject_eq]
            dsimp only
            rcases content s (here s projectFile) projectFields with c | fs
            · rfl
            · dsimp only
              rcases settingsIn (toolsOf fs) with c | found
              · rfl
              · cases found with
                | none => rfl
                | some v =>
                  dsimp only
                  cases checkWith library s.environment (here s projectFile).text v <;> rfl

/-- The project file holds a mapping of settings. -/
def HoldsProject (s : Surroundings) (fs : Fields) : Prop :=
  Loading.exists? s.tree s.cwd (here s projectFile) = .ok true ∧
    ∃ top v, content s (here s projectFile) projectFields = .ok top ∧
      settingsIn (toolsOf top) = .ok (some v) ∧ v.fields? = some fs

/-- Why reading the project file fails as such. -/
inductive EscapesProject (library : Library) (s : Surroundings) : Cause → Prop
  /-- It cannot be looked for. -/
  | sought {c : Cause} (h : Loading.exists? s.tree s.cwd (here s projectFile) = .error c) :
    EscapesProject library s c
  /-- It cannot be read. -/
  | unreadable {c : Cause} (hthere : Loading.exists? s.tree s.cwd (here s projectFile) = .ok true)
    (h : Unreadable s (here s projectFile) projectFields c) : EscapesProject library s c
  /-- It holds something else where the tables of tools are looked for. -/
  | table {top : Fields} (hthere : Loading.exists? s.tree s.cwd (here s projectFile) = .ok true)
    (hcontent : content s (here s projectFile) projectFields = .ok top)
    (h : NoTable (toolsOf top)) : EscapesProject library s (.notTable (toolsOf top))
  /-- It holds a mapping of settings with forbidden keys. -/
  | keys {fs : Fields} {c : Cause} (hholds : HoldsProject s fs) (h : Forbids library fs c) :
    EscapesProject library s c

theorem EscapesProject.inProject (h : EscapesProject library s c) :
    inProject library s = .error (.bare c) := by
  unfold Settings.inProject
  cases h with
  | sought h => rw [h]
  | unreadable hthere h => simp only [hthere, content_eq_error_iff.mpr h]
  | table hthere hcontent h =>
    simp only [hthere, hcontent, settingsIn_eq_error_iff.mpr ⟨rfl, h⟩]
  | keys hholds h =>
    obtain ⟨hthere, top, v, hcontent, hsettings, hfields⟩ := hholds
    simp only [hthere, hcontent, hsettings, checkWith_of_forbids hfields h]

theorem inProject_accounted (library : Library) (s : Surroundings) :
    Accounted library s.environment (HoldsProject s) (EscapesProject library s)
      (inProject library s) := by
  unfold inProject
  rcases hthere : Loading.exists? s.tree s.cwd (here s projectFile) with c | there
  · exact .bare (.sought hthere)
  cases there with
  | false => exact .configuration
  | true =>
    dsimp only
    rcases hcontent : content s (here s projectFile) projectFields with c | top
    · exact .bare (.unreadable hthere (content_eq_error_iff.mp hcontent))
    · dsimp only
      rcases hsettings : settingsIn (toolsOf top) with c | found
      · obtain ⟨rfl, htable⟩ := settingsIn_eq_error_iff.mp hsettings
        exact .bare (.table hthere hcontent htable)
      cases found with
      | none => exact .configuration
      | some v =>
        have hholds : ∀ fs, v.fields? = some fs → HoldsProject s fs :=
          fun fs hfields => ⟨hthere, top, v, hcontent, hsettings, hfields⟩
        exact (checkWith_accounted library s.environment (here s projectFile).text v).imp hholds
          fun c ⟨fs, hfields, hforbids⟩ => .keys (hholds fs hfields) hforbids

/-! ### Finding settings -/

/-- The mapping in the file that is given, or else in the first file of the working directory, or
else in the project file. -/
inductive Chosen (s : Surroundings) (given : Option String) (fs : Fields) : Prop
  | given {path : String} (hgiven : given.filter (· ≠ "") = some path)
    (h : Holds s (.ofText path) fs) : Chosen s given fs
  | here {p : Path} (hnone : given.filter (· ≠ "") = none)
    (hfirst : firstThere s (fileNames.map (here s)) = .ok (some p)) (h : Holds s p fs) :
    Chosen s given fs
  | project (hnone : given.filter (· ≠ "") = none)
    (hfirst : firstThere s (fileNames.map (here s)) = .ok none) (h : HoldsProject s fs) :
    Chosen s given fs

/-- Why finding settings fails as such: because of the file that is given, because the files of the
working directory cannot be looked for, or because of the first of these or the project file. -/
inductive Escapes (library : Library) (s : Surroundings) (given : Option String) : Cause → Prop
  | given {path : String} {c : Cause} (hgiven : given.filter (· ≠ "") = some path)
    (h : EscapesFile library s (.ofText path) c) : Escapes library s given c
  | sought {c : Cause} (hnone : given.filter (· ≠ "") = none)
    (h : firstThere s (fileNames.map (here s)) = .error (.bare c)) : Escapes library s given c
  | here {p : Path} {c : Cause} (hnone : given.filter (· ≠ "") = none)
    (hfirst : firstThere s (fileNames.map (here s)) = .ok (some p))
    (h : EscapesFile library s p c) : Escapes library s given c
  | project {c : Cause} (hnone : given.filter (· ≠ "") = none)
    (hfirst : firstThere s (fileNames.map (here s)) = .ok none)
    (h : EscapesProject library s c) : Escapes library s given c

/-- A file that cannot be looked for is the only reason why the first one is not found. -/
theorem firstThere_error {ps : List Path} {e : Failure} (h : firstThere s ps = .error e) :
    ∃ c, e = .bare c := by
  induction ps with
  | nil => cases h
  | cons p ps ih =>
    have hstep : firstThere s (p :: ps) = match Loading.exists? s.tree s.cwd p with
        | .error c => .error (.bare c)
        | .ok true => .ok (some p)
        | .ok false => firstThere s ps := by
      change (bare (Loading.exists? s.tree s.cwd p) >>= _) = _
      rcases Loading.exists? s.tree s.cwd p with c | there
      · rfl
      · cases there <;> rfl
    rw [hstep] at h
    split at h
    · next c _ => exact ⟨c, (Except.error.inj h).symm⟩
    · cases h
    · exact ih h

theorem Escapes.findWith (h : Escapes library s given c) :
    findWith library s given = .error (.bare c) := by
  rw [findWith_eq]
  cases h with
  | given hgiven h => simp only [hgiven, h.fromFile]
  | sought hnone h => simp only [hnone, h]
  | here hnone hfirst h => simp only [hnone, hfirst, h.fromFile]
  | project hnone hfirst h => simp only [hnone, hfirst, h.inProject]

theorem findWith_accounted (library : Library) (s : Surroundings) (given : Option String) :
    Accounted library s.environment (Chosen s given) (Escapes library s given)
      (findWith library s given) := by
  rw [findWith_eq]
  cases hgiven : given.filter (· ≠ "") with
  | some path =>
    dsimp only
    exact (fromFile_accounted library s (.ofText path)).imp (fun _ => .given hgiven)
      fun _ => .given hgiven
  | none =>
    dsimp only
    rcases hfirst : firstThere s (fileNames.map (here s)) with e | found
    · obtain ⟨c, rfl⟩ := firstThere_error hfirst
      exact .bare (.sought hgiven hfirst)
    · cases found with
      | some p =>
        dsimp only
        exact (fromFile_accounted library s p).imp (fun _ => .here hgiven hfirst)
          fun _ => .here hgiven hfirst
      | none =>
        dsimp only
        exact (inProject_accounted library s).imp (fun _ => .project hgiven hfirst)
          fun _ => .project hgiven hfirst

/-- Without any variables the documents are those of the mapping itself, unless it directs more. -/
theorem Lists.given_of_nil {fs : Fields} {settings : Settings} (h : Lists library [] fs settings)
    (hplain : ¬ Directs fs) : ∃ v, given? fs = some v ∧ Documents v settings.documents := by
  cases h with
  | given _ hgiven h => exact ⟨_, hgiven, h⟩
  | fallback _ _ henv _ =>
    unfold fromEnvironment at henv
    split at henv <;> cases henv
  | directed hdirects _ => exact absurd hdirects hplain

/-- **What reading settings comes to**, whatever the library makes of directions.  Settings that are
read from a file, given or found, are those that its mapping lists, read one for one, or those of
the environment where the mapping has none, or those of the library where the mapping directs it.
All failures are about settings, but for those of a file that cannot be read, of a mapping with
forbidden keys, of a library that fails as it is directed, and of anything in the place of tables;
these always come as they are. -/
theorem settings_accounted (library : Library) (s : Surroundings) :
    (∀ p, Accounted library s.environment (Holds s p) (EscapesFile library s p)
        (fromFile library s p) ∧
        ∀ c, EscapesFile library s p c → fromFile library s p = .error (.bare c)) ∧
      (∀ given, Accounted library s.environment (Chosen s given) (Escapes library s given)
          (findWith library s given) ∧
        ∀ c, Escapes library s given c → findWith library s given = .error (.bare c)) ∧
      (s.environment = [] → ∀ fs settings, Lists library s.environment fs settings →
        ¬ Directs fs → ∃ v, given? fs = some v ∧ Documents v settings.documents) := by
  refine ⟨fun p => ⟨fromFile_accounted library s p, fun c h => h.fromFile⟩,
    fun given => ⟨findWith_accounted library s given, fun c h => h.findWith⟩,
    fun henv fs settings h hplain => ?_⟩
  rw [henv] at h
  exact h.given_of_nil hplain

end

/-- A directory with settings for two descriptions, with a text that is cut short and with a project
file in which a number stands for the tables of tools. -/
def mixedSettings : Surroundings where
  tree := ⟨[
    (["two.json"], .file ("\x7b\"documents\": [\x7b\"source\": \"a\", \"output\": \"x\"\x7d, "
      ++ "\x7b\"source\": \"b\", \"output\": \"y\"\x7d]\x7d").toUTF8),
    (["cut.json"], .file "\x7b".toUTF8), (["pyproject.toml"], .file "tool = 5".toUTF8)]⟩
  cwd := []
  environment := []

/-- The file with two descriptions directs nothing. -/
theorem not_directs_mixedSettings {fs : Fields} (h : Chosen mixedSettings (some "two.json") fs) :
    ¬ Directs fs := by
  have hdirected : ((content mixedSettings (.ofText "two.json") Format.json.read).toOption.bind
      Value.fields?).map isDirected = some false := by decide +kernel
  cases h with
  | @given path hgiven h =>
    obtain rfl : "two.json" = path := Option.some.inj hgiven
    obtain ⟨-, v, hcontent, hfields⟩ := h
    have hformat : fileFormat (.ofText "two.json") = .json := by decide
    rw [hformat] at hcontent
    rw [hcontent, Except.toOption, Option.bind_some, hfields] at hdirected
    exact fun hdirects => Bool.false_ne_true
      ((Option.some.inj hdirected).symm.trans (isDirected_iff.mpr hdirects))
  | here hnone _ _ => cases hnone
  | project hnone _ _ => cases hnone

/-- Two descriptions are read in order. -/
theorem settings_accounted_two :
    let settings : Settings := ⟨[.ofSource "a" "x", .ofSource "b" "y"]⟩
    (findWith (.plain []) mixedSettings (some "two.json")).toOption = some settings ∧
      ∃ fs v, Chosen mixedSettings (some "two.json") fs ∧ given? fs = some v ∧
        Documents v settings.documents := by
  intro settings
  have hfind : (findWith (.plain []) mixedSettings (some "two.json")).toOption = some settings := by
    decide +kernel
  obtain ⟨-, hfound, hempty⟩ := settings_accounted (.plain []) mixedSettings
  obtain ⟨haccounted, -⟩ := hfound (some "two.json")
  cases hresult : findWith (.plain []) mixedSettings (some "two.json") with
  | error e =>
    rw [hresult] at hfind
    cases hfind
  | ok found =>
    rw [hresult] at hfind haccounted
    obtain rfl := Option.some.inj hfind
    cases haccounted with
    | @documents fs _ hchosen hlists =>
      obtain ⟨v, hgiven, hdocuments⟩ :=
        hempty rfl fs _ hlists (not_directs_mixedSettings hchosen)
      exact ⟨rfl, fs, v, hchosen, hgiven, hdocuments⟩

theorem exists_not_isConfiguration {result : Except Failure Settings}
    (h : (result matches .error (.bare _)) = true) :
    ∃ e, result = .error e ∧ ¬ e.IsConfiguration := by
  split at h
  · exact ⟨_, rfl, Failure.not_isConfiguration_bare _⟩
  · cases h

/-- A text that is no JSON and a number in the place of tables are failures, and not about
settings. -/
theorem mixedSettings_escapes :
    (∃ e, find mixedSettings (some "cut.json") = .error e ∧ ¬ e.IsConfiguration) ∧
      ∃ e, find mixedSettings none = .error e ∧ ¬ e.IsConfiguration :=
  ⟨exists_not_isConfiguration (by decide +kernel), exists_not_isConfiguration (by decide +kernel)⟩

end Settings

end ServerActions
