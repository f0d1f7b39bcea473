import CardInventory.Proofs.Settings.Document

/-!
# The variable of the database

The variable that gives the address of a database is laid over everything else that settings are
read from, and takes no part in the settings of the service. The table it is put into and the one
in whose section the address is written are read to the same settings, with the database at that
address.
-/

namespace CardInventory.Settings

open Setting

variable {entries : List (String × Setting)} {draft : Draft}

/-! ## The variable among the others -/

/-- Whether a variable is that of the database. -/
def isDatabaseVariable (name : String) : Bool :=
  String.ofList ((Text.trimChars name.toList).map Char.toLower) = databaseVariable

/-- An environment without the variable of the database. -/
def withoutDatabase (environment : Environment) : Environment :=
  environment.filter fun given => !isDatabaseVariable given.1

/-- The text that the variable of the database gives; of several the last one counts. -/
def databaseText? (environment : Environment) : Option String :=
  ((environment.filter fun given => isDatabaseVariable given.1).getLast?).bind
    fun given => (readText (Literal.parse given.2)).toOption

/-- The settings of the variables of the service. -/
def serviceSettings (environment : Environment) : List Setting :=
  environment.filterMap fun (name, value) => ofServiceVariable? name value

theorem pathOf_ne_nil (cs : List Char) : pathOf cs ≠ [] := by
  unfold pathOf
  split
  · exact List.cons_ne_nil _ _
  · exact List.cons_ne_nil _ _
  · split <;> exact List.cons_ne_nil _ _
  · exact List.cons_ne_nil _ _

/-- A variable of the service sets something in a table. -/
theorem table_of_mem_serviceSettings {environment : Environment} {setting : Setting}
    (member : setting ∈ serviceSettings environment) : ∃ entries, setting = .table entries := by
  obtain ⟨⟨name, value⟩, -, sets⟩ := List.mem_filterMap.mp member
  simp only [ofServiceVariable?] at sets
  split at sets
  · rw [settingOf?] at sets
    split at sets
    · cases sets
    · obtain rfl := Option.some.inj sets
      generalize path : pathOf _ = parts
      cases parts with
      | nil => exact absurd path (pathOf_ne_nil _)
      | cons part rest => exact ⟨_, rfl⟩
  · cases sets

/-- The variable of the database is none of the service. -/
theorem ofServiceVariable?_of_database {name : String} (database : isDatabaseVariable name = true)
    (value : String) : ofServiceVariable? name value = none := by
  have same : String.ofList ((Text.trimChars name.toList).map Char.toLower) = databaseVariable :=
    of_decide_eq_true database
  have lower : (Text.trimChars name.toList).map Char.toLower = databaseVariable.toList := by
    rw [← same, String.toList_ofList]
  have other : variableStem.isPrefixOf databaseVariable.toList = false := by decide +kernel
  rw [ofServiceVariable?]
  simp only [lower, other, Bool.false_eq_true, if_false]

theorem serviceSettings_withoutDatabase (environment : Environment) :
    serviceSettings (withoutDatabase environment) = serviceSettings environment := by
  rw [serviceSettings, withoutDatabase, List.filterMap_filter, serviceSettings]
  refine List.filterMap_congr fun (name, value) _ => ?_
  cases database : isDatabaseVariable name with
  | true => simp [ofServiceVariable?_of_database database]
  | false => simp

theorem ofDatabaseVariable?_eq (name value : String) :
    ofDatabaseVariable? name value =
      if isDatabaseVariable name then some (.table [(databaseVariable, Literal.parse value)])
      else none := by
  have named : (databaseVariable.toList.isEmpty || false) = false := by decide +kernel
  simp only [ofDatabaseVariable?, isDatabaseVariable, settingOf?, List.any_cons, List.any_nil,
    named, List.map_cons, List.map_nil, String.ofList_toList, nested, decide_eq_true_eq]
  rfl

/-- The values of the variable of the database. -/
def databaseValues (environment : Environment) : List Setting :=
  (environment.filter fun given => isDatabaseVariable given.1).map fun given =>
    Literal.parse given.2

theorem databaseSettings_eq (environment : Environment) :
    (environment.filterMap fun (name, value) => ofDatabaseVariable? name value) =
      (databaseValues environment).map fun value => .table [(databaseVariable, value)] := by
  rw [databaseValues]
  induction environment with
  | nil => rfl
  | cons given rest ih =>
      obtain ⟨name, value⟩ := given
      rw [List.filterMap_cons, List.filter_cons, ih]
      dsimp only
      rw [ofDatabaseVariable?_eq]
      cases isDatabaseVariable name <;> rfl

theorem databaseValues_withoutDatabase (environment : Environment) :
    databaseValues (withoutDatabase environment) = [] := by
  simp [databaseValues, withoutDatabase, List.filter_filter]

/-- A value that can be read as a text takes the place of whatever it is laid over. -/
theorem overlay_of_readText {value : Setting} {text : String} (read : readText value = .ok text)
    (base : Setting) : base.overlay value = value := by
  refine overlay_of_ne_table base fun entries same => ?_
  rw [same] at read
  cases read

/-- What the values of the variable of the database leave of a table: the last of them, if it can be
read as a text, and everything else as it was. -/
theorem foldl_databaseValues {kept : List (String × Setting)} (ascending : Ascending kept)
    (values : List Setting) :
    ∃ entries, (values.map fun value => Setting.table [(databaseVariable, value)]).foldl
        Setting.overlay (.table kept) = .table entries ∧ Ascending entries ∧
      (∀ name, name ≠ databaseVariable → lookup? name entries = lookup? name kept) ∧
      ∀ value text, values.getLast? = some value → readText value = .ok text →
        lookup? databaseVariable entries = some value := by
  induction values generalizing kept with
  | nil => exact ⟨kept, rfl, ascending, fun _ _ => rfl, fun _ _ last => by cases last⟩
  | cons first rest ih =>
      obtain ⟨joined, laid, merged⟩ := overlayEntries_cons kept databaseVariable first []
      rw [overlayEntries] at laid
      obtain ⟨entries, folded, ascending', others, last⟩ :=
        ih (ascending.putEntry databaseVariable joined)
      refine ⟨entries, ?_, ascending', fun name other => ?_, fun value text final read => ?_⟩
      · rw [List.map_cons, List.foldl_cons, Setting.overlay, laid, folded]
      · rw [others name other, lookup?_putEntry, if_neg other]
      · cases rest with
        | nil =>
            cases folded
            obtain rfl : first = value := by simpa using final
            rw [lookup?_putEntry, if_pos rfl, merged]
            cases lookup? databaseVariable kept with
            | none => rfl
            | some base => exact congrArg some (overlay_of_readText read base)
        | cons second others' => exact last value text final read

/-- The values of the variable of the database are laid over the settings of the service. -/
theorem ofEnvironment_eq (environment : Environment) :
    ofEnvironment environment =
      ((databaseValues environment).map fun value =>
        Setting.table [(databaseVariable, value)]).foldl Setting.overlay
          ((serviceSettings environment).foldl Setting.overlay .empty) := by
  rw [ofEnvironment, databaseSettings_eq, List.foldl_append]
  rfl

/-- The tables of an environment with and without the variable of the database. -/
theorem ofEnvironment_database (environment : Environment) :
    ∃ services entries, ofEnvironment (withoutDatabase environment) = .table services ∧
      ofEnvironment environment = .table entries ∧ Ascending services ∧ Ascending entries ∧
      (∀ name, name ≠ databaseVariable → lookup? name entries = lookup? name services) ∧
      ∀ url, databaseText? environment = some url → ∃ value, readText value = .ok url ∧
        lookup? databaseVariable entries = some value := by
  have tables : ∀ setting ∈ serviceSettings environment, ∃ entries, setting = .table entries :=
    fun setting member => table_of_mem_serviceSettings member
  obtain ⟨services, served, ascending⟩ := foldl_overlay ascending_nil tables
  obtain ⟨entries, folded, ascending', others, last⟩ :=
    foldl_databaseValues ascending (databaseValues environment)
  refine ⟨services, entries, ?_, ?_, ascending, ascending', others, fun url given => ?_⟩
  · rw [ofEnvironment_eq, databaseValues_withoutDatabase, serviceSettings_withoutDatabase]
    exact served
  · rw [ofEnvironment_eq, ← folded, ← served]
    rfl
  · obtain ⟨latest, final, text⟩ := Option.bind_eq_some_iff.mp given
    have read : readText (Literal.parse latest.2) = .ok url := eq_ok_of_toOption text
    refine ⟨_, read, last _ url ?_ read⟩
    rw [databaseValues, List.getLast?_map, final]
    rfl

/-! ## Reading with the variable of the database -/

/-- Settings that are read from tables which say the same but for the database are the same but for
it. -/
theorem Drafted.eq_of_agree {entries' : List (String × Setting)} {draft' : Draft}
    (drafted : Drafted entries draft) (drafted' : Drafted entries' draft')
    (same : ∀ name, name ≠ "database" → name ≠ databaseVariable →
      lookup? name entries = lookup? name entries') (backend : Backend) :
    { draft.toSettings with backend := backend } =
      { draft'.toSettings with backend := backend } := by
  have under {α : Type} {name : String} {read : Reading α} {default value value' : α}
      (first : readUnder name read default entries = .ok value)
      (second : readUnder name read default entries' = .ok value')
      (other : name ≠ "database") (other' : name ≠ databaseVariable) : value = value' :=
    Except.ok.inj (first.symm.trans ((readUnder_congr (same name other other')).trans second))
  have host := under drafted.host drafted'.host (by decide) (by decide)
  have port := under drafted.port drafted'.port (by decide) (by decide)
  have capacity := under drafted.defaultCapacity drafted'.defaultCapacity (by decide) (by decide)
  have cors := under drafted.cors drafted'.cors (by decide) (by decide)
  have traces := under drafted.exportsTraces drafted'.exportsTraces (by decide) (by decide)
  simp only [host, port, capacity, cors, traces]

theorem readable_database {described : Setting} {backend : Backend}
    (read : readBackend described = .ok backend) :
    Readable draftFields ("database", described) := by
  intro draft
  refine ⟨{ draft with backend := backend }, ?_⟩
  change within "database" ((readBackend described).map _) = _
  rw [read]
  rfl

theorem readOptional_of_readText {value : Setting} {url : String}
    (read : readText value = .ok url) : readOptional readText value = .ok (some url) := by
  cases value with
  | absent => cases read
  | _ =>
      rw [readOptional, read]
      · rfl
      · simp

theorem readable_databaseUrl {value : Setting} {url : String} (read : readText value = .ok url) :
    Readable draftFields (databaseVariable, value) := by
  intro draft
  refine ⟨{ draft with databaseUrl := some url }, ?_⟩
  change within databaseVariable ((readOptional readText value).map _) = _
  rw [readOptional_of_readText read]
  rfl

theorem readEntry_database {described : Setting} {fault : Fault}
    (failed : readBackend described = .error fault) (draft : Draft) :
    readEntry draftFields draft ("database", described) =
      .error { fault with path := "database" :: fault.path } := by
  change within "database" ((readBackend described).map _) = _
  rw [failed]
  rfl

/-- A table of settings gives the address of the database on its own, and says otherwise the same as
another one but for the address in the section of the database. -/
structure Selects (url : String) (entries entries' : List (String × Setting)) : Prop where
  ascending : Ascending entries
  ascending' : Ascending entries'
  others : ∀ name, name ≠ "database" → name ≠ databaseVariable →
    lookup? name entries = lookup? name entries'
  database : Option.Rel SameButUrl (lookup? "database" entries) (lookup? "database" entries')
  address : ∃ value, readText value = .ok url ∧ lookup? databaseVariable entries = some value

namespace Selects

variable {url : String} {entries' : List (String × Setting)} {draft' : Draft}

/-- Everything but the section of the database can be read if it can be in the other table. -/
theorem readable (selects : Selects url entries entries')
    (read : readDraft (.table entries') = .ok draft') {entry : String × Setting}
    (member : entry ∈ entries) (other : entry.1 ≠ "database") : Readable draftFields entry := by
  obtain ⟨name, value⟩ := entry
  have found := selects.ascending.lookup?_eq_some_iff.mpr member
  by_cases own : name = databaseVariable
  · subst own
    obtain ⟨address, text, given⟩ := selects.address
    obtain rfl := Option.some.inj (found.symm.trans given)
    exact readable_databaseUrl text
  · rw [selects.others name other own] at found
    exact readable_of_foldlM uniform_draftFields read _ (mem_of_lookup? found)

/-- Where the section of the database can be read, the settings can, with the address. -/
theorem readDraft_eq_ok (selects : Selects url entries entries')
    (read : readDraft (.table entries') = .ok draft') {backend : Backend}
    (described : readUnder "database" readBackend .memory entries = .ok backend) :
    ∃ draft, readDraft (.table entries) = .ok draft ∧
      draft.effectiveBackend = .postgres url (backend.pool?.getD .standard) ∧
      ∀ other, { draft.toSettings with backend := other } =
        { draft'.toSettings with backend := other } := by
  have readable : ∀ entry ∈ entries, Readable draftFields entry := by
    intro entry member
    by_cases own : entry.1 = "database"
    · obtain ⟨name, value⟩ := entry
      obtain rfl : name = "database" := own
      rw [readUnder, selects.ascending.lookup?_eq_some_iff.mpr member] at described
      exact readable_database described
    · exact selects.readable read member own
  obtain ⟨draft, done⟩ := foldlM_of_readable readable { standard with databaseUrl := none }
  have drafted := drafted_of_readDraft selects.ascending done
  refine ⟨draft, done, ?_, fun other => drafted.eq_of_agree
    (drafted_of_readDraft selects.ascending' read) selects.others other⟩
  have storage : draft.backend = backend := Except.ok.inj (drafted.backend.symm.trans described)
  have own : draft.databaseUrl = some url := by
    obtain ⟨address, text, given⟩ := selects.address
    have stands := drafted.databaseUrl
    rw [readUnder, show lookup? "database_url" entries = some address from given] at stands
    exact Except.ok.inj (stands.symm.trans (readOptional_of_readText text))
  rw [Draft.effectiveBackend, own, storage]

/-- Where the section of the database cannot be read, the settings cannot. -/
theorem readDraft_eq_error (selects : Selects url entries entries')
    (read : readDraft (.table entries') = .ok draft') {described : Setting} {fault : Fault}
    (found : lookup? "database" entries = some described)
    (failed : readBackend described = .error fault) :
    readDraft (.table entries) = .error { fault with path := "database" :: fault.path } := by
  obtain ⟨before, rest, rfl⟩ := List.append_of_mem (mem_of_lookup? found)
  refine foldlM_eq_error (fun entry earlier => ?_) (readEntry_database failed) _
  refine selects.readable read (List.mem_append_left _ earlier) fun own => ?_
  -- The section of the database stands in the table once.
  have distinct := selects.ascending.nodup
  rw [List.map_append, List.map_cons] at distinct
  have apart := (List.nodup_append.mp distinct).2.2 entry.1 (List.mem_map_of_mem earlier)
    "database" List.mem_cons_self
  exact apart own

/-- The section of the database is read unless it lacks the address, and the settings are not if it
does. -/
theorem reads (selects : Selects url entries entries')
    (read : readDraft (.table entries') = .ok draft') :
    match (lookup? "database" entries).bind urlFault? with
    | none => ∃ backend, readUnder "database" readBackend .memory entries = .ok backend ∧
        backend.pool? = draft'.backend.pool?
    | some cause => readDraft (.table entries) = .error ⟨cause, ["database"]⟩ := by
  have related := selects.database
  have storage := (drafted_of_readDraft selects.ascending' read).backend
  cases found : lookup? "database" entries with
  | none =>
      rw [found] at related
      generalize other : lookup? "database" entries' = written at related
      cases related
      rw [readUnder, other] at storage
      refine ⟨.memory, ?_, ?_⟩
      · rw [readUnder, found]
        rfl
      · rw [← Except.ok.inj storage]
        rfl
  | some described =>
      rw [found] at related
      generalize other : lookup? "database" entries' = written at related
      cases related with
      | some same =>
          rw [readUnder, other] at storage
          have reads := readsAs_of_same same storage
          rw [ReadsAs] at reads
          rw [Option.bind_some]
          cases lacks : urlFault? described with
          | none =>
              rw [lacks] at reads
              rw [readUnder, found]
              exact reads
          | some cause =>
              rw [lacks] at reads
              exact selects.readDraft_eq_error read found reads

end Selects

end CardInventory.Settings
