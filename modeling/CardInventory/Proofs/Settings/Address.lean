import CardInventory.Proofs.Settings.Variable

/-!
# The address of the database on its own

The variable of the database selects it after the settings have been read. So a section of the type
of a database has to give an address of its own, although it is never used; nothing else of the
section is lost, and no other setting changes. The settings that hold have no place for an address
on its own: it is part of their storage.
-/

namespace CardInventory.Settings

open Setting

open Inventory (bind_eq_ok_iff)

variable {entries : List (String × Setting)} {draft : Draft}

/-- The table of the settings that a document and an environment write. -/
def merged (document : Option Json) (environment : Environment) : Except Fault Setting :=
  (documentTable document).map fun base => base.overlay (ofEnvironment environment)

/-- What a document and an environment say of the database. -/
def databaseSection? (document : Option Json) (environment : Environment) : Option Setting :=
  match merged document environment with
  | .ok (.table entries) => lookup? "database" entries
  | _ => none

section Load

variable {document : Option Json} {environment : Environment} {settings : Settings}
  {url : String} {written : Setting}

theorem read_eq (document : Option Json) (environment : Environment) :
    read document environment = do
      let draft ← readDraft (← merged document environment)
      return { draft.toSettings with backend := draft.effectiveBackend } := by
  rw [read, merged]
  cases documentTable document <;> rfl

theorem read_eq_ok_iff :
    read document environment = .ok settings ↔
      ∃ written, merged document environment = .ok written ∧
        ∃ draft, readDraft written = .ok draft ∧
          { draft.toSettings with backend := draft.effectiveBackend } = settings := by
  simp only [read_eq, bind_eq_ok_iff, pure, Except.pure, Except.ok.injEq]

theorem load_eq_ok_iff :
    load document environment = .ok settings ↔
      read document environment = .ok settings ∧ settings.flaw? = none := by
  rw [load]
  cases read document environment with
  | error fault => simp
  | ok found =>
      cases flawed : found.flaw? with
      | none =>
          simp only [flawed, Except.ok.injEq]
          exact ⟨fun same => ⟨same, same ▸ flawed⟩, fun loaded => loaded.1⟩
      | some flaw =>
          simp only [flawed, Except.ok.injEq, reduceCtorEq, false_iff, not_and]
          rintro rfl
          simp [flawed]

theorem load_eq_error {fault : Fault} (table : merged document environment = .ok written)
    (failed : readDraft written = .error fault) :
    load document environment = .error (.unfit fault) := by
  have unread : read document environment = .error fault := by
    rw [read_eq, table]
    change readDraft written >>= _ = _
    rw [failed]
    rfl
  rw [load, unread]

/-- The settings of the connections of a sound storage let it have some. -/
theorem connections_of_sound (sound : backendFlaw? draft.effectiveBackend = none) :
    (draft.backend.pool?.getD .standard).maxConnections ≠ 0 := by
  cases storage : draft.backend with
  | memory => exact Nat.succ_ne_zero 9
  | postgres url pool =>
      have effective : ∃ url', draft.effectiveBackend = .postgres url' pool := by
        rw [Draft.effectiveBackend, storage]
        cases draft.databaseUrl with
        | none => exact ⟨url, rfl⟩
        | some url' => exact ⟨url', rfl⟩
      obtain ⟨url', effective⟩ := effective
      rw [effective, backendFlaw?] at sound
      split at sound
      · cases sound
      · split at sound
        · cases sound
        · rename_i some_connections
          exact some_connections

/-- Settings are sound if their capacity, their storage and their port are. -/
theorem flaw?_eq_none_iff :
    settings.flaw? = none ↔
      1 ≤ settings.defaultCapacity ∧ backendFlaw? settings.backend = none ∧ settings.port ≠ 0 := by
  rw [Settings.flaw?]
  by_cases capacity : settings.defaultCapacity < 1
  · simp [capacity]
  · rw [if_neg capacity]
    cases backendFlaw? settings.backend with
    | some flaw => simp
    | none =>
        simp only [ite_eq_right_iff, reduceCtorEq, imp_false, true_and]
        exact ⟨fun port => ⟨by omega, port⟩, fun sound => sound.2⟩

/-- The tables of a document with the variable of the database, without it, and with the address
written into the section of the database in its place. -/
theorem merged_withUrl (given : databaseText? environment = some url)
    (read : merged (document.map (withUrl url)) (withoutDatabase environment) = .ok written) :
    ∃ entries plain entries', merged document environment = .ok (.table entries) ∧
      merged document (withoutDatabase environment) = .ok (.table plain) ∧
      written = .table entries' ∧ Selects url entries entries' ∧ Ascending plain ∧
      ∀ name, name ≠ databaseVariable → lookup? name entries = lookup? name plain := by
  obtain ⟨document', table', rfl⟩ : ∃ document',
      documentTable (document.map (withUrl url)) = .ok document' ∧
        document'.overlay (ofEnvironment (withoutDatabase environment)) = written := by
    rw [merged] at read
    cases table' : documentTable (document.map (withUrl url)) with
    | error fault =>
        rw [table'] at read
        cases read
    | ok document' =>
        rw [table'] at read
        exact ⟨document', rfl, Except.ok.inj read⟩
  obtain ⟨kept, kept', table, rfl, ascending, ascending', agree⟩ := documentTable_withUrl table'
  obtain ⟨services, own, without, whole, servicesAscending, ownAscending, others, last⟩ :=
    ofEnvironment_database environment
  have same : ∀ name, name ≠ databaseVariable →
      lookup? name (overlayEntries kept own) = lookup? name (overlayEntries kept services) := by
    intro name other
    rw [lookup?_overlayEntries _ _ ownAscending, lookup?_overlayEntries _ _ servicesAscending,
      others name other]
  have agree' := agree.overlayEntries servicesAscending
  have selects : Selects url (overlayEntries kept own) (overlayEntries kept' services) := {
    ascending := ascending.overlayEntries own
    ascending' := ascending'.overlayEntries services
    others := fun name other other' => (same name other').trans (agree'.others name other)
    database := by
      rw [same "database" (by decide)]
      exact agree'.database
    address := by
      obtain ⟨value, text, found⟩ := last url given
      refine ⟨value, text, ?_⟩
      rw [lookup?_overlayEntries _ _ ownAscending, found]
      cases lookup? databaseVariable kept with
      | none => rfl
      | some base => exact congrArg some (overlay_of_readText text base) }
  refine ⟨_, _, _, ?_, ?_, ?_, selects, ascending.overlayEntries services, same⟩
  · rw [merged, table, whole, Except.map, Setting.overlay]
  · rw [merged, table, without, Except.map, Setting.overlay]
  · rw [without, Setting.overlay]

/-- Where the section of the database can be read, the settings hold with the database at the
address. -/
theorem Selects.load_eq_ok {entries' : List (String × Setting)} {draft' : Draft} {backend : Backend}
    (selects : Selects url entries entries')
    (table : merged document environment = .ok (.table entries))
    (filled : Text.isBlankText url = false) (read : readDraft (.table entries') = .ok draft')
    (sound : { draft'.toSettings with backend := draft'.effectiveBackend }.flaw? = none)
    (described : readUnder "database" readBackend .memory entries = .ok backend)
    (pooled : backend.pool? = draft'.backend.pool?) :
    load document environment =
      .ok { draft'.toSettings with backend := .postgres url (backend.pool?.getD .standard) } := by
  obtain ⟨draft, done, effective, parts⟩ := selects.readDraft_eq_ok read described
  obtain ⟨capacity, storage, port⟩ := flaw?_eq_none_iff.mp sound
  have connects := connections_of_sound storage
  rw [← pooled] at connects
  refine load_eq_ok_iff.mpr ⟨read_eq_ok_iff.mpr ⟨_, table, draft, done, ?_⟩,
    flaw?_eq_none_iff.mpr ⟨capacity, ?_, port⟩⟩
  · rw [effective]
    exact parts _
  · rw [backendFlaw?, if_neg (by simp [filled]), if_neg connects]

end Load

/-- The variable of the database selects it, with the address it gives, and changes nothing else.
Let the settings be sound where the address is written into the section of the database, if there is
one of this type, and the variable is left out. With the variable they are what they are without it
but for the storage, which is the database at this address with the settings of its connections if
the section describes a database, and with the standard ones if it does not. Only beside a section
of the type of a database that lacks an address are there no settings: the section is read before
the variable is looked at. -/
theorem database_variable_selects {document : Option Json} {environment : Environment}
    {url : String} {base : Settings} (given : databaseText? environment = some url)
    (filled : Text.isBlankText url = false)
    (loads : load (document.map (withUrl url)) (withoutDatabase environment) = .ok base) :
    (match (databaseSection? document environment).bind urlFault? with
      | none => ∃ backend,
          (databaseSection? document environment).elim (.ok .memory) readBackend = .ok backend ∧
            load document environment =
              .ok { base with backend := .postgres url (backend.pool?.getD .standard) }
      | some cause => load document environment = .error (.unfit ⟨cause, ["database"]⟩)) ∧
      ∀ plain, load document (withoutDatabase environment) = .ok plain →
        (databaseSection? document environment).bind urlFault? = none ∧
          { base with backend := plain.backend } = plain := by
  obtain ⟨readBase, sound⟩ := load_eq_ok_iff.mp loads
  obtain ⟨_, writes, draft', drafting', rfl⟩ := read_eq_ok_iff.mp readBase
  obtain ⟨entries, bare, entries', table, without, rfl, selects, ascending, same⟩ :=
    merged_withUrl given writes
  have described : databaseSection? document environment = lookup? "database" entries := by
    rw [databaseSection?, table]
  rw [described]
  refine ⟨?_, fun plain loadsPlain => ?_⟩
  · have reads := selects.reads drafting'
    cases lacks : (lookup? "database" entries).bind urlFault? with
    | none =>
        rw [lacks] at reads
        obtain ⟨backend, read, pooled⟩ := reads
        exact ⟨backend, read, selects.load_eq_ok table filled drafting' sound read pooled⟩
    | some cause =>
        rw [lacks] at reads
        exact load_eq_error table reads
  · obtain ⟨readPlain, -⟩ := load_eq_ok_iff.mp loadsPlain
    obtain ⟨_, without', draft, drafting, rfl⟩ := read_eq_ok_iff.mp readPlain
    obtain rfl := Except.ok.inj (without.symm.trans without')
    have drafted := drafted_of_readDraft ascending drafting
    refine ⟨?_, (drafted_of_readDraft selects.ascending' drafting').eq_of_agree drafted
      (fun name other other' => (selects.others name other other').symm.trans (same name other')) _⟩
    rw [same "database" (by decide)]
    cases found : lookup? "database" bare with
    | none => rfl
    | some described =>
        have storage := drafted.backend
        rw [readUnder, found] at storage
        exact urlFault?_eq_none_of_readBackend storage

/-- A document in which a database is described without its address. -/
def bareSection : Json :=
  .object [("database",
    .object [("type", .text "postgres"), ("pool", .object [("max_connections", .integer 3)])])]

/-- Beside a section without an address the variable is no use, and beside one with another address
it is: the settings of the connections are those of the section. -/
theorem variable_beside_section :
    load (some bareSection) [("DATABASE_URL", "postgres://db/x")] =
        .error (.unfit ⟨.missingField, ["database"]⟩) ∧
      load (some (withUrl "postgres://db/y" bareSection)) [("DATABASE_URL", "postgres://db/x")] =
        .ok { standard with
          backend := .postgres "postgres://db/x"
            { PoolSettings.standard with maxConnections := 3 } } := by
  have given : databaseText? [("DATABASE_URL", "postgres://db/x")] = some "postgres://db/x" := by
    decide +kernel
  have filled : Text.isBlankText "postgres://db/x" = false := by decide +kernel
  refine ⟨(@database_variable_selects (some bareSection) _ _ _ given filled rfl).1, ?_⟩
  obtain ⟨backend, described, loaded⟩ := (@database_variable_selects
    (some (withUrl "postgres://db/y" bareSection)) _ _ _ given filled rfl).1
  cases described
  exact loaded

end CardInventory.Settings
