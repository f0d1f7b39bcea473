import CardInventory.Proofs.Inventory.Arguments
import CardInventory.Settings.Load
import Mathlib.Data.List.Nodup
import Mathlib.Data.String.Basic
import Mathlib.Order.Basic

/-!
# Tables of settings

What stands under a name after a value has been put into a table, or after a table has
been laid over another one. The entries of a table stay in the order of their names, so
that each name occurs once and a record that is read from them depends only on what
stands under its names.
-/

namespace CardInventory

namespace Setting

variable {name other : String} {value : Setting} {entries kept : List (String × Setting)}

/-! ## What stands under a name -/

@[simp]
theorem lookup?_nil (name : String) : lookup? name [] = none :=
  rfl

theorem lookup?_cons (name other : String) (value : Setting) (rest : List (String × Setting)) :
    lookup? name ((other, value) :: rest) =
      if other = name then some value else lookup? name rest := by
  by_cases same : other = name <;> simp [lookup?, same]

theorem mem_of_lookup? (found : lookup? name entries = some value) : (name, value) ∈ entries := by
  obtain ⟨⟨other, value'⟩, first, same⟩ := Option.map_eq_some_iff.mp found
  obtain rfl : other = name := by simpa using List.find?_some first
  exact same ▸ List.mem_of_find?_eq_some first

theorem lookup?_eq_none (missing : ∀ value, (name, value) ∉ entries) :
    lookup? name entries = none := by
  cases found : lookup? name entries with
  | none => rfl
  | some value => exact absurd (mem_of_lookup? found) (missing value)

/-- Under a name stands what has been put there last. -/
theorem lookup?_putEntry (name other : String) (value : Setting) (kept : List (String × Setting)) :
    lookup? other (putEntry name value kept) =
      if other = name then some value else lookup? other kept := by
  induction kept with
  | nil => simp only [putEntry, lookup?_cons, eq_comm]
  | cons entry rest ih =>
      obtain ⟨first, value'⟩ := entry
      rw [putEntry]
      by_cases before : name < first
      · rw [if_pos before, lookup?_cons]
        simp only [eq_comm]
      · rw [if_neg before]
        by_cases same : name = first
        · subst same
          rw [if_pos rfl, lookup?_cons, lookup?_cons]
          by_cases own : other = name
          · rw [if_pos own.symm, if_pos own]
          · rw [if_neg (Ne.symm own), if_neg (Ne.symm own), if_neg own]
        · rw [if_neg same, lookup?_cons, lookup?_cons, ih]
          by_cases own : other = name
          · rw [if_pos own, own, if_neg (Ne.symm same), if_pos rfl]
          · rw [if_neg own, if_neg own]

/-! ## Tables in the order of their names -/

/-- The entries of a table in the order of their names, each name once. -/
def Ascending (entries : List (String × Setting)) : Prop :=
  entries.Pairwise fun left right => left.1 < right.1

theorem ascending_nil : Ascending [] :=
  List.Pairwise.nil

theorem Ascending.nodup (ascending : Ascending entries) : (entries.map Prod.fst).Nodup := by
  rw [List.Nodup, List.pairwise_map]
  exact ascending.imp ne_of_lt

theorem Ascending.lookup?_eq_some_iff (ascending : Ascending entries) :
    lookup? name entries = some value ↔ (name, value) ∈ entries := by
  refine ⟨mem_of_lookup?, fun member => ?_⟩
  cases found : lookup? name entries with
  | none =>
      rw [lookup?, Option.map_eq_none_iff, List.find?_eq_none] at found
      exact absurd (decide_eq_true rfl) (found _ member)
  | some value' =>
      have same := List.inj_on_of_nodup_map ascending.nodup (mem_of_lookup? found) member rfl
      rw [(Prod.mk.inj same).2]

theorem mem_putEntry {entry : String × Setting} (member : entry ∈ putEntry name value kept) :
    entry = (name, value) ∨ entry ∈ kept := by
  induction kept with
  | nil => exact .inl (List.mem_singleton.mp member)
  | cons first rest ih =>
      obtain ⟨first, value'⟩ := first
      rw [putEntry] at member
      split at member
      · exact List.mem_cons.mp member
      · split at member
        · rcases List.mem_cons.mp member with new | later
          · exact .inl new
          · exact .inr (List.mem_cons_of_mem _ later)
        · rcases List.mem_cons.mp member with rfl | later
          · exact .inr List.mem_cons_self
          · exact (ih later).imp_right (List.mem_cons_of_mem _)

/-- A value is put in its place. -/
theorem Ascending.putEntry (ascending : Ascending kept) (name : String) (value : Setting) :
    Ascending (putEntry name value kept) := by
  induction kept with
  | nil => exact List.pairwise_singleton _ _
  | cons entry rest ih =>
      obtain ⟨first, value'⟩ := entry
      obtain ⟨least, later⟩ := List.pairwise_cons.mp ascending
      rw [Setting.putEntry]
      by_cases before : name < first
      · rw [if_pos before]
        refine List.pairwise_cons.mpr ⟨fun entry member => ?_, ascending⟩
        rcases List.mem_cons.mp member with rfl | member
        · exact before
        · exact lt_trans before (least entry member)
      · rw [if_neg before]
        by_cases same : name = first
        · subst same
          rw [if_pos rfl]
          exact List.pairwise_cons.mpr ⟨least, later⟩
        · rw [if_neg same]
          refine List.pairwise_cons.mpr ⟨fun entry member => ?_, ih later⟩
          rcases mem_putEntry member with rfl | member
          · exact lt_of_le_of_ne (not_lt.mp before) (Ne.symm same)
          · exact least entry member

/-! ## One table over another -/

/-- What is no table takes the place of whatever it is laid over. -/
theorem overlay_of_ne_table (base : Setting) (plain : ∀ entries, value ≠ table entries) :
    overlay base value = value := by
  cases value with
  | table entries => exact absurd rfl (plain entries)
  | _ => simp only [overlay]

/-- A table takes the place of what is no table. -/
theorem overlay_table_of_ne_table {base : Setting} (plain : ∀ entries, base ≠ table entries)
    (entries : List (String × Setting)) : overlay base (table entries) = table entries := by
  cases base with
  | table kept => exact absurd rfl (plain kept)
  | _ => simp only [overlay]

/-- The first of the entries that are laid over others is put among them. -/
theorem overlayEntries_cons (kept : List (String × Setting)) (name : String) (value : Setting)
    (rest : List (String × Setting)) :
    ∃ joined, overlayEntries kept ((name, value) :: rest) =
        overlayEntries (putEntry name joined kept) rest ∧
      some joined = Option.merge overlay (lookup? name kept) (some value) := by
  rw [overlayEntries]
  cases lookup? name kept with
  | none => exact ⟨_, rfl, rfl⟩
  | some base => exact ⟨_, rfl, rfl⟩

theorem Ascending.overlayEntries (ascending : Ascending kept)
    (entries : List (String × Setting)) : Ascending (overlayEntries kept entries) := by
  induction entries generalizing kept with
  | nil =>
      rw [Setting.overlayEntries]
      exact ascending
  | cons entry rest ih =>
      obtain ⟨joined, laid, -⟩ := overlayEntries_cons kept entry.1 entry.2 rest
      rw [laid]
      exact ih (ascending.putEntry _ _)

/-- What stands under a name is the value laid over what stood there. -/
theorem lookup?_overlayEntries (name : String) (kept : List (String × Setting))
    (ascending : Ascending entries) :
    lookup? name (overlayEntries kept entries) =
      Option.merge overlay (lookup? name kept) (lookup? name entries) := by
  induction entries generalizing kept with
  | nil =>
      rw [overlayEntries, lookup?_nil]
      cases lookup? name kept <;> rfl
  | cons entry rest ih =>
      obtain ⟨first, value⟩ := entry
      obtain ⟨least, later⟩ := List.pairwise_cons.mp ascending
      obtain ⟨joined, laid, same⟩ := overlayEntries_cons kept first value rest
      rw [laid, ih _ later, lookup?_putEntry, lookup?_cons]
      by_cases own : first = name
      · subst own
        have missing : lookup? first rest = none :=
          lookup?_eq_none fun value' member => lt_irrefl first (least (first, value') member)
        rw [if_pos rfl, if_pos rfl, missing, ← same]
        rfl
      · rw [if_neg (Ne.symm own), if_neg own]

/-- What stands under a name after a table has been laid over another one depends on nothing else
than what stood there. -/
theorem lookup?_overlayEntries_congr {kept' : List (String × Setting)}
    (same : lookup? name kept = lookup? name kept') (entries : List (String × Setting)) :
    lookup? name (overlayEntries kept entries) = lookup? name (overlayEntries kept' entries) := by
  induction entries generalizing kept kept' with
  | nil =>
      rw [overlayEntries, overlayEntries]
      exact same
  | cons entry rest ih =>
      obtain ⟨first, value⟩ := entry
      obtain ⟨joined, laid, merged⟩ := overlayEntries_cons kept first value rest
      obtain ⟨joined', laid', merged'⟩ := overlayEntries_cons kept' first value rest
      rw [laid, laid']
      apply ih
      rw [lookup?_putEntry, lookup?_putEntry]
      by_cases own : name = first
      · subst own
        rw [if_pos rfl, if_pos rfl, merged, merged', same]
      · rw [if_neg own, if_neg own, same]

/-- Tables that are laid over a table one after another leave a table. -/
theorem foldl_overlay {settings : List Setting} (ascending : Ascending kept)
    (tables : ∀ setting ∈ settings, ∃ entries, setting = table entries) :
    ∃ entries, settings.foldl overlay (table kept) = table entries ∧ Ascending entries := by
  induction settings generalizing kept with
  | nil => exact ⟨kept, rfl, ascending⟩
  | cons setting rest ih =>
      obtain ⟨entries, rfl⟩ := tables setting List.mem_cons_self
      rw [List.foldl_cons, overlay]
      exact ih (ascending.overlayEntries entries) fun other member =>
        tables other (List.mem_cons_of_mem _ member)

end Setting

namespace Settings

open Setting

open Inventory (bind_eq_ok_iff)

/-! ## Records -/

variable {σ α : Type} {fields : List (Field σ)} {name : String} {entries : List (String × Setting)}
  {start record after : σ} {entry : String × Setting}

@[simp]
theorem within_eq_ok_iff {outcome : Except Fault α} {value : α} :
    within name outcome = .ok value ↔ outcome = .ok value := by
  cases outcome <;> simp [within, Except.mapError]

@[simp]
theorem sealed_eq_ok_iff {outcome : Except Fault α} {value : α} :
    sealed outcome = .ok value ↔ outcome = .ok value := by
  cases outcome <;> simp [sealed, Except.mapError]

/-- Read an entry of a record. -/
def readEntry (fields : List (Field σ)) (record : σ) (entry : String × Setting) :
    Except Fault σ :=
  match fields.find? fun field => field.name = entry.1 with
  | some field => within entry.1 (field.set record entry.2)
  | none => within entry.1 (fail .unknownField)

theorem foldlM_cons_eq_ok_iff {rest : List (String × Setting)} :
    (entry :: rest).foldlM (readEntry fields) start = .ok after ↔
      ∃ between, readEntry fields start entry = .ok between ∧
        rest.foldlM (readEntry fields) between = .ok after := by
  rw [List.foldlM_cons, bind_eq_ok_iff]

/-- An entry that can be read, whatever the record is. -/
def Readable (fields : List (Field σ)) (entry : String × Setting) : Prop :=
  ∀ record, ∃ after, readEntry fields record entry = .ok after

/-- Whether a value can be read for a field does not depend on the record. -/
def Field.Uniform (field : Field σ) : Prop :=
  ∀ ⦃record value after⦄, field.set record value = .ok after →
    ∀ other, ∃ after', field.set other value = .ok after'

theorem Field.of_set_eq_ok {name : String} {read : Reading α} {put : σ → α → σ}
    {value : Setting} :
    (Field.of name read put).set record value = .ok after ↔
      ∃ result, read value = .ok result ∧ put record result = after := by
  cases outcome : read value <;> simp [Field.of, outcome, Except.map]

theorem Field.uniform_of (name : String) (read : Reading α) (put : σ → α → σ) :
    (Field.of name read put).Uniform := by
  intro record value after done other
  obtain ⟨result, outcome, -⟩ := Field.of_set_eq_ok.mp done
  exact ⟨put other result, Field.of_set_eq_ok.mpr ⟨result, outcome, rfl⟩⟩

theorem readable_of_readEntry (uniform : ∀ field ∈ fields, field.Uniform)
    (read : readEntry fields record entry = .ok after) : Readable fields entry := by
  intro other
  unfold readEntry at read ⊢
  split at read
  · rename_i field found
    obtain ⟨after', done⟩ :=
      uniform field (List.mem_of_find?_eq_some found) (within_eq_ok_iff.mp read) other
    exact ⟨after', within_eq_ok_iff.mpr done⟩
  · cases within_eq_ok_iff.mp read

/-- The entries of a record that has been read can each be read. -/
theorem readable_of_foldlM (uniform : ∀ field ∈ fields, field.Uniform)
    (read : entries.foldlM (readEntry fields) start = .ok after) :
    ∀ entry ∈ entries, Readable fields entry := by
  induction entries generalizing start with
  | nil => simp
  | cons first rest ih =>
      obtain ⟨between, done, read⟩ := foldlM_cons_eq_ok_iff.mp read
      intro entry member
      rcases List.mem_cons.mp member with rfl | later
      · exact readable_of_readEntry uniform done
      · exact ih read entry later

theorem foldlM_of_readable (readable : ∀ entry ∈ entries, Readable fields entry) (start : σ) :
    ∃ after, entries.foldlM (readEntry fields) start = .ok after := by
  induction entries generalizing start with
  | nil => exact ⟨start, rfl⟩
  | cons first rest ih =>
      obtain ⟨between, done⟩ := readable first List.mem_cons_self start
      obtain ⟨after, read⟩ :=
        ih (fun entry later => readable entry (List.mem_cons_of_mem _ later)) between
      exact ⟨after, foldlM_cons_eq_ok_iff.mpr ⟨between, done, read⟩⟩

/-- The reading of a record ends with the first entry that cannot be read. -/
theorem foldlM_eq_error {before rest : List (String × Setting)} {fault : Fault}
    (readable : ∀ other ∈ before, Readable fields other)
    (fails : ∀ record, readEntry fields record entry = .error fault) (start : σ) :
    (before ++ entry :: rest).foldlM (readEntry fields) start = .error fault := by
  obtain ⟨between, read⟩ := foldlM_of_readable readable start
  rw [List.foldlM_append, read]
  change (entry :: rest).foldlM (readEntry fields) between = _
  rw [List.foldlM_cons, fails]
  rfl

/-- What a value under a name makes of a default: nothing if there is none. -/
def readUnder (name : String) (read : Reading α) (default : α)
    (entries : List (String × Setting)) : Except Fault α :=
  (lookup? name entries).elim (.ok default) read

theorem readUnder_congr {read : Reading α} {default : α} {entries' : List (String × Setting)}
    (same : lookup? name entries = lookup? name entries') :
    readUnder name read default entries = readUnder name read default entries' := by
  rw [readUnder, readUnder, same]

/-- What an entry does to a part of a record: the part is read from the entry if it stands under
the name of the part, and it stays what it is otherwise. -/
def Takes (name : String) (read : Reading α) (part : σ → α) (entry : String × Setting)
    (record after : σ) : Prop :=
  if entry.1 = name then read entry.2 = .ok (part after) else part after = part record

/-- A part that entries of one name change is read from what stands under this name. -/
theorem readUnder_of_foldlM {read : Reading α} {part : σ → α}
    (takes : ∀ ⦃entry record after⦄, readEntry fields record entry = .ok after →
      Takes name read part entry record after)
    (distinct : (entries.map Prod.fst).Nodup)
    (done : entries.foldlM (readEntry fields) start = .ok after) :
    readUnder name read (part start) entries = .ok (part after) := by
  induction entries generalizing start with
  | nil =>
      cases done
      rfl
  | cons first rest ih =>
      obtain ⟨between, step, done⟩ := foldlM_cons_eq_ok_iff.mp done
      obtain ⟨missing, distinct⟩ := List.nodup_cons.mp distinct
      have later := ih distinct done
      have taken := takes step
      obtain ⟨other, value⟩ := first
      rw [Takes] at taken
      rw [readUnder, lookup?_cons]
      by_cases same : other = name
      · subst same
        have nothing : lookup? other rest = none := lookup?_eq_none fun value' member =>
          missing (List.mem_map.mpr ⟨_, member, rfl⟩)
        rw [readUnder, nothing] at later
        rw [if_pos rfl] at taken ⊢
        exact taken.trans later
      · rw [if_neg same] at taken ⊢
        rw [← taken]
        exact later

/-! ## Settings as they are written -/

variable {draft after : Draft}

theorem uniform_draftFields : ∀ field ∈ draftFields, field.Uniform := by
  intro field member
  simp only [draftFields, List.mem_cons, List.not_mem_nil, or_false] at member
  rcases member with rfl | rfl | rfl | rfl | rfl | rfl | rfl <;> exact Field.uniform_of _ _ _

/-- What each entry does to each part of the settings. -/
structure Drafts (entry : String × Setting) (draft after : Draft) : Prop where
  host : Takes "host" readText (fun draft => draft.host) entry draft after
  port : Takes "port" (readCount 16) (fun draft => draft.port) entry draft after
  databaseUrl : Takes "database_url" (readOptional readText) Draft.databaseUrl entry draft after
  backend : Takes "database" readBackend (fun draft => draft.backend) entry draft after
  defaultCapacity : Takes "decks" readDecks (fun draft => draft.defaultCapacity) entry draft after
  cors : Takes "cors" readCors (fun draft => draft.cors) entry draft after
  exportsTraces : Takes "enable_otel_export" readFlag (fun draft => draft.exportsTraces) entry draft
    after

theorem drafts_of_readEntry {entry : String × Setting}
    (read : readEntry draftFields draft entry = .ok after) : Drafts entry draft after := by
  obtain ⟨name, value⟩ := entry
  unfold readEntry at read
  split at read
  · rename_i field found
    have member := List.mem_of_find?_eq_some found
    obtain rfl : field.name = name := by simpa using List.find?_some found
    have done := within_eq_ok_iff.mp read
    simp only [draftFields, List.mem_cons, List.not_mem_nil, or_false] at member
    rcases member with rfl | rfl | rfl | rfl | rfl | rfl | rfl
    all_goals
      obtain ⟨result, outcome, rfl⟩ := Field.of_set_eq_ok.mp done
      constructor <;> simp [Takes, Field.of, outcome]
  · cases within_eq_ok_iff.mp read

/-- Settings are what stands under the names of their parts. -/
structure Drafted (entries : List (String × Setting)) (draft : Draft) : Prop where
  host : readUnder "host" readText standard.host entries = .ok draft.host
  port : readUnder "port" (readCount 16) standard.port entries = .ok draft.port
  databaseUrl : readUnder "database_url" (readOptional readText) none entries =
    .ok draft.databaseUrl
  backend : readUnder "database" readBackend standard.backend entries = .ok draft.backend
  defaultCapacity : readUnder "decks" readDecks standard.defaultCapacity entries =
    .ok draft.defaultCapacity
  cors : readUnder "cors" readCors standard.cors entries = .ok draft.cors
  exportsTraces : readUnder "enable_otel_export" readFlag standard.exportsTraces entries =
    .ok draft.exportsTraces

theorem readUnder_of_readDraft {α : Type} {name : String} {read : Reading α} (part : Draft → α)
    (takes : ∀ {entry draft after}, Drafts entry draft after →
      Takes name read part entry draft after)
    (ascending : Ascending entries) (done : readDraft (.table entries) = .ok draft) :
    readUnder name read (part { standard with databaseUrl := none }) entries = .ok (part draft) :=
  readUnder_of_foldlM (fun _ _ _ step => takes (drafts_of_readEntry step)) ascending.nodup done

theorem drafted_of_readDraft (ascending : Ascending entries)
    (done : readDraft (.table entries) = .ok draft) : Drafted entries draft where
  host := readUnder_of_readDraft (fun draft => draft.host) Drafts.host ascending done
  port := readUnder_of_readDraft (fun draft => draft.port) Drafts.port ascending done
  databaseUrl := readUnder_of_readDraft Draft.databaseUrl Drafts.databaseUrl ascending done
  backend := readUnder_of_readDraft (fun draft => draft.backend) Drafts.backend ascending done
  defaultCapacity := readUnder_of_readDraft (fun draft => draft.defaultCapacity)
    Drafts.defaultCapacity ascending done
  cors := readUnder_of_readDraft (fun draft => draft.cors) Drafts.cors ascending done
  exportsTraces := readUnder_of_readDraft (fun draft => draft.exportsTraces) Drafts.exportsTraces
    ascending done

end Settings

end CardInventory
