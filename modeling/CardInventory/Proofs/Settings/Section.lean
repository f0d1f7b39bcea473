import CardInventory.Proofs.Settings.Table

/-!
# The section of the database

A section is a table or a list that begins with its type. One of the type of a database has to
give an address, and everything else it says is about the connections: so what it is read as does
not depend on which address it gives, only on there being one.
-/

namespace CardInventory.Settings

open Setting

open Inventory (bind_eq_ok_iff)

variable {entries : List (String × Setting)}

/-- The type a section of the database is of. -/
def sectionType? : Setting → Option BackendType
  | .table entries => (lookup? "type" entries).bind fun value => (readType value).toOption
  | .list (value :: _) => (readType value).toOption
  | _ => none

/-- Why a value is no address, if it is none. -/
def plainFault? : Setting → Option Cause
  | .text _ => none
  | _ => some .wrongType

/-- Why a section of the type of a database lacks the address, if it lacks it. -/
def urlFault? (described : Setting) : Option Cause :=
  if sectionType? described = some .postgres then
    match described with
    | .table entries =>
        match lookup? "url" entries with
        | some value => plainFault? value
        | none => some .missingField
    | .list (_ :: value :: _) => plainFault? value
    | .list _ => some .wrongLength
    | _ => none
  else none

theorem eq_ok_of_toOption {ε α : Type} {outcome : Except ε α} {value : α}
    (given : outcome.toOption = some value) : outcome = .ok value := by
  cases outcome with
  | error fault => cases given
  | ok found => exact congrArg Except.ok (Option.some.inj given)

theorem readPlainText_eq (value : Setting) :
    (∃ url, value = .text url ∧ readPlainText value = .ok url ∧ plainFault? value = none) ∨
      readPlainText value = .error ⟨.wrongType, []⟩ ∧ plainFault? value = some .wrongType := by
  cases value with
  | text url => exact .inl ⟨url, rfl, rfl, rfl⟩
  | _ => exact .inr ⟨rfl, rfl⟩

/-- A database is described by a table with settings of its connections and an address. -/
theorem readDatabaseTable_eq (entries : List (String × Setting)) :
    readDatabaseTable entries =
      match readUnder "pool" readPool .standard entries, lookup? "url" entries with
      | .ok pool, some value => (readPlainText value).map fun url => .postgres url pool
      | .ok _, none => .error ⟨.missingField, []⟩
      | .error fault, _ => .error fault := by
  unfold readDatabaseTable readUnder
  cases lookup? "pool" entries with
  | none => cases lookup? "url" entries <;> rfl
  | some value =>
      simp only [Option.elim_some]
      rcases readPool value with fault | pool
      · rfl
      · cases lookup? "url" entries <;> rfl

theorem sectionType?_table {type : Setting} {kind : BackendType}
    (named : lookup? "type" entries = some type) (typed : readType type = .ok kind) :
    sectionType? (.table entries) = some kind := by
  rw [sectionType?, named, Option.bind_some, typed]
  rfl

theorem sectionType?_list {type : Setting} {kind : BackendType} (typed : readType type = .ok kind)
    (rest : List Setting) : sectionType? (.list (type :: rest)) = some kind := by
  rw [sectionType?, typed]
  rfl

/-- A section of the type of a storage in memory lacks nothing. -/
theorem urlFault?_of_memory {described : Setting} (memory : sectionType? described = some .memory) :
    urlFault? described = none := by
  unfold urlFault?
  exact if_neg (by simp [memory])

theorem urlFault?_table {type : Setting} (named : lookup? "type" entries = some type)
    (typed : readType type = .ok .postgres) :
    urlFault? (.table entries) =
      match lookup? "url" entries with
      | some value => plainFault? value
      | none => some .missingField := by
  rw [urlFault?, if_pos (sectionType?_table named typed)]

/-- A table describes a storage of the type it names. -/
theorem readBackend_table {type : Setting} {kind : BackendType}
    (named : lookup? "type" entries = some type) (typed : readType type = .ok kind) :
    readBackend (.table entries) =
      match kind with
      | .memory => .ok .memory
      | .postgres => sealed (readDatabaseTable entries) := by
  simp only [readBackend, named, typed]
  cases kind <;> rfl

theorem type_of_readBackend_table {backend : Backend}
    (read : readBackend (.table entries) = .ok backend) :
    ∃ type kind, lookup? "type" entries = some type ∧ readType type = .ok kind := by
  cases named : lookup? "type" entries with
  | none =>
      simp only [readBackend, named] at read
      cases read
  | some type =>
      cases typed : readType type with
      | error fault =>
          simp only [readBackend, named, typed] at read
          cases read
      | ok kind => exact ⟨type, kind, rfl, typed⟩

/-- What a section comes to that differs from one which can be read in nothing but the address: it
has the same settings of the connections, or it lacks the address. -/
def ReadsAs (described : Setting) (backend : Backend) : Prop :=
  match urlFault? described with
  | none => ∃ backend', readBackend described = .ok backend' ∧ backend'.pool? = backend.pool?
  | some cause => readBackend described = .error ⟨cause, []⟩

theorem pool_of_readDatabaseTable {backend : Backend}
    (read : readDatabaseTable entries = .ok backend) :
    ∃ pool, readUnder "pool" readPool .standard entries = .ok pool ∧
      backend.pool? = some pool := by
  rw [readDatabaseTable_eq] at read
  split at read
  · rename_i pool value pooled _
    refine ⟨pool, pooled, ?_⟩
    rcases readPlainText_eq value with ⟨url, rfl, -, -⟩ | ⟨wrong, -⟩
    · cases read
      rfl
    · rw [wrong] at read
      cases read
  · cases read
  · cases read

theorem readsAs_table {entries' : List (String × Setting)} {backend : Backend}
    (same : ∀ name, name ≠ "url" → lookup? name entries = lookup? name entries')
    (read : readBackend (.table entries') = .ok backend) :
    ReadsAs (.table entries) backend := by
  obtain ⟨type, kind, named', typed⟩ := type_of_readBackend_table read
  have named : lookup? "type" entries = some type := (same "type" (by decide)).trans named'
  rw [readBackend_table named' typed] at read
  rw [ReadsAs, readBackend_table named typed]
  cases kind with
  | memory =>
      cases read
      rw [urlFault?_of_memory (sectionType?_table named typed)]
      exact ⟨_, rfl, rfl⟩
  | postgres =>
      obtain ⟨pool, pooled, given⟩ := pool_of_readDatabaseTable (sealed_eq_ok_iff.mp read)
      rw [readUnder, ← same "pool" (by decide)] at pooled
      dsimp only
      rw [urlFault?_table named typed, readDatabaseTable_eq, readUnder, pooled, given]
      cases lookup? "url" entries with
      | none => rfl
      | some value =>
          rcases readPlainText_eq value with ⟨url, rfl, plain, fine⟩ | ⟨wrong, fault⟩
          · exact ⟨_, rfl, rfl⟩
          · simp only [fault, wrong]
            rfl

/-- A list describes a storage of the type it begins with. -/
theorem readBackend_list {type : Setting} {kind : BackendType} (typed : readType type = .ok kind)
    (rest : List Setting) :
    readBackend (.list (type :: rest)) =
      match kind with
      | .memory => if rest.isEmpty then .ok .memory else .error ⟨.wrongLength, []⟩
      | .postgres => sealed (readDatabaseList rest) := by
  simp only [readBackend, typed]
  cases kind <;> rfl

theorem urlFault?_list {type : Setting} (typed : readType type = .ok .postgres)
    (rest : List Setting) :
    urlFault? (.list (type :: rest)) =
      match rest with
      | value :: _ => plainFault? value
      | [] => some .wrongLength := by
  unfold urlFault?
  rw [if_pos (sectionType?_list typed rest)]
  cases rest <;> rfl

theorem readPlainText_eq_ok_iff {value : Setting} {url : String} :
    readPlainText value = .ok url ↔ value = .text url := by
  rcases readPlainText_eq value with ⟨other, rfl, plain, -⟩ | ⟨wrong, fault⟩
  · simp [plain]
  · refine iff_of_false (by simp [wrong]) ?_
    rintro rfl
    cases fault

/-- A database is described by an address, and settings of its connections or none. -/
theorem readDatabaseList_eq_ok {items : List Setting} {backend : Backend}
    (read : readDatabaseList items = .ok backend) :
    ∃ url pool, backend = .postgres url pool ∧
      ((items = [.text url] ∧ pool = .standard) ∨
        ∃ pooled, items = [.text url, pooled] ∧ readPool pooled = .ok pool) := by
  unfold readDatabaseList at read
  split at read
  · cases read
  · obtain ⟨url, plain, done⟩ := bind_eq_ok_iff.mp read
    cases done
    exact ⟨url, .standard, rfl, .inl ⟨by rw [readPlainText_eq_ok_iff.mp plain], rfl⟩⟩
  · rename_i pooled
    obtain ⟨url, plain, done⟩ := bind_eq_ok_iff.mp read
    obtain ⟨pool, outcome, done⟩ := bind_eq_ok_iff.mp done
    cases done
    exact ⟨url, pool, rfl, .inr ⟨pooled, by rw [readPlainText_eq_ok_iff.mp plain], outcome⟩⟩
  · obtain ⟨url, plain, done⟩ := bind_eq_ok_iff.mp read
    obtain ⟨pool, outcome, done⟩ := bind_eq_ok_iff.mp done
    cases done

theorem readDatabaseList_eq_error {value : Setting} {fault : Fault}
    (wrong : readPlainText value = .error fault) (rest : List Setting) :
    readDatabaseList (value :: rest) = .error fault := by
  rcases rest with _ | ⟨pooled, _ | _⟩ <;>
  · simp only [readDatabaseList, wrong]
    rfl

theorem type_of_readBackend_list {type : Setting} {items : List Setting} {backend : Backend}
    (read : readBackend (.list (type :: items)) = .ok backend) :
    ∃ kind, readType type = .ok kind := by
  cases typed : readType type with
  | error fault =>
      simp only [readBackend, typed] at read
      cases read
  | ok kind => exact ⟨kind, rfl⟩

theorem readsAs_list {type : Setting} {rest items : List Setting} {backend : Backend}
    (same : rest = items ∨ readType type = .ok .postgres ∧ rest.drop 1 = items.drop 1)
    (read : readBackend (.list (type :: items)) = .ok backend) :
    ReadsAs (.list (type :: rest)) backend := by
  obtain ⟨kind, typed⟩ := type_of_readBackend_list read
  rw [readBackend_list typed] at read
  rw [ReadsAs, readBackend_list typed]
  cases kind with
  | memory =>
      rcases same with rfl | ⟨typed', -⟩
      · rw [urlFault?_of_memory (sectionType?_list typed rest)]
        exact ⟨backend, read, rfl⟩
      · cases typed.symm.trans typed'
  | postgres =>
      have behind : rest.drop 1 = items.drop 1 := by
        rcases same with rfl | ⟨-, behind⟩
        · rfl
        · exact behind
      obtain ⟨url, pool, rfl, list⟩ := readDatabaseList_eq_ok (sealed_eq_ok_iff.mp read)
      dsimp only
      rw [urlFault?_list typed]
      rcases rest with _ | ⟨value, rest⟩
      · rfl
      · have pooled : ∀ address, readDatabaseList (.text address :: rest) =
            .ok (.postgres address pool) := by
          rcases list with ⟨rfl, rfl⟩ | ⟨pooled, rfl, outcome⟩
          · obtain rfl : rest = [] := behind
            exact fun address => rfl
          · obtain rfl : rest = [pooled] := behind
            intro address
            exact bind_eq_ok_iff.mpr ⟨address, rfl, bind_eq_ok_iff.mpr ⟨pool, outcome, rfl⟩⟩
        rcases readPlainText_eq value with ⟨address, rfl, -, fine⟩ | ⟨wrong, fault⟩
        · exact ⟨_, sealed_eq_ok_iff.mpr (pooled address), rfl⟩
        · simp only [fault, readDatabaseList_eq_error wrong]
          rfl

end CardInventory.Settings
