import CardInventory.Proofs.Settings.Section

/-!
# An address written into a document

A document gets an address of the database by having it written into the section of the database,
if there is one of this type; in a list it takes the place behind the type. What is read from the
document is the same but for this one entry, also where other settings are laid over both.
-/

namespace CardInventory.Settings

open Setting

/-- Two sections of the database that say the same but for the address. -/
inductive SameButUrl : Setting → Setting → Prop where
  | same (described : Setting) : SameButUrl described described
  | table {entries entries' : List (String × Setting)}
      (same : ∀ name, name ≠ "url" → lookup? name entries = lookup? name entries') :
      SameButUrl (.table entries) (.table entries')
  | list {type : Setting} (typed : readType type = .ok .postgres) {rest items : List Setting}
      (same : rest.drop 1 = items.drop 1) :
      SameButUrl (.list (type :: rest)) (.list (type :: items))

theorem readsAs_of_same {described written : Setting} {backend : Backend}
    (same : SameButUrl described written) (read : readBackend written = .ok backend) :
    ReadsAs described backend := by
  cases same with
  | same =>
      cases described with
      | table entries => exact readsAs_table (fun _ _ => rfl) read
      | list items =>
          cases items with
          | nil => cases read
          | cons type rest => exact readsAs_list (.inl rfl) read
      | _ => cases read
  | table same => exact readsAs_table same read
  | list typed same => exact readsAs_list (.inr ⟨typed, same⟩) read

theorem urlFault?_eq_none_of_readBackend {described : Setting} {backend : Backend}
    (read : readBackend described = .ok backend) : urlFault? described = none := by
  have reads := readsAs_of_same (.same described) read
  rw [ReadsAs] at reads
  cases lacks : urlFault? described with
  | none => rfl
  | some cause =>
      rw [lacks] at reads
      cases reads.symm.trans read

theorem SameButUrl.overlay {described written : Setting} (same : SameButUrl described written)
    (value : Setting) : SameButUrl (described.overlay value) (written.overlay value) := by
  by_cases plain : ∀ entries, value ≠ .table entries
  · rw [overlay_of_ne_table _ plain, overlay_of_ne_table _ plain]
    exact .same value
  · simp only [not_forall, not_not] at plain
    obtain ⟨entries, rfl⟩ := plain
    cases same with
    | same => exact .same _
    | table same =>
        rw [Setting.overlay, Setting.overlay]
        exact .table fun name other => lookup?_overlayEntries_congr (same name other) entries
    | list typed same =>
        rw [overlay_table_of_ne_table (by simp), overlay_table_of_ne_table (by simp)]
        exact .same _

/-- Write the address into a section that is of the type of a database. -/
def writeUrl (url : String) (described : Json) : Json :=
  if sectionType? (.ofJson described) = some .postgres then
    match described with
    | .object members => .object (members ++ [("url", .text url)])
    | .array (type :: rest) => .array (type :: .text url :: rest.drop 1)
    | other => other
  else described

/-- Write the address of the database into a document. -/
def withUrl (url : String) : Json → Json
  | .object members => .object (members.map fun (name, value) =>
      (name, if name = "database" then writeUrl url value else value))
  | other => other

theorem ofMembers_append (kept : List (String × Setting)) (members others : List (String × Json)) :
    ofMembers kept (members ++ others) = ofMembers (ofMembers kept members) others := by
  induction members generalizing kept with
  | nil => rw [List.nil_append, ofMembers]
  | cons member rest ih => rw [List.cons_append, ofMembers, ofMembers, ih]

theorem ofItems_eq_map (items : List Json) : ofItems items = items.map ofJson := by
  induction items with
  | nil => rw [ofItems, List.map_nil]
  | cons item rest ih => rw [ofItems, List.map_cons, ih]

theorem sameButUrl_writeUrl (url : String) (described : Json) :
    SameButUrl (.ofJson described) (.ofJson (writeUrl url described)) := by
  unfold writeUrl
  split
  · rename_i postgres
    split
    · rename_i members
      rw [ofJson, ofJson, ofMembers_append, ofMembers, ofMembers]
      refine .table fun name other => ?_
      rw [lookup?_putEntry, if_neg other]
    · rename_i type rest
      rw [ofJson, ofItems_eq_map, List.map_cons] at postgres ⊢
      rw [ofJson, ofItems_eq_map, List.map_cons, List.map_cons]
      refine .list (eq_ok_of_toOption postgres) ?_
      rw [List.map_drop]
      rfl
    · exact .same _
  · exact .same _

/-- Two tables of settings that say the same but for the address of the database. -/
structure AgreeButUrl (entries entries' : List (String × Setting)) : Prop where
  others : ∀ name, name ≠ "database" → lookup? name entries = lookup? name entries'
  database : Option.Rel SameButUrl (lookup? "database" entries) (lookup? "database" entries')

theorem AgreeButUrl.refl (entries : List (String × Setting)) : AgreeButUrl entries entries where
  others _ _ := rfl
  database := by
    cases lookup? "database" entries with
    | none => exact .none
    | some described => exact .some (.same described)

theorem AgreeButUrl.ofMembers {kept kept' : List (String × Setting)}
    (agree : AgreeButUrl kept kept') (url : String) (members : List (String × Json)) :
    AgreeButUrl (ofMembers kept members) (ofMembers kept' (members.map fun (name, value) =>
      (name, if name = "database" then writeUrl url value else value))) := by
  induction members generalizing kept kept' with
  | nil =>
      rw [List.map_nil, Setting.ofMembers, Setting.ofMembers]
      exact agree
  | cons member rest ih =>
      obtain ⟨name, value⟩ := member
      rw [List.map_cons, Setting.ofMembers, Setting.ofMembers]
      refine ih ⟨fun other different => ?_, ?_⟩
      · rw [lookup?_putEntry, lookup?_putEntry, agree.others other different]
        by_cases own : other = name
        · subst own
          rw [if_pos rfl, if_pos rfl, if_neg different]
        · rw [if_neg own, if_neg own]
      · rw [lookup?_putEntry, lookup?_putEntry]
        by_cases own : "database" = name
        · rw [if_pos own, if_pos own, if_pos own.symm]
          exact .some (sameButUrl_writeUrl url value)
        · rw [if_neg own, if_neg own]
          exact agree.database

theorem ascending_ofMembers {kept : List (String × Setting)} (ascending : Ascending kept)
    (members : List (String × Json)) : Ascending (ofMembers kept members) := by
  induction members generalizing kept with
  | nil =>
      rw [ofMembers]
      exact ascending
  | cons member rest ih =>
      rw [ofMembers]
      exact ih (ascending.putEntry _ _)

/-- A document in which the address is written is a table just if it is one without it, and they
say the same but for the address. -/
theorem documentTable_withUrl {url : String} {document : Option Json} {written : Setting}
    (read : documentTable (document.map (withUrl url)) = .ok written) :
    ∃ entries entries', documentTable document = .ok (.table entries) ∧ written = .table entries' ∧
      Ascending entries ∧ Ascending entries' ∧ AgreeButUrl entries entries' := by
  cases document with
  | none =>
      cases read
      exact ⟨[], [], rfl, rfl, ascending_nil, ascending_nil, .refl []⟩
  | some value =>
      cases value with
      | object members =>
          rw [Option.map_some, withUrl, documentTable, ofJson] at read
          cases read
          refine ⟨_, _, by rw [documentTable, ofJson], rfl, ascending_ofMembers ascending_nil _,
            ascending_ofMembers ascending_nil _, (AgreeButUrl.refl []).ofMembers url members⟩
      | _ =>
          simp only [Option.map_some, withUrl, documentTable, ofJson] at read
          cases read

theorem AgreeButUrl.overlayEntries {kept kept' : List (String × Setting)}
    (agree : AgreeButUrl kept kept') (ascending : Ascending entries) :
    AgreeButUrl (overlayEntries kept entries) (overlayEntries kept' entries) where
  others name other := lookup?_overlayEntries_congr (agree.others name other) entries
  database := by
    rw [lookup?_overlayEntries _ _ ascending, lookup?_overlayEntries _ _ ascending]
    cases lookup? "database" entries with
    | none =>
        rw [Option.merge_none_right, Option.merge_none_right]
        exact agree.database
    | some value =>
        have related := agree.database
        generalize lookup? "database" kept = described at related ⊢
        generalize lookup? "database" kept' = written at related ⊢
        cases related with
        | none => exact .some (.same value)
        | some same => exact .some (same.overlay value)

end CardInventory.Settings
