import CardInventory.Proofs.Json.Format

/-!
# Records that come back from their texts

A record comes back if the values of its fields do: a value that is written from its
text, and a value that is left out because a field that is left out means it. The names
of the fields must differ, so that a member is read as the field it was written for.
-/

namespace CardInventory.Json

open Text Reader

variable {α β : Type} {types inner outer : List Type}

/-- The value an object means by leaving a field out. -/
def Absence.assumed? : Absence α → Option α
  | .refused => none
  | .inObject value => some value
  | .anywhere value => some value

/-! ## Fields -/

namespace Field

/-- A value of a field comes back if it is written and comes back in its format, or if it
is what the absence of the field means. -/
structure Returns (back : Format α → α → Prop) (field : Field α) (value : α) : Prop where
  written : field.unwritten value = false → back field.format value
  assumed : field.unwritten value = true → field.absence.assumed? = some value

/-- Whatever a field is read as comes back, and so does the value that is assumed for it. -/
structure Faithful (field : Field α) : Prop where
  read : field.format.read.Yields (field.Returns Format.Recovers)
  assumed : ∀ value, field.absence.assumed? = some value → field.Returns Format.Recovers value

/-- Whatever a field is found to be in a tree comes back, and so does the value that is
assumed for it. -/
structure Keeping (field : Field α) : Prop where
  found : ∀ tree value, field.format.ofTree tree = some value →
    field.Returns Format.Keeps value
  assumed : ∀ value, field.absence.assumed? = some value → field.Returns Format.Keeps value

/-- The value of a field among the members of an object. -/
def among? (field : Field α) (members : List (String × Json)) : Option α :=
  match members.filter fun member => member.1 = field.name with
  | [(_, tree)] => field.format.ofTree tree
  | [] => field.absence.assumed?
  | _ => none

theorem Keeping.among {field : Field α} (keeping : field.Keeping)
    {members : List (String × Json)} {value : α} (among : field.among? members = some value) :
    field.Returns Format.Keeps value := by
  unfold among? at among
  split at among
  · exact keeping.found _ value among
  · exact keeping.assumed value among
  · cases among

variable {back : Format α → α → Prop} {name : String} {format : Format α}

theorem required_returns {value : α} (returns : back format value) :
    (required name format).Returns back value :=
  ⟨fun _ => returns, nofun⟩

theorem required_faithful (faithful : format.Faithful) : (required name format).Faithful :=
  ⟨fun _ _ _ read => required_returns (faithful read), nofun⟩

theorem required_keeping (keeping : format.Keeping) : (required name format).Keeping :=
  ⟨fun tree value found => required_returns (keeping tree value found), nofun⟩

theorem optional_returns {back : Format (Option α) → Option α → Prop} {value : Option α}
    (returns : back format.nullable value) : (optional name format).Returns back value :=
  ⟨fun _ => returns, nofun⟩

theorem optional_faithful (solid : format.Solid) (faithful : format.Faithful) :
    (optional name format).Faithful where
  read _ _ _ read := optional_returns (Format.nullable_faithful solid faithful read)
  assumed _ := by
    rintro ⟨⟩
    exact optional_returns Format.nullable_null

theorem optional_keeping (solid : format.Solid) (keeping : format.Keeping) :
    (optional name format).Keeping where
  found tree value found :=
    optional_returns (Format.nullable_keeping solid keeping tree value found)
  assumed _ := by
    rintro ⟨⟩
    exact optional_returns Format.nullable_keeps_null

theorem withDefault_returns {value default : α} (returns : back format value) :
    (withDefault name format default).Returns back value :=
  ⟨fun _ => returns, nofun⟩

theorem withDefault_faithful {default : α} (faithful : format.Faithful)
    (recovers : format.Recovers default) : (withDefault name format default).Faithful where
  read _ _ _ read := withDefault_returns (faithful read)
  assumed _ := by
    rintro ⟨⟩
    exact withDefault_returns recovers

/-- A field that is left alone is not written, and null is. -/
theorem patch_returns {value : Option (Option α)}
    (recovers : ∀ written, value = some written → format.nullable.Recovers written) :
    (patch name format).Returns Format.Recovers value := by
  cases value with
  | none => exact ⟨nofun, fun _ => rfl⟩
  | some written =>
      refine ⟨fun _ rest stops => ?_, nofun⟩
      exact map_of_ok some (recovers written rfl rest stops)

theorem patch_faithful (solid : format.Solid) (faithful : format.Faithful) :
    (patch name format).Faithful where
  read := (Format.nullable_faithful solid faithful).map fun written recovers =>
    patch_returns fun _ same => Option.some.inj same ▸ recovers
  assumed _ := by
    rintro ⟨⟩
    exact patch_returns nofun

end Field

/-! ## Rows -/

namespace Fields

/-- The names of the fields. -/
def names : {types : List Type} → Fields types → List String
  | _, .nil => []
  | _, .cons field rest => field.name :: rest.names

/-- Each value of a row comes back. -/
def Returns (back : (α : Type) → Format α → α → Prop) :
    {types : List Type} → Fields types → Row types → Prop
  | _, .nil, _ => True
  | _, .cons field rest, (value, row) => field.Returns (back _) value ∧ rest.Returns back row

/-- Each value that has been read comes back. -/
def Known : {types : List Type} → Fields types → Slots types → Prop
  | _, .nil, _ => True
  | _, .cons field rest, (slot, slots) =>
      (∀ value, slot = some value → field.Returns Format.Recovers value) ∧ rest.Known slots

/-- Each field is faithful. -/
def Faithful : {types : List Type} → Fields types → Prop
  | _, .nil => True
  | _, .cons field rest => field.Faithful ∧ rest.Faithful

/-- Each field keeps what it is found to be. -/
def Keeping : {types : List Type} → Fields types → Prop
  | _, .nil => True
  | _, .cons field rest => field.Keeping ∧ rest.Keeping

/-- A row as it has been read from its text. -/
def filled : {types : List Type} → Fields types → Row types → Slots types
  | _, .nil, _ => ()
  | _, .cons field rest, (value, row) =>
      (if field.unwritten value then none else some value, rest.filled row)

variable {fields : Fields types} {name : String}

/-! ### What is read comes back -/

theorem known_empty (fields : Fields types) : fields.Known fields.empty := by
  induction fields with
  | nil => trivial
  | cons field rest ih => exact ⟨nofun, ih⟩

section Member

variable {field : Field α} {rest : Fields types} {slots : Slots types}

theorem member?_unread :
    (Fields.cons field rest).member? (none, slots) field.name = some (do
      colon
      return (some (← field.format.read), slots)) :=
  if_pos rfl

theorem member?_repeated (value : α) :
    (Fields.cons field rest).member? (some value, slots) field.name = some (refuse .unfit) :=
  if_pos rfl

theorem member?_of_ne {slot : Option α} (other : name ≠ field.name) :
    (Fields.cons field rest).member? (slot, slots) name =
      (rest.member? slots name).map fun reader => do return (slot, ← reader) :=
  if_neg other

end Member

theorem member?_yields (faithful : fields.Faithful) {slots : Slots types}
    (known : fields.Known slots) {reader : Reader (Slots types)}
    (found : fields.member? slots name = some reader) : reader.Yields fields.Known := by
  induction fields with
  | nil => cases found
  | cons field rest ih =>
      obtain ⟨slot, slots⟩ := slots
      obtain ⟨first, others⟩ := faithful
      obtain ⟨here, there⟩ := known
      by_cases same : name = field.name
      · subst same
        -- A slot that is filled already is that of a repeated name.
        cases slot with
        | some value =>
            obtain rfl := Option.some.inj ((member?_repeated value).symm.trans found)
            exact .refuse _
        | none =>
            obtain rfl := Option.some.inj (member?_unread.symm.trans found)
            refine .after _ fun _ => first.read.bind fun value returns => .pure ⟨?_, there⟩
            rintro _ ⟨⟩
            exact returns
      · obtain ⟨inner, within, rfl⟩ :=
          Option.map_eq_some_iff.mp ((member?_of_ne same).symm.trans found)
        exact (ih others there within).bind fun slots known => .pure ⟨here, known⟩

theorem complete_cons {field : Field α} {rest : Fields types} {slot : Option α}
    {slots : Slots types} :
    (Fields.cons field rest).complete (slot, slots) =
      (slot.or field.absence.assumed?).bind fun value =>
        (rest.complete slots).map fun row => (value, row) := by
  simp only [complete]
  cases slot <;> cases field.absence <;> cases rest.complete slots <;> rfl

theorem complete_returns (faithful : fields.Faithful) {slots : Slots types}
    (known : fields.Known slots) {row : Row types} (completed : fields.complete slots = some row) :
    fields.Returns @Format.Recovers row := by
  induction fields with
  | nil => trivial
  | cons field rest ih =>
      obtain ⟨slot, slots⟩ := slots
      obtain ⟨first, others⟩ := faithful
      obtain ⟨here, there⟩ := known
      rw [complete_cons] at completed
      obtain ⟨value, given, completed⟩ := Option.bind_eq_some_iff.mp completed
      obtain ⟨row, within, rfl⟩ := Option.map_eq_some_iff.mp completed
      refine ⟨?_, ih others there within⟩
      cases slot with
      | none => exact first.assumed value given
      | some read => exact here value given

/-- How an object reads the member under a name. -/
def readMember (fields : Fields types) (slots : Slots types) (name : String) :
    Reader (Slots types) :=
  match fields.member? slots name with
  | some reader => reader
  | none => do
      colon
      skim
      pure slots

theorem readMember_yields (faithful : fields.Faithful) (slots : Slots types) (name : String)
    (known : fields.Known slots) : (fields.readMember slots name).Yields fields.Known := by
  unfold readMember
  split
  · rename_i found
    exact member?_yields faithful known found
  · exact .after _ fun _ => .after _ fun _ => .pure known

theorem readObject_yields (faithful : fields.Faithful) :
    fields.readObject.Yields (fields.Returns @Format.Recovers) :=
  .after _ fun fuel =>
    .bind (.foldMembers (readMember_yields faithful) fuel true fields.known_empty)
      fun _ known => .fit fun _ completed => complete_returns faithful known completed

theorem readArray_yields (faithful : fields.Faithful) (first : Bool) :
    (fields.readArray first).Yields (fields.Returns @Format.Recovers) := by
  induction fields generalizing first with
  | nil => exact fun _ _ _ _ => trivial
  | cons field rest ih =>
      obtain ⟨here, faithful⟩ := faithful
      rw [readArray]
      refine .after _ fun more => ?_
      split
      · exact here.read.bind fun value returns => (ih faithful false).bind fun row others =>
          .pure ⟨returns, others⟩
      · split
        · rename_i value absent
          refine (ih faithful first).bind fun row others => .pure ⟨?_, others⟩
          exact here.assumed value (by rw [absent]; rfl)
        · exact .refuse _

/-! ### What comes back is read -/

theorem complete_filled {back : (α : Type) → Format α → α → Prop} {row : Row types}
    (returns : fields.Returns back row) : fields.complete (fields.filled row) = some row := by
  induction fields with
  | nil => rfl
  | cons field rest ih =>
      obtain ⟨value, row⟩ := row
      obtain ⟨here, others⟩ := returns
      have given : (if field.unwritten value then none else some value).or
          field.absence.assumed? = some value := by
        split
        · rename_i unwritten
          exact here.assumed unwritten
        · rfl
      change (Fields.cons field rest).complete (_, rest.filled row) = _
      rw [complete_cons, given, ih others]
      rfl

theorem mem_toMembers {row : Row types} {entry : String × Json}
    (member : entry ∈ fields.toMembers row) : entry.1 ∈ fields.names := by
  induction fields with
  | nil => cases member
  | cons field rest ih =>
      obtain ⟨value, row⟩ := row
      rw [toMembers] at member
      split at member
      · exact List.mem_cons_of_mem _ (ih member)
      · rcases List.mem_cons.mp member with rfl | member
        · exact List.mem_cons_self
        · exact List.mem_cons_of_mem _ (ih member)

theorem member?_eq_none (absent : name ∉ fields.names) (slots : Slots types) :
    fields.member? slots name = none := by
  induction fields with
  | nil => rfl
  | cons field rest ih =>
      obtain ⟨slot, slots⟩ := slots
      rw [member?_of_ne (List.ne_of_not_mem_cons absent),
        ih (List.not_mem_of_not_mem_cons absent)]
      rfl

/-- The step of a field that reads a member from behind its name. -/
def Handled (fields : Fields types) (slots : Slots types) (entry : String × Json)
    (next : Slots types) : Prop :=
  ∃ reader, fields.member? slots entry.1 = some reader ∧
    Takes reader (0x3A :: entry.2.bytes) next

/-- The members of a row fill the slots of its fields. -/
theorem chain_filled (distinct : fields.names.Nodup) {row : Row types}
    (returns : fields.Returns @Format.Recovers row) :
    Chain fields.Handled fields.empty (fields.toMembers row) (fields.filled row) := by
  induction fields with
  | nil => exact .nil _
  | @cons α types field rest ih =>
      obtain ⟨value, row⟩ := row
      obtain ⟨here, others⟩ := returns
      obtain ⟨fresh, distinct⟩ := List.nodup_cons.mp distinct
      -- Later members have other names, so they pass the first slot by.
      have later (slot : Option α) : Chain (Fields.cons field rest).Handled (slot, rest.empty)
          (rest.toMembers row) (slot, rest.filled row) := by
        refine (ih distinct others).map (fun slots => (slot, slots)) ?_
        rintro entry member state next ⟨reader, found, takes⟩
        have other : entry.1 ≠ field.name := fun same => fresh (same ▸ mem_toMembers member)
        refine ⟨_, (member?_of_ne other).trans (congrArg _ found), fun more stops => ?_⟩
        exact (bind_of_ok (takes more stops)).trans rfl
      cases unwritten : field.unwritten value with
      | true =>
          simp only [toMembers, filled, unwritten, if_true]
          exact later none
      | false =>
          simp only [toMembers, filled, unwritten, Bool.false_eq_true, if_false]
          refine .cons ⟨_, member?_unread, fun more stops => ?_⟩ (later (some value))
          refine (bind_of_ok (colon_cons _)).trans ?_
          exact (bind_of_ok (here.written unwritten more stops)).trans rfl

theorem readObject_written (distinct : fields.names.Nodup) {row : Row types}
    (returns : fields.Returns @Format.Recovers row) (rest : Bytes) :
    fields.readObject (encode (memberChars (fields.toMembers row)) ++ 0x7D :: rest) =
      .ok (row, rest) := by
  have chain : Chain (Handles fields.readMember) fields.empty (fields.toMembers row)
      (fields.filled row) := by
    refine (chain_filled distinct returns).map id ?_
    rintro entry - slots next ⟨reader, found, takes⟩
    simpa only [Handles, readMember, id, found] using takes
  have enough := length_le_memberChars (fields.toMembers row)
  refine (bind_of_ok allowance_eq).trans
    ((bind_of_ok (foldMembers_written chain (by simp; omega) rest)).trans ?_)
  rw [complete_filled returns]
  rfl

/-! ### Rows among the members of an object -/

theorem ofMembers_cons {field : Field α} {rest : Fields types}
    {members : List (String × Json)} :
    (Fields.cons field rest).ofMembers members =
      (field.among? members).bind fun value =>
        (rest.ofMembers members).map fun row => (value, row) := by
  simp only [ofMembers, Field.among?]
  generalize members.filter (fun member => decide (member.1 = field.name)) = found
  rcases found with _ | ⟨⟨_, tree⟩, _ | _⟩
  · cases field.absence <;> cases rest.ofMembers members <;> rfl
  · cases field.format.ofTree tree <;> cases rest.ofMembers members <;> rfl
  · rfl

theorem ofMembers_returns (keeping : fields.Keeping) {members : List (String × Json)}
    {row : Row types} (found : fields.ofMembers members = some row) :
    fields.Returns @Format.Keeps row := by
  induction fields with
  | nil => trivial
  | cons field rest ih =>
      obtain ⟨here, others⟩ := keeping
      rw [ofMembers_cons] at found
      obtain ⟨value, among, found⟩ := Option.bind_eq_some_iff.mp found
      obtain ⟨row, within, rfl⟩ := Option.map_eq_some_iff.mp found
      exact ⟨here.among among, ih others within⟩

theorem filter_toMembers (absent : name ∉ fields.names) (row : Row types) :
    (fields.toMembers row).filter (fun member => member.1 = name) = [] := by
  refine List.filter_eq_nil_iff.mpr fun entry member => ?_
  rintro same
  exact absent (of_decide_eq_true same ▸ mem_toMembers member)

/-- A row is found among its own members, behind members of other names. -/
theorem ofMembers_toMembers (distinct : fields.names.Nodup) {row : Row types}
    (returns : fields.Returns @Format.Keeps row) (before : List (String × Json))
    (apart : ∀ entry ∈ before, entry.1 ∉ fields.names) :
    fields.ofMembers (before ++ fields.toMembers row) = some row := by
  induction fields generalizing before with
  | nil => rfl
  | cons field rest ih =>
      obtain ⟨value, row⟩ := row
      obtain ⟨here, others⟩ := returns
      obtain ⟨fresh, distinct⟩ := List.nodup_cons.mp distinct
      have front : before.filter (fun member => member.1 = field.name) = [] := by
        refine List.filter_eq_nil_iff.mpr fun entry member same => ?_
        exact apart entry member (of_decide_eq_true same ▸ List.mem_cons_self)
      have back := filter_toMembers fresh row
      have among : field.among? (before ++ (Fields.cons field rest).toMembers (value, row)) =
          some value := by
        cases unwritten : field.unwritten value with
        | true =>
            simp only [Field.among?, toMembers, unwritten, if_true, List.filter_append, front,
              back, List.append_nil, here.assumed unwritten]
        | false =>
            simp only [Field.among?, toMembers, unwritten, Bool.false_eq_true, if_false,
              List.filter_append, front, List.filter_cons, back, decide_true, if_true,
              List.nil_append, (here.written unwritten).found]
      rw [ofMembers_cons, among]
      have apart : ∀ entry ∈ before, entry.1 ∉ rest.names := fun entry member =>
        List.not_mem_of_not_mem_cons (apart entry member)
      -- The member of the first field is one more that the others are found behind.
      have within : rest.ofMembers (before ++ (Fields.cons field rest).toMembers (value, row)) =
          some row := by
        rw [toMembers]
        split
        · exact ih distinct others before apart
        · rw [List.append_cons]
          refine ih distinct others _ fun entry member => ?_
          rcases List.mem_append.mp member with member | member
          · exact apart entry member
          · rw [List.mem_singleton.mp member]
            exact fresh
      rw [within]
      rfl

theorem buffered_of_mem_toMembers {row : Row types} (returns : fields.Returns @Format.Keeps row)
    {entry : String × Json} (member : entry ∈ fields.toMembers row) :
    Takes (tree Format.bufferDepth) entry.2.bytes entry.2 := by
  induction fields with
  | nil => cases member
  | cons field rest ih =>
      obtain ⟨value, row⟩ := row
      obtain ⟨here, others⟩ := returns
      rw [toMembers] at member
      split at member
      · exact ih others member
      · rename_i written
        rcases List.mem_cons.mp member with rfl | member
        · exact (here.written (Bool.eq_false_iff.mpr written)).buffered
        · exact ih others member

/-- How an object reads the member under a name, if it keeps the members it does not know. -/
def bufferMember (own : Fields types) (state : Slots types × List (String × Json))
    (name : String) : Reader (Slots types × List (String × Json)) :=
  match own.member? state.1 name with
  | some reader => do return (← reader, state.2)
  | none => do
      colon
      return (state.1, (name, ← tree Format.bufferDepth) :: state.2)

theorem bufferMember_yields (faithful : fields.Faithful)
    (state : Slots types × List (String × Json)) (name : String) (known : fields.Known state.1) :
    (fields.bufferMember state name).Yields fun state => fields.Known state.1 := by
  unfold bufferMember
  split
  · rename_i found
    exact (member?_yields faithful known found).bind fun _ known => .pure known
  · exact .after _ fun _ => .after _ fun _ => .pure known

/-- Members of other names are kept in their order. -/
theorem chain_buffered (slots : Slots types) {entries : List (String × Json)}
    (unknown : ∀ entry ∈ entries, entry.1 ∉ fields.names)
    (buffered : ∀ entry ∈ entries, Takes (tree Format.bufferDepth) entry.2.bytes entry.2)
    (others : List (String × Json)) :
    Chain (Handles fields.bufferMember) (slots, others) entries
      (slots, entries.reverse ++ others) := by
  induction entries generalizing others with
  | nil => exact .nil _
  | cons entry entries ih =>
      obtain ⟨fresh, unknown⟩ := List.forall_mem_cons.mp unknown
      obtain ⟨takes, buffered⟩ := List.forall_mem_cons.mp buffered
      rw [List.reverse_cons, List.append_assoc, List.singleton_append]
      refine .cons (fun rest stops => ?_) (ih unknown buffered (entry :: others))
      rw [bufferMember, member?_eq_none fresh]
      refine (bind_of_ok (colon_cons _)).trans ?_
      exact (bind_of_ok (takes rest stops)).trans rfl

/-- The members of a flattened record are kept or fill the slots of its own fields. -/
theorem chain_flattened {within : Fields inner} {own : Fields outer}
    (distinct : own.names.Nodup) (apart : ∀ name ∈ within.names, name ∉ own.names)
    {first : Row inner} {second : Row outer} (keeps : within.Returns @Format.Keeps first)
    (returns : own.Returns @Format.Recovers second) :
    Chain (Handles own.bufferMember) (own.empty, [])
      (within.toMembers first ++ own.toMembers second)
      (own.filled second, (within.toMembers first).reverse) := by
  have kept := chain_buffered own.empty
    (fun entry member => apart _ (mem_toMembers member))
    (fun entry member => buffered_of_mem_toMembers keeps member) []
  rw [List.append_nil] at kept
  refine kept.append ((chain_filled distinct returns).map
    (fun slots => (slots, (within.toMembers first).reverse)) ?_)
  rintro entry - slots next ⟨reader, found, takes⟩ rest stops
  simp only [bufferMember, found]
  exact (bind_of_ok (takes rest stops)).trans rfl

end Fields

/-! ## Formats of records -/

namespace Format

theorem text_solid : text.Solid :=
  opens_text

theorem integer_solid (low high : Int) : (integer low high).Solid :=
  opens_integer

theorem choice_solid (named? : String → Option α) (name : α → String) :
    (choice named? name).Solid :=
  fun value => opens_text (name value)

section Record

variable {fields : Fields types} {build : Row types → α} {parts : α → Row types}

theorem record_solid : (record fields build parts).Solid :=
  fun _ => opens_object _

theorem record_recovers (distinct : fields.names.Nodup) {value : α}
    (built : build (parts value) = value)
    (returns : fields.Returns @Format.Recovers (parts value)) :
    (record fields build parts).Recovers value := by
  intro rest _
  change (record fields build parts).read
    ((Json.object (fields.toMembers (parts value))).bytes ++ rest) = _
  rw [bytes_object, List.cons_append, List.append_assoc]
  refine (bind_of_ok (token_cons rfl)).trans ((bind_of_ok advance_cons).trans ?_)
  refine (map_of_ok build (Fields.readObject_written distinct returns rest)).trans ?_
  rw [built]

theorem record_faithful (distinct : fields.names.Nodup) (faithful : fields.Faithful)
    (taken : ∀ row, parts (build row) = row) : (record fields build parts).Faithful := by
  have recovers (row : Row types) (returns : fields.Returns @Format.Recovers row) :
      (record fields build parts).Recovers (build row) :=
    record_recovers distinct (congrArg build (taken row)) (by rwa [taken])
  refine .after _ fun next => ?_
  split
  · exact .refuse _
  · exact .after _ fun _ => (Fields.readObject_yields faithful).map recovers
  · exact .after _ fun _ => (Fields.readArray_yields faithful true).map recovers
  · exact .misfit

end Record

section Flattened

variable {within : Fields inner} {own : Fields outer} {build : Row inner → Row outer → α}
  {parts : α → Row inner × Row outer}

theorem flattened_recovers (innerDistinct : within.names.Nodup) (distinct : own.names.Nodup)
    (apart : ∀ name ∈ within.names, name ∉ own.names) {value : α}
    (built : build (parts value).1 (parts value).2 = value)
    (keeps : within.Returns @Format.Keeps (parts value).1)
    (returns : own.Returns @Format.Recovers (parts value).2) :
    (flattened within own build parts).Recovers value := by
  intro rest _
  have chain := Fields.chain_flattened distinct apart keeps returns
  have found := Fields.ofMembers_toMembers innerDistinct keeps [] nofun
  have enough := length_le_memberChars
    (within.toMembers (parts value).1 ++ own.toMembers (parts value).2)
  change (flattened within own build parts).read ((Json.object
    (within.toMembers (parts value).1 ++ own.toMembers (parts value).2)).bytes ++ rest) = _
  rw [bytes_object, List.cons_append, List.append_assoc]
  refine (bind_of_ok (token_cons rfl)).trans ((bind_of_ok advance_cons).trans ?_)
  refine (bind_of_ok allowance_eq).trans
    ((bind_of_ok (foldMembers_written chain ?_ rest)).trans ?_)
  · simp only [List.length_cons, List.length_append] at enough ⊢
    omega
  · rw [List.nil_append] at found
    simp only [Fields.complete_filled returns, List.reverse_reverse, found]
    exact congrArg (fun value => Except.ok (value, rest)) built

theorem flattened_faithful (innerDistinct : within.names.Nodup) (distinct : own.names.Nodup)
    (apart : ∀ name ∈ within.names, name ∉ own.names) (keeping : within.Keeping)
    (faithful : own.Faithful)
    (taken : ∀ first second, parts (build first second) = (first, second)) :
    (flattened within own build parts).Faithful := by
  refine .after _ fun next => ?_
  split
  · exact .refuse _
  · refine .after _ fun _ => .after _ fun fuel => ?_
    refine .bind (.foldMembers (Fields.bufferMember_yields faithful) fuel true own.known_empty)
      fun state known => ?_
    obtain ⟨slots, others⟩ := state
    refine .bind (.fit fun row completed => Fields.complete_returns faithful known completed)
      fun second returns => ?_
    refine .bind (.fit fun row found => Fields.ofMembers_returns keeping found)
      fun first keeps => .pure ?_
    refine flattened_recovers innerDistinct distinct apart ?_ ?_ ?_
    · rw [taken]
    · rwa [taken]
    · rwa [taken]
  · exact .misfit

end Flattened

end Format

end CardInventory.Json
