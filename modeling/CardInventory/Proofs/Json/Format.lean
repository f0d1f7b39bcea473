import CardInventory.Proofs.Json.Compound

/-!
# Values that come back from their texts

A value comes back in a format if its text is read as this value, wherever it stands.
A format is faithful if whatever it reads comes back. This is shown for the plain
formats, and carried through the formats that are made of others.

The members of a flattened record are read as trees first. There a value comes back if
its tree does, and is the tree of this value.
-/

namespace CardInventory.Json

open Text Reader

variable {α β : Type}

namespace Reader

/-- Whatever a reader reads satisfies a condition. -/
def Yields (reader : Reader α) (condition : α → Prop) : Prop :=
  ∀ ⦃text value rest⦄, reader text = .ok (value, rest) → condition value

namespace Yields

variable {condition : α → Prop} {reader : Reader α}

theorem refuse (fault : Fault) : Yields (Reader.refuse fault) condition :=
  nofun

theorem pure {value : α} (holds : condition value) : Yields (Pure.pure value) condition := by
  rintro text _ _ ⟨⟩
  exact holds

theorem bind {result : β → Prop} {next : α → Reader β} (first : Yields reader condition)
    (second : ∀ value, condition value → Yields (next value) result) :
    Yields (reader >>= next) result := by
  intro text value rest read
  change (reader text).bind _ = _ at read
  cases taken : reader text with
  | error fault =>
      rw [taken] at read
      cases read
  | ok outcome =>
      rw [taken] at read
      exact second _ (first taken) read

theorem any (reader : Reader α) : Yields reader fun _ => True :=
  fun _ _ _ _ => trivial

/-- What a first step yields is of no use to what follows it. -/
theorem after {result : β → Prop} (reader : Reader α) {next : α → Reader β}
    (second : ∀ value, Yields (next value) result) : Yields (reader >>= next) result :=
  (any reader).bind fun value _ => second value

theorem map {result : β → Prop} {image : α → β} (first : Yields reader condition)
    (carried : ∀ value, condition value → result (image value)) :
    Yields (image <$> reader) result :=
  first.bind fun value holds => pure (carried value holds)

theorem fit {found : Option α} (holds : ∀ value, found = some value → condition value) :
    Yields (Format.fit found) condition := by
  cases found with
  | none => exact refuse .unfit
  | some value => exact pure (holds value rfl)

theorem misfit : Yields (Reader.misfit : Reader α) condition := by
  unfold Reader.misfit
  refine after peek fun next => ?_
  split
  · exact after _ fun _ => after _ fun _ => refuse _
  · exact after _ fun _ => after _ fun _ => refuse _
  · exact after _ fun _ => after _ fun _ => refuse _
  · exact after _ fun _ => after _ fun _ => refuse _
  · exact refuse _
  · exact refuse _
  · split
    · exact after _ fun _ => refuse _
    · exact after _ fun _ => refuse _
  · exact after _ fun _ => refuse _

theorem itemsOf {item : Reader α} (each : Yields item condition) (fuel : Bytes) (first : Bool) :
    Yields (Reader.itemsOf item fuel first) fun values => ∀ value ∈ values, condition value := by
  induction fuel generalizing first with
  | nil => exact refuse _
  | cons spare fuel ih =>
      refine after _ fun more => ?_
      split
      · exact each.bind fun value holds => (ih false).bind fun values others =>
          pure (List.forall_mem_cons.mpr ⟨holds, others⟩)
      · exact after _ fun _ => pure nofun

theorem foldMembers {σ : Type} {holds : σ → Prop} {member : σ → String → Reader σ}
    (each : ∀ state name, holds state → Yields (member state name) holds) (fuel : Bytes)
    (first : Bool) {state : σ} (before : holds state) :
    Yields (Reader.foldMembers member fuel first state) holds := by
  induction fuel generalizing first state with
  | nil => exact refuse _
  | cons spare fuel ih =>
      refine after _ fun name => ?_
      split
      · exact pure before
      · exact (each _ _ before).bind fun next kept => ih false kept

end Yields

end Reader

theorem bytes_text (value : String) (rest : Bytes) :
    (Json.text value).bytes ++ rest =
      0x22 :: (encode (value.toList.flatMap escape) ++ 0x22 :: rest) := by
  change encode (quote value.toList) ++ rest = _
  rw [encode_quote, List.cons_append, List.append_assoc]
  rfl

theorem token_text (value : String) (rest : Bytes) :
    token ((Json.text value).bytes ++ rest) = .ok (some '"', (Json.text value).bytes ++ rest) :=
  token_cons rfl

namespace Format

/-- A value is read back from its text. -/
def Recovers (format : Format α) (value : α) : Prop :=
  Takes format.read (format.toTree value).bytes value

/-- Whatever a format reads is read back from its text. -/
def Faithful (format : Format α) : Prop :=
  format.read.Yields format.Recovers

/-- The text a format writes for a value. -/
def write (format : Format α) (value : α) : Bytes :=
  bytesOf (format.toTree value).render

theorem decode_write {format : Format α} {value : α} (recovers : format.Recovers value) :
    format.decode (format.write value) = .ok value := by
  have read := recovers [] .nil
  rw [List.append_nil] at read
  rw [decode, write, bytesOf_render, whole, read]
  rfl

/-- What has been accepted comes back from the text written for it. -/
theorem Faithful.recovers {format : Format α} (faithful : format.Faithful) {bytes : Bytes}
    {value : α} (accepted : format.decode bytes = .ok value) : format.Recovers value := by
  cases read : format.read bytes with
  | error fault =>
      rw [decode, whole, read] at accepted
      cases accepted
  | ok outcome =>
      obtain ⟨taken, rest⟩ := outcome
      rw [decode, whole, read] at accepted
      change (if (rest.dropWhile isSpace).isEmpty then Except.ok taken else _) = _ at accepted
      split at accepted
      · cases accepted
        exact faithful read
      · cases accepted

/-! ## Plain formats -/

theorem text_recovers (value : String) : text.Recovers value := by
  intro rest _
  change text.read ((Json.text value).bytes ++ rest) = _
  rw [bytes_text]
  refine (bind_of_ok (token_cons rfl)).trans ((bind_of_ok advance_cons).trans ?_)
  exact stringTail_text value rest

theorem text_faithful : text.Faithful :=
  fun _ value _ _ => text_recovers value

section Spelling

variable {parse : String → Option α} {print : α → String}

theorem spelling_recovers {value : α} (spelled : parse (print value) = some value) :
    (spelling parse print).Recovers value := by
  intro rest stops
  refine (bind_of_ok (text_recovers (print value) rest stops)).trans ?_
  rw [spelled]
  rfl

theorem spelling_faithful
    (stable : ∀ spelling value, parse spelling = some value → parse (print value) = some value) :
    (spelling parse print).Faithful :=
  .after _ fun text => .fit fun value spelled => spelling_recovers (stable text value spelled)

end Spelling

theorem flag_recovers (value : Bool) : flag.Recovers value := by
  intro rest _
  cases value <;> rfl

theorem flag_faithful : flag.Faithful :=
  fun _ value _ _ => flag_recovers value

theorem fits_of_within {low high value : Int} (least : Width.least 64 ≤ low)
    (greatest : high ≤ Width.greatest 64) (within : low ≤ value ∧ value ≤ high) :
    Width.fits 64 value = true := by
  simp only [Width.fits, Bool.and_eq_true, decide_eq_true_eq]
  exact ⟨Int.le_trans least within.1, Int.le_trans within.2 greatest⟩

section Integer

variable {low high : Int}

theorem integer_recovers (least : Width.least 64 ≤ low) (greatest : high ≤ Width.greatest 64)
    {value : Int} (within : low ≤ value ∧ value ≤ high) : (integer low high).Recovers value := by
  have fits := fits_of_within least greatest within
  intro rest stops
  refine (bind_of_ok (readNumber_integer fits rest stops)).trans ?_
  simp only [if_pos within]
  rfl

theorem integer_faithful (least : Width.least 64 ≤ low) (greatest : high ≤ Width.greatest 64) :
    (integer low high).Faithful := by
  refine .after _ fun number => ?_
  split
  · split
    · rename_i within
      exact .pure (integer_recovers least greatest within)
    · exact .refuse _
  · exact .refuse _

end Integer

section Choice

variable {named? : String → Option α} {name : α → String}

theorem choice_recovers {value : α} (named : named? (name value) = some value) :
    (choice named? name).Recovers value := by
  intro rest stops
  refine (bind_of_ok (token_text (name value) rest)).trans ?_
  refine (bind_of_ok (text_recovers (name value) rest stops)).trans ?_
  rw [named]
  rfl

theorem choice_faithful (named : ∀ value, named? (name value) = some value) :
    (choice named? name).Faithful :=
  fun _ value _ _ => choice_recovers (named value)

end Choice

/-! ## Formats made of others -/

/-- The texts of a format show that they are values. -/
def Solid (format : Format α) : Prop :=
  ∀ value, (format.toTree value).Opens

section Nested

variable {format : Format α} (solid : format.Solid)

theorem nullable_null : format.nullable.Recovers none :=
  fun _ _ => rfl

include solid in
theorem nullable_recovers {value : Option α}
    (recovers : ∀ inner, value = some inner → format.Recovers inner) :
    format.nullable.Recovers value := by
  rcases value with _ | value
  · exact nullable_null
  intro rest stops
  have read := recovers value rfl rest stops
  obtain ⟨byte, more, spelled, blank, -, notNull⟩ := solid value
  change format.nullable.read ((format.toTree value).bytes ++ rest) = _
  rw [spelled, List.cons_append] at read ⊢
  refine (bind_of_ok (token_cons blank)).trans ?_
  refine (congrFun (g := some <$> format.read) ?_ _).trans (map_of_ok some read)
  split
  · rename_i same
    exact absurd (Option.some.inj same) notNull
  · rfl

include solid in
theorem nullable_faithful (faithful : format.Faithful) : format.nullable.Faithful := by
  refine .after _ fun next => ?_
  split
  · exact .after _ fun _ => .after _ fun _ => .pure nullable_null
  · exact faithful.map fun value recovers =>
      nullable_recovers solid fun _ same => Option.some.inj same ▸ recovers

include solid in
theorem list_recovers {values : List α} (recovers : ∀ value ∈ values, format.Recovers value) :
    format.list.Recovers values := by
  intro rest _
  change format.list.read ((Json.array (values.map format.toTree)).bytes ++ rest) = _
  rw [bytes_array, List.cons_append, List.append_assoc]
  refine (bind_of_ok (token_cons rfl)).trans ((bind_of_ok advance_cons).trans ?_)
  refine (bind_of_ok allowance_eq).trans ?_
  refine itemsOf_written (fun value member => ⟨solid value, recovers value member⟩) ?_ rest
  have each := length_le_itemChars (values.map format.toTree)
  simp only [List.length_map, List.length_cons, List.length_append] at each ⊢
  omega

include solid in
theorem list_faithful (faithful : format.Faithful) : format.list.Faithful := by
  refine .after _ fun next => ?_
  split
  · exact .refuse _
  · refine .after _ fun _ => .after _ fun fuel => ?_
    exact fun _ values _ read => list_recovers solid (Yields.itemsOf faithful fuel true read)
  · exact .misfit

end Nested

/-! ## Trees -/

/-- A value is found in its tree, and its tree is read back among the members of an object. -/
structure Keeps (format : Format α) (value : α) : Prop where
  found : format.ofTree (format.toTree value) = some value
  buffered : Takes (tree bufferDepth) (format.toTree value).bytes (format.toTree value)

/-- Whatever a format finds in a tree is kept by it. -/
def Keeping (format : Format α) : Prop :=
  ∀ tree value, format.ofTree tree = some value → format.Keeps value

theorem tree_null : Takes (tree bufferDepth) Json.null.bytes .null :=
  fun _ _ => rfl

theorem tree_text (value : String) :
    Takes (tree bufferDepth) (Json.text value).bytes (.text value) := by
  intro rest _
  rw [bytes_text]
  refine (bind_of_ok (token_cons rfl)).trans ((bind_of_ok advance_cons).trans ?_)
  exact map_of_ok Json.text (stringTail_text value rest)

/-- A number as a tree. -/
def numberTree : Reader Json := do
  match ← number with
  | .integer value => pure (.integer value)
  | .real value => pure (.real value)

theorem tree_integer {value : Int} (fits : Width.fits 64 value = true) :
    Takes (tree bufferDepth) (Json.integer value).bytes (.integer value) := by
  intro rest stops
  obtain ⟨c, opens, first⟩ := token_integerChars value rest
  refine (bind_of_ok first).trans ?_
  refine (congrFun (g := numberTree) ?_ _).trans
    ((bind_of_ok (number_integerChars fits rest stops)).trans rfl)
  -- No other mark opens a number.
  split
  all_goals first
    | (rename_i same; cases same; cases opens)
    | (rename_i same _; cases same; cases opens)
    | (rename_i same; cases same)
    | skip
  rename_i same _ _ _ _
  cases same
  exact if_pos opens

theorem text_keeps (value : String) : text.Keeps value :=
  ⟨rfl, tree_text value⟩

theorem text_keeping : text.Keeping :=
  fun _ value _ => text_keeps value

section Spelling

variable {parse : String → Option α} {print : α → String}

theorem spelling_keeps {value : α} (spelled : parse (print value) = some value) :
    (spelling parse print).Keeps value :=
  ⟨spelled, tree_text (print value)⟩

theorem spelling_keeping
    (stable : ∀ spelling value, parse spelling = some value → parse (print value) = some value) :
    (spelling parse print).Keeping := by
  intro tree value found
  obtain ⟨text, -, spelled⟩ := Option.bind_eq_some_iff.mp found
  exact spelling_keeps (stable text value spelled)

end Spelling

section Integer

variable {low high : Int}

theorem integer_keeps (least : Width.least 64 ≤ low) (greatest : high ≤ Width.greatest 64)
    {value : Int} (within : low ≤ value ∧ value ≤ high) : (integer low high).Keeps value := by
  refine ⟨?_, tree_integer (fits_of_within least greatest within)⟩
  change (some value).filter (fun value => decide (low ≤ value ∧ value ≤ high)) = some value
  rw [Option.filter_some, if_pos (decide_eq_true within)]

theorem integer_keeping (least : Width.least 64 ≤ low) (greatest : high ≤ Width.greatest 64) :
    (integer low high).Keeping := by
  intro tree value found
  obtain ⟨-, within⟩ := Option.filter_eq_some_iff.mp found
  exact integer_keeps least greatest (by simpa using within)

end Integer

section Nested

variable {format : Format α} (solid : format.Solid)

theorem nullable_keeps_null : format.nullable.Keeps none :=
  ⟨rfl, tree_null⟩

include solid in
theorem nullable_keeps {value : Option α}
    (keeps : ∀ inner, value = some inner → format.Keeps inner) :
    format.nullable.Keeps value := by
  rcases value with _ | value
  · exact nullable_keeps_null
  have ⟨found, buffered⟩ := keeps value rfl
  refine ⟨?_, buffered⟩
  have notNull := (solid value).ne_null
  change format.nullable.ofTree (format.toTree value) = _
  generalize format.toTree value = tree at found notNull
  cases tree with
  | null => exact absurd rfl notNull
  | _ => exact congrArg (Option.map some) found

include solid in
theorem nullable_keeping (keeping : format.Keeping) : format.nullable.Keeping := by
  intro tree value found
  simp only [nullable] at found
  split at found
  · cases found
    exact nullable_keeps_null
  · obtain ⟨inner, within, rfl⟩ := Option.map_eq_some_iff.mp found
    exact nullable_keeps solid fun _ same => Option.some.inj same ▸ keeping _ inner within

end Nested

end Format

end CardInventory.Json
