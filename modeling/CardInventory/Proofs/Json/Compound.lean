import CardInventory.Proofs.Json.Scan

/-!
# Reading arrays and objects that have been written

The items of an array and the members of an object stand between commas, without any
white space. They are read back one after another, where each of them is, and the
steps that are allowed are enough for it.
-/

namespace CardInventory.Json

open Text Reader

variable {α σ : Type}

theorem Stops.comma (rest : Bytes) : Stops (0x2C :: rest) := by
  rintro _ ⟨⟩
  exact .inl rfl

theorem Stops.bracket (rest : Bytes) : Stops (0x5D :: rest) := by
  rintro _ ⟨⟩
  exact .inr (.inl rfl)

theorem Stops.brace (rest : Bytes) : Stops (0x7D :: rest) := by
  rintro _ ⟨⟩
  exact .inr (.inr rfl)

theorem Stops.nil : Stops [] := nofun

/-- Whether the text of a value shows by its first byte that it is one, and not a null. -/
def Opens (value : Json) : Prop :=
  ∃ byte more, value.bytes = byte :: more ∧ isSpace byte = false ∧ symbol byte ≠ ']' ∧
    symbol byte ≠ 'n'

theorem opens_text (text : String) : (Json.text text).Opens :=
  ⟨0x22, _, rfl, rfl, by decide, by decide⟩

theorem opens_object (members : List (String × Json)) : (Json.object members).Opens :=
  ⟨0x7B, _, rfl, rfl, by decide, by decide⟩

theorem opens_integer (value : Int) : (Json.integer value).Opens := by
  obtain ⟨c, cs, digits, opens, -⟩ := integerChars_eq_cons value
  obtain ⟨small, solid⟩ := toNat_of_opensNumber opens
  refine ⟨UInt8.ofNat c.toNat, encode cs, ?_, solid, ?_, ?_⟩
  · change encode (integerChars value) = _
    rw [digits, encode_cons, utf8EncodeChar_of_lt small, List.singleton_append]
  · rw [symbol_ofNat small]
    rintro rfl
    cases opens
  · rw [symbol_ofNat small]
    rintro rfl
    cases opens

theorem Opens.ne_null {value : Json} (opens : value.Opens) : value ≠ .null := by
  rintro rfl
  obtain ⟨byte, more, spelled, -, -, notNull⟩ := opens
  obtain ⟨rfl, -⟩ := List.cons.inj (show _ = byte :: more from spelled)
  exact notNull rfl

/-- Where values stand behind commas up to a closing bracket, a value may end before them. -/
theorem stops_flatMap {closing : UInt8} (closes : Stops [closing]) (write : α → Bytes)
    (values : List α) (rest : Bytes) :
    Stops ((values.flatMap fun value => 0x2C :: write value) ++ closing :: rest) := by
  cases values with
  | nil => exact closes
  | cons value values => exact .comma _

/-! ## Items -/

theorem bytes_array (items : List Json) :
    (Json.array items).bytes = 0x5B :: (encode (itemChars items) ++ [0x5D]) := by
  rw [bytes, chars, List.cons_append, encode_cons, encode_append]
  rfl

theorem encode_itemChars (first : Json) (rest : List Json) :
    encode (itemChars (first :: rest)) =
      first.bytes ++ rest.flatMap fun item => 0x2C :: item.bytes := by
  induction rest generalizing first with
  | nil => simp [itemChars, bytes]
  | cons second rest ih =>
      rw [itemChars, encode_append, encode_cons, ih, List.flatMap_cons]
      · rfl
      · exact List.cons_ne_nil _ _

theorem length_le_flatMap (mark : UInt8) (write : α → Bytes) (values : List α) :
    values.length ≤ (values.flatMap fun value => mark :: write value).length := by
  induction values with
  | nil => exact Nat.le_refl 0
  | cons value values ih =>
      rw [List.flatMap_cons, List.length_append, List.length_cons, List.length_cons]
      omega

theorem length_le_itemChars (items : List Json) :
    items.length ≤ (encode (itemChars items)).length + 1 := by
  cases items with
  | nil => exact Nat.zero_le _
  | cons first rest =>
      have each := length_le_flatMap 0x2C bytes rest
      rw [encode_itemChars, List.length_append, List.length_cons]
      omega

theorem anotherItem_first {byte : UInt8} (solid : isSpace byte = false)
    (other : symbol byte ≠ ']') (rest : Bytes) :
    anotherItem true (byte :: rest) = .ok (true, byte :: rest) := by
  rw [anotherItem, bind_of_ok (token_cons solid)]
  refine (congrFun (g := (pure true : Reader Bool)) ?_ _).trans rfl
  split
  · rename_i same
    cases same
  · rename_i same
    exact absurd (Option.some.inj same) other
  · rfl

theorem anotherItem_later {byte : UInt8} (solid : isSpace byte = false)
    (other : symbol byte ≠ ']') (rest : Bytes) :
    anotherItem false (0x2C :: byte :: rest) = .ok (true, byte :: rest) := by
  rw [anotherItem, bind_of_ok (token_cons rfl)]
  refine (bind_of_ok advance_cons).trans ((bind_of_ok (token_cons solid)).trans ?_)
  refine (congrFun (g := (pure true : Reader Bool)) ?_ _).trans rfl
  split
  · rename_i same
    exact absurd (Option.some.inj same) other
  · rfl
  · rename_i same
    cases same

section Items

variable {item : Reader α}

theorem itemsOf_next {first : Bool} {text front more rest : Bytes} {value : α} {values : List α}
    {fuel : Bytes} (another : anotherItem first text = .ok (true, front))
    (read : item front = .ok (value, more))
    (others : itemsOf item fuel false more = .ok (values, rest)) (spare : UInt8) :
    itemsOf item (spare :: fuel) first text = .ok (value :: values, rest) := by
  rw [itemsOf, bind_of_ok another, if_pos rfl]
  exact (bind_of_ok read).trans ((bind_of_ok others).trans rfl)

variable {write : α → Json}

theorem itemsOf_later {values : List α}
    (read : ∀ value ∈ values, (write value).Opens ∧ Takes item (write value).bytes value)
    {fuel : Bytes} (enough : values.length < fuel.length) (rest : Bytes) :
    itemsOf item fuel false
        ((values.flatMap fun value => 0x2C :: (write value).bytes) ++ 0x5D :: rest) =
      .ok (values, rest) := by
  induction values generalizing fuel with
  | nil =>
      obtain ⟨spare, fuel, rfl⟩ := List.exists_cons_of_length_pos enough
      rfl
  | cons value values ih =>
      obtain ⟨spare, fuel, rfl⟩ := List.exists_cons_of_length_pos (Nat.zero_lt_of_lt enough)
      obtain ⟨⟨⟨byte, more, spelled, solid, other, -⟩, takes⟩, others⟩ :=
        List.forall_mem_cons.mp read
      have first := takes _ (stops_flatMap (.bracket []) (fun value => (write value).bytes) values
        rest)
      rw [spelled, List.cons_append] at first
      rw [List.flatMap_cons, spelled, List.append_assoc, List.cons_append, List.cons_append]
      exact itemsOf_next (anotherItem_later solid other _) first
        (ih others (by simpa using enough)) spare

/-- The items of an array are read back if each of them is. -/
theorem itemsOf_written {values : List α}
    (read : ∀ value ∈ values, (write value).Opens ∧ Takes item (write value).bytes value)
    {fuel : Bytes} (enough : values.length < fuel.length) (rest : Bytes) :
    itemsOf item fuel true (encode (itemChars (values.map write)) ++ 0x5D :: rest) =
      .ok (values, rest) := by
  obtain ⟨spare, fuel, rfl⟩ := List.exists_cons_of_length_pos (Nat.zero_lt_of_lt enough)
  cases values with
  | nil => rfl
  | cons value values =>
      obtain ⟨⟨⟨byte, more, spelled, solid, other, -⟩, takes⟩, others⟩ :=
        List.forall_mem_cons.mp read
      have first := takes _ (stops_flatMap (.bracket []) (fun value => (write value).bytes) values
        rest)
      rw [spelled, List.cons_append] at first
      rw [List.map_cons, encode_itemChars, List.flatMap_map, spelled, List.append_assoc,
        List.cons_append]
      exact itemsOf_next (anotherItem_first solid other _) first
        (itemsOf_later others (by simpa using enough) rest) spare

end Items

/-! ## Members -/

/-- The bytes of a member. -/
def memberBytes (member : String × Json) : Bytes :=
  encode (quote member.1.toList) ++ 0x3A :: member.2.bytes

theorem bytes_object (members : List (String × Json)) :
    (Json.object members).bytes = 0x7B :: (encode (memberChars members) ++ [0x7D]) := by
  rw [bytes, chars, List.cons_append, encode_cons, encode_append]
  rfl

theorem encode_member (member : String × Json) :
    encode (quote member.1.toList ++ ':' :: member.2.chars) = memberBytes member := by
  rw [encode_append, encode_cons]
  rfl

theorem encode_memberChars (first : String × Json) (rest : List (String × Json)) :
    encode (memberChars (first :: rest)) =
      memberBytes first ++ rest.flatMap fun member => 0x2C :: memberBytes member := by
  induction rest generalizing first with
  | nil => rw [memberChars, encode_member, List.flatMap_nil, List.append_nil]
  | cons second rest ih =>
      rw [memberChars, encode_append, encode_member, encode_cons, ih, List.flatMap_cons]
      · rfl
      · exact List.cons_ne_nil _ _

theorem length_le_memberChars (members : List (String × Json)) :
    members.length ≤ (encode (memberChars members)).length + 1 := by
  cases members with
  | nil => exact Nat.zero_le _
  | cons first rest =>
      have each := length_le_flatMap 0x2C memberBytes rest
      rw [encode_memberChars, List.length_append, List.length_cons]
      omega

theorem encode_quote (name : String) :
    encode (quote name.toList) = 0x22 :: (encode (name.toList.flatMap escape) ++ [0x22]) := by
  rw [quote, List.cons_append, encode_cons, encode_append]
  rfl

theorem nextName_first (name : String) (rest : Bytes) :
    nextName true (encode (quote name.toList) ++ rest) = .ok (some name, rest) := by
  rw [encode_quote, List.cons_append, List.append_assoc, nextName, bind_of_ok (token_cons rfl)]
  refine (bind_of_ok advance_cons).trans ?_
  exact map_of_ok some (stringTail_text name rest)

theorem nextName_later (name : String) (rest : Bytes) :
    nextName false (0x2C :: encode (quote name.toList) ++ rest) = .ok (some name, rest) := by
  rw [encode_quote, List.cons_append, List.cons_append, List.append_assoc, nextName,
    bind_of_ok (token_cons rfl)]
  refine (bind_of_ok advance_cons).trans ((bind_of_ok (token_cons rfl)).trans ?_)
  refine (bind_of_ok advance_cons).trans ?_
  exact map_of_ok some (stringTail_text name rest)

theorem colon_cons (rest : Bytes) : colon (0x3A :: rest) = .ok ((), rest) :=
  rfl

/-- Steps that take a state through entries one after another. -/
inductive Chain (step : σ → String × Json → σ → Prop) : σ → List (String × Json) → σ → Prop where
  | nil (state : σ) : Chain step state [] state
  | cons {state next last : σ} {entry : String × Json} {entries : List (String × Json)}
      (first : step state entry next) (others : Chain step next entries last) :
      Chain step state (entry :: entries) last

namespace Chain

variable {τ : Type} {step : σ → String × Json → σ → Prop} {state middle last : σ}
  {entries others : List (String × Json)}

theorem append (front : Chain step state entries middle) (back : Chain step middle others last) :
    Chain step state (entries ++ others) last := by
  induction front with
  | nil => exact back
  | cons first _ ih => exact .cons first (ih back)

theorem map {step' : τ → String × Json → τ → Prop} (image : σ → τ)
    (chain : Chain step state entries last)
    (each : ∀ entry ∈ entries, ∀ state next, step state entry next →
      step' (image state) entry (image next)) :
    Chain step' (image state) entries (image last) := by
  induction chain with
  | nil => exact .nil _
  | cons first _ ih =>
      obtain ⟨head, tail⟩ := List.forall_mem_cons.mp each
      exact .cons (head _ _ first) (ih tail)

end Chain

section Members

variable {member : σ → String → Reader σ}

/-- The step that reads a member from behind its name. -/
def Handles (member : σ → String → Reader σ) (state : σ) (entry : String × Json) (next : σ) :
    Prop :=
  Takes (member state entry.1) (0x3A :: entry.2.bytes) next

theorem foldMembers_next {first : Bool} {text front more rest : Bytes} {name : String}
    {state next last : σ} {fuel : Bytes} (named : nextName first text = .ok (some name, front))
    (handled : member state name front = .ok (next, more))
    (others : foldMembers member fuel false next more = .ok (last, rest)) (spare : UInt8) :
    foldMembers member (spare :: fuel) first state text = .ok (last, rest) := by
  rw [foldMembers, bind_of_ok named]
  exact (bind_of_ok handled).trans others

theorem foldMembers_later {entries : List (String × Json)} {state last : σ}
    (chain : Chain (Handles member) state entries last) {fuel : Bytes}
    (enough : entries.length < fuel.length) (rest : Bytes) :
    foldMembers member fuel false state
        ((entries.flatMap fun entry => 0x2C :: memberBytes entry) ++ 0x7D :: rest) =
      .ok (last, rest) := by
  induction chain generalizing fuel with
  | nil =>
      obtain ⟨spare, fuel, rfl⟩ := List.exists_cons_of_length_pos enough
      rfl
  | @cons state next last entry entries first _ ih =>
      obtain ⟨spare, fuel, rfl⟩ := List.exists_cons_of_length_pos (Nat.zero_lt_of_lt enough)
      have handled := first _ (stops_flatMap (.brace []) memberBytes entries rest)
      rw [List.flatMap_cons, memberBytes, List.append_assoc, ← List.cons_append, List.append_assoc]
      exact foldMembers_next (nextName_later entry.1 _) handled (ih (by simpa using enough)) spare

/-- The members of an object are read back if each of them is. -/
theorem foldMembers_written {entries : List (String × Json)} {state last : σ}
    (chain : Chain (Handles member) state entries last) {fuel : Bytes}
    (enough : entries.length < fuel.length) (rest : Bytes) :
    foldMembers member fuel true state (encode (memberChars entries) ++ 0x7D :: rest) =
      .ok (last, rest) := by
  obtain ⟨spare, fuel, rfl⟩ := List.exists_cons_of_length_pos (Nat.zero_lt_of_lt enough)
  cases chain with
  | nil => rfl
  | @cons _ next _ entry entries first others =>
      have handled := first _ (stops_flatMap (.brace []) memberBytes entries rest)
      rw [encode_memberChars, memberBytes, List.append_assoc, List.append_assoc]
      exact foldMembers_next (nextName_first entry.1 _) handled
        (foldMembers_later others (by simpa using enough) rest) spare

end Members

end CardInventory.Json
