import CardInventory.Collection.Binder
import CardInventory.Memory.Table

/-!
# Rows and sums of tables

A table is seen through its look-ups: the rows it lists are the rows its keys
look up, and a condition on all rows is one on all look-ups. A measure of the
rows is summed over a table, and an insertion or an erasure changes the sum by
the rows that come and go.
-/

namespace CardInventory.Memory

theorem rank_eq_iff {κ : Type} [Ranked κ] {left right : κ} :
    Ranked.rank left = Ranked.rank right ↔ left = right :=
  ⟨Ranked.rank_injective, congrArg Ranked.rank⟩

namespace Table

variable {κ α : Type} [Ranked κ]

/-- Whether every row satisfies a condition together with its key. -/
def Forall (condition : κ → α → Prop) (table : Table κ α) : Prop :=
  ∀ ⦃key row⦄, table.get? key = some row → condition key row

/-- The sum of a measure over all rows. -/
def total (measure : α → Int) (table : Table κ α) : Int :=
  totalOf (table.values.map measure)

/-! ## Look-ups -/

section Decidable

variable [DecidableEq κ]

theorem get?_insert_eq_ite (table : Table κ α) (key other : κ) (row : α) :
    (table.insert key row).get? other = if other = key then some row else table.get? other := by
  simp only [get?_insert, rank_eq_iff]

theorem get?_erase_eq_ite (table : Table κ α) (key other : κ) :
    (table.erase key).get? other = if other = key then none else table.get? other := by
  simp only [get?_erase, rank_eq_iff]

end Decidable

@[simp]
theorem get?_insert_self (table : Table κ α) (key : κ) (row : α) :
    (table.insert key row).get? key = some row := by
  simp [get?_insert]

theorem get?_insert_of_ne (table : Table κ α) {key other : κ} (different : other ≠ key) (row : α) :
    (table.insert key row).get? other = table.get? other := by
  simp [get?_insert, rank_eq_iff, different]

@[simp]
theorem get?_erase_self (table : Table κ α) (key : κ) : (table.erase key).get? key = none := by
  simp [get?_erase]

theorem get?_erase_of_ne (table : Table κ α) {key other : κ} (different : other ≠ key) :
    (table.erase key).get? other = table.get? other := by
  simp [get?_erase, rank_eq_iff, different]

/-- To make a selection again changes nothing. -/
theorem select_select (table : Table κ α) (keep : κ → Bool) :
    (table.select keep).select keep = table.select keep := by
  simp only [select, List.filter_filter, Bool.and_self]

theorem isSome_get? (table : Table κ α) (key : κ) :
    (table.get? key).isSome = table.contains key :=
  rfl

theorem contains_iff {table : Table κ α} {key : κ} :
    table.contains key = true ↔ ∃ row, table.get? key = some row :=
  Option.isSome_iff_exists

theorem contains_eq_false_iff {table : Table κ α} {key : κ} :
    table.contains key = false ↔ table.get? key = none := by
  simp [contains]

theorem contains_of_get? {table : Table κ α} {key : κ} {row : α}
    (found : table.get? key = some row) : table.contains key = true :=
  contains_iff.mpr ⟨row, found⟩

theorem contains_insert (table : Table κ α) (key : κ) (row : α) (other : κ)
    (present : table.contains other = true) : (table.insert key row).contains other = true := by
  simp only [contains, get?_insert]
  split
  · rfl
  · exact present

/-- A key below all keys of the rows looks up nothing. -/
theorem lookup_eq_none_of_before {key : κ} {rows : List (κ × α)}
    (before : ∀ entry ∈ rows, Ranked.rank key < Ranked.rank entry.1) : lookup key rows = none := by
  induction rows with
  | nil => rfl
  | cons head rest ih =>
      have different : Ranked.rank key ≠ Ranked.rank head.1 :=
        Nat.ne_of_lt (before head List.mem_cons_self)
      rw [lookup, if_neg different]
      exact ih fun entry member => before entry (List.mem_cons_of_mem _ member)

theorem lookup_eq_some_iff {rows : List (κ × α)} (sorted : Ascending rows) {key : κ} {row : α} :
    lookup key rows = some row ↔ (key, row) ∈ rows := by
  induction rows with
  | nil => simp [lookup]
  | cons head rest ih =>
      rcases head with ⟨first, old⟩
      obtain ⟨after, sortedRest⟩ := List.pairwise_cons.mp sorted
      rw [lookup]
      split
      · rename_i ranks
        obtain rfl := Ranked.rank_injective ranks
        constructor
        · rintro ⟨⟩
          exact List.mem_cons_self
        · intro member
          rcases List.mem_cons.mp member with equal | later
          · exact congrArg some (Prod.mk.inj equal).2.symm
          · exact absurd (after _ later) (Nat.lt_irrefl _)
      · rename_i ranks
        rw [ih sortedRest, List.mem_cons]
        constructor
        · exact .inr
        · rintro (equal | later)
          · exact absurd (congrArg Ranked.rank (Prod.mk.inj equal).1) ranks
          · exact later

theorem get?_eq_some_iff {table : Table κ α} {key : κ} {row : α} :
    table.get? key = some row ↔ (key, row) ∈ table.rows :=
  lookup_eq_some_iff table.ascending

/-- A table lists exactly the rows its keys look up. -/
theorem mem_values {table : Table κ α} {row : α} :
    row ∈ table.values ↔ ∃ key, table.get? key = some row := by
  simp [values, get?_eq_some_iff]

/-! ## Conditions on all rows -/

theorem forall_empty (condition : κ → α → Prop) : (∅ : Table κ α).Forall condition := by
  intro key row found
  simp at found

theorem Forall.mono {condition weaker : κ → α → Prop} {table : Table κ α}
    (holds : table.Forall condition) (implies : ∀ key row, condition key row → weaker key row) :
    table.Forall weaker :=
  fun _ _ found => implies _ _ (holds found)

theorem Forall.insert {condition : κ → α → Prop} {table : Table κ α}
    (holds : table.Forall condition) {key : κ} {row : α} (new : condition key row) :
    (table.insert key row).Forall condition := by
  intro other found lookedUp
  rw [get?_insert] at lookedUp
  split at lookedUp
  · rename_i ranks
    obtain rfl := Ranked.rank_injective ranks
    obtain rfl := Option.some.inj lookedUp
    exact new
  · exact holds lookedUp

theorem Forall.select {condition : κ → α → Prop} {table : Table κ α}
    (holds : table.Forall condition) (keep : κ → Bool) :
    (table.select keep).Forall fun key row => keep key = true ∧ condition key row := by
  intro key row found
  rw [get?_select] at found
  split at found
  · exact ⟨‹_›, holds found⟩
  · exact absurd found (by simp)

theorem Forall.erase {condition : κ → α → Prop} {table : Table κ α}
    (holds : table.Forall condition) (key : κ) :
    (table.erase key).Forall fun other row => other ≠ key ∧ condition other row := by
  refine (holds.select _).mono fun other row kept => ⟨?_, kept.2⟩
  simpa [rank_eq_iff] using kept.1

/-! ## Sums -/

theorem total_eq_rows (table : Table κ α) (measure : α → Int) :
    table.total measure = totalOf (table.rows.map fun entry => measure entry.2) := by
  rw [total, values, List.map_map]
  rfl

theorem total_congr {table : Table κ α} {first second : α → Int}
    (same : table.Forall fun _ row => first row = second row) :
    table.total first = table.total second := by
  unfold total
  congr 1
  refine List.map_congr_left fun row member => ?_
  obtain ⟨key, found⟩ := mem_values.mp member
  exact same found

theorem totalOf_map_zero (values : List α) : totalOf (values.map fun _ => 0) = 0 := by
  induction values with
  | nil => rfl
  | cons _ _ ih =>
      rw [List.map_cons, totalOf_cons, ih]
      rfl

theorem total_eq_zero {table : Table κ α} {measure : α → Int}
    (zero : table.Forall fun _ row => measure row = 0) : table.total measure = 0 := by
  rw [total_congr zero]
  exact totalOf_map_zero table.values

theorem totalOf_insertRow (key : κ) (row : α) (measure : α → Int) {rows : List (κ × α)}
    (sorted : Ascending rows) :
    totalOf ((insertRow key row rows).map fun entry => measure entry.2) =
      totalOf (rows.map fun entry => measure entry.2) - (lookup key rows).elim 0 measure +
        measure row := by
  induction rows with
  | nil => simp [insertRow, lookup]
  | cons head rest ih =>
      obtain ⟨after, sortedRest⟩ := List.pairwise_cons.mp sorted
      simp only [insertRow, lookup]
      split
      · rename_i before
        have missing : lookup key rest = none :=
          lookup_eq_none_of_before fun entry member => Nat.lt_trans before (after entry member)
        rw [if_neg (Nat.ne_of_lt before), missing]
        simp only [List.map_cons, totalOf_cons, Option.elim_none]
        omega
      · split
        · simp only [List.map_cons, totalOf_cons, Option.elim_some]
          omega
        · simp only [List.map_cons, totalOf_cons, ih sortedRest]
          omega

/-- An insertion adds the new row to a sum and takes the row it replaces from it. -/
theorem total_insert (table : Table κ α) (key : κ) (row : α) (measure : α → Int) :
    (table.insert key row).total measure =
      table.total measure - (table.get? key).elim 0 measure + measure row := by
  rw [total_eq_rows, total_eq_rows]
  exact totalOf_insertRow key row measure table.ascending

theorem totalOf_filter_ne (key : κ) (measure : α → Int) {rows : List (κ × α)}
    (sorted : Ascending rows) :
    totalOf ((rows.filter fun entry => Ranked.rank entry.1 ≠ Ranked.rank key).map
        fun entry => measure entry.2) =
      totalOf (rows.map fun entry => measure entry.2) - (lookup key rows).elim 0 measure := by
  induction rows with
  | nil => simp [lookup]
  | cons head rest ih =>
      obtain ⟨after, sortedRest⟩ := List.pairwise_cons.mp sorted
      by_cases hit : Ranked.rank key = Ranked.rank head.1
      · have missing : lookup key rest = none :=
          lookup_eq_none_of_before fun entry member => hit ▸ after entry member
        have rest_eq := ih sortedRest
        rw [missing] at rest_eq
        rw [List.filter_cons_of_neg (by simp [hit]), rest_eq]
        simp only [List.map_cons, totalOf_cons, lookup, if_pos hit, Option.elim_none,
          Option.elim_some]
        omega
      · rw [List.filter_cons_of_pos (by simp [Ne.symm hit])]
        simp only [List.map_cons, totalOf_cons, lookup, if_neg hit, ih sortedRest]
        omega

/-- An erasure takes the row it removes from a sum. -/
theorem total_erase (table : Table κ α) (key : κ) (measure : α → Int) :
    (table.erase key).total measure = table.total measure - (table.get? key).elim 0 measure := by
  rw [total_eq_rows, total_eq_rows]
  exact totalOf_filter_ne key measure table.ascending

/-- Two measures that differ on the row of one key only have sums that differ by this row. -/
theorem total_change {table : Table κ α} {first second : α → Int} (key : κ)
    (same : table.Forall fun other row => other ≠ key → first row = second row) :
    table.total first - (table.get? key).elim 0 first =
      table.total second - (table.get? key).elim 0 second := by
  rw [← total_erase, ← total_erase]
  refine total_congr fun other row found => ?_
  by_cases equal : other = key
  · subst other
    simp at found
  · rw [get?_erase_of_ne table equal] at found
    exact same found equal

omit [Ranked κ] in
theorem totalOf_filter_keys {keep : κ → Bool} {measure : α → Int} {rows : List (κ × α)}
    (uncounted : ∀ entry ∈ rows, keep entry.1 = false → measure entry.2 = 0) :
    totalOf ((rows.filter fun entry => keep entry.1).map fun entry => measure entry.2) =
      totalOf (rows.map fun entry => measure entry.2) := by
  induction rows with
  | nil => rfl
  | cons head rest ih =>
      have later := ih fun entry member => uncounted entry (List.mem_cons_of_mem _ member)
      by_cases kept : keep head.1 = true
      · simp only [List.filter_cons, kept, if_true, List.map_cons, totalOf_cons, later]
      · have dropped := uncounted head List.mem_cons_self (by simpa using kept)
        simp only [List.filter_cons, kept, List.map_cons, totalOf_cons, dropped, Int.zero_add]
        exact later

/-- A selection keeps a sum if the rows that go do not count. -/
theorem total_select {table : Table κ α} {keep : κ → Bool} {measure : α → Int}
    (zero : table.Forall fun key row => keep key = false → measure row = 0) :
    (table.select keep).total measure = table.total measure := by
  rw [total_eq_rows, total_eq_rows]
  exact totalOf_filter_keys fun _ member => zero (get?_eq_some_iff.mpr member)

theorem totalOf_nonneg {quantities : List Int} (nonneg : ∀ quantity ∈ quantities, 0 ≤ quantity) :
    0 ≤ totalOf quantities := by
  induction quantities with
  | nil => exact Int.le_refl 0
  | cons quantity rest ih =>
      have later := ih fun other member => nonneg other (List.mem_cons_of_mem _ member)
      have first := nonneg quantity List.mem_cons_self
      simp only [totalOf_cons]
      omega

theorem total_nonneg {table : Table κ α} {measure : α → Int}
    (nonneg : table.Forall fun _ row => 0 ≤ measure row) : 0 ≤ table.total measure := by
  refine totalOf_nonneg fun quantity member => ?_
  obtain ⟨row, listed, rfl⟩ := List.mem_map.mp member
  obtain ⟨key, found⟩ := mem_values.mp listed
  exact nonneg found

/-- A sum without the rows of two keys. -/
theorem total_erase_erase (table : Table κ α) {first second : κ} (different : second ≠ first)
    (measure : α → Int) :
    ((table.erase first).erase second).total measure =
      table.total measure - (table.get? first).elim 0 measure -
        (table.get? second).elim 0 measure := by
  rw [total_erase, total_erase, get?_erase_of_ne table different]

/-- No two rows count for more than a sum without negative parts. -/
theorem two_le_total {table : Table κ α} {measure : α → Int} {first second : κ}
    (different : second ≠ first) (nonneg : table.Forall fun _ row => 0 ≤ measure row) :
    (table.get? first).elim 0 measure + (table.get? second).elim 0 measure ≤
      table.total measure := by
  have rest : 0 ≤ ((table.erase first).erase second).total measure :=
    total_nonneg (((nonneg.erase first).erase second).mono fun _ _ kept => kept.2.2)
  rw [total_erase_erase table different] at rest
  omega

/-- A sum to which only the rows of two keys contribute. -/
theorem total_of_two {table : Table κ α} {measure : α → Int} {first second : κ}
    (different : second ≠ first)
    (zero : table.Forall fun key row => key ≠ first → key ≠ second → measure row = 0) :
    table.total measure =
      (table.get? first).elim 0 measure + (table.get? second).elim 0 measure := by
  have rest : ((table.erase first).erase second).total measure = 0 := by
    refine total_eq_zero (((zero.erase first).erase second).mono fun key row kept => ?_)
    obtain ⟨notSecond, notFirst, rowZero⟩ := kept
    exact rowZero notFirst notSecond
  rw [total_erase_erase table different] at rest
  omega

end Table

end CardInventory.Memory
