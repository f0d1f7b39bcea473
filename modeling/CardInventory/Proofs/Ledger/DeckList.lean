import CardInventory.Ledger.DeckList
import CardInventory.Proofs.Text.Order
import Mathlib.Data.List.Sort
import Mathlib.Data.List.ReduceOption

/-!
# Deck lists read back

The text of a deck list is read line by line. A line of an entry has a blank after its number,
and neither the header nor the empty line has one: the entries of the main zone are those up to
the first line without a blank, and those of the sideboard come after it, whatever the cards are
called. So the text tells the entries of each zone, and no more than these.
-/

namespace CardInventory.Ledger

/-! ### Sorting and choosing -/

section Sorting

open List

variable {α : Type} {le : α → α → Bool}

/-- The first element of a list is sorted in behind all that are less than it, so that it stays in
front of those it is equivalent to. -/
theorem mergeSort_cons_eq_filter
    (trans : ∀ a b c, le a b → le b c → le a c) (total : ∀ a b, le a b || le b a)
    (a : α) (l : List α) :
    (a :: l).mergeSort le =
      (l.mergeSort le).filter (fun b => !le a b) ++ a :: (l.mergeSort le).filter (le a) := by
  obtain ⟨front, back, whole, rest, less⟩ := mergeSort_cons trans total a l
  have sorted := pairwise_mergeSort trans total (a :: l)
  rw [whole] at sorted
  have greater : ∀ b ∈ back, le a b := (pairwise_cons.mp (pairwise_append.mp sorted).2.1).1
  have frontKept : front.filter (fun b => !le a b) = front := filter_eq_self.mpr less
  have backLeft : back.filter (fun b => !le a b) = [] :=
    filter_eq_nil_iff.mpr fun b inBack => by simp [greater b inBack]
  have frontLeft : front.filter (le a) = [] :=
    filter_eq_nil_iff.mpr fun b inFront => by simpa using less b inFront
  have backKept : back.filter (le a) = back := filter_eq_self.mpr greater
  rw [whole, rest, filter_append, filter_append, frontKept, backLeft, frontLeft, backKept,
    append_nil, nil_append]

/-- It is the same whether the elements are chosen from the sorted list or sorted once chosen. -/
theorem filter_mergeSort
    (trans : ∀ a b c, le a b → le b c → le a c) (total : ∀ a b, le a b || le b a)
    (p : α → Bool) (l : List α) :
    (l.mergeSort le).filter p = (l.filter p).mergeSort le := by
  induction l with
  | nil => simp
  | cons a l ih =>
      -- Choosing commutes with the choice of those less than the first element and of the others.
      have commute (q : α → Bool) :
          ((l.mergeSort le).filter q).filter p = ((l.filter p).mergeSort le).filter q := by
        rw [← ih, filter_filter, filter_filter]
        exact filter_congr fun b _ => Bool.and_comm _ _
      have split := mergeSort_cons_eq_filter trans total a
      cases chosen : p a with
      | true =>
          rw [split, filter_append, filter_cons_of_pos chosen, filter_cons_of_pos chosen,
            commute, commute, ← split]
      | false =>
          obtain ⟨front, back, whole, rest, -⟩ := mergeSort_cons trans total a l
          have passed : ¬p a = true := by simp [chosen]
          rw [whole, filter_append, filter_cons_of_neg passed, filter_cons_of_neg passed,
            ← filter_append, ← rest, ih]

end Sorting

/-! ### The entries of a zone -/

/-- What a line says of its card: the number of copies and the name. -/
def ListLine.entry (line : ListLine) : Int × String :=
  (line.quantity, line.name)

/-- The entries of a zone, sorted by the bytes of their names. Entries of one name keep their
order. -/
def entriesOf (zone : Zone) (lines : List ListLine) : List (Int × String) :=
  ((lines.filter fun line => line.zone = zone).mergeSort fun left right =>
    Text.bytesOf left.name ≤ Text.bytesOf right.name).map ListLine.entry

theorem ofZone_map_entry (zone : Zone) (lines : List ListLine) :
    (ListLine.ofZone zone lines).map ListLine.entry = entriesOf zone lines := by
  have order : (fun left right : ListLine => !decide (right.name < left.name)) =
      fun left right : ListLine => decide (Text.bytesOf left.name ≤ Text.bytesOf right.name) := by
    funext left right
    rw [← decide_not]
    exact decide_eq_decide.mpr (not_congr Text.bytesOf_lt_iff).symm
  rw [ListLine.ofZone, entriesOf, order, filter_mergeSort]
  · intro left middle right before after
    simp only [decide_eq_true_eq] at before after ⊢
    exact List.le_trans before after
  · intro left right
    simp only [Bool.or_eq_true, decide_eq_true_eq]
    exact List.le_total _ _

/-! ### The lines of the text -/

/-- The text of an entry. -/
def entryText (entry : Int × String) : String :=
  s!"{entry.1} {entry.2}"

theorem ListLine.text_eq (line : ListLine) : line.text = entryText line.entry :=
  rfl

/-- The lines between the main zone and the sideboard. A zone without entries leaves no trace:
there is no header without a sideboard, and no empty line without a main zone. -/
def separation : List (Int × String) → List (Int × String) → List String
  | _, [] => []
  | [], _ :: _ => [sideboardHeader]
  | _ :: _, _ :: _ => ["", sideboardHeader]

/-- The lines of a deck list. -/
def layout (main sideboard : List (Int × String)) : List String :=
  main.map entryText ++ (separation main sideboard ++ sideboard.map entryText)

theorem entryText_toList (entry : Int × String) :
    (entryText entry).toList = entry.1.repr.toList ++ ' ' :: entry.2.toList := by
  have pieces : entryText entry = entry.1.repr ++ " " ++ entry.2 := rfl
  simp [pieces]

theorem intercalate_entryText_ne_empty (separator : String) (first : Int × String)
    (rest : List (Int × String)) :
    separator.intercalate ((first :: rest).map entryText) ≠ "" := by
  have blank : entryText first ≠ "" := fun empty => by
    simpa [entryText_toList] using congrArg String.toList empty
  cases rest with
  | nil => simpa using blank
  | cons next rest => simp [blank]

theorem renderDeckList_eq_layout (lines : List ListLine) :
    renderDeckList lines =
      "\n".intercalate (layout (entriesOf .main lines) (entriesOf .sideboard lines)) := by
  have texts (zone : Zone) : (ListLine.ofZone zone lines).map ListLine.text =
      (entriesOf zone lines).map entryText := by
    rw [← ofZone_map_entry, List.map_map]
    exact List.map_congr_left fun line _ => line.text_eq
  rw [renderDeckList, texts, texts]
  generalize entriesOf .main lines = main
  generalize entriesOf .sideboard lines = sideboard
  cases main with
  | nil =>
      cases sideboard with
      | nil => simp [layout, separation]
      | cons entry rest => simp [layout, separation, String.append_assoc]
  | cons first others =>
      cases sideboard with
      | nil => simp [layout, separation]
      | cons entry rest =>
          have shown := intercalate_entryText_ne_empty "\n" first others
          have feeds : "\n\n" = "\n" ++ "\n" := rfl
          rw [List.map_cons] at shown
          rw [layout, separation, feeds, String.intercalate_append_of_ne_nil (by simp) (by simp)]
          simp [-String.reduceAppend, shown, String.append_assoc]

/-! ### The lines read -/

/-- The number written by these digits, which follow a sign where it is negative. -/
def readNumber : List Char → Int
  | '-' :: digits => -(Nat.ofDigitChars 10 digits 0 : Int)
  | digits => (Nat.ofDigitChars 10 digits 0 : Int)

/-- The entry told by a line that has a blank: the number before the first blank and the name
after it. -/
def readEntry? (line : List Char) : Option (Int × String) :=
  if ' ' ∈ line then
    some (readNumber (line.takeWhile (· ≠ ' ')),
      String.ofList (line.dropWhile (· ≠ ' ')).tail)
  else
    none

/-- The entries of a zone in a text: those up to the first line that tells none are of the main
zone, and those after it of the sideboard. -/
def readZone (zone : Zone) (text : String) : List (Int × String) :=
  let lines := (text.toList.splitOn '\n').map readEntry?
  match zone with
  | .main => (lines.takeWhile Option.isSome).reduceOption
  | .sideboard => (lines.dropWhile Option.isSome).reduceOption

theorem isDigit_of_mem_repr {number : Nat} {c : Char} (written : c ∈ number.repr.toList) :
    c.isDigit := by
  rw [Nat.toList_repr] at written
  exact Nat.isDigit_of_mem_toDigits (by decide) (by decide) written

theorem readNumber_repr (number : Int) : readNumber number.repr.toList = number := by
  rw [Int.repr_eq_if]
  split
  case isTrue natural =>
    have value : readNumber number.toNat.repr.toList =
        Nat.ofDigitChars 10 number.toNat.repr.toList 0 := by
      unfold readNumber
      split
      case h_1 signed =>
        exact absurd (isDigit_of_mem_repr (signed ▸ List.mem_cons_self)) (by decide)
      case h_2 => rfl
    rw [value, Nat.toList_repr, Nat.ofDigitChars_ten_toDigits, Int.toNat_of_nonneg natural]
  case isFalse negative =>
    rw [String.toList_append, Nat.toList_repr]
    change -(Nat.ofDigitChars 10 (Nat.toDigits 10 (-number).toNat) 0 : Int) = number
    rw [Nat.ofDigitChars_ten_toDigits]
    omega

/-- There are only digits and a sign in a number. -/
theorem notMem_repr {c : Char} (undigit : c.isDigit = false) (unsign : c ≠ '-') (number : Int) :
    c ∉ number.repr.toList := by
  intro written
  rw [Int.repr_eq_if] at written
  split at written
  · exact absurd (isDigit_of_mem_repr written) (by simp [undigit])
  · rw [String.toList_append, List.mem_append] at written
    rcases written with sign | digit
    · exact unsign (List.mem_singleton.mp sign)
    · exact absurd (isDigit_of_mem_repr digit) (by simp [undigit])

/-- The name of a card may be any: the number ends at the first blank. -/
theorem readEntry?_entryText (entry : Int × String) :
    readEntry? (entryText entry).toList = some entry := by
  have unbroken : ∀ c ∈ entry.1.repr.toList, decide (c ≠ ' ') = true := fun c written =>
    decide_eq_true fun blank => notMem_repr (by decide) (by decide) entry.1 (blank ▸ written)
  have front : (entry.1.repr.toList ++ ' ' :: entry.2.toList).takeWhile (· ≠ ' ') =
      entry.1.repr.toList := by
    rw [List.takeWhile_append_of_pos unbroken]
    simp
  have back : (entry.1.repr.toList ++ ' ' :: entry.2.toList).dropWhile (· ≠ ' ') =
      ' ' :: entry.2.toList := by
    rw [List.dropWhile_append_of_pos unbroken]
    simp
  rw [entryText_toList, readEntry?, if_pos (by simp), front, back, readNumber_repr,
    List.tail_cons, String.ofList_toList]

theorem eq_empty_or_header_of_mem_separation {main sideboard : List (Int × String)}
    {line : String} (between : line ∈ separation main sideboard) :
    line = "" ∨ line = sideboardHeader := by
  match main, sideboard, between with
  | [], _ :: _, between => exact .inr (List.mem_singleton.mp between)
  | _ :: _, _ :: _, between => exact List.mem_pair.mp between

/-- Neither the header nor the empty line has a blank. -/
theorem readEntry?_separation {main sideboard : List (Int × String)} {line : String}
    (between : line ∈ separation main sideboard) : readEntry? line.toList = none := by
  refine if_neg ?_
  rcases eq_empty_or_header_of_mem_separation between with rfl | rfl <;> decide

/-! ### The zones read -/

/-- Names without a line feed keep every entry on a line of its own. -/
def Unbroken (entries : List (Int × String)) : Prop :=
  ∀ entry ∈ entries, '\n' ∉ entry.2.toList

theorem unbroken_entriesOf {lines : List ListLine}
    (unbroken : ∀ line ∈ lines, '\n' ∉ line.name.toList) (zone : Zone) :
    Unbroken (entriesOf zone lines) := by
  intro entry listed
  obtain ⟨line, sorted, rfl⟩ := List.mem_map.mp listed
  exact unbroken line (List.mem_filter.mp (List.mem_mergeSort.mp sorted)).1

theorem lineFeed_notMem_entryText {entry : Int × String} (unbroken : '\n' ∉ entry.2.toList) :
    '\n' ∉ (entryText entry).toList := by
  have numbered := notMem_repr (c := '\n') (by decide) (by decide) entry.1
  simp [entryText_toList, numbered, unbroken]

theorem lineFeed_notMem_of_mem_layout {main sideboard : List (Int × String)}
    (front : Unbroken main) (back : Unbroken sideboard) {line : String}
    (laid : line ∈ layout main sideboard) : '\n' ∉ line.toList := by
  rw [layout, List.mem_append, List.mem_append, List.mem_map, List.mem_map] at laid
  rcases laid with ⟨entry, listed, rfl⟩ | between | ⟨entry, listed, rfl⟩
  · exact lineFeed_notMem_entryText (front entry listed)
  · rcases eq_empty_or_header_of_mem_separation between with rfl | rfl <;> decide
  · exact lineFeed_notMem_entryText (back entry listed)

/-- The lines of a text with the layout tell the entries of the two zones, and where there is a
sideboard, none of an entry comes between them. -/
theorem readEntry?_layout {main sideboard : List (Int × String)} (front : Unbroken main)
    (back : Unbroken sideboard) :
    ∃ gap : List (Option (Int × String)), (∀ line ∈ gap, line = none) ∧
      (gap = [] → sideboard = []) ∧
      (("\n".intercalate (layout main sideboard)).toList.splitOn '\n').map readEntry? =
        main.map some ++ (gap ++ sideboard.map some) := by
  have told (entries : List (Int × String)) :
      ((entries.map entryText).map String.toList).map readEntry? = entries.map some := by
    simp only [List.map_map]
    exact List.map_congr_left fun entry _ => readEntry?_entryText entry
  by_cases empty : layout main sideboard = []
  · obtain ⟨noFront, noRest⟩ := List.append_eq_nil_iff.mp empty
    have noMain : main = [] := List.map_eq_nil_iff.mp noFront
    have noSideboard : sideboard = [] :=
      List.map_eq_nil_iff.mp (List.append_eq_nil_iff.mp noRest).2
    -- A text without lines is still read as one, the empty line.
    refine ⟨[none], by simp, fun _ => noSideboard, ?_⟩
    rw [empty, noMain, noSideboard]
    rfl
  · refine ⟨((separation main sideboard).map String.toList).map readEntry?, ?_, ?_, ?_⟩
    · intro line between
      rw [List.map_map] at between
      obtain ⟨text, separates, rfl⟩ := List.mem_map.mp between
      exact readEntry?_separation separates
    · intro none
      cases sideboard with
      | nil => rfl
      | cons => cases main <;> simp [separation] at none
    · have unbroken : ∀ line ∈ (layout main sideboard).map String.toList, '\n' ∉ line := by
        intro line mapped
        obtain ⟨text, laid, rfl⟩ := List.mem_map.mp mapped
        exact lineFeed_notMem_of_mem_layout front back laid
      have feed : "\n".toList = ['\n'] := rfl
      rw [String.toList_intercalate, feed,
        List.splitOn_intercalate '\n' unbroken (mt List.map_eq_nil_iff.mp empty), layout]
      simp only [List.map_append, told]

theorem readZone_layout {main sideboard : List (Int × String)} (front : Unbroken main)
    (back : Unbroken sideboard) (zone : Zone) :
    readZone zone ("\n".intercalate (layout main sideboard)) =
      match zone with
      | .main => main
      | .sideboard => sideboard := by
  obtain ⟨gap, untold, separates, told⟩ := readEntry?_layout front back
  have first : (gap ++ sideboard.map some).takeWhile Option.isSome = [] := by
    cases gap with
    | nil => simp [separates rfl]
    | cons line gap => simp [untold line List.mem_cons_self]
  have later : (gap ++ sideboard.map some).dropWhile Option.isSome = gap ++ sideboard.map some := by
    cases gap with
    | nil => simp [separates rfl]
    | cons line gap => simp [untold line List.mem_cons_self]
  have passed : gap.reduceOption = [] :=
    List.filterMap_eq_nil_iff.mpr untold
  have isTold : ∀ line ∈ main.map some, line.isSome := by
    intro line mapped
    obtain ⟨entry, -, rfl⟩ := List.mem_map.mp mapped
    rfl
  have kept (entries : List (Int × String)) : (entries.map some).reduceOption = entries := by
    simp [List.reduceOption, List.filterMap_map]
  cases zone with
  | main =>
      simp only [readZone, told]
      rw [List.takeWhile_append_of_pos isTold, first, List.append_nil, kept]
  | sideboard =>
      simp only [readZone, told]
      rw [List.dropWhile_append_of_pos isTold, later, List.reduceOption_append, passed, kept,
        List.nil_append]

theorem readZone_renderDeckList {lines : List ListLine}
    (unbroken : ∀ line ∈ lines, '\n' ∉ line.name.toList) (zone : Zone) :
    readZone zone (renderDeckList lines) = entriesOf zone lines := by
  rw [renderDeckList_eq_layout,
    readZone_layout (unbroken_entriesOf unbroken .main) (unbroken_entriesOf unbroken .sideboard)]
  cases zone <;> rfl

/-- A deck list tells the entries of each zone. Whatever the cards are called, `readZone` has from
the text the entries of the zone by name, so that two deck lists are one text just where their
entries agree in each zone. A zone without entries leaves no trace. -/
theorem renderDeckList_eq_iff (lines others : List ListLine)
    (unbroken : ∀ line ∈ lines, '\n' ∉ line.name.toList)
    (unbrokenOthers : ∀ line ∈ others, '\n' ∉ line.name.toList) :
    (renderDeckList lines = renderDeckList others ↔
      ∀ zone, entriesOf zone lines = entriesOf zone others) ∧
    (∀ zone, readZone zone (renderDeckList lines) = entriesOf zone lines) ∧
    (entriesOf .sideboard lines = [] →
      renderDeckList lines = "\n".intercalate ((entriesOf .main lines).map entryText)) ∧
    (entriesOf .main lines = [] → entriesOf .sideboard lines ≠ [] →
      renderDeckList lines =
        "\n".intercalate (sideboardHeader :: (entriesOf .sideboard lines).map entryText)) := by
  refine ⟨⟨fun same zone => ?_, fun same => ?_⟩, readZone_renderDeckList unbroken, ?_, ?_⟩
  · rw [← readZone_renderDeckList unbroken, same, readZone_renderDeckList unbrokenOthers]
  · rw [renderDeckList_eq_layout, renderDeckList_eq_layout, same, same]
  · intro empty
    simp [renderDeckList_eq_layout, empty, layout, separation]
  · intro empty listed
    obtain ⟨entry, rest, entries⟩ := List.exists_cons_of_ne_nil listed
    simp [renderDeckList_eq_layout, empty, entries, layout, separation]

/-- A card without a name in the main zone, and one called as the header in the given zone. -/
def headerNamed (zone : Zone) : List ListLine :=
  [⟨.main, -1, ""⟩, ⟨zone, 1, sideboardHeader⟩]

/-- A card without a name is not read as the empty line, nor one called as the header as the
header: the text tells in which zone the second card is. -/
theorem header_name_not_mistaken :
    (∀ line ∈ headerNamed .main, '\n' ∉ line.name.toList) ∧
    (∀ line ∈ headerNamed .sideboard, '\n' ∉ line.name.toList) ∧
    renderDeckList (headerNamed .main) ≠ renderDeckList (headerNamed .sideboard) := by
  have front : ∀ line ∈ headerNamed .main, '\n' ∉ line.name.toList := by decide
  have back : ∀ line ∈ headerNamed .sideboard, '\n' ∉ line.name.toList := by decide
  refine ⟨front, back, fun same => ?_⟩
  have entries := (renderDeckList_eq_iff _ _ front back).1.mp same .sideboard
  simp [entriesOf, headerNamed] at entries

end CardInventory.Ledger
