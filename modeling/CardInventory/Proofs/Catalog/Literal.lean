import CardInventory.Catalog.Filter
import CardInventory.Proofs.Text.LowerCase
import Mathlib.Tactic.ByContra

/-!
# Searching for literal parts

A search for a part of a name, a rules text or a type line, written just as it stands
there, finds the printing if the part is settled: lower-casing it by itself then gives
what it is in the lower case of the whole. A part that is not settled is missed in some
printing. Only a part with a capital sigma can be so.
-/

namespace CardInventory

open Text

namespace Filter

/-- The search for a name that contains a text. -/
def ofName (text : String) : Filter :=
  ⟨some text, none, none, none, none, none⟩

/-- The search for a face with a rules text that contains a text. -/
def ofRulesText (text : String) : Filter :=
  ⟨none, some text, none, none, none, none⟩

/-- The search for a face with a type line that contains a text. -/
def ofTypeLine (text : String) : Filter :=
  ⟨none, none, none, none, none, some text⟩

variable {text : String} {card : CardDraft}

theorem criterion_of_trimmed (nonempty : text ≠ "") (trimmed : trim text = text) :
    criterion (some text) = some text := by
  simp [criterion, trimmed, nonempty]

theorem contains_eq_true_iff {value : Option String} :
    contains value text = true ↔
      ∃ whole, value = some whole ∧ lowerChars text.toList <:+: lowerChars whole.toList := by
  simp only [contains, Option.any_eq_true, occursIn_iff_infix]

theorem matchesCard_ofName :
    (ofName text).matchesCard card = true ↔
      lowerChars text.toList <:+: lowerChars card.name.toList := by
  simp [matchesCard, ofName, concernsFaces, contains_eq_true_iff]

theorem exists_mem_filterMap_iff {part : Face → Option String} {holds : String → Prop} :
    (∃ whole ∈ card.faces.filterMap part, holds whole) ↔
      ∃ face ∈ card.faces, ∃ whole, part face = some whole ∧ holds whole := by
  constructor
  · rintro ⟨whole, member, held⟩
    obtain ⟨face, own, shown⟩ := List.mem_filterMap.mp member
    exact ⟨face, own, whole, shown, held⟩
  · rintro ⟨face, own, whole, shown, held⟩
    exact ⟨whole, List.mem_filterMap.mpr ⟨face, own, shown⟩, held⟩

theorem matchesCard_ofRulesText :
    (ofRulesText text).matchesCard card = true ↔
      ∃ whole ∈ card.faces.filterMap Face.rulesText,
        lowerChars text.toList <:+: lowerChars whole.toList := by
  rw [exists_mem_filterMap_iff]
  simp [matchesCard, ofRulesText, concernsFaces, matchesFace, contains_eq_true_iff]

theorem matchesCard_ofTypeLine :
    (ofTypeLine text).matchesCard card = true ↔
      ∃ whole ∈ card.faces.filterMap Face.typeLine,
        lowerChars text.toList <:+: lowerChars whole.toList := by
  rw [exists_mem_filterMap_iff]
  simp [matchesCard, ofTypeLine, concernsFaces, matchesFace, contains_eq_true_iff]

/-- Whatever printing has a text literally in one of its texts of some kind, the search, when
normalized, finds it. -/
def FindsLiteral (filter : Filter) (texts : CardDraft → List String) (text : String) : Prop :=
  ∀ card, (∃ whole ∈ texts card, text.toList <:+: whole.toList) →
    filter.normalized.matchesCard card = true

/-- A search for the lower case of a text in the lower case of texts of some kind finds the text
itself just if it is settled. -/
theorem findsLiteral_iff {filter : Filter} {texts : CardDraft → List String}
    (single : ∀ whole, ∃ card, texts card = [whole])
    (finds : ∀ card, filter.normalized.matchesCard card = true ↔
      ∃ whole ∈ texts card, lowerChars text.toList <:+: lowerChars whole.toList) :
    filter.FindsLiteral texts text ↔ LowerCase.isSettled [] text.toList = true := by
  constructor
  · intro always
    by_contra unsettled
    obtain ⟨whole, within, missed⟩ :=
      LowerCase.exists_not_infix_lowerChars (Bool.not_eq_true _ ▸ unsettled)
    obtain ⟨card, only⟩ := single (String.ofList whole)
    have found := (finds card).mp (always card ⟨String.ofList whole, by simp [only], by simpa⟩)
    exact missed (by simpa [only] using found)
  · rintro settled card ⟨whole, member, within⟩
    exact (finds card).mpr ⟨whole, member, LowerCase.infix_lowerChars settled within⟩

/-- A search for a name, a rules text or a type line finds a text wherever it stands literally
just if the text is settled, as it is without a capital sigma. -/
theorem literal_parts_found_iff (nonempty : text ≠ "") (trimmed : trim text = text) :
    let settled := LowerCase.isSettled [] text.toList = true
    (LowerCase.capitalSigma ∉ text.toList → settled) ∧
      ((ofName text).FindsLiteral (fun card => [card.name]) text ↔ settled) ∧
      ((ofRulesText text).FindsLiteral (fun card => card.faces.filterMap Face.rulesText) text ↔
        settled) ∧
      ((ofTypeLine text).FindsLiteral (fun card => card.faces.filterMap Face.typeLine) text ↔
        settled) := by
  intro settled
  have kept := criterion_of_trimmed nonempty trimmed
  have name : (ofName text).normalized = ofName text := by
    simp only [ofName, normalized, kept]
    rfl
  have rulesText : (ofRulesText text).normalized = ofRulesText text := by
    simp only [ofRulesText, normalized, kept]
    rfl
  have typeLine : (ofTypeLine text).normalized = ofTypeLine text := by
    simp only [ofTypeLine, normalized, kept]
    rfl
  refine ⟨fun without => LowerCase.isSettled_of_notMem without [], findsLiteral_iff ?_ ?_,
    findsLiteral_iff ?_ ?_, findsLiteral_iff ?_ ?_⟩
  · exact fun whole => ⟨{ (default : CardDraft) with name := whole }, rfl⟩
  · intro card
    rw [name, matchesCard_ofName]
    simp only [List.mem_singleton, exists_eq_left]
  · exact fun whole =>
      ⟨{ (default : CardDraft) with faces := [{ (default : Face) with rulesText := whole }] }, rfl⟩
  · intro card
    rw [rulesText, matchesCard_ofRulesText]
  · exact fun whole =>
      ⟨{ (default : CardDraft) with faces := [{ (default : Face) with typeLine := whole }] }, rfl⟩
  · intro card
    rw [typeLine, matchesCard_ofTypeLine]

/-- A sigma by itself is not found where it stands at the end of a word, for there it is final. One
that a letter follows is found. -/
theorem final_sigma_missed :
    let card (name : String) : CardDraft := { (default : CardDraft) with name }
    ("Σ" ≠ "" ∧ trim "Σ" = "Σ" ∧ "Σ".toList <:+: "ΟΔΟΣ".toList ∧
        (ofName "Σ").normalized.matchesCard (card "ΟΔΟΣ") = false) ∧
      "ΣΟΦΙΑ" ≠ "" ∧ trim "ΣΟΦΙΑ" = "ΣΟΦΙΑ" ∧ "ΣΟΦΙΑ".toList <:+: "Η ΣΟΦΙΑ".toList ∧
        (ofName "ΣΟΦΙΑ").normalized.matchesCard (card "Η ΣΟΦΙΑ") = true := by
  intro card
  have trimmed : trim "ΣΟΦΙΑ" = "ΣΟΦΙΑ" := by decide +kernel
  have settled : LowerCase.isSettled [] "ΣΟΦΙΑ".toList = true := by decide +kernel
  have within : "ΣΟΦΙΑ".toList <:+: "Η ΣΟΦΙΑ".toList := ⟨['Η', ' '], [], by simp⟩
  have missed : (ofName "Σ").normalized.matchesCard (card "ΟΔΟΣ") = false := by decide +kernel
  have finds : (ofName "ΣΟΦΙΑ").FindsLiteral (fun card => [card.name]) "ΣΟΦΙΑ" :=
    (literal_parts_found_iff (by simp) trimmed).2.1.mpr settled
  have found := finds (card "Η ΣΟΦΙΑ") ⟨"Η ΣΟΦΙΑ", List.mem_singleton_self _, within⟩
  exact ⟨⟨by simp, by decide +kernel, ⟨['Ο', 'Δ', 'Ο'], [], by simp⟩, missed⟩, by simp, trimmed,
    within, found⟩

end Filter

end CardInventory
