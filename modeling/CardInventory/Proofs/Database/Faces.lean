import CardInventory.Proofs.Database.Reply
import CardInventory.Proofs.Database.Unit
import CardInventory.Proofs.Memory.Table
import Mathlib.Data.List.Nodup

/-!
# Faces of printings

The faces of a reply come in one list for all printings that were asked for. They are put
in piles and dealt out: of rows with distinct identifiers each has exactly its own faces, in
the order in which they came, whatever else is among them. So a page of printings, a printing
and several printings hold what the server has replied, and the faces are asked for by the
identifiers of just these printings.
-/

namespace CardInventory.Database

open Storage Memory

/-! ## Piles -/

namespace Piles

variable {piles : Piles} {card : Uuid}

@[simp]
theorem faces_empty (card : Uuid) : faces ∅ card = [] :=
  rfl

theorem faces_put (piles : Piles) (face : Uuid × Face) (card : Uuid) :
    (piles.put face).faces card =
      piles.faces card ++ if face.1 = card then [face.2] else [] := by
  by_cases own : face.1 = card
  · subst own
    simp [put, faces]
  · simp [put, faces, Table.get?_insert_of_ne _ (Ne.symm own), own]

theorem faces_erase_of_ne (piles : Piles) {card other : Uuid} (different : other ≠ card) :
    faces (piles.erase card) other = piles.faces other := by
  rw [faces, Table.get?_erase_of_ne _ different, faces]

/-- Faces put on piles one after another lie behind those that are there already. -/
theorem faces_foldl_put (piles : Piles) (faces : List (Uuid × Face)) (card : Uuid) :
    (faces.foldl put piles).faces card = piles.faces card ++ facesOf card faces := by
  induction faces generalizing piles with
  | nil => simp [facesOf]
  | cons face rest ih =>
      rw [List.foldl_cons, ih, faces_put]
      by_cases own : face.1 = card <;> simp [facesOf, own]

/-- The pile of a printing holds its faces, in the order in which they came. -/
@[simp]
theorem faces_ofFaces (faces : List (Uuid × Face)) (card : Uuid) :
    (ofFaces faces).faces card = facesOf card faces := by
  rw [ofFaces, faces_foldl_put, faces_empty, List.nil_append]

/-- What earlier printings take away are no faces of a later one. -/
theorem deal_eq_map {cards : List Card} (distinct : (cards.map fun card => card.id).Nodup)
    (piles : Piles) :
    piles.deal cards = cards.map fun card => { card with faces := piles.faces card.id } := by
  induction cards generalizing piles with
  | nil => rfl
  | cons card rest ih =>
      obtain ⟨other, distinct⟩ := List.nodup_cons.mp distinct
      rw [deal, ih distinct, List.map_cons]
      congr 1
      apply List.map_congr_left
      intro later member
      have different : later.id ≠ card.id := fun same =>
        other (List.mem_map.mpr ⟨later, member, same⟩)
      rw [faces_erase_of_ne piles different]

end Piles

/-- A printing with the faces that are its own among those of a reply. -/
def withFaces (faces : List (Uuid × Face)) (card : Card) : Card :=
  { card with faces := facesOf card.id faces }

/-- Of rows with distinct identifiers each is found under its own. -/
theorem rowOf?_of_mem {α : Type} {idOf : α → Uuid} {rows : List α} {row : α}
    (distinct : (rows.map idOf).Nodup) (member : row ∈ rows) :
    rowOf? idOf (idOf row) rows = some row := by
  cases outcome : rowOf? idOf (idOf row) rows with
  | none =>
      have other := List.find?_eq_none.mp outcome row (List.mem_reverse.mpr member)
      simp at other
  | some other =>
      have same : idOf other = idOf row := by simpa using List.find?_some outcome
      have present : other ∈ rows := List.mem_reverse.mp (List.mem_of_find?_eq_some outcome)
      rw [List.inj_on_of_nodup_map distinct present member same]

theorem deal_ofFaces {cards : List Card} (distinct : (cards.map fun card => card.id).Nodup)
    (faces : List (Uuid × Face)) :
    (Piles.ofFaces faces).deal cards = cards.map (withFaces faces) := by
  rw [Piles.deal_eq_map distinct]
  simp only [Piles.faces_ofFaces]
  rfl

/-- What belongs to one of distinct identifiers is what belongs to the first of them, and what
belongs to one of the others. -/
theorem flatMap_filter_perm {α : Type} (idOf : α → Uuid) {ids : List Uuid} (distinct : ids.Nodup)
    (rows : List α) :
    (ids.flatMap fun id => rows.filter fun row => idOf row = id).Perm
      (rows.filter fun row => idOf row ∈ ids) := by
  induction ids with
  | nil => simp
  | cons id rest ih =>
      obtain ⟨other, distinct⟩ := List.nodup_cons.mp distinct
      have own : (rows.filter fun row => idOf row ∈ id :: rest).filter (fun row => idOf row = id) =
          rows.filter fun row => idOf row = id := by
        rw [List.filter_filter]
        congr 1
        funext row
        by_cases same : idOf row = id <;> simp [same]
      have later : (rows.filter fun row => idOf row ∈ id :: rest).filter
          (fun row => !decide (idOf row = id)) = rows.filter fun row => idOf row ∈ rest := by
        rw [List.filter_filter]
        congr 1
        funext row
        by_cases same : idOf row = id
        · simp [same, other]
        · simp [same]
      have split := List.filter_append_perm (fun row => decide (idOf row = id))
        (rows.filter fun row => idOf row ∈ id :: rest)
      rw [own, later] at split
      exact ((ih distinct).append_left _).trans split

/-- Of the faces of a reply those of the printings are dealt out, each once and to its own. -/
theorem dealt_perm {cards : List Card} (distinct : (cards.map fun card => card.id).Nodup)
    (faces : List (Uuid × Face)) :
    ((cards.map (withFaces faces)).flatMap fun card => card.faces.map (card.id, ·)).Perm
      (faces.filter fun face => face.1 ∈ cards.map fun card => card.id) := by
  have owned (card : Uuid) :
      (facesOf card faces).map (card, ·) = faces.filter fun face => face.1 = card := by
    rw [facesOf, List.map_map]
    refine (List.map_congr_left fun face member => ?_).trans (List.map_id _)
    have same : face.1 = card := by simpa using (List.mem_filter.mp member).2
    rw [← same]
    rfl
  have dealt : ((cards.map (withFaces faces)).flatMap fun card => card.faces.map (card.id, ·)) =
      (cards.map fun card => card.id).flatMap fun id => faces.filter fun face => face.1 = id := by
    rw [List.flatMap_map, List.flatMap_map]
    exact congrArg (cards.flatMap ·) (funext fun card => owned card.id)
  rw [dealt]
  exact flatMap_filter_perm Prod.fst distinct faces

/-! ## Dialogues -/

/-- Statements, and the outcomes that are replied to them. -/
abbrev Dialogue := List (Statement × Outcome)

namespace Dialogue

/-- The replies of a dialogue. -/
def replies (dialogue : Dialogue) : List Reply :=
  dialogue.map fun asked => .ok asked.2

/-- The trace of a dialogue. -/
def trace (dialogue : Dialogue) : Trace :=
  dialogue.map fun asked => ⟨asked.1, .accepted asked.2⟩

end Dialogue

/-- Over any connection that has the replies of a dialogue to come, an exchange sends the
statements of the dialogue and ends with a value. -/
def Exchange.Holds {α : Type} (exchange : Exchange α) (dialogue : Dialogue) (value : α) : Prop :=
  ∀ (connection : Connection) (rest : List Reply), connection.aborted = false →
    connection.replies = dialogue.replies ++ rest →
      ∃ after, exchange.run Connection.send id connection = (.ok value, after) ∧
        after.aborted = false ∧ after.replies = rest ∧
          after.trace = connection.trace ++ dialogue.trace

/-- Over any connection that has the replies of a dialogue to come, a request is answered by
sending the statements of the dialogue. -/
def Answered (request : Request) (dialogue : Dialogue) (reply : request.Reply) : Prop :=
  ∀ (fresh : Nat → Uuid) (connection : Connection) (rest : List Reply),
    connection.aborted = false → connection.replies = dialogue.replies ++ rest →
      ∃ after, Connection.answer fresh request connection = (.ok reply, after) ∧
        after.replies = rest ∧ after.trace = connection.trace ++ dialogue.trace

namespace Exchange

variable {α β : Type}

theorem Holds.pure (value : α) : Holds (pure value) [] value := by
  intro connection rest healthy coming
  exact ⟨connection, rfl, healthy, coming, (List.append_nil _).symm⟩

theorem Holds.bind {first : Exchange α} {second : α → Exchange β} {dialogue more : Dialogue}
    {value : α} {result : β} (holds : first.Holds dialogue value)
    (holds' : (second value).Holds more result) :
    (first >>= second).Holds (dialogue ++ more) result := by
  intro connection rest healthy coming
  rw [Dialogue.replies, List.map_append, List.append_assoc] at coming
  obtain ⟨between, ran, healthy', coming', told⟩ := holds connection _ healthy coming
  obtain ⟨after, ran', healthy'', coming'', told'⟩ := holds' between rest healthy' coming'
  refine ⟨after, ?_, healthy'', coming'', ?_⟩
  · rw [Procedure.run_bind, ran]
    exact ran'
  · rw [told', told, Dialogue.trace, Dialogue.trace, Dialogue.trace, List.map_append,
      List.append_assoc]

theorem replies_flush (connection : Connection) :
    connection.flush.replies = connection.replies := by
  unfold Connection.flush
  split <;> rfl

/-- A statement is sent, and its outcome read. -/
theorem Holds.query {statement : Statement} {outcome : Outcome}
    {read : Outcome → Except Storage.Fault α} {value : α} (readable : read outcome = .ok value) :
    (query statement read).Holds [(statement, outcome)] value := by
  intro connection rest healthy coming
  have flushed := Connection.aborted_flush healthy
  let after := { connection.flush with replies := rest }.note (.statement statement)
    (.accepted outcome)
  have sent : Connection.send (.statement statement) connection = (.ok outcome, after) := by
    have next : connection.flush.replies = .ok outcome :: rest :=
      (replies_flush connection).trans coming
    simp only [Connection.send, Connection.bars, flushed, Bool.false_eq_true, if_false,
      Connection.carryOut, next, after]
  have ran : (Exchange.query statement read).run Connection.send id connection =
      (.ok value, after) := by
    change (Procedure.request (.statement statement) >>= fun outcome =>
      Procedure.ofExcept (read outcome)).run Connection.send id connection = _
    rw [Procedure.run_bind, Procedure.request, Procedure.run, sent]
    simp only [Procedure.run, Procedure.ofExcept, readable]
  refine ⟨after, ran, flushed, rfl, ?_⟩
  have told : after.trace = { connection.flush with replies := rest }.trace ++
      [⟨statement, .accepted outcome⟩] :=
    Connection.trace_note_statement _ statement _
  have before : { connection.flush with replies := rest }.trace = connection.trace :=
    connection.trace_flush
  rw [told, before]
  rfl

theorem Holds.answered {request : Request} {dialogue : Dialogue} {reply : request.Reply}
    (holds : ∀ fresh, (exchange fresh request).Holds dialogue reply) :
    Answered request dialogue reply := by
  intro fresh connection rest healthy coming
  obtain ⟨after, ran, -, left, told⟩ :=
    holds (fresh connection.drawn) connection rest healthy coming
  obtain ⟨savepoint, same⟩ := after.abandon_eq
  refine ⟨{ after.abandon with drawn := after.abandon.drawn + 1 }, ?_, ?_, ?_⟩
  · simp only [Connection.answer, Connection.converse, ran]
  · rw [same]
    exact left
  · rw [same]
    exact told

/-! ## Printings with their faces -/

variable {dealt : Outcome} {faces : List (Uuid × Face)}

theorem holds_faces (readable : dealt.all Row.face = .ok faces) (ids : List Uuid) :
    (Exchange.faces ids).Holds [(.facesOf ids, dealt)] (Piles.ofFaces faces) :=
  Holds.query (by rw [readable]; rfl)

theorem holds_searchCards {search : Search} {listed counted : Outcome} {cards : List Card}
    {total : Int} (listing : listed.all Row.card = .ok cards)
    (counting : counted.first (Row.single · Cell.int64?) = .ok total)
    (readable : dealt.all Row.face = .ok faces)
    (distinct : (cards.map fun card => card.id).Nodup) :
    (searchCards search).Holds
      [(.searchCards search, listed), (.countCards search.filter, counted),
        (.facesOf (cards.map fun card => card.id), dealt)]
      ⟨cards.map (withFaces faces), total⟩ := by
  rw [← deal_ofFaces distinct]
  exact (Holds.query listing).bind ((Holds.query counting).bind
    ((holds_faces readable _).bind (Holds.pure _)))

theorem holds_findCards {ids : List Uuid} (some_ids : ids ≠ []) {listed : Outcome}
    {cards : List Card} (listing : listed.all Row.card = .ok cards)
    (readable : dealt.all Row.face = .ok faces)
    (distinct : (cards.map fun card => card.id).Nodup) :
    (findCards ids).Holds [(.cardsByIds ids, listed), (.facesOf ids, dealt)]
      (cards.map (withFaces faces)) := by
  rw [← deal_ofFaces distinct, findCards, if_neg (by simpa using some_ids)]
  exact (Holds.query listing).bind ((holds_faces readable ids).bind (Holds.pure _))

theorem holds_findCard {card : Card} {found : Outcome}
    (finding : found.first? Row.card = .ok (some card))
    (readable : dealt.all Row.face = .ok faces) :
    (findCard card.id).Holds [(.cardById card.id, found), (.facesOf [card.id], dealt)]
      (some (withFaces faces card)) := by
  have whole : some { card with faces := (Piles.ofFaces faces).faces card.id } =
      some (withFaces faces card) := by
    rw [Piles.faces_ofFaces, withFaces]
  rw [← whole]
  refine (Holds.query finding).bind ?_
  change (Exchange.faces [card.id] >>= fun piles =>
    pure (some { card with faces := piles.faces card.id })).Holds _ _
  exact (holds_faces readable _).bind (Holds.pure _)

theorem holds_findCard_none {id : Uuid} {found : Outcome}
    (finding : found.first? Row.card = .ok none) :
    (findCard id).Holds [(.cardById id, found)] none :=
  (Holds.query finding).bind (Holds.pure _)

end Exchange

/-- Printings of distinct identifiers, and faces in whatever number and order, other printings'
among them, are replied. A page holds the printings in the order of the reply, several printings
that were asked for are each found under their own identifier, and one printing is the one that was
asked for; each has exactly its own faces, in the order of the reply. So the faces of the printings
are dealt out, each once and to its own. The faces are asked for by the identifiers of the page, or
by those that were asked for. -/
theorem faces_stay_with_printing {listed dealt : Outcome} {cards : List Card}
    {faces : List (Uuid × Face)} (listing : listed.all Row.card = .ok cards)
    (distinct : (cards.map fun card => card.id).Nodup)
    (readable : dealt.all Row.face = .ok faces) :
    let printings := cards.map (withFaces faces)
    (∀ search counted total, counted.first (Row.single · Cell.int64?) = .ok total →
      Answered (.searchCards search)
        [(.searchCards search, listed), (.countCards search.filter, counted),
          (.facesOf (cards.map fun card => card.id), dealt)] ⟨printings, total⟩) ∧
    (∀ ids, ids ≠ [] →
      Answered (.findCards ids) [(.cardsByIds ids, listed), (.facesOf ids, dealt)] printings) ∧
    Answered (.findCards []) [] [] ∧
    (∀ card ∈ cards, rowOf? (fun card => card.id) card.id printings =
      some (withFaces faces card)) ∧
    (∀ id found card, found.first? Row.card = .ok (some card) → card.id = id →
      Answered (.findCard id) [(.cardById id, found), (.facesOf [id], dealt)]
        (some (withFaces faces card))) ∧
    (∀ id found, found.first? Row.card = .ok none →
      Answered (.findCard id) [(.cardById id, found)] none) ∧
    (printings.flatMap fun card => card.faces.map (card.id, ·)).Perm
      (faces.filter fun face => face.1 ∈ cards.map fun card => card.id) := by
  intro printings
  have ids : printings.map (fun card => card.id) = cards.map fun card => card.id := by
    rw [List.map_map]
    rfl
  refine ⟨fun search counted total counting => ?_, fun ids asked => ?_, ?_, fun card member => ?_,
    fun id found card finding same => ?_, fun id found finding => ?_, dealt_perm distinct faces⟩
  · exact Exchange.Holds.answered fun _ =>
      Exchange.holds_searchCards listing counting readable distinct
  · exact Exchange.Holds.answered fun _ => Exchange.holds_findCards asked listing readable distinct
  · exact Exchange.Holds.answered fun _ => Exchange.Holds.pure []
  · exact rowOf?_of_mem (ids ▸ distinct) (List.mem_map_of_mem member)
  · subst same
    exact Exchange.Holds.answered fun _ => Exchange.holds_findCard finding readable
  · exact Exchange.Holds.answered fun _ => Exchange.holds_findCard_none finding

/-- Two printings whose faces come mixed with each other and with those of a third one. -/
theorem mixed_faces_dealt :
    let face (index : Int) (name : String) : Face :=
      ⟨index, name, none, none, none, none, [], none, none, none⟩
    let delver : Card := ⟨⟨Uuid.ofNat 1, "Delver of Secrets", none, none, none, none, []⟩, ⟨0, 0⟩⟩
    let island : Card := ⟨⟨Uuid.ofNat 2, "Island", none, none, none, none, []⟩, ⟨0, 0⟩⟩
    let faces := [(Uuid.ofNat 1, face 0 "Delver of Secrets"), (Uuid.ofNat 3, face 0 "Forest"),
      (Uuid.ofNat 2, face 0 "Island"), (Uuid.ofNat 1, face 1 "Insectile Aberration")]
    let dealt := Outcome.rows (faces.map Row.ofFace)
    Answered (.findCards [Uuid.ofNat 2, Uuid.ofNat 1])
        [(.cardsByIds [Uuid.ofNat 2, Uuid.ofNat 1], .rows [Row.ofCard delver, Row.ofCard island]),
          (.facesOf [Uuid.ofNat 2, Uuid.ofNat 1], dealt)]
        [{ delver with faces := [face 0 "Delver of Secrets", face 1 "Insectile Aberration"] },
          { island with faces := [face 0 "Island"] }] ∧
      Answered (.findCard (Uuid.ofNat 2))
        [(.cardById (Uuid.ofNat 2), .rows [Row.ofCard island]),
          (.facesOf [Uuid.ofNat 2], dealt)] (some { island with faces := [face 0 "Island"] }) := by
  intro face delver island faces dealt
  have listing : (Outcome.rows ([delver, island].map Row.ofCard)).all Row.card =
      .ok [delver, island] := by
    refine Outcome.all_rows_map fun card member => ?_
    rw [Row.card_ofCard]
    obtain rfl | rfl : card = delver ∨ card = island := by simpa using member
    · rfl
    · rfl
  have readable : dealt.all Row.face = .ok faces := by
    refine Outcome.all_rows_map fun owned member => Row.face_ofFace ?_
    revert owned
    decide
  obtain ⟨-, several, -, -, single, -⟩ :=
    faces_stay_with_printing listing (by decide) readable
  have found : (Outcome.rows [Row.ofCard island]).first? Row.card = .ok (some island) := by
    change (some (Row.ofCard island)).mapM Row.card = _
    rw [Option.mapM_some, Row.card_ofCard]
    rfl
  exact ⟨several _ (by simp), single _ _ _ found rfl⟩

end CardInventory.Database
