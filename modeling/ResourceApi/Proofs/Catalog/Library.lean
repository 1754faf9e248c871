import ResourceApi.Proofs.Catalog.Shelf
import ResourceApi.Proofs.Service.Requests
import ResourceApi.Proofs.Store.Answers
import ResourceApi.Proofs.Store.Index

/-!
# The library and its shelf

A store agrees with a shelf when it holds the same books under the same identifiers and nothing is
about to fail. A shelf is tidy as long as every book stands under its own identifier and in front of
the counter; so on an agreeing store no transaction of the service meets a taken identifier, a
missing one or a conflict.

## Main definitions

- `library` — the service of books
- `Shelf.Tidy` — every book stands where it belongs
- `Shelf.Agrees` — a store holds what a shelf does
-/

namespace ResourceApi

variable {E D α : Type}

def library (options : Options) : Service Book Book.Draft := ⟨Book.resource, options⟩

namespace Shelf

/-- Every book stands under its own identifier and in front of the counter, which is positive. -/
structure Tidy (shelf : Shelf) : Prop where
  filed : ∀ (id : Int) (b : Book), shelf.books[id]? = some b → b.id = id
  bounded : ∀ id : Int, shelf.books[id]?.isSome → id < shelf.counter
  positive : 0 < shelf.counter

/-- A store holds what a tidy shelf does, and nothing is about to fail. -/
structure Agrees (shelf : Shelf) (store : Store Book) : Prop where
  /-- The same books stand under the same identifiers. -/
  books : store.entities = shelf.books
  counter : store.nextId = shelf.counter
  quiet : store.faults = Faults.none
  tidy : shelf.Tidy

variable {shelf : Shelf} {store : Store Book}

/-- A book put under its own identifier leaves the shelf tidy, if the counter is behind it. -/
theorem Tidy.insert (h : shelf.Tidy) {id counter : Int} {b : Book} (hb : b.id = id)
    (hid : id < counter) (hcounter : shelf.counter ≤ counter) :
    Tidy ⟨shelf.books.insert id b, counter⟩ where
  filed := by
    intro other held hheld
    rw [Std.ExtTreeMap.getElem?_insert] at hheld
    split at hheld
    · next heq =>
      cases hheld
      exact hb.trans (Std.compare_eq_iff_eq.mp heq)
    · exact h.filed other held hheld
  bounded := by
    intro other hsome
    rw [Std.ExtTreeMap.getElem?_insert] at hsome
    split at hsome
    · next heq => exact Std.compare_eq_iff_eq.mp heq ▸ hid
    · exact Int.lt_of_lt_of_le (h.bounded other hsome) hcounter
  positive := Int.lt_of_lt_of_le h.positive hcounter

theorem Tidy.erase (h : shelf.Tidy) (id : Int) :
    Tidy { shelf with books := shelf.books.erase id } where
  filed := by
    intro other held hheld
    rw [Std.ExtTreeMap.getElem?_erase] at hheld
    split at hheld
    · cases hheld
    · exact h.filed other held hheld
  bounded := by
    intro other hsome
    rw [Std.ExtTreeMap.getElem?_erase] at hsome
    split at hsome
    · cases hsome
    · exact h.bounded other hsome
  positive := h.positive

/-! ## The books a library starts with -/

theorem ofList_nextId (books : List Book) :
    (Store.ofList books).nextId = (ofList books).counter := by
  have hkeys : ∀ bound : Int,
      (∀ entry ∈ (Store.index books).toList, entry.1 ≤ bound) ↔ ∀ b ∈ books, b.id ≤ bound := by
    intro bound
    constructor
    · intro h b hb
      obtain ⟨held, hheld⟩ := Option.isSome_iff_exists.mp (Store.isSome_index hb)
      exact h (b.id, held) (Std.ExtTreeMap.mem_toList_iff_getElem?_eq_some.mpr hheld)
    · rintro h ⟨id, held⟩ hmem
      obtain ⟨hb, hid⟩ :=
        Store.getElem?_index (Std.ExtTreeMap.mem_toList_iff_getElem?_eq_some.mp hmem)
      exact hid ▸ h held hb
  have hentries := (Store.foldl_max_le Prod.fst (Store.index books).toList 0 _).mp (Int.le_refl _)
  have hbooks := (Store.foldl_max_le (fun b : Book => b.id + 1) books 1 _).mp (Int.le_refl _)
  -- Both are the least number behind all identifiers: one runs over the list, one over the index.
  refine Int.le_antisymm ?_ ?_
  · have hall : ∀ entry ∈ (Store.index books).toList, entry.1 ≤ (ofList books).counter - 1 :=
      (hkeys _).mpr fun b hb => Int.le_sub_one_of_lt (hbooks.2 b hb)
    have hfold := (Store.foldl_max_le Prod.fst (Store.index books).toList 0 _).mpr
      ⟨Int.le_sub_one_of_lt hbooks.1, hall⟩
    exact Int.add_le_of_le_sub_right hfold
  · have hall := (hkeys _).mp hentries.2
    refine (Store.foldl_max_le (fun b : Book => b.id + 1) books 1 _).mpr ⟨?_, fun b hb => ?_⟩
    · exact Int.add_le_add_right hentries.1 1
    · exact Int.add_le_add_right (hall b hb) 1

theorem tidy_ofList (books : List Book) : (ofList books).Tidy where
  filed _ _ hb := (Store.getElem?_index (show (Store.index books)[_]? = some _ from hb)).2
  bounded id hsome := ofList_nextId books ▸ (Store.ahead_ofList books).behind id hsome
  positive := ofList_nextId books ▸ (Store.ahead_ofList books).positive

theorem agrees_ofList (books : List Book) : (ofList books).Agrees (Store.ofList books) :=
  ⟨rfl, ofList_nextId books, rfl, tidy_ofList books⟩

/-! ## The shelf behind a change -/

theorem Agrees.get? (h : shelf.Agrees store) (id : Int) : store.get? id = shelf.books[id]? := by
  rw [Store.get?, h.books]

theorem Agrees.select (h : shelf.Agrees store) (q : Query) : store.select q = shelf.select q := by
  obtain ⟨filter, sort, window⟩ := q
  rw [Store.select, Store.toList, h.books]
  cases filter <;> cases sort <;> cases window <;> simp [Shelf.select] <;> rfl

/-- A new book goes under the counter, and the counter moves on. -/
theorem Agrees.insert (h : shelf.Agrees store) {after : Store Book} {b : Book}
    (hb : b.id = shelf.counter)
    (hafter : after.Alike (Store.applyStaged { store with nextId := store.nextId + 1 }
      shelf.counter (.insert b))) :
    Agrees ⟨shelf.books.insert shelf.counter b, shelf.counter + 1⟩ after where
  books := by
    rw [hafter.entities, Store.applyStaged, h.books]
  counter := by
    rw [hafter.nextId, Store.applyStaged, h.counter]
    exact Int.max_self _
  quiet := hafter.faults.trans h.quiet
  tidy := h.tidy.insert hb (by omega) (by omega)

/-- Another book goes in the place of one. -/
theorem Agrees.put (h : shelf.Agrees store) {after : Store Book} {id : Int} {b : Book}
    (hb : b.id = id) (htaken : shelf.books[id]?.isSome)
    (hafter : after.Alike (store.applyStaged id (.update b))) :
    (shelf.put id b).Agrees after where
  books := by
    rw [hafter.entities, Store.applyStaged, h.books, Shelf.put]
  counter := by
    -- The identifier is taken, so it does not move the counter.
    have hlt := h.tidy.bounded id htaken
    rw [hafter.nextId, Store.applyStaged, h.counter, Shelf.put]
    dsimp only
    omega
  quiet := hafter.faults.trans h.quiet
  tidy := h.tidy.insert hb (h.tidy.bounded id htaken) (Int.le_refl _)

/-- A book is taken off. -/
theorem Agrees.erase (h : shelf.Agrees store) {after : Store Book} {id : Int}
    (hafter : after.Alike (store.applyStaged id .delete)) :
    Agrees { shelf with books := shelf.books.erase id } after where
  books := by
    rw [hafter.entities, Store.applyStaged, h.books]
  counter := hafter.nextId.trans h.counter
  quiet := hafter.faults.trans h.quiet
  tidy := h.tidy.erase id

/-! ## Transactions on an agreeing store -/

variable (options : Options)

theorem Agrees.begin (h : shelf.Agrees store) :
    ∃ opened : Store Book, (Session.answer .begin ⟨store, ∅⟩).2 = ⟨opened, ∅⟩ ∧
      shelf.Agrees opened := by
  refine ⟨store.withTally { store.tally with begun := store.tally.begun + 1 }, ?_, ?_⟩
  · simp only [Session.answer, Session.begin_of_quiet (x := ⟨store, ∅⟩) h.quiet]
  · exact ⟨h.books, h.counter, h.quiet, h.tidy⟩

/-- The transaction that inserts a book without an identifier goes through. -/
theorem transact_insert (h : shelf.Agrees store) {b : Book} (hb : ¬ 0 < b.id) :
    let w := Work.insert Session.answer (.ok b)
    let filed := { b with id := shelf.counter }
    (library options).transactVerdict Session.answer .create none w ⟨store, ∅⟩ = .ok filed ∧
      Agrees ⟨shelf.books.insert shelf.counter filed, shelf.counter + 1⟩
        (Service.transactState Session.answer w ⟨store, ∅⟩).store := by
  intro w filed
  obtain ⟨opened, hbegin, hopened⟩ := h.begin
  -- All identifiers are in front of the counter, so the one drawn is free.
  have hfree : opened.entities.contains opened.nextId = false := by
    rw [Store.contains_entities, hopened.get?, hopened.counter]
    refine Bool.eq_false_iff.mpr fun hsome => ?_
    have hlt := h.tidy.bounded shelf.counter hsome
    omega
  have hact : w.act (Session.answer .begin ⟨store, ∅⟩).2 =
      (.returned filed, ⟨{ opened with nextId := opened.nextId + 1 },
        (∅ : WriteSet Book).insert shelf.counter (.insert filed)⟩) := by
    have hinsert := Session.insert_of_quiet (x := ⟨opened, ∅⟩) hopened.quiet rfl hb hfree
    rw [hopened.counter] at hinsert
    rw [hbegin]
    simp only [w, Work.insert, Work.save, Script.Answerer.insert, Session.answer, hinsert,
      hopened.counter]
    rfl
  have hc : Store.contradicts { opened with nextId := opened.nextId + 1 } shelf.counter
      (.insert filed) = false := by
    rw [← hopened.counter]
    exact hfree
  obtain ⟨hverdict, hafter⟩ := (library options).transact_single (x := ⟨store, ∅⟩) h.quiet hact
    hopened.quiet hc .create none
  exact ⟨hverdict, hopened.insert rfl hafter⟩

/-- A transaction that replaces a book goes through. -/
theorem transact_replace (h : shelf.Agrees store) {id : Int} {b : Book} (hb : b.id = id)
    (htaken : shelf.books[id]?.isSome) {w : Work Book (Session Book) Book}
    (hw : w.act = (Work.update Session.answer (.ok b)).act) (operation : Operation) :
    (library options).transactVerdict Session.answer operation (some id) w ⟨store, ∅⟩ = .ok b ∧
      (shelf.put id b).Agrees (Service.transactState Session.answer w ⟨store, ∅⟩).store := by
  subst hb
  obtain ⟨opened, hbegin, hopened⟩ := h.begin
  have hcontains : opened.entities.contains b.id = true := by
    rw [Store.contains_entities, hopened.get?, htaken]
  have hact : w.act (Session.answer .begin ⟨store, ∅⟩).2 =
      (.returned b, ⟨opened, (∅ : WriteSet Book).insert b.id (.update b)⟩) := by
    have hupdate := Session.update_of_quiet (x := ⟨opened, ∅⟩) (e := b) hopened.quiet rfl hcontains
    rw [hbegin, hw]
    simp only [Work.update, Work.save, Script.Answerer.update, Session.answer, hupdate]
    rfl
  have hc : opened.contradicts b.id (.update b) = false := by
    simp [Store.contradicts, hcontains]
  obtain ⟨hverdict, hafter⟩ := (library options).transact_single (x := ⟨store, ∅⟩) h.quiet hact
    hopened.quiet hc operation (some b.id)
  exact ⟨hverdict, hopened.put rfl htaken hafter⟩

/-- The transaction that removes a book goes through. -/
theorem transact_delete (h : shelf.Agrees store) {id : Int} (htaken : shelf.books[id]?.isSome) :
    let w := Work.delete Session.answer id
    (library options).transactVerdict Session.answer .delete (some id) w ⟨store, ∅⟩ = .ok () ∧
      Agrees { shelf with books := shelf.books.erase id }
        (Service.transactState Session.answer w ⟨store, ∅⟩).store := by
  intro w
  obtain ⟨opened, hbegin, hopened⟩ := h.begin
  have hcontains : opened.entities.contains id = true := by
    rw [Store.contains_entities, hopened.get?, htaken]
  have hact : w.act (Session.answer .begin ⟨store, ∅⟩).2 =
      (.returned (), ⟨opened, (∅ : WriteSet Book).insert id .delete⟩) := by
    have hdelete := Session.delete_of_quiet (x := ⟨opened, ∅⟩) hopened.quiet rfl hcontains
    rw [hbegin]
    simp only [w, Work.delete, Script.Answerer.delete, Session.answer, hdelete]
    rfl
  obtain ⟨hverdict, hafter⟩ := (library options).transact_single (x := ⟨store, ∅⟩) h.quiet hact
    hopened.quiet rfl .delete (some id)
  exact ⟨hverdict, hopened.erase hafter⟩

end Shelf

/-! ## Verdicts on an agreeing store -/

namespace Shelf

variable {shelf : Shelf} {store : Store Book} (options : Options)

theorem showOne_eq (operation : Operation) (accept : Option String) (b : Book) :
    (library options).showOne operation accept b.draft = .ok (showOne accept b) := by
  unfold Service.showOne Service.renderVerdict showOne present
  cases Representation.negotiate accept <;> rfl

theorem showAll_eq (operation : Operation) (accept : Option String) (books : List Book) :
    (library options).showAll operation accept (books.map Book.draft) =
      .ok (showAll accept books) := by
  have hjson : (books.map Book.draft).mapM (library options).resource.json =
      .ok (books.map fun b => b.draft.json) := by
    refine (List.mapM_pure (m := Except String)).trans ?_
    rw [List.map_map]
    rfl
  unfold Service.showAll Service.renderVerdict showAll present
  rw [hjson]
  cases Representation.negotiate accept <;> rfl

theorem documentVerdict_cases (operation : Operation)
    (rules : Book.Draft → Except Violations Unit) (body : Bytes) :
    (∃ problem, problem.kind = .validationFailed ∧ accepted rules body = none ∧
        (library options).documentVerdict operation rules body = .error (.refused problem)) ∨
      ∃ d, accepted rules body = some d ∧
        (library options).documentVerdict operation rules body = .ok d := by
  have hread : (library options).resource.read body = Book.Draft.read body := rfl
  unfold accepted Service.documentVerdict
  rw [hread]
  cases Book.Draft.read body with
  | none => exact .inl ⟨_, rfl, rfl, rfl⟩
  | some d =>
    cases hrules : rules d with
    | error violations =>
      refine .inl ⟨.validationFailed operation violations, rfl, ?_, ?_⟩ <;>
        simp [hrules, Except.isOk, Except.toBool]
    | ok _ =>
      refine .inr ⟨d, ?_, ?_⟩ <;> simp [hrules, Except.isOk, Except.toBool]

theorem agreementVerdict_cases (operation : Operation) (id : Int) (d : Book.Draft) :
    (∃ problem, problem.kind = .validationFailed ∧ d.id.all (· == id) = false ∧
        (library options).agreementVerdict operation id d = .error (.refused problem)) ∨
      (d.id.all (· == id) = true ∧ (library options).agreementVerdict operation id d = .ok ()) := by
  have hclaimed : (library options).resource.claimedId d = d.id := rfl
  unfold Service.agreementVerdict
  rw [hclaimed]
  cases d.id with
  | none => exact .inr ⟨rfl, rfl⟩
  | some claimed =>
    dsimp only [Option.all]
    by_cases hid : claimed = id
    · rw [if_pos hid]
      exact .inr ⟨by simpa using hid, rfl⟩
    · rw [if_neg hid]
      exact .inl ⟨_, rfl, by simpa using hid, rfl⟩

theorem identifierVerdict_of_pos {operation : Operation} {id : Int} (h : ¬ id ≤ 0) :
    Service.identifierVerdict operation id = .ok () := by
  rw [Service.identifierVerdict, if_neg h]

theorem identifierVerdict_of_not_pos {operation : Operation} {id : Int} (h : id ≤ 0) :
    Service.identifierVerdict operation id =
      .error (.refused (.invalidIdentifier operation (Number.decimal id))) := by
  rw [Service.identifierVerdict, if_pos h]

theorem policyVerdict_cases (id : Int) :
    (∃ problem, problem.kind = .conflict ∧ Book.featured.contains id = true ∧
        (library options).policyVerdict id = .error (.refused problem)) ∨
      (Book.featured.contains id = false ∧ (library options).policyVerdict id = .ok ()) := by
  have hdeletable : (library options).resource.deletable id = !Book.featured.contains id := rfl
  have hallowed : (library options).resource.deletionAllowed = true := rfl
  unfold Service.policyVerdict
  rw [hallowed, hdeletable]
  cases Book.featured.contains id with
  | true => exact .inl ⟨_, rfl, rfl, rfl⟩
  | false => exact .inr ⟨rfl, rfl⟩

section Lookups

variable (h : shelf.Agrees store) (operation : Operation)
include h

theorem findVerdict_of_some {id : Int} {b : Book} (hb : shelf.books[id]? = some b) :
    (library options).findVerdict Session.answer operation id ⟨store, ∅⟩ = .ok b := by
  unfold Service.findVerdict Script.Answerer.found
  rw [Session.answer_findById_of_quiet h.quiet, h.get?, hb]
  rfl

theorem findVerdict_of_none {id : Int} (hb : shelf.books[id]? = none) :
    (library options).findVerdict Session.answer operation id ⟨store, ∅⟩ =
      .error (.refused ((library options).missing operation id)) := by
  unfold Service.findVerdict Script.Answerer.found
  rw [Session.answer_findById_of_quiet h.quiet, h.get?, hb]
  rfl

theorem existenceVerdict_of_some {id : Int} {b : Book} (hb : shelf.books[id]? = some b) :
    (library options).existenceVerdict Session.answer operation id ⟨store, ∅⟩ = .ok () := by
  unfold Service.existenceVerdict Script.Answerer.known
  rw [Session.answer_contains_of_quiet h.quiet, h.get?, hb]
  rfl

theorem existenceVerdict_of_none {id : Int} (hb : shelf.books[id]? = none) :
    (library options).existenceVerdict Session.answer operation id ⟨store, ∅⟩ =
      .error (.refused ((library options).missing operation id)) := by
  unfold Service.existenceVerdict Script.Answerer.known
  rw [Session.answer_contains_of_quiet h.quiet, h.get?, hb]
  rfl

end Lookups

end Shelf

end ResourceApi
