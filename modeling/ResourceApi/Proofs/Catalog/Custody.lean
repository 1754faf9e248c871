import ResourceApi.Proofs.Catalog.Library
import ResourceApi.Proofs.Catalog.Rules
import ResourceApi.Proofs.Http.Responses
import ResourceApi.Proofs.Service.Upkeep

/-!
# The books of a library stay in order

A library begins with sound books under their own identifiers. New books and other books in the
place of one are made from drafts that keep the rules for a whole book, and a book that gets
other parts was sound before; and no request that would remove a featured book gets to its
transaction. So whatever is sent to the library, and whatever fails, its books stay sound and the
featured ones stay.

## Main definitions

- `Book.Shelved` — what may stand under an identifier of the library

## Main results

- `library_brings` — what requests bring to the library
- `library_upholds` — one request
- `library_stays_sound` — the books behind any messages
-/

namespace ResourceApi

/-- Under an identifier of the library there may stand a sound book of this identifier, which is
positive, or nothing, unless the book is featured. -/
def Book.Shelved (id : Int) : Option Book → Prop
  | some b => 0 < id ∧ b.id = id ∧ b.Sound
  | none => Book.featured.contains id = false

/-! ## What has passed the gates -/

namespace Service

variable {E D : Type}

theorem pos_of_identified {operation : Operation} {id : Int}
    (h : (identifierVerdict operation id).stop? = none) : 0 < id := by
  unfold identifierVerdict at h
  split at h
  · cases h
  · next hpos => exact Int.not_le.mp hpos

theorem rules_of_document {s : Service E D} {operation : Operation}
    {rules : D → Except Violations Unit} {body : Bytes} {document : D}
    (h : (s.documentVerdict operation rules body).value? = some document) :
    rules document = .ok () :=
  (s.documentVerdict_eq_ok_iff.mp (Verdict.value?_eq_some_iff.mp h)).2

/-- An entity that a look-up has found is committed. -/
theorem get?_of_findVerdict [Entity E] {s : Service E D} {operation : Operation} {id : Int}
    {x : Session E} {e : E} (h : s.findVerdict Session.answer operation id x = .ok e) :
    x.store.get? id = some e := by
  have hreply : Script.Answerer.found Session.answer id x = .ofExcept (x.findById id).1 := rfl
  unfold findVerdict at h
  rw [hreply, Session.findById] at h
  cases hfault : x.store.faults.findById with
  | some failure =>
    rw [hfault] at h
    cases h
  | none =>
    rw [hfault] at h
    cases hget : x.store.get? id with
    | none =>
      rw [hget] at h
      cases h
    | some found =>
      rw [hget] at h
      exact congrArg some (Except.ok.inj h)

end Service

section Custody

variable (options : Options) {x : Session Book} {call : Call Book}

theorem featured_of_allowed {id : Int}
    (h : ((library options).policyVerdict id).stop? = none) :
    Book.featured.contains id = false := by
  rcases Shelf.policyVerdict_cases options id with ⟨problem, -, -, hrefused⟩ | ⟨hfree, -⟩
  · rw [hrefused] at h
    cases h
  · exact hfree

/-- A request that has passed all gates before its transaction brings only books that may stand
where it brings them. -/
theorem library_brings (hx : x.Holds Book.Shelved) {request : Request}
    (hgates : ∀ gate ∈ Gate.beforeTransaction,
      (library options).stop? Session.answer x request gate = none)
    (hchange : (library options).change? Session.answer x request = some (.ok call))
    {store : Store Book} (hpositive : 0 < store.nextId) : call.Brings Book.Shelved store := by
  have hidentifier := hgates .identifier (by decide)
  cases request with
  | list pairs accept => cases hchange
  | get id accept => cases hchange
  | create body accept =>
    obtain ⟨d, hd, hcall⟩ := Option.map_eq_some_iff.mp hchange
    have hrules := Service.rules_of_document hd
    obtain rfl : .insert (Book.ofDraft d none) = call := Except.ok.inj hcall
    obtain ⟨htitle, hauthor, hyear⟩ := Book.sound_ofDraft hrules none
    -- A new book has no identifier, so it is put under the next one.
    exact ⟨hpositive, rfl, htitle, hauthor, hyear⟩
  | update id body =>
    obtain ⟨d, hd, hcall⟩ := Option.map_eq_some_iff.mp hchange
    have hrules := Service.rules_of_document hd
    obtain rfl : .update (Book.ofDraft d (some id)) = call := Except.ok.inj hcall
    exact ⟨Service.pos_of_identified hidentifier, rfl, Book.sound_ofDraft hrules (some id)⟩
  | updatePartial id body =>
    obtain ⟨existing, hexisting, hmade⟩ := Option.bind_eq_some_iff.mp hchange
    obtain ⟨d, hd, hcall⟩ := Option.map_eq_some_iff.mp hmade
    have hrules := Service.rules_of_document hd
    obtain rfl : .updatePartial (existing.merge d) = call := Except.ok.inj hcall
    have hfound := Service.get?_of_findVerdict (Verdict.value?_eq_some_iff.mp hexisting)
    obtain ⟨hpos, hown, hsound⟩ : Book.Shelved id (some existing) := hfound ▸ hx.committed id
    -- The merged book goes where the one found says that it stands itself.
    have hmerged : 0 < (existing.merge d).id := by rwa [← hown] at hpos
    exact ⟨hmerged, rfl, hsound.merge hrules⟩
  | delete id =>
    obtain rfl : .delete id = call := Except.ok.inj (Option.some.inj hchange)
    exact featured_of_allowed options (hgates .policy (by decide))

/-- **One request** to a library leaves its books in order. -/
theorem library_upholds (hx : x.Upholds Book.Shelved) (request : Request) :
    (((library options).handle request).run Session.answer x).state.Upholds Book.Shelved := by
  refine (library options).handle_upholds hx fun hgates call hchange store hpositive => ?_
  exact library_brings options hx.holds hgates hchange hpositive

/-! ## Behind any messages -/

theorem Book.sound_seed : ∀ b ∈ Book.seed, 0 < b.id ∧ b.Sound := by
  decide +kernel

/-- The books that a library begins with may stand where they do. -/
theorem Book.shelved_seed (id : Int) : Book.Shelved id ((Store.ofList Book.seed).get? id) := by
  cases hget : (Store.ofList Book.seed).get? id with
  | some b =>
    obtain ⟨hmem, hid⟩ := Store.get?_ofList hget
    obtain ⟨hpos, hsound⟩ := Book.sound_seed b hmem
    exact ⟨hid ▸ hpos, hid, hsound⟩
  | none =>
    -- The featured book is one of them.
    refine Bool.eq_false_iff.mpr fun hfeatured => ?_
    obtain rfl : id = 1 := by simpa [Book.featured] using hfeatured
    cases hget

/-- **The books of a library**, wherever it is mounted, behind any messages to it and any planted
faults: every book stands under its own positive identifier, its title and its author show
something, its year is one of a printed book, and the featured book is there. -/
theorem library_stays_sound (options : Options) (base : Pattern) (turns : List Routes.Turn) :
    let store := (Routes.mk (library options) base).after (.ofList Book.seed) turns
    (∀ id b, store.get? id = some b →
        0 < id ∧ b.id = id ∧
          (∃ c ∈ b.title.toList, Text.isBlank c = false) ∧
          (∃ c ∈ b.author.toList, Text.isBlank c = false) ∧
          1450 ≤ b.year ∧ b.year ≤ 2100) ∧
      (store.get? 1).isSome := by
  intro store
  have hseed : (⟨.ofList Book.seed, ∅⟩ : Session Book).Upholds Book.Shelved :=
    ⟨.of_unstaged Book.shelved_seed rfl, (Store.ahead_ofList Book.seed).positive⟩
  have hstore : (⟨store, ∅⟩ : Session Book).Upholds Book.Shelved := by
    refine Routes.after_keeps (I := fun store => (⟨store, ∅⟩ : Session Book).Upholds Book.Shelved) _
      (fun store request h => ?_) (fun store faults h => ?_) hseed turns
    · have hafter := library_upholds options h request
      exact ⟨.of_unstaged hafter.holds.committed rfl, hafter.positive⟩
    · exact ⟨.of_unstaged h.holds.committed rfl, h.positive⟩
  have hcommitted := hstore.holds.committed
  refine ⟨fun id b hb => ?_, ?_⟩
  · obtain ⟨hpos, hid, hsound⟩ : Book.Shelved id (some b) := hb ▸ hcommitted id
    exact ⟨hpos, hid, hsound.title, hsound.author, hsound.year⟩
  · cases hget : store.get? 1 with
    | some b => rfl
    | none =>
      have hshelved : Book.Shelved 1 (store.get? 1) := hcommitted 1
      rw [hget] at hshelved
      have hfree : Book.featured.contains 1 = false := hshelved
      cases hfree

/-- A library mounted at `/books` is one of these. -/
example : ∃ options base,
    (library Options.usual).mount "/books" = .ok ⟨library options, base⟩ := ⟨_, _, rfl⟩

end Custody

end ResourceApi
