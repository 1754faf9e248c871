import ResourceApi.Proofs.Catalog.Answering
import ResourceApi.Proofs.Catalog.Drafts

/-!
# Writing back what was read

A book that is shown in JSON says all of itself, keeps the rules for a whole book, since every book
of a library is sound, and claims the identifier it stands under. So a client that sends a book back
as it was shown, to the place it was shown at, is granted the change and changes nothing.

## Main results

- `Shelf.put_self` — a book put where it stands
- `Shelf.serve_update_back`, `Shelf.serve_updatePartial_back` — the two ways to send a book back
- `writing_back_changes_nothing` — on every library that only messages have reached
-/

namespace ResourceApi

/-- What a sound book says of itself is fit for a book. -/
theorem Book.Sound.fit_draft {b : Book} (h : b.Sound) : b.draft.Fit := by
  constructor
  · rintro _ ⟨⟩
    exact h.title
  · rintro _ ⟨⟩
    exact h.author
  · rintro _ ⟨⟩
    exact h.year

namespace Shelf

variable {shelf : Shelf} {options : Options} {id : Int} {b : Book} {body : Bytes}

/-- A book put where it stands leaves the shelf as it is. -/
theorem put_self (hb : shelf.books[id]? = some b) : shelf.put id b = shelf := by
  have hbooks : shelf.books.insert id b = shelf.books := by
    refine Std.ExtTreeMap.ext_getElem? fun other => ?_
    rw [Std.ExtTreeMap.getElem?_insert]
    split
    · next heq => rw [← Std.compare_eq_iff_eq.mp heq, hb]
    · rfl
  rw [put, hbooks]

/-- What is granted to a client that asks for a book is the book. -/
theorem book_of_get {accept : Option String} {grant : Grant}
    (h : (shelf.serve options (.get id accept)).1 = .ok grant) :
    0 < id ∧ ∃ b, shelf.books[id]? = some b ∧ grant = .ok (showOne accept b) := by
  rw [serve] at h
  by_cases hid : id ≤ 0
  · rw [if_pos hid] at h
    cases h
  · rw [if_neg hid] at h
    cases hb : shelf.books[id]? with
    | none =>
      rw [hb] at h
      cases h
    | some b =>
      rw [hb] at h
      exact ⟨Int.not_le.mp hid, b, rfl, (Except.ok.inj h).symm⟩

/-- A book shown in JSON is the draft that says all of it. -/
theorem bytes_of_showOne {accept : Option String}
    (h : (showOne accept b).form.mediaType = "application/json") :
    (showOne accept b).bytes = b.draft.json.bytes := by
  unfold showOne present at *
  cases hform : Representation.negotiate accept with
  | xml =>
    have hother : Representation.xml.mediaType ≠ "application/json" := by decide
    rw [hform] at h
    exact absurd h hother
  | json => rfl

/-- A draft that keeps the rules and claims no other identifier is accepted. -/
theorem acceptedFor_of_read {rules : Book.Draft → Except Violations Unit} {d : Book.Draft}
    (hread : Book.Draft.read body = some d) (hrules : rules d = .ok ())
    (hid : d.id.all (· == id) = true) : acceptedFor rules id body = some d := by
  have haccepted : accepted rules body = some d := by
    rw [accepted, hread, Option.filter_some, hrules]
    rfl
  rw [acceptedFor, haccepted, Option.filter_some, if_pos hid]

variable (hid : 0 < id) (hb : shelf.books[id]? = some b) (hown : b.id = id) (hsound : b.Sound)
  (hread : Book.Draft.read body = some b.draft)

include hid hb hown hsound hread

theorem serve_update_back : shelf.serve options (.update id body) = (.ok .noContent, shelf) := by
  have hrules : Book.checkWhole b.draft = .ok () :=
    (Book.checkWhole_eq_ok_iff _).mpr ⟨rfl, rfl, rfl, hsound.fit_draft⟩
  have haccepted : acceptedFor Book.checkWhole id body = some b.draft :=
    acceptedFor_of_read hread hrules (by simp [Book.draft, hown])
  have hsame : Book.ofDraft b.draft (some id) = b := by rw [← hown, Book.ofDraft_draft]
  rw [serve, if_neg (Int.not_le.mpr hid), hb]
  dsimp only
  rw [haccepted]
  dsimp only
  rw [hsame, put_self hb]

theorem serve_updatePartial_back :
    shelf.serve options (.updatePartial id body) = (.ok .noContent, shelf) := by
  have hrules : Book.checkParts b.draft = .ok () :=
    (Book.checkParts_eq_ok_iff _).mpr hsound.fit_draft
  have haccepted : acceptedFor Book.checkParts id body = some b.draft :=
    acceptedFor_of_read hread hrules (by simp [Book.draft, hown])
  rw [serve, if_neg (Int.not_le.mpr hid), hb]
  dsimp only
  rw [haccepted]
  dsimp only
  rw [Book.merge_draft, put_self hb]

end Shelf

/-! ## At a library -/

/-- **Writing back what was read changes nothing.** Whatever messages a library has had: if it
answers a `GET` for the book under an identifier with a book in JSON, then it grants a message that
asks to put what was shown in the place of that book, or to give the book these parts, without
content, and all its books and the identifier to come next stay as they are. -/
theorem writing_back_changes_nothing (options : Options) (base : Pattern) (messages : List Message)
    {get write : Message} {id : Int} {accept : Option String} {shown : Response}
    (hget : (libraryAt options base).dispatch get = .request (.get id accept))
    (hmethod : get.method = "GET")
    (hshown : ((libraryBehind options base messages).perform
      ((libraryAt options base).respond get)).outcome = .ok shown)
    (hstatus : shown.status = 200) (hjson : shown.contentType = some "application/json")
    (hwrite : (libraryAt options base).dispatch write = .request (.update id shown.body) ∨
      (libraryAt options base).dispatch write = .request (.updatePartial id shown.body)) :
    let store := libraryBehind options base messages
    let run := store.perform ((libraryAt options base).respond write)
    (∃ response, run.outcome = .ok response ∧ response.status = 204) ∧
      run.state.store.entities = store.entities ∧ run.state.store.nextId = store.nextId := by
  intro store run
  obtain ⟨shelf, hsound, hagrees⟩ := library_after_messages options base messages
  obtain ⟨grant, hserve, rfl⟩ := Shelf.grant_of_response hagrees hget (by rw [hmethod]; decide)
    hshown (by rw [hstatus]; decide)
  obtain ⟨hid, b, hb, rfl⟩ := Shelf.book_of_get hserve
  have hown : b.id = id := hagrees.tidy.filed id b hb
  have hbounds := (Routes.names_of_get hget).bounds
  have hwritable : b.draft.Writable := by
    obtain ⟨hleast, hgreatest⟩ := (hsound id b hb).2.year
    constructor
    · rintro _ ⟨⟩
      exact hown ▸ hbounds
    · rintro _ ⟨⟩
      exact ⟨Int.le_trans (by decide) hleast, Int.le_trans hgreatest (by decide)⟩
  have hread : Book.Draft.read (Shelf.showOne accept b).bytes = some b.draft := by
    rw [Shelf.bytes_of_showOne (Option.some.inj hjson), Book.Draft.read_json hwritable]
  -- Both ways lead to the shelf that was there before.
  have hback : ∃ request, (libraryAt options base).dispatch write = .request request ∧
      (write.method == "HEAD") = false ∧ shelf.serve options request = (.ok .noContent, shelf) := by
    rcases hwrite with hupdate | hupdate
    · exact ⟨_, hupdate, Routes.method_of_request hupdate nofun nofun,
        Shelf.serve_update_back hid hb hown (hsound id b hb).2 hread⟩
    · exact ⟨_, hupdate, Routes.method_of_request hupdate nofun nofun,
        Shelf.serve_updatePartial_back hid hb hown (hsound id b hb).2 hread⟩
  obtain ⟨request, hdispatch, hwritten, hserved⟩ := hback
  obtain ⟨houtcome, hafter⟩ := Shelf.responds_grant hagrees hdispatch hwritten hserved
  exact ⟨⟨_, houtcome, rfl⟩, hafter.books.trans hagrees.books.symm,
    hafter.counter.trans hagrees.counter.symm⟩

def booksBase : Pattern := [.text "/books".toList]

/-- A book with a title that needs escapes and a day of publication before the year 0. -/
def idesText : String :=
  "\x7b\"title\":\"\\\"Ides\\\"\\n\",\"author\":\"J. C.\",\"year\":1600,\"published\":\"-0044-03-15\"\x7d"

def idesPost : Message := ⟨"POST", "/books", [], Text.utf8 idesText⟩

/-- The book as it is shown. -/
def idesShown : Response where
  status := 200
  contentType := some "application/json"
  vary := some "accept"
  location := none
  allow := none
  body := Text.utf8 ("\x7b\"id\":4,\"title\":\"\\\"Ides\\\"\\n\",\"author\":\"J. C.\"," ++
    "\"year\":1600,\"published\":\"-0044-03-15\",\"in_print\":true\x7d")

theorem writing_back_ides :
    let store := libraryBehind .usual booksBase [idesPost]
    let respond (m : Message) := store.perform ((libraryAt .usual booksBase).respond m)
    let get : Message := ⟨"GET", "/books/4", [], []⟩
    let put : Message := ⟨"PUT", "/books/4", [], idesShown.body⟩
    (respond get).outcome = .ok idesShown ∧
      (∃ response, (respond put).outcome = .ok response ∧ response.status = 204) ∧
      (respond put).state.store.entities = store.entities ∧
      (respond put).state.store.nextId = store.nextId := by
  intro store respond get put
  have hget : (libraryAt .usual booksBase).dispatch get = .request (.get 4 none) := by
    decide +kernel
  have hnames : (libraryAt .usual booksBase).Names get.path 4 := Routes.names_of_get hget
  have hput : (libraryAt .usual booksBase).dispatch put =
      .request (Routes.requestFor .update 4 put) :=
    Routes.dispatch_of_names (m := put) hnames rfl
  have hshown : (respond get).outcome = .ok idesShown := by
    have hsome : (respond get).outcome.toOption = some idesShown := by
      decide +kernel
    cases houtcome : (respond get).outcome with
    | error message =>
      rw [houtcome] at hsome
      cases hsome
    | ok shown =>
      rw [houtcome] at hsome
      exact congrArg Except.ok (Option.some.inj hsome)
  exact ⟨hshown, writing_back_changes_nothing .usual booksBase [idesPost] hget rfl hshown rfl rfl
    (.inl hput)⟩

end ResourceApi
