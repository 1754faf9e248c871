import ResourceApi.Proofs.Catalog.Documents
import ResourceApi.Proofs.Catalog.WriteBack
import ResourceApi.Proofs.Reading
import ResourceApi.Proofs.StableSort

/-!
# What a library sends as XML

A response of a library is XML only if its request was granted and its client prefers XML. Then its
body is the markup of books that stand on the shelf behind the message. So it is an element, and it
is a document exactly if a document may hold the titles and the authors of these books. Nothing
keeps other titles and authors out, since a control character is no blank.

## Main results

- `Shelf.mem_select` — what a query selects stands on the shelf
- `Shelf.marked_of_serve` — what is granted as XML
- `library_markup` — what a library sends as XML
- `library_sends_control_character` — a body that is no document
-/

namespace ResourceApi

/-! ## What is granted as XML -/

namespace Shelf

variable {shelf : Shelf} {options : Options}

theorem mem_of_mem_elim {α β : Type} {a : α} {as : List α} {choice : Option β} {f : β → List α}
    (h : a ∈ choice.elim as f) (hf : ∀ b, a ∈ f b → a ∈ as) : a ∈ as := by
  cases choice with
  | none => exact h
  | some b => exact hf b h

theorem mem_select {q : Query} {b : Book} (h : b ∈ shelf.select q) :
    ∃ id : Int, shelf.books[id]? = some b := by
  have harranged := mem_of_mem_elim h fun _ hmem => List.mem_of_mem_drop (List.mem_of_mem_take hmem)
  have hchosen := mem_of_mem_elim harranged fun _ hmem => (mem_stableSort _).mp hmem
  obtain ⟨⟨id, held⟩, hmem, rfl⟩ := List.mem_map.mp (List.mem_filter.mp hchosen).1
  exact ⟨id, Std.ExtTreeMap.mem_toList_iff_getElem?_eq_some.mp hmem⟩

theorem bytes_of_xml {accept : Option String} {json : Json.Node} {xml : String}
    (h : (present accept json xml).form = .xml) :
    (present accept json xml).bytes = Text.utf8 xml := by
  unfold present at *
  cases hform : Representation.negotiate accept with
  | xml => rfl
  | json =>
    rw [hform] at h
    cases h

/-- A change is granted without a body. -/
theorem body_of_change {request : Request} {grant : Grant}
    (hserve : (shelf.serve options request).1 = .ok grant)
    (hchange : request.operation = .update ∨ request.operation = .updatePartial ∨
      request.operation = .delete) : grant.body = none := by
  cases request with
  | list pairs accept => rcases hchange with h | h | h <;> cases h
  | get id accept => rcases hchange with h | h | h <;> cases h
  | create body accept => rcases hchange with h | h | h <;> cases h
  | update id body =>
    rw [serve] at hserve
    repeat' split at hserve
    all_goals cases hserve
    rfl
  | updatePartial id body =>
    rw [serve] at hserve
    repeat' split at hserve
    all_goals cases hserve
    rfl
  | delete id =>
    rw [serve] at hserve
    repeat' split at hserve
    all_goals cases hserve
    rfl

/-- **What is granted as XML** is the markup of books that stand on the shelf behind the request,
each under its own identifier. -/
theorem marked_of_serve (htidy : shelf.Tidy) {request : Request} {grant : Grant}
    (hserve : (shelf.serve options request).1 = .ok grant) {rendering : Rendering}
    (hbody : grant.body = some rendering) (hform : rendering.form = .xml) :
    ∃ shown text, Book.Marked shown text ∧ rendering.bytes = Text.utf8 text ∧
      ∀ b ∈ shown, (shelf.serve options request).2.books[b.id]? = some b := by
  cases request with
  | list pairs accept =>
    rw [serve] at hserve ⊢
    cases hbuild : Query.build Book.schema options.limits (pairs.map Book.expand) with
    | error fault =>
      rw [hbuild] at hserve
      cases hserve
    | ok q =>
      rw [hbuild] at hserve
      obtain rfl := Except.ok.inj hserve
      obtain rfl : showAll accept (shelf.select q) = rendering := Option.some.inj hbody
      refine ⟨shelf.select q, _, .list _, bytes_of_xml hform, fun b hb => ?_⟩
      obtain ⟨id, hid⟩ := mem_select hb
      rw [htidy.filed id b hid]
      exact hid
  | get id accept =>
    obtain ⟨hid, b, hb, rfl⟩ := book_of_get hserve
    obtain rfl : showOne accept b = rendering := Option.some.inj hbody
    refine ⟨[b], _, .one b, bytes_of_xml hform, fun other hother => ?_⟩
    obtain rfl := List.mem_singleton.mp hother
    rw [serve, if_neg (Int.not_le.mpr hid), hb, htidy.filed id other hb]
    exact hb
  | create body accept =>
    rw [serve] at hserve ⊢
    cases haccepted : accepted Book.checkWhole body with
    | none =>
      rw [haccepted] at hserve
      cases hserve
    | some d =>
      rw [haccepted] at hserve
      obtain rfl := Except.ok.inj hserve
      obtain rfl := Option.some.inj hbody
      refine ⟨[_], _, .one _, bytes_of_xml hform, fun other hother => ?_⟩
      obtain rfl := List.mem_singleton.mp hother
      exact Std.ExtTreeMap.getElem?_insert_self
  | update id body =>
    rw [body_of_change hserve (.inl rfl)] at hbody
    cases hbody
  | updatePartial id body =>
    rw [body_of_change hserve (.inr (.inl rfl))] at hbody
    cases hbody
  | delete id =>
    rw [body_of_change hserve (.inr (.inr rfl))] at hbody
    cases hbody

end Shelf

/-! ## What is sent as XML -/

/-- A message that reaches no service is answered without XML. -/
theorem Routes.contentType_of_settled {E D : Type} {r : Routes E D} {m : Message}
    {response : Response} (h : r.dispatch m = .settled response) :
    response.contentType ≠ some "application/xml" := by
  have hplain : response.contentType = none ∨
      response.contentType = some "text/plain; charset=utf-8" := by
    unfold dispatch dispatchMember at h
    repeat' split at h
    all_goals cases h
    all_goals first | exact .inl rfl | exact .inr rfl
  rcases hplain with hnone | hplain
  · rw [hnone]
    nofun
  · rw [hplain]
    decide

/-- A problem is reported in JSON. -/
theorem Response.contentType_ofProblem (p : Problem) :
    (Response.ofProblem p).contentType ≠ some "application/xml" := by
  change some Representation.json.mediaType ≠ some "application/xml"
  decide

theorem Response.form_of_xml {grant : Grant}
    (h : (Response.ofGrant grant).contentType = some "application/xml") :
    ∃ rendering, grant.body = some rendering ∧ rendering.form = .xml ∧
      (Response.ofGrant grant).body = rendering.bytes := by
  obtain ⟨rendering, hbody, hmedia⟩ := Option.map_eq_some_iff.mp h
  refine ⟨rendering, hbody, ?_, ?_⟩
  · cases hform : rendering.form with
    | xml => rfl
    | json =>
      rw [hform] at hmedia
      exact absurd hmedia (by decide)
  · rw [ofGrant, hbody]

section Library

variable {options : Options} {base : Pattern} {shelf : Shelf} {store : Store Book}

/-- An answer in XML is the markup of books that are in the library behind it. -/
theorem marked_of_answered (h : shelf.Agrees store) {m : Message}
    (hxml : ((libraryAt options base).answered Session.answer m ⟨store, ∅⟩).contentType =
      some "application/xml") :
    ∃ shown text, Book.Marked shown text ∧
      ((libraryAt options base).answered Session.answer m ⟨store, ∅⟩).body = Text.utf8 text ∧
      ∀ b ∈ shown,
        (store.perform ((libraryAt options base).respond m)).state.store.get? b.id = some b := by
  have hstate := (libraryAt options base).state_respond Session.answer m ⟨store, ∅⟩
  rw [Routes.answered] at hxml ⊢
  cases hdispatch : (libraryAt options base).dispatch m with
  | settled response =>
    rw [hdispatch] at hxml
    exact absurd hxml (Routes.contentType_of_settled hdispatch)
  | unidentified operation raw =>
    rw [hdispatch] at hxml
    exact absurd hxml (Response.contentType_ofProblem _)
  | request request =>
    rw [hdispatch] at hxml hstate
    obtain ⟨houtcome, hafter⟩ := Shelf.serves options h request
    change (((library options).handle request).run Session.answer ⟨store, ∅⟩).outcome.map _ = _
      at houtcome
    rw [libraryAt_service] at hxml hstate ⊢
    dsimp only at hxml ⊢
    cases hrun : (((library options).handle request).run Session.answer ⟨store, ∅⟩).outcome with
    | error message =>
      rw [hrun] at houtcome
      cases houtcome
    | ok outcome =>
      rw [hrun] at houtcome hxml
      cases outcome with
      | error problem => exact absurd hxml (Response.contentType_ofProblem problem)
      | ok grant =>
        obtain ⟨rendering, hbody, hform, hbytes⟩ := Response.form_of_xml hxml
        have hserve : (shelf.serve options request).1 = .ok grant := (Except.ok.inj houtcome).symm
        obtain ⟨shown, text, hmarked, htext, hshown⟩ :=
          Shelf.marked_of_serve h.tidy hserve hbody hform
        refine ⟨shown, text, hmarked, hbytes.trans htext, fun b hb => ?_⟩
        change (((libraryAt options base).respond m).run Session.answer ⟨store, ∅⟩).state.store.get?
          b.id = some b
        rw [hstate]
        exact (hafter.get? b.id).trans (hshown b hb)

end Library

theorem libraryBehind_append (options : Options) (base : Pattern) (messages : List Message)
    (m : Message) : libraryBehind options base (messages ++ [m]) =
      ((libraryBehind options base messages).perform
        ((libraryAt options base).respond m)).state.store := by
  rw [libraryBehind, Routes.after, List.map_append, List.foldl_append]
  rfl

/-- **What a library sends as XML**, whatever messages it has had: the markup of books that stand in
it behind the response, of one of them or of a list. It is an element always. It is a document exactly
if a document may hold the titles and the authors of these books. -/
theorem library_markup (options : Options) (base : Pattern) (messages : List Message) {m : Message}
    {response : Response}
    (hresponse : ((libraryBehind options base messages).perform
      ((libraryAt options base).respond m)).outcome = .ok response)
    (hxml : response.contentType = some "application/xml") :
    let store := libraryBehind options base (messages ++ [m])
    ∃ shown text, Book.Marked shown text ∧
      response.body = (if m.method == "HEAD" then [] else Text.utf8 text) ∧
      (∀ b ∈ shown, store.get? b.id = some b) ∧
      Markup.Element text.toList ∧
      (Markup.Document text.toList ↔
        ∀ b ∈ shown, Markup.Legal b.title.toList ∧ Markup.Legal b.author.toList) := by
  intro store
  obtain ⟨shelf, -, hagrees⟩ := library_after_messages options base messages
  have hanswer := (libraryAt options base).outcome_respond_eq Session.answer m
    ⟨libraryBehind options base messages, ∅⟩
  obtain rfl := Except.ok.inj (hresponse.symm.trans hanswer)
  have hanswered : ((libraryAt options base).answered Session.answer m
      ⟨libraryBehind options base messages, ∅⟩).contentType = some "application/xml" := by
    rw [← hxml]
    split <;> rfl
  obtain ⟨shown, text, hmarked, hbody, hshown⟩ := marked_of_answered hagrees hanswered
  obtain ⟨helement, hdocument⟩ := hmarked.document_iff
  refine ⟨shown, text, hmarked, ?_, ?_, helement, hdocument⟩
  · rw [← hbody]
    split <;> rfl
  · rw [← libraryBehind_append] at hshown
    exact hshown

/-- A book with a control character for a title, which is not blank. -/
def controlText : String :=
  "\x7b\"title\":\"\\u0001\",\"author\":\"A\",\"year\":2000\x7d"

def controlPost : Message := ⟨"POST", "/books", [], Text.utf8 controlText⟩

def controlGet : Message := ⟨"GET", "/books/4", [("accept", "application/xml")], []⟩

/-- The markup of the book, the control character as it stands. -/
def controlMarkup : String :=
  "<book id=\"4\"><title>\x01</title><author>A</author><year>2000</year>" ++
    "<in_print>true</in_print></book>"

def controlShown : Response where
  status := 200
  contentType := some "application/xml"
  vary := some "accept"
  location := none
  allow := none
  body := Text.utf8 controlMarkup

theorem outcome_controlGet :
    ((libraryBehind .usual booksBase [controlPost]).perform
      ((libraryAt .usual booksBase).respond controlGet)).outcome = .ok controlShown := by
  refine eq_ok_of_toOption ?_
  decide +kernel

/-- What is sent for the book is an element, and no document. -/
theorem library_markup_control :
    (∃ response, ((libraryBehind .usual booksBase [controlPost]).perform
        ((libraryAt .usual booksBase).respond controlGet)).outcome = .ok response ∧
      response.body = Text.utf8 controlMarkup) ∧
    Markup.Element controlMarkup.toList ∧ ¬ Markup.Document controlMarkup.toList := by
  obtain ⟨shown, text, -, hbody, -, helement, -⟩ :=
    library_markup .usual booksBase [controlPost] outcome_controlGet rfl
  have htext : Text.utf8 controlMarkup = Text.utf8 text := hbody
  obtain rfl : controlMarkup = text := by
    have hread := congrArg Text.ofUtf8? htext
    rw [Text.ofUtf8?_utf8, Text.ofUtf8?_utf8] at hread
    exact Option.some.inj hread
  have hcontrol : ¬ Markup.Legal controlMarkup.toList := by decide +kernel
  exact ⟨⟨_, outcome_controlGet, rfl⟩, helement, fun h => hcontrol h.legal⟩

/-- A library accepts a book that no document can hold, and sends it as XML. -/
theorem library_sends_control_character :
    ∃ response, ((libraryBehind .usual booksBase [controlPost]).perform
        ((libraryAt .usual booksBase).respond controlGet)).outcome = .ok response ∧
      response.status = 200 ∧ response.contentType = some "application/xml" ∧
      response.body = Text.utf8 controlMarkup ∧
      ∃ c ∈ controlMarkup.toList, ¬ Markup.IsChar c :=
  ⟨controlShown, outcome_controlGet, rfl, rfl, rfl, '\x01', by decide +kernel⟩

end ResourceApi
