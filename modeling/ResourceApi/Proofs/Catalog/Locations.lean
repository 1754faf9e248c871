import ResourceApi.Proofs.Catalog.Answering
import ResourceApi.Proofs.Http.Bases

/-!
# Where new books are found

A client that has created a book is told where the book is found. At a base with a segment the book
is found there. At a base without one it is not: its members are mounted behind two slashes, and the
client is told of a path with one.

## Main definitions

- `Shelf.shelved` — the shelf that a new book is put on

## Main results

- `Shelf.created_of_create` — what a client is granted that creates a book
- `location_leads_back` — at which plain bases a new book is found where it is said to be
- `bare_location_leads_nowhere` — a base at which it is not
-/

namespace ResourceApi

/-- A plain path is passed on in a header. -/
theorem Response.location_of_plain {grant : Grant} {cs : List Char}
    (h : grant.location = some (String.ofList cs)) (hplain : IsPlain cs) :
    (Response.ofGrant grant).location = some (String.ofList cs) := by
  rw [ofGrant, h, Option.filter_some_pos (isHeaderText_of_plain hplain)]

namespace Shelf

variable {shelf : Shelf} {options : Options} {body : Bytes} {accept : Option String}

/-- The shelf that a new book is put on, under the identifier to come next. -/
def shelved (shelf : Shelf) (b : Book) : Shelf :=
  ⟨shelf.books.insert shelf.counter b, shelf.counter + 1⟩

theorem getElem?_shelved (shelf : Shelf) (b : Book) :
    (shelf.shelved b).books[shelf.counter]? = some b := by
  rw [shelved, Std.ExtTreeMap.getElem?_insert_self]

/-- What is granted to a client that creates a book is the book and the place of it. -/
theorem created_of_create {grant : Grant}
    (h : (shelf.serve options (.create body accept)).1 = .ok grant) :
    ∃ b : Book, b.id = shelf.counter ∧
      shelf.serve options (.create body accept) =
        (.ok { Grant.created (showOne accept b) with location := location? options b.id },
          shelf.shelved b) := by
  rw [serve] at h ⊢
  cases hd : accepted Book.checkWhole body with
  | none =>
    rw [hd] at h
    cases h
  | some d => exact ⟨{ Book.ofDraft d none with id := shelf.counter }, rfl, rfl⟩

/-- What is granted to a client that asks for a book. -/
theorem serve_get_of_some {id : Int} {b : Book} (hid : 0 < id) (hb : shelf.books[id]? = some b) :
    shelf.serve options (.get id accept) = (.ok (.ok (showOne accept b)), shelf) := by
  rw [serve, if_neg (Int.not_le.mpr hid), hb]

/-- A client that asks for a book by its path is shown it. -/
theorem responds_get {base : Pattern} {store : Store Book} (h : shelf.Agrees store) {id : Int}
    {b : Book} (hid : 0 < id) (hb : shelf.books[id]? = some b) {m : Message} (hmethod : m.method = "GET")
    (hnames : (libraryAt options base).Names m.path id) :
    (store.perform ((libraryAt options base).respond m)).outcome =
      .ok (.ofGrant (.ok (showOne m.accept b))) := by
  have hoperation : memberOperation? m.method = some .get := by
    rw [hmethod]
    rfl
  have hdispatch := Routes.dispatch_of_names hnames hoperation
  have hhead : (m.method == "HEAD") = false := by
    rw [hmethod]
    decide
  exact (responds_grant h hdispatch hhead (serve_get_of_some hid hb)).1

end Shelf

/-- A library at a plain base. -/
def libraryOn (options : Options) (path : String) : Routes Book Book.Draft :=
  libraryAt { options with basePath := some (basePath path) } (Pattern.verbatim ('/' :: core path))

theorem mount_library (options : Options) {path : String} (hplain : IsPlain path.toList) :
    (library options).mount path = .ok (libraryOn options path) :=
  (library options).mount_of_plain hplain

/-- **Where a new book is found.** A library is mounted at every base of slashes and unreserved
characters. Whatever messages it has had: when it answers that it has created a book, with an
identifier of 64 bits, it holds the book under the identifier that came next and says where. If
the base has a segment, the path that it says is the one of a member whose identifier reads as
that of the book, and a `GET` to it is answered with the book. If the base has none, nothing is
found at that path. -/
theorem location_leads_back (options : Options) {path : String} (hplain : IsPlain path.toList) :
    ∃ r : Routes Book Book.Draft, (library options).mount path = .ok r ∧
      ∀ (messages : List Message) (post : Message) (body : Bytes) (accept : Option String)
        (created : Response),
        let before := r.after (.ofList Book.seed) (messages.map .message)
        let made := before.perform (r.respond post)
        r.dispatch post = .request (.create body accept) → made.outcome = .ok created →
        created.status = 201 → before.nextId ≤ Number.maxInt64 →
        ∃ (b : Book) (location : String),
          (b.id = before.nextId ∧ made.state.store.get? b.id = some b ∧
            created.body = (Shelf.showOne accept b).bytes ∧ created.location = some location) ∧
          ∀ get : Message, get.method = "GET" → get.target = location →
            let got := made.state.store.perform (r.respond get)
            ((∃ c ∈ path.toList, c ≠ '/') →
              r.place? get.path = some (.member [("id".toList, Number.intText b.id)]) ∧
                Number.readInt64 (Number.intText b.id) = some b.id ∧
                got.outcome = .ok (.ofGrant (.ok (Shelf.showOne get.accept b)))) ∧
            ((∀ c ∈ path.toList, c = '/') →
              r.place? get.path = none ∧ got.outcome = .ok .nowhere) := by
  refine ⟨_, mount_library options hplain, ?_⟩
  intro messages post body accept created before made hpost hmade hstatus hbound
  let based : Options := { options with basePath := some (basePath path) }
  let base : Pattern := Pattern.verbatim ('/' :: core path)
  obtain ⟨shelf, -, hagrees⟩ := library_after_messages based base messages
  have hhead := Routes.method_of_request hpost nofun nofun
  obtain ⟨grant, hgrant, rfl⟩ :=
    Shelf.grant_of_response hagrees hpost hhead hmade (by rw [hstatus]; decide)
  obtain ⟨b, hid, hserve⟩ := Shelf.created_of_create hgrant
  obtain ⟨-, hafter⟩ := Shelf.responds_grant hagrees hpost hhead hserve
  rw [hserve] at hgrant
  obtain rfl := Except.ok.inj hgrant
  have hnext : b.id = before.nextId := hid.trans hagrees.counter.symm
  have hpositive : 0 < b.id := hid ▸ hagrees.tidy.positive
  have hbook : (shelf.shelved b).books[b.id]? = some b := by
    rw [hid, Shelf.getElem?_shelved]
  have hheld : made.state.store.get? b.id = some b := (hafter.get? b.id).trans hbook
  have hleast : Number.minInt64 ≤ b.id := Int.le_trans (by decide) (Int.le_of_lt hpositive)
  have hgreatest : b.id ≤ Number.maxInt64 := hnext ▸ hbound
  have hdigits := isPlain_intText b.id
  by_cases hcore : core path = []
  · -- Without a segment the path has one slash and the members have two.
    have hslashes := (core_eq_nil_iff path).mp hcore
    have hlocation := (library options).location?_of_bare hcore b.id
    refine ⟨b, String.ofList ('/' :: Number.intText b.id), ⟨hnext, hheld, rfl, ?_⟩,
      fun get hmethod htarget => ⟨?_, fun _ => ?_⟩⟩
    · exact Response.location_of_plain hlocation (hdigits.cons (.inl rfl))
    · rintro ⟨c, hc, hne⟩
      exact absurd (hslashes c hc) hne
    · have hbase : (libraryAt based base).base = Pattern.verbatim ['/'] :=
        congrArg (fun cs => Pattern.verbatim ('/' :: cs)) hcore
      have hplace : (libraryAt based base).place? get.path = none := by
        rw [Message.path_of_plain htarget hdigits, Routes.place?_of_bare hbase]
      have hdispatch : (libraryAt based base).dispatch get = .settled .nowhere := by
        rw [Routes.dispatch, hplace]
      have hmethod' : (get.method == "HEAD") = false := by
        rw [hmethod]
        decide
      exact ⟨hplace, Routes.outcome_respond_settled _ _ hdispatch hmethod' _⟩
  · have hplain' : IsPlain (core path ++ '/' :: Number.intText b.id) :=
      (isPlain_core hplain).append (hdigits.cons (.inl rfl))
    have hlocation := (library options).location?_of_segment hcore b.id
    refine ⟨b, String.ofList ('/' :: core path ++ '/' :: Number.intText b.id),
      ⟨hnext, hheld, rfl, ?_⟩, fun get hmethod htarget => ⟨fun _ => ?_, fun hslashes => ?_⟩⟩
    · exact Response.location_of_plain hlocation (hplain'.cons (.inl rfl))
    · have hpath : get.path = ('/' :: core path) ++ '/' :: Number.intText b.id :=
        Message.path_of_plain htarget hplain'
      have hbase : (libraryAt based base).base = Pattern.verbatim ('/' :: core path) := rfl
      refine ⟨?_, Number.readInt64_intText hleast hgreatest, ?_⟩
      · rw [hpath]
        exact Routes.place?_behind hbase (Number.intText_ne_nil _) (slash_not_mem_intText _)
      · refine Shelf.responds_get hafter hpositive hbook hmethod ?_
        rw [hpath]
        exact Routes.names_behind hbase hleast hgreatest
    · exact absurd ((core_eq_nil_iff path).mpr hslashes) hcore

/-- A new book for a collection. -/
def ubikPost (target : String) : Message where
  method := "POST"
  target := target
  headers := []
  body := Text.utf8 "\x7b\"title\":\"Ubik\",\"author\":\"P. K. Dick\",\"year\":1969\x7d"

theorem location_leads_back_ubik :
    IsPlain "//library//books/".toList ∧
      ∃ (r : Routes Book Book.Draft) (created : Response) (b : Book),
        (library .usual).mount "//library//books/" = .ok r ∧
          let made := (Store.ofList Book.seed).perform (r.respond (ubikPost "/library//books"))
          let get : Message := ⟨"GET", "/library//books/4", [], []⟩
          made.outcome = .ok created ∧ created.status = 201 ∧
            created.location = some "/library//books/4" ∧ made.state.store.get? 4 = some b ∧
            (made.state.store.perform (r.respond get)).outcome =
              .ok (.ofGrant (.ok (Shelf.showOne none b))) := by
  have hplain : IsPlain "//library//books/".toList := by decide
  obtain ⟨r, hmount, hall⟩ := location_leads_back .usual hplain
  obtain rfl := Except.ok.inj ((mount_library .usual hplain).symm.trans hmount)
  let r := libraryOn .usual "//library//books/"
  let post := ubikPost "/library//books"
  have hdispatch : r.dispatch post = .request (.create post.body none) := by decide +kernel
  have hposted : ((Store.ofList Book.seed).perform (r.respond post)).outcome.toOption.map (fun
      created => (created.status, created.location)) = some (201, some "/library//books/4") := by
    decide +kernel
  replace hall := hall []
  rw [List.map_nil, Routes.after, List.foldl_nil] at hall
  cases hmade : ((Store.ofList Book.seed).perform (r.respond post)).outcome with
  | error message =>
    rw [hmade] at hposted
    cases hposted
  | ok created =>
    rw [hmade] at hposted
    obtain ⟨hstatus, hsaid⟩ := Prod.mk.inj (Option.some.inj hposted)
    have hnext : (Store.ofList Book.seed).nextId = 4 := by decide +kernel
    have hbound : (Store.ofList Book.seed).nextId ≤ Number.maxInt64 := by decide +kernel
    obtain ⟨b, location, ⟨hid, hheld, -, hlocation⟩, hfound⟩ :=
      hall post post.body none created hdispatch hmade hstatus hbound
    obtain rfl := Option.some.inj (hlocation.symm.trans hsaid)
    have hid : b.id = 4 := hid.trans hnext
    rw [hid] at hheld
    let get : Message := ⟨"GET", "/library//books/4", [], []⟩
    have haccept : get.accept = none := rfl
    obtain ⟨hsegment, -⟩ := hfound get rfl rfl
    obtain ⟨-, -, hshown⟩ := hsegment ⟨'b', by decide, by decide⟩
    rw [haccept] at hshown
    refine ⟨hplain, libraryOn .usual "//library//books/", created, b, hmount, ?_⟩
    dsimp only
    -- Nothing is to be run again here.
    with_reducible exact ⟨hmade, hstatus, hsaid, hheld, hshown⟩

/-- At a base without a segment a new book is not found where it is said to be. -/
theorem bare_location_leads_nowhere :
    ∃ r : Routes Book Book.Draft, (library .usual).mount "/" = .ok r ∧
      let made := (Store.ofList Book.seed).perform (r.respond (ubikPost "/"))
      let got := made.state.store.perform (r.respond ⟨"GET", "/4", [], []⟩)
      (made.outcome.toOption.map fun created => (created.status, created.location)) =
          some (201, some "/4") ∧
        (made.state.store.get? 4).isSome = true ∧
        got.outcome.toOption.map (·.status) = some 404 :=
  ⟨libraryOn .usual "/", mount_library .usual (by decide), by decide +kernel⟩

end ResourceApi
