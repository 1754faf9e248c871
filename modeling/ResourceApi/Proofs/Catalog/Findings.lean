import ResourceApi.Proofs.Catalog.Drafts
import ResourceApi.Proofs.Query.Lookups

/-!
# Books found by what is shown of them

What a response shows of a book finds the book again: the text of a member, asked for under the key
of the member, builds a query, and the book is among those that are listed for it. For this the
readers of filter values have to take back what the writers of responses print, integers of 64 bits
and dates of all years included.

## Main definitions

- `Book.Shows` — a tree shows a value of a type

## Main results

- `Value.read_decimal`, `Value.read_yesNo`, `Value.read_dateText` — printed values read back
- `Book.shows_of_mem_members` — the members of a book's record show its fields
- `Book.found_by_what_is_shown` — the book is found by each of them
-/

namespace ResourceApi

open ResourceApi.Filter

/-! ## Printed values read back -/

theorem Value.read_decimal {n : Int} (hleast : Number.minInt64 ≤ n) (hgreatest : n ≤ Number.maxInt64) :
    Value.read .integer (Number.decimal n) = some (.integer n) := by
  rw [Value.read, Number.decimal, String.toList_ofList, Number.readInt64_intText hleast hgreatest]
  rfl

theorem Value.read_yesNo (b : Bool) : Value.read .boolean (Book.yesNo b) = some (.boolean b) := by
  cases b <;> rfl

theorem Value.read_dateText (day : Date) : Value.read .date day.text = some (.date day) := by
  rw [Value.read, Date.text, String.toList_ofList, Date.read_chars]
  rfl

namespace Book

/-- A tree shows a value: its wording is read as the value, given the type, and the value equals
itself. -/
def Shows (type : FieldType) (node : Json.Node) (value : Value) : Prop :=
  ∃ text, node.wording? = some text ∧ Value.read type text = some value ∧ value.equals value

theorem shows_ofInt {n : Int} (h : Number.minInt64 ≤ n ∧ n ≤ Number.maxInt64) :
    Shows .integer (.ofInt n) (.integer n) :=
  ⟨Number.decimal n, Json.Node.wording?_ofInt n, Value.read_decimal h.1 h.2, beq_self_eq_true n⟩

theorem shows_ofText (s : String) : Shows .text (.ofText s) (.text s) :=
  ⟨s, Json.Node.wording?_ofText s, rfl, beq_self_eq_true s⟩

theorem shows_date (day : Date) : Shows .date (.ofText day.text) (.date day) :=
  ⟨day.text, Json.Node.wording?_ofText _, Value.read_dateText day, beq_self_eq_true day⟩

theorem shows_boolean (b : Bool) : Shows .boolean (.boolean b) (.boolean b) :=
  ⟨yesNo b, Json.Node.wording?_boolean b, Value.read_yesNo b, beq_self_eq_true b⟩

/-! ## The fields of a book -/

/-- The fields of a record are names that filters can ask for. -/
theorem askable_of_mem_fields : ∀ name ∈ Draft.fields, isFieldName name.toList = true ∧
    Parameter.isReserved name = false ∧ name ≠ "by" := by
  decide

/-- The members of a book's record show its fields. -/
theorem shows_of_mem_members {b : Book} (h : b.draft.Writable) {member : String × Json.Node}
    (hmem : member ∈ b.draft.members) :
    ∃ type value, schema.type? member.1 = some type ∧ Entity.field b member.1 = some value ∧
      Shows type member.2 value := by
  simp only [Draft.members, List.mem_append, mem_member] at hmem
  rcases hmem with ((((⟨_, hid, rfl⟩ | ⟨_, htitle, rfl⟩) | ⟨_, hauthor, rfl⟩) | ⟨_, hyear, rfl⟩) |
    ⟨day, hpublished, rfl⟩) | ⟨_, hinPrint, rfl⟩
  all_goals dsimp only
  · obtain rfl := Option.some.inj hid
    exact ⟨.integer, .integer b.id, rfl, rfl, shows_ofInt (h.id _ rfl)⟩
  · obtain rfl := Option.some.inj htitle
    exact ⟨.text, .text b.title, rfl, rfl, shows_ofText _⟩
  · obtain rfl := Option.some.inj hauthor
    exact ⟨.text, .text b.author, rfl, rfl, shows_ofText _⟩
  · obtain rfl := Option.some.inj hyear
    exact ⟨.integer, .integer b.year, rfl, rfl, shows_ofInt (h.year _ rfl)⟩
  · have hfield : Entity.field b "published" = some (.date day) :=
      congrArg (Option.map Value.date) hpublished
    exact ⟨.date, .date day, rfl, hfield, shows_date day⟩
  · obtain rfl := Option.some.inj hinPrint
    exact ⟨.boolean, .boolean b.inPrint, rfl, rfl, shows_boolean _⟩

/-! ## The book is found -/

/-- A book is listed for the wording of a value of one of its fields. -/
theorem found_by_member {x : Session Book} (limits : PageLimits) {id : Int} {b : Book}
    (hget : x.store.get? id = some b) (h : b.draft.Writable) {member : String × Json.Node}
    (hmem : member ∈ b.draft.members) :
    ∃ text q found, member.2.wording? = some text ∧
      resource.query resource.schema limits [(member.1, text)] = .ok q ∧
      (x.findAll q).1 = x.store.faults.findAll.elim (.ok found) .error ∧ b ∈ found := by
  obtain ⟨type, value, htype, hfield, text, hwording, hread, hequal⟩ := shows_of_mem_members h hmem
  have hname : member.1 ∈ Draft.fields :=
    b.draft.keys_members.subset (List.mem_map_of_mem hmem)
  obtain ⟨hname, hfree, hby⟩ := askable_of_mem_fields _ hname
  -- The key is no shorthand, so the pair is asked for as it stands.
  have hexpand : expand (member.1, text) = (member.1, text) := if_neg (by simpa using hby)
  obtain ⟨q, entries, hbuild, hfound, -, hentries⟩ :=
    Session.findAll_equal limits x hname hfree htype hread
  refine ⟨text, q, entries.map Prod.snd, hwording, ?_, hfound, ?_⟩
  · exact (congrArg (fun pair => Query.build schema limits [pair]) hexpand).trans hbuild
  · exact List.mem_map_of_mem ((hentries id b).mpr ⟨hget, value, hfield, hequal⟩)

/-- **Shown values work as filter values**: the record of a committed book is read as members, and
for the text of each of them, asked for under its key, the book is listed again, unless a failure is
planted for listings. What is printed as an integer of 64 bits, a truth value, a text or a date is
read as that value. -/
theorem found_by_what_is_shown (limits : PageLimits) {x : Session Book} {id : Int} {b : Book}
    (hget : x.store.get? id = some b) (hwritable : b.draft.Writable) :
    (∃ node members, resource.json (resource.present b) = .ok node ∧
      Json.Node.read node.bytes = some (.object members) ∧
      ∀ member ∈ members, ∃ name text q found, Json.decode member.1 = some name ∧
        member.2.wording? = some text ∧
        resource.query resource.schema limits [(name, text)] = .ok q ∧
        (x.findAll q).1 = x.store.faults.findAll.elim (.ok found) .error ∧ b ∈ found) ∧
    (∀ n, Number.minInt64 ≤ n → n ≤ Number.maxInt64 →
      Value.read .integer (Number.decimal n) = some (.integer n)) ∧
    (∀ v, Value.read .boolean (yesNo v) = some (.boolean v)) ∧
    (∀ s, Value.read .text s = some (.text s)) ∧
    ∀ day : Date, Value.read .date day.text = some (.date day) := by
  have hread := (Json.Node.wellFormed_ofMembers b.draft.wellFormed_members).read_bytes
  refine ⟨⟨b.draft.json, _, rfl, hread, fun member hmem => ?_⟩, fun _ => Value.read_decimal,
    Value.read_yesNo, fun _ => rfl, Value.read_dateText⟩
  · obtain ⟨shown, hshown, rfl⟩ := List.mem_map.mp hmem
    obtain ⟨text, q, found, hwording, hbuild, hfound, hmember⟩ :=
      found_by_member limits hget hwritable hshown
    exact ⟨shown.1, text, q, found, Json.decode_escape _, hwording, hbuild, hfound, hmember⟩

/-- A book with the least and the greatest of numbers, published on the last day of all. -/
def remote : Book :=
  ⟨Number.minInt64, "\"%_\",[in]\n", "& Sons", Number.maxInt64, Date.ofParts? 262142 12 31, false⟩

/-- Each of its six fields finds this book. -/
theorem found_by_what_is_shown_remote :
    ∃ node members, resource.json (resource.present remote) = .ok node ∧
      Json.Node.read node.bytes = some (.object members) ∧ members.length = 6 ∧
      ∀ member ∈ members, ∃ name text q found, Json.decode member.1 = some name ∧
        member.2.wording? = some text ∧
        resource.query resource.schema .usual [(name, text)] = .ok q ∧
        (Session.findAll ⟨.ofList [remote], ∅⟩ q).1 = .ok found ∧ remote ∈ found := by
  have hget : (Store.ofList [remote]).get? Number.minInt64 = some remote := by decide +kernel
  have hwritable : remote.draft.Writable := by
    constructor
    · rintro _ ⟨⟩
      decide
    · rintro _ ⟨⟩
      decide
  obtain ⟨⟨node, members, hnode, hread, hfound⟩, -⟩ :=
    found_by_what_is_shown (x := ⟨.ofList [remote], ∅⟩) .usual hget hwritable
  refine ⟨node, members, hnode, hread, ?_, hfound⟩
  obtain rfl : remote.draft.json = node := Except.ok.inj hnode
  have hmembers := (Json.Node.wellFormed_ofMembers remote.draft.wellFormed_members).read_bytes
  obtain rfl := Json.Node.object.inj (Option.some.inj (hread.symm.trans hmembers))
  decide +kernel

end Book

end ResourceApi
