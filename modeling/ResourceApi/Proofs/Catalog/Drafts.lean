import ResourceApi.Catalog.Book
import ResourceApi.Proofs.Calendar.Dates
import ResourceApi.Proofs.Json.Record

/-!
# Drafts of books read back

What a draft is shown as is read as that draft, whatever it says and leaves out, as long as its
numbers are integers of 64 bits. A book that is shown and given back is the same book, in the place
of the one it is under as well as in parts of it.

## Main definitions

- `Book.Draft.Writable` — a draft whose numbers a client can write

## Main results

- `Book.Draft.read_json` — a draft read back
- `Book.ofDraft_draft`, `Book.merge_draft` — books made from the drafts that show them
-/

namespace ResourceApi

namespace Book

section Member

variable {α : Type} {name other : String} {node : α → Json.Node} {value : Option α}

theorem mem_member {entry : String × Json.Node} :
    entry ∈ member name node value ↔ ∃ a, value = some a ∧ (name, node a) = entry := by
  cases value <;> simp [member, eq_comm]

theorem keys_member : ((member name node value).map Prod.fst).Sublist [name] := by
  cases value with
  | none => exact List.nil_sublist _
  | some a => exact List.Sublist.refl _

theorem lookup_member_self : (member name node value).lookup name = value.map node := by
  cases value with
  | none => rfl
  | some a => exact List.lookup_cons_self

theorem lookup_member_of_ne (h : (other == name) = false) :
    (member name node value).lookup other = none := by
  cases value with
  | none => rfl
  | some a => simp [member, List.lookup_cons, h]

end Member

namespace Draft

/-- A draft whose numbers are integers of 64 bits. -/
structure Writable (d : Draft) : Prop where
  id : ∀ id, d.id = some id → Number.minInt64 ≤ id ∧ id ≤ Number.maxInt64
  year : ∀ year, d.year = some year → Number.minInt64 ≤ year ∧ year ≤ Number.maxInt64

/-- The members of the object that a draft is shown as. -/
def members (d : Draft) : List (String × Json.Node) :=
  member "id" .ofInt d.id ++ member "title" .ofText d.title ++ member "author" .ofText d.author
    ++ member "year" .ofInt d.year ++ member "published" (fun day => .ofText day.text) d.published
    ++ member "in_print" .boolean d.inPrint

variable (d : Draft)

theorem keys_members : (d.members.map Prod.fst).Sublist fields := by
  simp only [members, List.map_append]
  exact ((((keys_member.append keys_member).append keys_member).append keys_member).append
    keys_member).append keys_member

theorem wellFormed_members : ∀ entry ∈ d.members, entry.2.WellFormed := by
  intro entry hmem
  simp only [members, List.mem_append, mem_member] at hmem
  rcases hmem with ((((⟨_, _, rfl⟩ | ⟨_, _, rfl⟩) | ⟨_, _, rfl⟩) | ⟨_, _, rfl⟩) | ⟨_, _, rfl⟩) |
    ⟨_, _, rfl⟩
  · exact Json.Node.wellFormed_ofInt _
  · exact Json.Node.wellFormed_ofText _
  · exact Json.Node.wellFormed_ofText _
  · exact Json.Node.wellFormed_ofInt _
  · exact Json.Node.wellFormed_ofText _
  · exact .boolean _

theorem record_members : Json.Record.read fields d.json.bytes = some ⟨d.members⟩ := by
  have hkeys := d.keys_members
  refine Json.Record.read_ofMembers d.wellFormed_members (fun entry hmem => ?_) ?_
  · exact hkeys.subset (List.mem_map_of_mem hmem)
  · exact hkeys.nodup (by decide)

theorem dateOf_ofText (day : Date) : dateOf (.ofText day.text) = some day := by
  rw [dateOf, Json.Node.text?_ofText, Option.bind_some, Date.text, String.toList_ofList,
    Date.readSpaced_chars]

/-- **A draft reads back** from what it is shown as. -/
theorem read_json {d : Draft} (h : d.Writable) : read d.json.bytes = some d := by
  have hid : Json.Record.field ⟨d.members⟩ "id" Json.Node.integer? = some d.id := by
    refine Json.Record.field_ofInt ?_ h.id
    simp [members, List.lookup_append, lookup_member_self, lookup_member_of_ne]
  have htitle : Json.Record.field ⟨d.members⟩ "title" Json.Node.text? = some d.title := by
    refine Json.Record.field_ofText ?_
    simp [members, List.lookup_append, lookup_member_self, lookup_member_of_ne]
  have hauthor : Json.Record.field ⟨d.members⟩ "author" Json.Node.text? = some d.author := by
    refine Json.Record.field_ofText ?_
    simp [members, List.lookup_append, lookup_member_self, lookup_member_of_ne]
  have hyear : Json.Record.field ⟨d.members⟩ "year" Json.Node.integer? = some d.year := by
    refine Json.Record.field_ofInt ?_ h.year
    simp [members, List.lookup_append, lookup_member_self, lookup_member_of_ne]
  have hpublished : Json.Record.field ⟨d.members⟩ "published" dateOf = some d.published := by
    have hlookup : d.members.lookup "published" =
        d.published.map fun day => Json.Node.ofText day.text := by
      simp [members, List.lookup_append, lookup_member_self, lookup_member_of_ne]
    exact Json.Record.field_of_lookup hlookup fun day _ => ⟨nofun, dateOf_ofText day⟩
  have hinPrint : Json.Record.field ⟨d.members⟩ "in_print" Json.Node.boolean? = some d.inPrint := by
    have hlookup : d.members.lookup "in_print" = d.inPrint.map Json.Node.boolean := by
      simp [members, List.lookup_append, lookup_member_self, lookup_member_of_ne]
    exact Json.Record.field_of_lookup hlookup fun b _ => ⟨nofun, rfl⟩
  simp only [read, record_members, Option.bind_eq_bind, Option.bind_some, hid, htitle, hauthor, hyear,
    hpublished, hinPrint]

end Draft

/-! ## Books given back -/

theorem ofDraft_draft (b : Book) : ofDraft b.draft (some b.id) = b := rfl

theorem merge_draft (b : Book) : b.merge b.draft = b := by
  obtain ⟨id, title, author, year, published, inPrint⟩ := b
  cases published <;> rfl

end Book

end ResourceApi
