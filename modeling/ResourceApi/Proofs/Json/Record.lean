import ResourceApi.Json.Record
import ResourceApi.Proofs.Json.Values

/-!
# Records read back

An object whose keys are fields of a record, none of them twice, is read as the record of its
members, and a field has the value that its member was made of, or none if it has no member.

## Main results

- `Record.read_ofMembers` — the record of an object's members
- `Record.field_of_lookup` — the value of a field
-/

namespace ResourceApi.Json

namespace Record

variable {fields : List String} {members : List (String × Node)}

/-- Keys are decoded to what they were escaped from, by induction on the members. -/
theorem decodeKeys_escaped (members : List (String × Node)) :
    decodeKeys (members.map fun member => (escape (Text.utf8 member.1), member.2)) =
      some members := by
  induction members with
  | nil => rfl
  | cons member members ih =>
    rw [decodeKeys] at ih
    rw [decodeKeys, List.map_cons, List.mapM_cons, ih, decode_escape]
    rfl

theorem isUnambiguous_of_nodup (h : (members.map Prod.fst).Nodup) :
    isUnambiguous members = true := by
  induction members with
  | nil => rfl
  | cons member members ih =>
    obtain ⟨hnew, hrest⟩ := List.nodup_cons.mp h
    have hcontains : (members.map Prod.fst).contains member.1 = false := by
      simpa [List.contains_iff_mem] using hnew
    rw [isUnambiguous, hcontains, ih hrest]
    rfl

/-- **The record of an object's members**, if its keys are distinct fields. -/
theorem read_ofMembers (hvalues : ∀ member ∈ members, member.2.WellFormed)
    (hfields : ∀ member ∈ members, member.1 ∈ fields) (hdistinct : (members.map Prod.fst).Nodup) :
    read fields (Node.ofMembers members).bytes = some ⟨members⟩ := by
  have hknown : (members.filter fun member => fields.contains member.1) = members :=
    List.filter_eq_self.mpr fun member hmem => List.contains_iff_mem.mpr (hfields member hmem)
  rw [read, (Node.wellFormed_ofMembers hvalues).read_bytes, Option.bind_some, Node.ofMembers, ofNode,
    decodeKeys_escaped]
  simp only [Option.bind_eq_bind, Option.bind_some, hknown, isUnambiguous_of_nodup hdistinct,
    if_true]

/-- **The value of a field** whose member, if there is one, was made of a value. -/
theorem field_of_lookup {α : Type} {r : Record} {name : String} {value? : Node → Option α}
    {node : α → Node} {value : Option α} (hlookup : r.given.lookup name = value.map node)
    (hread : ∀ a, value = some a → node a ≠ .null ∧ value? (node a) = some a) :
    r.field name value? = some value := by
  cases value with
  | none =>
    rw [field, hlookup]
    rfl
  | some a =>
    obtain ⟨hnull, hvalue⟩ := hread a rfl
    rw [field, hlookup, Option.map_some]
    split
    · next heq => cases heq
    · next heq => exact absurd (Option.some.inj heq) hnull
    · next heq =>
      obtain rfl := Option.some.inj heq
      rw [hvalue]
      rfl

theorem field_ofText {r : Record} {name : String} {value : Option String}
    (hlookup : r.given.lookup name = value.map Node.ofText) :
    r.field name Node.text? = some value :=
  field_of_lookup hlookup fun s _ => ⟨nofun, Node.text?_ofText s⟩

theorem field_ofInt {r : Record} {name : String} {value : Option Int}
    (hlookup : r.given.lookup name = value.map Node.ofInt)
    (hbounds : ∀ n, value = some n → Number.minInt64 ≤ n ∧ n ≤ Number.maxInt64) :
    r.field name Node.integer? = some value :=
  field_of_lookup hlookup fun n hn =>
    ⟨nofun, Node.integer?_ofInt (hbounds n hn).1 (hbounds n hn).2⟩

end Record

end ResourceApi.Json
