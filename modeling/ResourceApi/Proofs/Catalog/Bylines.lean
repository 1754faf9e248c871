import ResourceApi.Catalog.Book
import ResourceApi.Proofs.Filter.Stretches
import ResourceApi.Proofs.Query.Lookups

/-!
# Books by a part of their author's name

The shorthand `by` puts a text between two runs and asks for the authors that this pattern fits. So
it lists the books whose author has a stretch that the text fits as a pattern. For a text without
`%` and `_` these are the books whose author has the text as a part. Any other text is not only
looked for as it stands.

## Main results

- `Book.holds_by_iff` — the authors that the shorthand asks for
- `Book.by_lists_stretches` — the books that are listed
-/

namespace ResourceApi

open ResourceApi.Filter

namespace Book

theorem type?_author : schema.type? "author" = some .text := rfl

/-- The key that the shorthand is written out with. -/
theorem spells_author_like : Spells "author[like]" "author" .like := by
  have hread : readPair "author[like]" "" = .ok ⟨"author", .like, ""⟩ := rfl
  exact (readPair_eq_ok_iff.mp hread).1

theorem standsAs_by (part : String) :
    Query.StandsAs schema (expand ("by", part)) ⟨"author", .like, .text ("%" ++ part ++ "%")⟩ :=
  ⟨spells_author_like, .text, type?_author, rfl, rfl⟩

/-- The shorthand asks for a stretch of the author's name. -/
theorem holds_by_iff (b : Book) (part : String) :
    Query.Holds schema (Entity.field b) (expand ("by", part)) ↔
      FitsWithin part.toList b.author.toList := by
  have hpattern : ("%" ++ part ++ "%").toList = '%' :: (part.toList ++ ['%']) := by
    simp
  rw [← fits_between_runs_iff, ← hpattern]
  refine (Query.holds_iff_of_spells spells_author_like type?_author (Entity.field b)).trans ?_
  constructor
  · rintro ⟨actual, hactual, text, rfl, hfits⟩
    obtain rfl : b.author = text := Value.text.inj (Option.some.inj hactual)
    exact hfits
  · intro hfits
    exact ⟨.text b.author, rfl, b.author, rfl, hfits⟩

/-- **What the shorthand lists**: the books whose author has a stretch that the text fits as a
pattern, in the order of their identifiers, and none twice. Books whose author has the text itself
as a part are always among them. They are no other ones, whatever the author, exactly if the text
has neither `%` nor `_` in it. -/
theorem by_lists_stretches (x : Session Book) (limits : PageLimits) (part : String) :
    (∃ q entries, resource.query resource.schema limits [("by", part)] = .ok q ∧
      (x.findAll q).1 = x.store.faults.findAll.elim (.ok (entries.map Prod.snd)) .error ∧
      (entries : List (Int × Book)).Pairwise (fun a b => a.1 < b.1) ∧
      (∀ id b, (id, b) ∈ entries ↔
        x.store.get? id = some b ∧ FitsWithin part.toList b.author.toList) ∧
      ∀ id b, x.store.get? id = some b → part.toList <:+: b.author.toList → (id, b) ∈ entries) ∧
    ((∀ author, FitsWithin part.toList author ↔ part.toList <:+: author) ↔
      '%' ∉ part.toList ∧ '_' ∉ part.toList) := by
  refine ⟨?_, fitsWithin_iff_infix_iff⟩
  obtain ⟨q, entries, hbuild, hfound, hincreasing, hentries⟩ :=
    Session.findAll_single limits x rfl (standsAs_by part)
  have hlisted (id : Int) (b : Book) : (id, b) ∈ entries ↔
      x.store.get? id = some b ∧ FitsWithin part.toList b.author.toList := by
    rw [hentries, holds_by_iff]
  refine ⟨q, entries, hbuild, hfound, hincreasing, hlisted, fun id b hget hpart => ?_⟩
  exact (hlisted id b).mpr ⟨hget, fitsWithin_of_infix hpart⟩

/-- An underscore is in the name of no author, and yet all books are listed for it. -/
theorem by_underscore_lists_seed :
    ∃ q, resource.query resource.schema .usual [("by", "_")] = .ok q ∧
      (Session.findAll ⟨.ofList seed, ∅⟩ q).1.toOption = some seed ∧
      ∀ b ∈ seed, ¬ "_".toList <:+: b.author.toList := by
  refine ⟨_, rfl, by decide +kernel, by decide +kernel⟩

end Book

end ResourceApi
