import ResourceApi.Catalog.Book

/-!
# What the rules of books accept

A draft keeps the rules when what has to be given is given and what is given is fit for a book. A
book made from a draft that describes it whole is sound, and so is a sound book with the parts
that a draft gives.

## Main definitions

- `Book.Sound` — a book with a title, an author and a year of a printed book
- `Book.Draft.Fit` — what a draft gives is fit for a book

## Main results

- `Book.checkParts_eq_ok_iff`, `Book.checkWhole_eq_ok_iff` — the drafts that keep the rules
- `Book.sound_ofDraft`, `Book.Sound.merge` — the books made from them
-/

namespace ResourceApi

/-! ## Rules that are not broken -/

namespace Violations

theorem isEmpty_add (v : Violations) (name code message : String) :
    (v.add name code message).isEmpty = false :=
  by simp [add, isEmpty]

theorem isEmpty_require {α : Type} (v : Violations) (name : String) (value : Option α) :
    (v.require name value).isEmpty = true ↔ v.isEmpty = true ∧ value.isSome = true := by
  cases value with
  | some a => simp [require]
  | none => simp [require, isEmpty_add]

theorem verdict_eq_ok_iff (v : Violations) : v.verdict = .ok () ↔ v.isEmpty = true := by
  unfold verdict
  split <;> simp [*]

end Violations

namespace Book

/-- A text that shows something. -/
def Legible (text : String) : Prop := ∃ c ∈ text.toList, Text.isBlank c = false

/-- A book with a title, an author and a year of a printed book. -/
structure Sound (b : Book) : Prop where
  title : Legible b.title
  author : Legible b.author
  year : 1450 ≤ b.year ∧ b.year ≤ 2100

/-- What a draft gives is fit for a book. -/
structure Draft.Fit (d : Draft) : Prop where
  title : ∀ title, d.title = some title → Legible title
  author : ∀ author, d.author = some author → Legible author
  year : ∀ year, d.year = some year → 1450 ≤ year ∧ year ≤ 2100

theorem legible_iff (text : String) : Legible text ↔ Text.isBlankText text.toList = false := by
  simp [Legible, Text.isBlankText]

instance (text : String) : Decidable (Legible text) :=
  decidable_of_iff _ (legible_iff text).symm

instance (b : Book) : Decidable b.Sound :=
  decidable_of_iff (Legible b.title ∧ Legible b.author ∧ 1450 ≤ b.year ∧ b.year ≤ 2100)
    ⟨fun ⟨title, author, year⟩ => ⟨title, author, year⟩,
      fun ⟨title, author, year⟩ => ⟨title, author, year⟩⟩

theorem isYear_iff (year : Int) : isYear year = true ↔ 1450 ≤ year ∧ year ≤ 2100 := by
  simp [isYear]

theorem isEmpty_requireText (v : Violations) (name : String) (value : Option String) :
    (requireText v name value).isEmpty = true ↔
      v.isEmpty = true ∧ ∀ text, value = some text → Legible text := by
  cases value with
  | none => simp [requireText]
  | some text =>
    simp only [requireText, Option.some.injEq, forall_eq', legible_iff]
    cases Text.isBlankText text.toList <;> simp [Violations.isEmpty_add]

theorem isEmpty_requireYear (v : Violations) (value : Option Int) :
    (requireYear v value).isEmpty = true ↔
      v.isEmpty = true ∧ ∀ year, value = some year → 1450 ≤ year ∧ year ≤ 2100 := by
  cases value with
  | none => simp [requireYear]
  | some year =>
    simp only [requireYear, Option.some.injEq, forall_eq', ← isYear_iff]
    cases isYear year <;> simp [Violations.isEmpty_add]

theorem isEmpty_checkGiven (v : Violations) (d : Draft) :
    (checkGiven v d).isEmpty = true ↔ v.isEmpty = true ∧ d.Fit := by
  rw [checkGiven, isEmpty_requireYear, isEmpty_requireText, isEmpty_requireText]
  constructor
  · rintro ⟨⟨⟨hv, htitle⟩, hauthor⟩, hyear⟩
    exact ⟨hv, htitle, hauthor, hyear⟩
  · rintro ⟨hv, htitle, hauthor, hyear⟩
    exact ⟨⟨⟨hv, htitle⟩, hauthor⟩, hyear⟩

/-- **The rules for parts of a book** accept the drafts whose parts are fit for one. -/
theorem checkParts_eq_ok_iff (d : Draft) : checkParts d = .ok () ↔ d.Fit := by
  rw [checkParts, Violations.verdict_eq_ok_iff, isEmpty_checkGiven]
  exact ⟨And.right, fun h => ⟨rfl, h⟩⟩

/-- **The rules for a whole book** accept the drafts that moreover leave out no part that every book
has. -/
theorem checkWhole_eq_ok_iff (d : Draft) :
    checkWhole d = .ok () ↔ d.title.isSome ∧ d.author.isSome ∧ d.year.isSome ∧ d.Fit := by
  rw [checkWhole, Violations.verdict_eq_ok_iff, isEmpty_checkGiven]
  simp only [Violations.isEmpty_require]
  constructor
  · rintro ⟨⟨⟨⟨-, htitle⟩, hauthor⟩, hyear⟩, hfit⟩
    exact ⟨htitle, hauthor, hyear, hfit⟩
  · rintro ⟨htitle, hauthor, hyear, hfit⟩
    exact ⟨⟨⟨⟨rfl, htitle⟩, hauthor⟩, hyear⟩, hfit⟩

/-! ## Books made from drafts -/

theorem sound_ofDraft {d : Draft} (h : checkWhole d = .ok ()) (id : Option Int) :
    (ofDraft d id).Sound := by
  obtain ⟨htitle, hauthor, hyear, hfit⟩ := (checkWhole_eq_ok_iff d).mp h
  obtain ⟨title, htitle⟩ := Option.isSome_iff_exists.mp htitle
  obtain ⟨author, hauthor⟩ := Option.isSome_iff_exists.mp hauthor
  obtain ⟨year, hyear⟩ := Option.isSome_iff_exists.mp hyear
  constructor
  · simpa [ofDraft, htitle] using hfit.title title htitle
  · simpa [ofDraft, hauthor] using hfit.author author hauthor
  · simpa [ofDraft, hyear] using hfit.year year hyear

/-- A part that is given is fit, and one that is not given is that of the book. -/
theorem Sound.merge {b : Book} (hb : b.Sound) {d : Draft} (h : checkParts d = .ok ()) :
    (b.merge d).Sound := by
  have hfit := (checkParts_eq_ok_iff d).mp h
  constructor
  · cases htitle : d.title with
    | none => simpa [Book.merge, htitle] using hb.title
    | some title => simpa [Book.merge, htitle] using hfit.title title htitle
  · cases hauthor : d.author with
    | none => simpa [Book.merge, hauthor] using hb.author
    | some author => simpa [Book.merge, hauthor] using hfit.author author hauthor
  · cases hyear : d.year with
    | none => simpa [Book.merge, hyear] using hb.year
    | some year => simpa [Book.merge, hyear] using hfit.year year hyear

end Book

end ResourceApi
