import ResourceApi.Catalog.Book
import ResourceApi.Proofs.Text.Delimited

/-!
# Escaped texts

The four replacements of `escape`, one after the other, come to the same as a reference in the place
of each character that marks up: the ampersands of the references are there only after those of the
text have been replaced. So an escaped text is read character by character, no two texts are escaped
alike, and no markup is left.

## Main definitions

- `Book.marks` — the characters that mark up, with the names of their references
- `Book.reference` — what one character is replaced by
- `Book.readReference` — the character at the front of an escaped text

## Main results

- `Book.toList_escape` — escaping character by character
- `Book.escape_injective` — a text is known by its escaped form
- `Book.not_mem_escape`, `Book.reference_of_ampersand` — what is left of markup
-/

namespace ResourceApi

namespace Book

/-- The characters that mark up, with the names of their references. -/
def marks : List (Char × String) := [('&', "amp"), ('<', "lt"), ('>', "gt"), ('"', "quot")]

/-- A reference by name. -/
def named (name : String) : List Char := '&' :: (name.toList ++ [';'])

/-- What a character is replaced by. -/
def reference (c : Char) : List Char :=
  match marks.lookup c with
  | some name => named name
  | none => [c]

/-- A character stands for itself or is referred to. -/
theorem reference_cases (c : Char) :
    (reference c = [c] ∧ ∀ name, (c, name) ∉ marks) ∨
      ∃ name, (c, name) ∈ marks ∧ reference c = named name := by
  cases h : marks.lookup c with
  | none =>
    refine .inl ⟨by rw [reference, h], fun name hmem => ?_⟩
    exact absurd (beq_self_eq_true c) (by simpa using List.lookup_eq_none_iff.mp h _ hmem)
  | some name =>
    obtain ⟨before, after, hmarks, -⟩ := List.lookup_eq_some_iff.mp h
    refine .inr ⟨name, ?_, by rw [reference, h]⟩
    rw [hmarks]
    exact List.mem_append_right _ (List.mem_cons_self ..)

theorem mem_marks_iff {c : Char} {name : String} : (c, name) ∈ marks ↔
    (c = '&' ∧ name = "amp") ∨ (c = '<' ∧ name = "lt") ∨ (c = '>' ∧ name = "gt") ∨
      (c = '"' ∧ name = "quot") := by
  simp [marks]

/-- A character that is not referred to is none of those that mark up. -/
theorem ne_of_not_marked {c : Char} (h : ∀ name, (c, name) ∉ marks) :
    c ≠ '&' ∧ c ≠ '<' ∧ c ≠ '>' ∧ c ≠ '"' := by
  simp only [mem_marks_iff] at h
  refine ⟨?_, ?_, ?_, ?_⟩
  · rintro rfl
    exact h "amp" (by decide)
  · rintro rfl
    exact h "lt" (by decide)
  · rintro rfl
    exact h "gt" (by decide)
  · rintro rfl
    exact h "quot" (by decide)

/-- **Escaping goes character by character.** -/
theorem toList_escape (s : String) : (escape s).toList = s.toList.flatMap reference := by
  simp only [escape, replaceEach, String.toList_ofList, List.flatMap_assoc]
  refine congrArg s.toList.flatMap (funext fun c => ?_)
  rcases reference_cases c with ⟨hself, hfree⟩ | ⟨name, hmark, hname⟩
  · obtain ⟨hamp, hlt, hgt, hquot⟩ := ne_of_not_marked hfree
    have hskip {mark : Char} (other : String) (h : c ≠ mark) :
        (if c == mark then other.toList else [c]) = [c] := if_neg (by simpa using h)
    rw [hself, hskip _ hamp, List.flatMap_singleton, hskip _ hlt, List.flatMap_singleton,
      hskip _ hgt, List.flatMap_singleton, hskip _ hquot]
  · rcases mem_marks_iff.mp hmark with ⟨rfl, rfl⟩ | ⟨rfl, rfl⟩ | ⟨rfl, rfl⟩ | ⟨rfl, rfl⟩
    · rw [hname]
      decide
    · rw [hname]
      decide
    · rw [hname]
      decide
    · rw [hname]
      decide

/-! ## Reading it back -/

/-- The character at the front of an escaped text, and the text behind it. -/
def readReference : List Char → Option (Char × List Char)
  | '&' :: 'a' :: 'm' :: 'p' :: ';' :: rest => some ('&', rest)
  | '&' :: 'l' :: 't' :: ';' :: rest => some ('<', rest)
  | '&' :: 'g' :: 't' :: ';' :: rest => some ('>', rest)
  | '&' :: 'q' :: 'u' :: 'o' :: 't' :: ';' :: rest => some ('"', rest)
  | c :: rest => some (c, rest)
  | [] => none

/-- What starts with no ampersand starts with a character that stands for itself. -/
theorem readReference_cons {c : Char} (h : c ≠ '&') (rest : List Char) :
    readReference (c :: rest) = some (c, rest) :=
  readReference.eq_5 c rest (fun _ hc => absurd hc h) (fun _ hc => absurd hc h)
    (fun _ hc => absurd hc h) (fun _ hc => absurd hc h)

theorem readReference_reference (c : Char) (rest : List Char) :
    readReference (reference c ++ rest) = some (c, rest) := by
  rcases reference_cases c with ⟨hself, hfree⟩ | ⟨name, hmark, hname⟩
  · rw [hself, List.singleton_append, readReference_cons (ne_of_not_marked hfree).1]
  · rw [hname]
    rcases mem_marks_iff.mp hmark with ⟨rfl, rfl⟩ | ⟨rfl, rfl⟩ | ⟨rfl, rfl⟩ | ⟨rfl, rfl⟩ <;> rfl

theorem selfDelimiting_reference : Text.SelfDelimiting reference :=
  .of_read readReference_reference

theorem reference_ne_nil (c : Char) : reference c ≠ [] := by
  rcases reference_cases c with ⟨hself, -⟩ | ⟨name, -, hname⟩
  · rw [hself]
    exact List.cons_ne_nil _ _
  · rw [hname]
    exact List.cons_ne_nil _ _

/-- **A text is known by its escaped form.** -/
theorem escape_injective : Function.Injective escape := by
  intro s t h
  have hchars : s.toList.flatMap reference = t.toList.flatMap reference := by
    rw [← toList_escape, ← toList_escape, h]
  exact String.toList_injective (selfDelimiting_reference.flatMap_injective reference_ne_nil hchars)

/-! ## What is left of markup -/

/-- The characters that escaping takes away. -/
theorem not_mem_escape {d : Char} (hd : d ∈ ['<', '>', '"']) (s : String) :
    d ∉ (escape s).toList := by
  rw [toList_escape, List.mem_flatMap]
  rintro ⟨c, -, hmem⟩
  rcases reference_cases c with ⟨hself, hfree⟩ | ⟨name, hmark, hname⟩
  · obtain ⟨-, hlt, hgt, hquot⟩ := ne_of_not_marked hfree
    rw [hself, List.mem_singleton] at hmem
    subst hmem
    simp [hlt, hgt, hquot] at hd
  · have hnames : ∀ mark ∈ marks, (named mark.2).all fun x => x != '<' && x != '>' && x != '"' := by
      decide
    rw [hname] at hmem
    have hfree := List.all_eq_true.mp (hnames _ hmark) d hmem
    simp only [Bool.and_eq_true, bne_iff_ne] at hfree
    simp [hfree] at hd

/-- What is not in the front of a text starts behind it. -/
theorem suffix_of_not_mem {c : Char} {front behind rest : List Char} (hfree : c ∉ front)
    (h : c :: rest <:+ front ++ behind) : c :: rest <:+ behind := by
  induction front with
  | nil => exact h
  | cons d front ih =>
    obtain ⟨hne, hfree⟩ := not_or.mp (mt List.mem_cons.mpr hfree)
    rcases List.suffix_cons_iff.mp h with heq | hlater
    · exact absurd (List.cons.inj heq).1 hne
    · exact ih hfree hlater

/-- From an ampersand on, an escaped text has a reference by name, by induction on the text. -/
theorem reference_of_ampersand {cs rest : List Char} (h : '&' :: rest <:+ cs.flatMap reference) :
    ∃ mark ∈ marks, named mark.2 <+: '&' :: rest := by
  induction cs with
  | nil => exact absurd (List.suffix_nil.mp h) (List.cons_ne_nil _ _)
  | cons c cs ih =>
    rw [List.flatMap_cons] at h
    rcases reference_cases c with ⟨hself, hfree⟩ | ⟨name, hmark, hname⟩
    · rw [hself, List.singleton_append] at h
      rcases List.suffix_cons_iff.mp h with heq | hlater
      · exact absurd (List.cons.inj heq).1.symm (ne_of_not_marked hfree).1
      · exact ih hlater
    · rw [hname, named, List.cons_append] at h
      rcases List.suffix_cons_iff.mp h with heq | hlater
      · refine ⟨(c, name), hmark, ?_⟩
        rw [heq]
        exact ⟨_, rfl⟩
      · have hfree : '&' ∉ name.toList ++ [';'] := by
          have hnone : ∀ mark ∈ marks, '&' ∉ mark.2.toList ++ [';'] := by decide
          exact hnone _ hmark
        exact ih (suffix_of_not_mem hfree hlater)

end Book

end ResourceApi
