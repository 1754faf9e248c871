import ResourceApi.Proofs.Calendar.Dates
import ResourceApi.Proofs.Catalog.Escapes
import ResourceApi.Proofs.Number.Digits

/-!
# Books told apart by their markup

The elements that books are shown as in XML can be taken apart again: each of them ends with the
first `<` behind its start, since numbers, dates and truth values have none and escaped texts have
none left, and the date that may be missing cannot be taken for the element behind it. So the books
of a list are known by the text of the list.

## Main definitions

- `IsFigure` — the characters of numbers and dates
- `Book.startTag`, `Book.endTag`, `Book.opening`, `Book.closing` — the parts of elements

## Main results

- `Book.selfDelimiting_xml` — where a book ends
- `Book.xmlList_tells_apart` — lists of books are known by their markup
-/

namespace ResourceApi

open Text (SelfDelimiting Apart)

/-! ## Contents without markup -/

/-- The characters that numbers and dates are written with. -/
def IsFigure (c : Char) : Prop := c = '-' ∨ c = '+' ∨ c.isDigit = true

instance (c : Char) : Decidable (IsFigure c) :=
  inferInstanceAs (Decidable (c = '-' ∨ c = '+' ∨ c.isDigit = true))

theorem Number.isFigure_of_mem_decimal {n : Int} {c : Char} (h : c ∈ (decimal n).toList) :
    IsFigure c := by
  rw [decimal, String.toList_ofList] at h
  exact (eq_or_isDigit_of_mem_intText h).imp_right .inr

namespace Date

theorem isFigure_of_mem_text {d : Date} {c : Char} (h : c ∈ d.text.toList) : IsFigure c := by
  have hpadded (width n : Nat) (hmem : c ∈ padded width n) : IsFigure c :=
    .inr (.inr (isDigit_of_mem_padded hmem))
  have hyear (hmem : c ∈ yearText d.year) : IsFigure c := by
    unfold yearText at hmem
    split at hmem
    · exact hpadded _ _ hmem
    · rcases List.mem_cons.mp hmem with hsign | hmem
      · split at hsign
        · exact .inl hsign
        · exact .inr (.inl hsign)
      · exact hpadded _ _ hmem
  rw [text, String.toList_ofList, chars] at h
  simp only [List.mem_append, List.mem_cons] at h
  rcases h with (hmem | hdash | hmem) | hdash | hmem
  · exact hyear hmem
  · exact .inl hdash
  · exact hpadded _ _ hmem
  · exact .inl hdash
  · exact hpadded _ _ hmem

theorem text_injective : Function.Injective text := by
  intro d e h
  have hchars : d.chars = e.chars := String.ofList_injective h
  exact Option.some.inj (d.read_chars.symm.trans (hchars ▸ e.read_chars))

end Date

namespace Book

theorem yesNo_injective : Function.Injective yesNo := by
  have h : ∀ a b, yesNo a = yesNo b → a = b := by decide
  exact fun a b => h a b

theorem toList_comp_injective {α : Type} {content : α → String} (h : Function.Injective content) :
    Function.Injective fun a => (content a).toList := fun _ _ heq =>
  h (String.toList_injective heq)

/-! ## Elements -/

/-- The part of an element in front of its content. -/
def startTag (name : String) : List Char := '<' :: (name.toList ++ ['>'])

/-- The part of an element behind its content. -/
def endTag (name : String) : List Char := '<' :: '/' :: (name.toList ++ ['>'])

theorem toList_element (name content : String) :
    (element name content).toList = startTag name ++ (content.toList ++ endTag name) := by
  have hopen : "<".toList = ['<'] := rfl
  have hclose : ">".toList = ['>'] := rfl
  have hend : "</".toList = ['<', '/'] := rfl
  simp only [element, startTag, endTag, String.toList_append, hopen, hclose, hend,
    List.append_assoc, List.cons_append, List.nil_append]

section Element

variable {α β : Type} {content : α → String} {other : β → String}

theorem selfDelimiting_element (name : String) (hinj : Function.Injective content)
    (hfree : ∀ a, '<' ∉ (content a).toList) :
    SelfDelimiting fun a => (element name (content a)).toList := by
  simp only [toList_element]
  exact (SelfDelimiting.before (toList_comp_injective hinj) hfree _).behind (startTag name)

/-- Elements with other names are other elements. -/
theorem apart_elements {name name' : String} (h : ¬ startTag name <+: startTag name')
    (h' : ¬ startTag name' <+: startTag name) :
    Apart (fun a => (element name (content a)).toList) (fun b => (element name' (other b)).toList) := by
  intro a b r s
  dsimp only
  simp only [toList_element, List.append_assoc]
  exact Text.append_ne_append h h' _ _

end Element

/-! ## A book -/

/-- The start of the element of a book, with its identifier. -/
def opening (id : Int) : String := "<book id=\"" ++ Number.decimal id ++ "\">"

theorem toList_opening (id : Int) : (opening id).toList =
    "<book id=\"".toList ++ ((Number.decimal id).toList ++ '"' :: ['>']) := by
  have hend : "\">".toList = '"' :: ['>'] := rfl
  simp only [opening, String.toList_append, hend, List.append_assoc]

theorem selfDelimiting_opening : SelfDelimiting fun id => (opening id).toList := by
  have hfree (id : Int) : '"' ∉ (Number.decimal id).toList :=
    mt Number.isFigure_of_mem_decimal (by decide)
  simp only [toList_opening]
  exact (SelfDelimiting.before (toList_comp_injective Number.decimal_injective) hfree _).behind _

/-- The date that may be known, and what is behind it. -/
def closing (p : Option Date × Bool) : String :=
  elementFor "published" Date.text p.1 ++ element "in_print" (yesNo p.2)

theorem toList_elementFor {α : Type} (name : String) (content : α → String) (value : Option α) :
    (elementFor name content value).toList =
      value.elim [] fun a => (element name (content a)).toList := by
  cases value <;> rfl

theorem selfDelimiting_closing : SelfDelimiting fun p => (closing p).toList := by
  have hpublished : SelfDelimiting fun day : Date => (element "published" day.text).toList :=
    selfDelimiting_element _ Date.text_injective fun _ => mt Date.isFigure_of_mem_text (by decide)
  have hinPrint : SelfDelimiting fun inPrint => (element "in_print" (yesNo inPrint)).toList :=
    selfDelimiting_element _ yesNo_injective (by decide)
  simp only [closing, String.toList_append, toList_elementFor]
  exact hpublished.optional hinPrint (apart_elements (by decide) (by decide))

/-- The parts of the element of a book. -/
theorem toList_xml (b : Book) : b.draft.xml.toList =
    (opening b.id).toList ++ ((element "title" (escape b.title)).toList ++
      ((element "author" (escape b.author)).toList ++
        ((element "year" (Number.decimal b.year)).toList ++
          ((closing (b.published, b.inPrint)).toList ++ endTag "book")))) := by
  have hend : "</book>".toList = endTag "book" := by decide +kernel
  have hparts : b.draft.xml = opening b.id ++ element "title" (escape b.title) ++
      element "author" (escape b.author) ++ element "year" (Number.decimal b.year) ++
      elementFor "published" Date.text b.published ++ element "in_print" (yesNo b.inPrint) ++
      "</book>" := rfl
  simp only [hparts, closing, String.toList_append, hend, List.append_assoc]

/-- **Where a book ends**: part by part, each in front of the parts behind it. -/
theorem selfDelimiting_xml : SelfDelimiting fun b : Book => b.draft.xml.toList := by
  have hescape : ∀ s, '<' ∉ (escape s).toList := not_mem_escape (by decide)
  have hdecimal (n : Int) : '<' ∉ (Number.decimal n).toList :=
    mt Number.isFigure_of_mem_decimal (by decide)
  rintro ⟨id, title, author, year, published, inPrint⟩
    ⟨id', title', author', year', published', inPrint'⟩ r s heq
  dsimp only at heq
  rw [toList_xml, toList_xml] at heq
  simp only [List.append_assoc] at heq
  obtain ⟨rfl, hbehindId⟩ := selfDelimiting_opening heq
  obtain ⟨rfl, hbehindTitle⟩ := selfDelimiting_element _ escape_injective hescape hbehindId
  obtain ⟨rfl, hbehindAuthor⟩ := selfDelimiting_element _ escape_injective hescape hbehindTitle
  obtain ⟨rfl, hbehindYear⟩ :=
    selfDelimiting_element _ Number.decimal_injective hdecimal hbehindAuthor
  obtain ⟨hclosing, hbehindBook⟩ := selfDelimiting_closing hbehindYear
  obtain ⟨rfl, rfl⟩ := Prod.mk.inj hclosing
  exact ⟨rfl, List.append_cancel_left hbehindBook⟩

/-! ## Lists of books -/

/-- The end of a list is not the start of another book. -/
theorem apart_xml : Apart (fun b : Book => b.draft.xml.toList) fun _ : Unit => endTag "books" := by
  intro b _ r s
  dsimp only
  rw [toList_xml, toList_opening, List.append_assoc, List.append_assoc]
  exact Text.append_ne_append (by decide +kernel) (by decide +kernel) _ _

theorem toList_join_xml (shown : List Book) :
    (String.join ((shown.map draft).map Draft.xml)).toList =
      shown.flatMap fun b => b.draft.xml.toList := by
  rw [List.map_map, String.toList_join, List.flatMap_map]
  rfl

theorem xmlList_injective :
    Function.Injective fun shown : List Book => Draft.xmlList (shown.map draft) := by
  have hmany : SelfDelimiting fun shown : List Book =>
      startTag "books" ++ (shown.flatMap (fun b => b.draft.xml.toList) ++ endTag "books") :=
    (selfDelimiting_xml.many apart_xml).behind _
  intro shown others heq
  have hchars := congrArg String.toList heq
  simp only [Draft.xmlList, toList_element, toList_join_xml] at hchars
  exact hmany.injective hchars

/-- **Lists of books are known by their markup**: no two lists are shown alike. In particular no two
texts are escaped alike, an escaped text has no markup left, and what looks like a reference in it is
one of the four. -/
theorem xmlList_tells_apart :
    (∀ shown others : List Book, resource.xmlList (shown.map resource.present) =
      resource.xmlList (others.map resource.present) ↔ shown = others) ∧
    Function.Injective escape ∧
    ∀ s, (∀ c ∈ ['<', '>', '"'], c ∉ (escape s).toList) ∧
      ∀ rest, '&' :: rest <:+ (escape s).toList →
        ∃ word ∈ ["&amp;", "&lt;", "&gt;", "&quot;"], word.toList <+: '&' :: rest := by
  refine ⟨fun shown others => xmlList_injective.eq_iff, escape_injective,
    fun s => ⟨fun c hc => not_mem_escape hc s, fun rest hrest => ?_⟩⟩
  rw [toList_escape] at hrest
  obtain ⟨mark, hmark, hreference⟩ := reference_of_ampersand hrest
  have hwords : ∀ mark ∈ marks, ∃ word ∈ ["&amp;", "&lt;", "&gt;", "&quot;"],
      word.toList = named mark.2 := by
    decide +kernel
  obtain ⟨word, hword, heq⟩ := hwords mark hmark
  exact ⟨word, hword, heq ▸ hreference⟩

end Book

end ResourceApi
