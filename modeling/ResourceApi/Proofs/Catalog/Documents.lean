import ResourceApi.Proofs.Catalog.Renderings
import ResourceApi.Proofs.Json.Values
import ResourceApi.Proofs.Markup.Grammar

/-!
# Books as documents

Whatever the title and the author of a book are, its markup is one element with matching tags, and
so is that of a list of books. Escaping takes away what marks up, but nothing else: a character that
no document may hold is written as it stands, so the markup is a document exactly if the titles and
the authors in it have none of these.

## Main definitions

- `Book.Marked` — the markup of books, of one or of a list
- `Book.Presentable` — a book whose title and author a document may hold

## Main results

- `Book.content_escape`, `Book.legal_escape` — escaped texts as contents
- `Book.element_xml`, `Book.element_xmlList` — books as elements
- `Book.Marked.document_iff` — when markup is a document
-/

namespace ResourceApi

open Markup

/-! ## Numbers and dates -/

section Figure

variable {c : Char} (h : IsFigure c)
include h

theorem IsFigure.isChar : IsChar c := by
  rcases h with rfl | rfl | hdigit
  · decide
  · decide
  · have hc := Text.toNat_of_isDigit hdigit
    exact isChar_of_ascii (by omega) (by omega)

theorem IsFigure.ne {d : Char} (hd : ¬ IsFigure d) : c ≠ d := by
  rintro rfl
  exact hd h

theorem IsFigure.isPlain : IsPlain c :=
  ⟨h.ne (by decide), h.ne (by decide), h.ne (by decide)⟩

end Figure

namespace Book

/-! ## Escaped texts -/

/-- An escaped text behind plain characters, by induction on the text: a character that stands for
itself joins the characters in front. -/
theorem content_references {front cs : List Char} (hfront : Plain front) :
    Content (front ++ cs.flatMap reference) := by
  induction cs generalizing front with
  | nil =>
    rw [List.flatMap_nil, List.append_nil]
    exact .of_plain hfront
  | cons c cs ih =>
    rw [List.flatMap_cons]
    rcases reference_cases c with ⟨hself, hfree⟩ | ⟨name, hmark, hname⟩
    · obtain ⟨hamp, hlt, hgt, -⟩ := ne_of_not_marked hfree
      rw [hself, ← List.append_assoc]
      refine ih fun d hd => ?_
      rcases List.mem_append.mp hd with hd | hd
      · exact hfront d hd
      · rw [List.mem_singleton.mp hd]
        exact ⟨hlt, hamp, hgt⟩
    · have hknown : ∀ mark ∈ marks, mark.2 ∈ ["amp", "lt", "gt", "apos", "quot"] := by decide
      rw [hname]
      exact .reference (.of_plain hfront) (.named (hknown _ hmark))
        (ih plain_nil)

theorem content_escape (s : String) : Content (escape s).toList := by
  rw [toList_escape]
  exact content_references plain_nil

theorem legal_reference (c : Char) : Legal (reference c) ↔ IsChar c := by
  rcases reference_cases c with ⟨hself, -⟩ | ⟨name, hmark, hname⟩
  · rw [hself, Legal, List.forall_mem_singleton]
  · have hmarks : ∀ mark ∈ marks, Legal (named mark.2) ∧ IsChar mark.1 := by decide
    obtain ⟨hlegal, hchar⟩ := hmarks _ hmark
    rw [hname]
    exact iff_of_true hlegal hchar

/-- **Escaping lets through what no document may hold.** -/
theorem legal_escape (s : String) : Legal (escape s).toList ↔ Legal s.toList := by
  rw [toList_escape, legal_flatMap]
  simp only [legal_reference]
  rfl

/-! ## Elements -/

theorem element_element {name content : String} (hname : IsName name.toList)
    (hcontent : Content content.toList) : Element (element name content).toList := by
  rw [toList_element, startTag, endTag]
  simp only [List.cons_append, List.append_assoc, List.nil_append]
  exact .of_content hname hcontent

theorem legal_element {name content : String} (hname : Legal name.toList) :
    Legal (element name content).toList ↔ Legal content.toList := by
  have hstart : Legal (startTag name) := by
    rw [startTag, legal_cons, legal_append]
    exact ⟨by decide, hname, by decide⟩
  have hend : Legal (endTag name) := by
    rw [endTag, legal_cons, legal_cons, legal_append]
    exact ⟨by decide, by decide, hname, by decide⟩
  rw [toList_element, legal_append, legal_append]
  exact ⟨fun h => h.2.1, fun h => ⟨hstart, h, hend⟩⟩

theorem plain_yesNo (v : Bool) : Plain (yesNo v).toList := by
  cases v <;> decide +kernel

/-! ## Books -/

theorem content_closing (p : Option Date × Bool) : Content (closing p).toList := by
  have hinPrint : Element (element "in_print" (yesNo p.2)).toList :=
    element_element (by decide) (.of_plain (plain_yesNo p.2))
  have hlast := Content.cons_element hinPrint (.of_plain plain_nil)
  rw [List.append_nil] at hlast
  rw [closing, String.toList_append, toList_elementFor]
  cases p.1 with
  | none => exact hlast
  | some day =>
    exact .cons_element (element_element (by decide) (.of_plain fun _ hc =>
      (Date.isFigure_of_mem_text hc).isPlain)) hlast

/-- **A book is an element**, whatever it says. -/
theorem element_xml (b : Book) : Element b.draft.xml.toList := by
  have hid : AttributeValue (Number.decimal b.id).toList := by
    refine .of_plain fun c hc => ?_
    have hfigure := Number.isFigure_of_mem_decimal hc
    simp [hfigure.ne (show ¬ IsFigure '<' by decide), hfigure.ne (show ¬ IsFigure '&' by decide),
      hfigure.ne (show ¬ IsFigure '"' by decide)]
  have hattributes : Attributes ["id".toList]
      (' ' :: ("id".toList ++ '=' :: '"' :: ((Number.decimal b.id).toList ++ '"' :: []))) :=
    .cons (by decide) List.not_mem_nil hid .nil
  have htitle : Element (element "title" (escape b.title)).toList :=
    element_element (by decide) (content_escape b.title)
  have hauthor : Element (element "author" (escape b.author)).toList :=
    element_element (by decide) (content_escape b.author)
  have hyear : Element (element "year" (Number.decimal b.year)).toList :=
    element_element (by decide) (.of_plain fun _ hc => (Number.isFigure_of_mem_decimal hc).isPlain)
  have hcontent := Content.cons_element htitle <| .cons_element hauthor <|
    .cons_element hyear (content_closing (b.published, b.inPrint))
  have hname : IsName "book".toList := by decide
  have htagged := Element.tagged hname hattributes hcontent
  have hstart : "<book id=\"".toList = '<' :: ("book".toList ++ ' ' :: ("id".toList ++ ['=', '"'])) := by
    decide +kernel
  rw [toList_xml, toList_opening, hstart, endTag]
  simpa only [List.append_assoc, List.cons_append, List.nil_append] using htagged

/-- **A list of books is an element**, whatever they say. -/
theorem element_xmlList (shown : List Book) : Element (Draft.xmlList (shown.map draft)).toList := by
  refine element_element (by decide) ?_
  rw [toList_join_xml]
  exact .flatMap fun b _ => element_xml b

/-- A book whose title and author a document may hold. -/
def Presentable (b : Book) : Prop := Legal b.title.toList ∧ Legal b.author.toList

instance (b : Book) : Decidable b.Presentable :=
  inferInstanceAs (Decidable (Legal b.title.toList ∧ Legal b.author.toList))

theorem legal_closing (p : Option Date × Bool) : Legal (closing p).toList := by
  have hinPrint : Legal (element "in_print" (yesNo p.2)).toList := by
    rw [legal_element (by decide)]
    cases p.2 <;> decide +kernel
  rw [closing, String.toList_append, toList_elementFor, legal_append]
  refine ⟨?_, hinPrint⟩
  cases p.1 with
  | none => exact List.forall_mem_nil _
  | some day => exact (legal_element (by decide)).mpr fun _ hc => (Date.isFigure_of_mem_text hc).isChar

theorem legal_xml (b : Book) : Legal b.draft.xml.toList ↔ b.Presentable := by
  have hdecimal (n : Int) : Legal (Number.decimal n).toList := fun _ hc =>
    (Number.isFigure_of_mem_decimal hc).isChar
  have hopening : Legal (opening b.id).toList := by
    rw [toList_opening, legal_append, legal_append]
    exact ⟨by decide +kernel, hdecimal b.id, by decide⟩
  have hyear : Legal (element "year" (Number.decimal b.year)).toList :=
    (legal_element (by decide)).mpr (hdecimal b.year)
  have hend : Legal (endTag "book") := by decide
  have htitle : Legal "title".toList := by decide
  have hauthor : Legal "author".toList := by decide
  rw [toList_xml]
  simp only [legal_append, legal_element htitle, legal_element hauthor, legal_escape, hopening, hyear,
    legal_closing, hend, true_and, and_true, Presentable]

theorem legal_xmlList (shown : List Book) :
    Legal (Draft.xmlList (shown.map draft)).toList ↔ ∀ b ∈ shown, b.Presentable := by
  rw [Draft.xmlList, legal_element (by decide), toList_join_xml, legal_flatMap]
  exact forall₂_congr fun b _ => legal_xml b

/-! ## Markup of one book or of several -/

/-- The markup of books: of one by itself, or of a list. -/
inductive Marked : List Book → String → Prop where
  | one (b : Book) : Marked [b] b.draft.xml
  | list (shown : List Book) : Marked shown (Draft.xmlList (shown.map draft))

/-- **When markup is a document**: it is always one element, and its characters are legal exactly if
those of the titles and the authors are. -/
theorem Marked.document_iff {shown : List Book} {text : String} (h : Marked shown text) :
    Element text.toList ∧ (Document text.toList ↔ ∀ b ∈ shown, b.Presentable) := by
  have hroot : Element text.toList := by
    cases h with
    | one b => exact element_xml b
    | list shown => exact element_xmlList shown
  have hlegal : Legal text.toList ↔ ∀ b ∈ shown, b.Presentable := by
    cases h with
    | one b => rw [legal_xml, List.forall_mem_singleton]
    | list shown => exact legal_xmlList shown
  refine ⟨hroot, fun hdocument => hlegal.mp hdocument.legal, fun hshown => ?_⟩
  exact ⟨hroot, hlegal.mpr hshown⟩

end Book

end ResourceApi
