/-!
# Documents

The grammar of XML 1.0, as far as a document without declarations, comments and processing
instructions goes: an element is a start tag and an end tag of one name around its content, and the
content is character data with references and further elements in between. A document is an element
whose characters are all legal.

## Main definitions

- `IsChar`, `Legal` — the characters that a document may hold
- `IsName` — the names of elements and attributes
- `Reference`, `Attributes`, `Element`, `Content` — the productions
- `Document` — a well-formed document

## Main results

- `Content.of_plain`, `Content.cons_element` — contents from left to right
- `Content.flatMap` — elements one behind the other

## Design notes

The grammar is a part of that of XML: a start tag has one blank in front of each attribute, the
values of attributes stand in double quotes, an element without content has both tags, and a
reference is one of the five that need no declaration. What is a document here is one there.
-/

namespace ResourceApi.Markup

/-! ## Characters -/

def within (ranges : List (Nat × Nat)) (c : Char) : Prop :=
  ∃ range ∈ ranges, range.1 ≤ c.toNat ∧ c.toNat ≤ range.2

instance (ranges : List (Nat × Nat)) (c : Char) : Decidable (within ranges c) :=
  List.decidableBEx _ ranges

/-- A character that a document may hold: tab, line feed, carriage return, or one that is no control
character below the space, no surrogate, and none of U+FFFE and U+FFFF. -/
def IsChar (c : Char) : Prop :=
  within [(0x9, 0x9), (0xA, 0xA), (0xD, 0xD), (0x20, 0xD7FF), (0xE000, 0xFFFD), (0x10000, 0x10FFFF)] c

instance (c : Char) : Decidable (IsChar c) := inferInstanceAs (Decidable (within _ c))

/-- All characters of a text may stand in a document. -/
def Legal (cs : List Char) : Prop := ∀ c ∈ cs, IsChar c

instance (cs : List Char) : Decidable (Legal cs) := List.decidableBAll _ cs

@[simp] theorem legal_cons {c : Char} {cs : List Char} : Legal (c :: cs) ↔ IsChar c ∧ Legal cs :=
  List.forall_mem_cons

@[simp] theorem legal_append {cs ds : List Char} : Legal (cs ++ ds) ↔ Legal cs ∧ Legal ds :=
  List.forall_mem_append

theorem legal_flatMap {α : Type} {write : α → List Char} {values : List α} :
    Legal (values.flatMap write) ↔ ∀ a ∈ values, Legal (write a) := by
  simp only [Legal, List.mem_flatMap]
  constructor
  · intro h a ha c hc
    exact h c ⟨a, ha, hc⟩
  · rintro h c ⟨a, ha, hc⟩
    exact h a ha c hc

/-- The characters of ASCII behind the space are legal. -/
theorem isChar_of_ascii {c : Char} (hlow : 0x20 ≤ c.toNat) (hhigh : c.toNat < 0x80) : IsChar c :=
  ⟨(0x20, 0xD7FF), by decide, hlow, Nat.le_trans (Nat.le_of_lt hhigh) (by decide)⟩

/-! ## Names -/

/-- The code points that a name may start with. -/
def nameStarts : List (Nat × Nat) :=
  [(0x3A, 0x3A), (0x41, 0x5A), (0x5F, 0x5F), (0x61, 0x7A), (0xC0, 0xD6), (0xD8, 0xF6),
   (0xF8, 0x2FF), (0x370, 0x37D), (0x37F, 0x1FFF), (0x200C, 0x200D), (0x2070, 0x218F),
   (0x2C00, 0x2FEF), (0x3001, 0xD7FF), (0xF900, 0xFDCF), (0xFDF0, 0xFFFD), (0x10000, 0xEFFFF)]

/-- The code points that a name may go on with. -/
def nameParts : List (Nat × Nat) :=
  nameStarts ++
    [(0x2D, 0x2E), (0x30, 0x39), (0xB7, 0xB7), (0x300, 0x36F), (0x203F, 0x2040)]

/-- A text that a name may go on with. -/
def GoesOn (cs : List Char) : Prop := ∀ c ∈ cs, within nameParts c

instance (cs : List Char) : Decidable (GoesOn cs) := List.decidableBAll _ cs

/-- A name. -/
def IsName : List Char → Prop
  | [] => False
  | c :: cs => within nameStarts c ∧ GoesOn cs

instance : (cs : List Char) → Decidable (IsName cs)
  | [] => inferInstanceAs (Decidable False)
  | c :: cs => inferInstanceAs (Decidable (within nameStarts c ∧ GoesOn cs))

/-! ## Productions -/

/-- A reference to one of the characters that have a name without any declaration. -/
inductive Reference : List Char → Prop where
  | named {name : String} (h : name ∈ ["amp", "lt", "gt", "apos", "quot"]) :
    Reference ('&' :: (name.toList ++ [';']))

/-- What may stand between the quotes of an attribute. -/
inductive AttributeValue : List Char → Prop where
  | nil : AttributeValue []
  | char {c : Char} {cs : List Char} (h : c ∉ ['<', '&', '"']) :
    AttributeValue cs → AttributeValue (c :: cs)
  | reference {r cs : List Char} : Reference r → AttributeValue cs → AttributeValue (r ++ cs)

/-- The attributes of a start tag, with their names, of which no two are alike. -/
inductive Attributes : List (List Char) → List Char → Prop where
  | nil : Attributes [] []
  | cons {name value cs : List Char} {names : List (List Char)} (hname : IsName name)
    (hnew : name ∉ names) (hvalue : AttributeValue value) : Attributes names cs →
    Attributes (name :: names) (' ' :: (name ++ '=' :: '"' :: (value ++ '"' :: cs)))

/-- Text that marks nothing up, and does not look like the end of a section of raw text either. -/
def CharData (cs : List Char) : Prop := '<' ∉ cs ∧ '&' ∉ cs ∧ ¬ [']', ']', '>'] <:+: cs

mutual

/-- A content between two tags of one name. -/
inductive Element : List Char → Prop where
  | tagged {name attributes content : List Char} {names : List (List Char)} (hname : IsName name)
    (hattributes : Attributes names attributes) (hcontent : Content content) :
    Element ('<' :: (name ++ (attributes ++
      '>' :: (content ++ '<' :: '/' :: (name ++ ['>'])))))

/-- Character data, with references and elements in between. -/
inductive Content : List Char → Prop where
  | data {cs : List Char} (h : CharData cs) : Content cs
  | reference {cs r rest : List Char} (h : CharData cs) (hr : Reference r)
    (hrest : Content rest) : Content (cs ++ (r ++ rest))
  | element {cs e rest : List Char} (h : CharData cs) (he : Element e)
    (hrest : Content rest) : Content (cs ++ (e ++ rest))

end

/-- A well-formed document: one element, of legal characters only. -/
structure Document (cs : List Char) : Prop where
  root : Element cs
  legal : Legal cs

/-! ## Contents from left to right -/

/-- A character that neither marks up nor ends a mark. -/
def IsPlain (c : Char) : Prop := c ≠ '<' ∧ c ≠ '&' ∧ c ≠ '>'

instance (c : Char) : Decidable (IsPlain c) :=
  inferInstanceAs (Decidable (c ≠ '<' ∧ c ≠ '&' ∧ c ≠ '>'))

/-- A text of such characters. -/
def Plain (cs : List Char) : Prop := ∀ c ∈ cs, IsPlain c

instance (cs : List Char) : Decidable (Plain cs) := List.decidableBAll _ cs

theorem plain_nil : Plain [] := List.forall_mem_nil _

theorem CharData.of_plain {cs : List Char} (h : Plain cs) : CharData cs := by
  refine ⟨fun hmem => (h _ hmem).1 rfl, fun hmem => (h _ hmem).2.1 rfl, fun hpart => ?_⟩
  exact (h '>' (hpart.subset (by decide))).2.2 rfl

theorem Content.of_plain {cs : List Char} (h : Plain cs) : Content cs :=
  .data (.of_plain h)

theorem Content.cons_element {e rest : List Char} (he : Element e) (hrest : Content rest) :
    Content (e ++ rest) :=
  .element (.of_plain plain_nil) he hrest

/-- **Elements one behind the other** are a content, by induction on them. -/
theorem Content.flatMap {α : Type} {write : α → List Char} {values : List α}
    (h : ∀ a ∈ values, Element (write a)) : Content (values.flatMap write) := by
  induction values with
  | nil => exact .of_plain plain_nil
  | cons a values ih =>
    obtain ⟨ha, hvalues⟩ := List.forall_mem_cons.mp h
    exact .cons_element ha (ih hvalues)

/-- A value of plain characters without a quote. -/
theorem AttributeValue.of_plain {cs : List Char} (h : ∀ c ∈ cs, c ∉ ['<', '&', '"']) :
    AttributeValue cs := by
  induction cs with
  | nil => exact .nil
  | cons c cs ih =>
    obtain ⟨hc, hcs⟩ := List.forall_mem_cons.mp h
    exact .char hc (ih hcs)

/-- An element without attributes. -/
theorem Element.of_content {name content : List Char} (hname : IsName name)
    (hcontent : Content content) :
    Element ('<' :: (name ++ '>' :: (content ++ '<' :: '/' :: (name ++ ['>'])))) :=
  .tagged hname .nil hcontent

end ResourceApi.Markup
