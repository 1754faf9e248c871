import Mathlib.Computability.Language
import ResourceApi.Proofs.Filter.Keys

/-!
# The language of filter keys

Filter keys make up a regular language. The name of a field is
`[A-Za-z_][A-Za-z0-9_]*(\.[A-Za-z_][A-Za-z0-9_]*)*`, and a key is such a name, alone or with
`\[[^\[\]]*\]` behind it. Every text is classified as a key: it asks for an operator on a field, or
for an operator that there is none, or it is malformed.

## Main definitions

- `fieldNames`, `keys` — the languages of field names and of keys
- `Asks` — the keys that ask for an operator on a field
- `AsksUnknown` — the keys that ask for something else

## Main results

- `mem_fieldNames_iff`, `splitKey_isSome_iff` — these languages are what the reader accepts
- `readPair_classifies` — what comes of a pair, for every key
-/

namespace ResourceApi.Filter

open Text
open scoped Computability

/-! ## The languages -/

/-- The texts of one character of a class. -/
def charClass (p : Char → Prop) : Language Char := {word | ∃ c, word = [c] ∧ p c}

/-- `[A-Za-z_]` -/
def StartsName (c : Char) : Prop := ('A' ≤ c ∧ c ≤ 'Z') ∨ ('a' ≤ c ∧ c ≤ 'z') ∨ c = '_'

/-- `[A-Za-z0-9_]` -/
def ContinuesName (c : Char) : Prop := StartsName c ∨ ('0' ≤ c ∧ c ≤ '9')

/-- `[A-Za-z_][A-Za-z0-9_]*` -/
def segments : Language Char := charClass StartsName * (charClass ContinuesName)∗

/-- One or more segments with points between them. -/
def fieldNames : Language Char := segments * (charClass (· = '.') * segments)∗

/-- `[^\[\]]*` -/
def bracketless : Language Char := (charClass fun c => c ≠ '[' ∧ c ≠ ']')∗

/-- Field names, alone or with brackets behind them. -/
def keys : Language Char :=
  fieldNames * (1 + charClass (· = '[') * bracketless * charClass (· = ']'))

theorem mem_charClass_star_iff {p : Char → Prop} {word : List Char} :
    word ∈ (charClass p)∗ ↔ ∀ c ∈ word, p c := by
  rw [Language.mem_kstar]
  constructor
  · rintro ⟨parts, rfl, hparts⟩ c hc
    obtain ⟨part, hpart, hmem⟩ := List.mem_flatten.mp hc
    obtain ⟨d, rfl, hd⟩ := hparts part hpart
    exact List.mem_singleton.mp hmem ▸ hd
  · intro h
    have hword : word = (word.map fun c => [c]).flatten := by
      rw [← List.flatMap_def, List.flatMap_singleton']
    refine ⟨word.map fun c => [c], hword, fun part hpart => ?_⟩
    obtain ⟨c, hc, rfl⟩ := List.mem_map.mp hpart
    exact ⟨c, rfl, h c hc⟩

theorem mem_bracketless_iff {word : List Char} :
    word ∈ bracketless ↔ '[' ∉ word ∧ ']' ∉ word := by
  rw [bracketless, mem_charClass_star_iff]
  constructor
  · intro h
    exact ⟨fun hmem => (h _ hmem).1 rfl, fun hmem => (h _ hmem).2 rfl⟩
  · rintro ⟨hopen, hclose⟩ c hc
    exact ⟨fun heq => hopen (heq ▸ hc), fun heq => hclose (heq ▸ hc)⟩

/-! ## Field names -/

theorem isNameStart_iff {c : Char} : isNameStart c ↔ StartsName c := by
  have halpha : c.isAlpha ↔ c.isUpper ∨ c.isLower := Bool.or_eq_true_iff
  have hupper : c.isUpper ↔ 'A' ≤ c ∧ c ≤ 'Z' := decide_eq_true_iff
  have hlower : c.isLower ↔ 'a' ≤ c ∧ c ≤ 'z' :=
    Bool.and_eq_true_iff.trans (and_congr decide_eq_true_iff decide_eq_true_iff)
  rw [isNameStart, Bool.or_eq_true_iff, halpha, hupper, hlower, beq_iff_eq, or_assoc]
  rfl

theorem isNamePart_iff {c : Char} : isNamePart c ↔ ContinuesName c := by
  have hparts : isNamePart c ↔ isNameStart c ∨ c.isDigit := by
    simp [isNamePart, isNameStart, Char.isAlphanum, or_right_comm]
  have hdigit : c.isDigit ↔ '0' ≤ c ∧ c ≤ '9' := by simp [Char.isDigit, Char.le_def]
  rw [hparts, isNameStart_iff, hdigit, ContinuesName]

theorem mem_segments_iff {word : List Char} : word ∈ segments ↔ isIdentifier word := by
  rw [segments, Language.mem_mul]
  constructor
  · rintro ⟨front, ⟨c, rfl, hc⟩, rest, hrest, rfl⟩
    rw [mem_charClass_star_iff] at hrest
    refine Bool.and_eq_true_iff.mpr ⟨isNameStart_iff.mpr hc, List.all_eq_true.mpr fun d hd => ?_⟩
    exact isNamePart_iff.mpr (hrest d hd)
  · intro h
    cases word with
    | nil => cases h
    | cons c rest =>
      obtain ⟨hc, hrest⟩ := Bool.and_eq_true_iff.mp h
      refine ⟨[c], ⟨c, rfl, isNameStart_iff.mp hc⟩, rest, mem_charClass_star_iff.mpr ?_, rfl⟩
      exact fun d hd => isNamePart_iff.mp (List.all_eq_true.mp hrest d hd)

theorem not_mem_of_mem_segments {word : List Char} (h : word ∈ segments) : '.' ∉ word := by
  intro hmem
  exact absurd (isNamePart_of_mem_identifier (mem_segments_iff.mp h) hmem) (by decide)

/-- Points part the segments of a name. -/
theorem pieces_of_segments {first : List Char} (hfirst : first ∈ segments)
    {parts : List (List Char)} (hparts : ∀ part ∈ parts, part ∈ charClass (· = '.') * segments) :
    ∀ piece ∈ pieces '.' (first ++ parts.flatten), piece ∈ segments := by
  induction parts generalizing first with
  | nil =>
    rw [List.flatten_nil, List.append_nil, pieces_of_not_mem (not_mem_of_mem_segments hfirst)]
    simpa using hfirst
  | cons part parts ih =>
    obtain ⟨hpart, hrest⟩ := List.forall_mem_cons.mp hparts
    obtain ⟨point, ⟨c, rfl, rfl⟩, second, hsecond, rfl⟩ := Language.mem_mul.mp hpart
    rw [List.flatten_cons, List.singleton_append, List.cons_append, pieces_append_sep,
      pieces_of_not_mem (not_mem_of_mem_segments hfirst)]
    exact List.forall_mem_cons.mpr ⟨hfirst, ih hsecond hrest⟩

/-- **The language of field names** is what the reader takes for the name of a field. -/
theorem mem_fieldNames_iff {word : List Char} : word ∈ fieldNames ↔ isFieldName word := by
  rw [fieldNames, Language.mem_mul]
  constructor
  · rintro ⟨first, hfirst, rest, hrest, rfl⟩
    obtain ⟨parts, rfl, hparts⟩ := Language.mem_kstar.mp hrest
    refine List.all_eq_true.mpr fun piece hpiece => ?_
    exact mem_segments_iff.mp (pieces_of_segments hfirst hparts piece hpiece)
  · intro h
    cases hpieces : pieces '.' word with
    | nil => exact absurd hpieces (pieces_ne_nil '.' word)
    | cons first rest =>
      have hsegments : ∀ piece ∈ first :: rest, piece ∈ segments := fun piece hpiece =>
        mem_segments_iff.mpr (List.all_eq_true.mp h piece (hpieces ▸ hpiece))
      obtain ⟨hfirst, hrest⟩ := List.forall_mem_cons.mp hsegments
      refine ⟨first, hfirst, behind '.' rest, Language.mem_kstar.mpr ?_,
        (eq_of_pieces hpieces).symm⟩
      refine ⟨rest.map ('.' :: ·), List.flatMap_def, fun part hpart => ?_⟩
      obtain ⟨piece, hpiece, rfl⟩ := List.mem_map.mp hpart
      exact ⟨['.'], ⟨'.', rfl, rfl⟩, piece, hrest piece hpiece, rfl⟩

/-! ## Keys -/

/-- **The language of keys** is what the reader takes apart. -/
theorem splitKey_isSome_iff {key : List Char} : (splitKey key).isSome ↔ key ∈ keys := by
  rw [Option.isSome_iff_exists, keys, Language.mem_mul]
  constructor
  · rintro ⟨⟨field, inner⟩, hsplit⟩
    cases inner with
    | none =>
      obtain ⟨hname, rfl⟩ := splitKey_eq_bare_iff.mp hsplit
      exact ⟨_, mem_fieldNames_iff.mpr hname, [], .inl rfl, List.append_nil _⟩
    | some inner =>
      obtain ⟨hname, hopen, hclose, rfl⟩ := splitKey_eq_some_iff.mp hsplit
      refine ⟨field, mem_fieldNames_iff.mpr hname, _, .inr ?_, rfl⟩
      refine ⟨['['] ++ inner, ⟨['['], ⟨'[', rfl, rfl⟩, inner, ?_, rfl⟩, [']'], ⟨']', rfl, rfl⟩, rfl⟩
      exact mem_bracketless_iff.mpr ⟨hopen, hclose⟩
  · rintro ⟨field, hname, rest, hrest, rfl⟩
    rcases hrest with rfl | hrest
    · exact ⟨_, splitKey_eq_bare_iff.mpr ⟨by simpa using mem_fieldNames_iff.mp hname, rfl⟩⟩
    · obtain ⟨_, ⟨_, ⟨c, rfl, rfl⟩, inner, hinner, rfl⟩, _, ⟨d, rfl, rfl⟩, rfl⟩ := hrest
      obtain ⟨hopen, hclose⟩ := mem_bracketless_iff.mp hinner
      exact ⟨_, splitKey_eq_some_iff.mpr ⟨mem_fieldNames_iff.mp hname, hopen, hclose, rfl⟩⟩

/-- A key asks for an operator on a field: by the name of the field alone for equality, and by the
token of an operator in brackets behind the name. -/
def Asks (key field : String) (op : Operator) : Prop :=
  field.toList ∈ fieldNames ∧ (key = field ∧ op = .eq ∨ key = field ++ "[" ++ op.token ++ "]")

/-- A key asks for something else than an operator. -/
def AsksUnknown (key word : String) : Prop :=
  ∃ field : String, field.toList ∈ fieldNames ∧ key = field ++ "[" ++ word ++ "]" ∧ word ≠ "" ∧
    word.toList ∈ bracketless ∧ ∀ op : Operator, op.token ≠ word

theorem spells_iff_asks {key field : String} {op : Operator} :
    Spells key field op ↔ Asks key field op := by
  constructor
  · intro h
    cases h with
    | bare hname => exact ⟨mem_fieldNames_iff.mpr hname, .inl ⟨rfl, rfl⟩⟩
    | bracketed hname => exact ⟨mem_fieldNames_iff.mpr hname, .inr rfl⟩
  · rintro ⟨hname, ⟨rfl, rfl⟩ | rfl⟩
    · exact .bare (mem_fieldNames_iff.mp hname)
    · exact .bracketed (mem_fieldNames_iff.mp hname)

variable {key operand : String}

theorem readPair_eq_ok_iff_asks {c : Comparison String} :
    readPair key operand = .ok c ↔ Asks key c.field c.operator ∧ c.operand = operand := by
  rw [readPair_eq_ok_iff, spells_iff_asks]

theorem readPair_of_asksUnknown {word : String} (h : AsksUnknown key word) :
    readPair key operand = .error (.unknownOperator key word) := by
  obtain ⟨field, hname, rfl, hne, hword, hunknown⟩ := h
  obtain ⟨hopen, hclose⟩ := mem_bracketless_iff.mp hword
  have hsplit : splitKey (field ++ "[" ++ word ++ "]").toList =
      some (field.toList, some word.toList) :=
    splitKey_eq_some_iff.mpr ⟨mem_fieldNames_iff.mp hname, hopen, hclose, by simp⟩
  have hnone : Operator.ofToken? word = none :=
    Option.eq_none_iff_forall_ne_some.mpr fun op hop =>
      hunknown op (Operator.ofToken?_eq_some_iff.mp hop)
  obtain ⟨first, rest, hcons⟩ : ∃ first rest, word.toList = first :: rest :=
    List.exists_cons_of_ne_nil fun hnil => hne (String.toList_eq_nil_iff.mp hnil)
  rw [hcons] at hsplit
  have hback : String.ofList (first :: rest) = word := by rw [← hcons, String.ofList_toList]
  simp only [readPair, hsplit, hback, hnone]

/-- A pair is rejected for asking for something else than an operator, or as malformed. -/
theorem readPair_error_cases {e : Error} (h : readPair key operand = .error e) :
    (∃ word, AsksUnknown key word ∧ e = .unknownOperator key word) ∨ e = .malformedKey key := by
  unfold readPair at h
  cases hsplit : splitKey key.toList with
  | none =>
    simp only [hsplit] at h
    exact .inr (Except.error.inj h).symm
  | some parts =>
    obtain ⟨field, inner⟩ := parts
    cases inner with
    | none => simp [hsplit] at h
    | some inner =>
      cases inner with
      | nil =>
        simp only [hsplit] at h
        exact .inr (Except.error.inj h).symm
      | cons first rest =>
        simp only [hsplit] at h
        cases htoken : Operator.ofToken? (String.ofList (first :: rest)) with
        | some op =>
          simp only [htoken] at h
          cases h
        | none =>
          simp only [htoken] at h
          obtain ⟨hname, hopen, hclose, hkey⟩ := splitKey_eq_some_iff.mp hsplit
          refine .inl ⟨String.ofList (first :: rest), ?_, (Except.error.inj h).symm⟩
          refine ⟨String.ofList field, ?_, ?_, ?_, ?_, fun op hop => ?_⟩
          · rw [String.toList_ofList]
            exact mem_fieldNames_iff.mpr hname
          · rw [← String.toList_inj, hkey]
            simp
          · simp [← String.toList_inj]
          · rw [String.toList_ofList]
            exact mem_bracketless_iff.mpr ⟨hopen, hclose⟩
          · rw [Operator.ofToken?_eq_some_iff.mpr hop] at htoken
            cases htoken

theorem readPair_eq_unknown_iff {k word : String} :
    readPair key operand = .error (.unknownOperator k word) ↔ k = key ∧ AsksUnknown key word := by
  constructor
  · intro h
    rcases readPair_error_cases h with ⟨found, hfound, heq⟩ | heq
    · obtain ⟨rfl, rfl⟩ := Error.unknownOperator.inj heq
      exact ⟨rfl, hfound⟩
    · cases heq
  · rintro ⟨rfl, hword⟩
    exact readPair_of_asksUnknown hword

theorem readPair_eq_malformed_iff {k : String} :
    readPair key operand = .error (.malformedKey k) ↔
      k = key ∧ (¬ ∃ field op, Asks key field op) ∧ ¬ ∃ word, AsksUnknown key word := by
  constructor
  · intro h
    have hkey : k = key := by
      rcases readPair_error_cases h with ⟨_, _, heq⟩ | heq
      · cases heq
      · exact Error.malformedKey.inj heq
    refine ⟨hkey, ?_, ?_⟩
    · rintro ⟨field, op, hasks⟩
      have hread : readPair key operand = .ok ⟨field, op, operand⟩ :=
        readPair_eq_ok_iff_asks.mpr ⟨hasks, rfl⟩
      rw [h] at hread
      cases hread
    · rintro ⟨word, hword⟩
      have hread : readPair key operand = .error (.unknownOperator key word) :=
        readPair_of_asksUnknown hword
      rw [h] at hread
      cases hread
  · rintro ⟨rfl, hnone, hknown⟩
    cases hread : readPair k operand with
    | ok c => exact absurd ⟨_, _, (readPair_eq_ok_iff_asks.mp hread).1⟩ hnone
    | error e =>
      rcases readPair_error_cases hread with ⟨word, hword, -⟩ | rfl
      · exact absurd ⟨word, hword⟩ hknown
      · rfl

/-- **Every pair is classified by its key**: it is read if its key asks for an operator on a field,
with its operand as it is; it is rejected for an unknown operator if its key asks for something
else; and with any other key it is malformed. A name alone asks for what it asks for with `eq` in
brackets, and a comparison that is written out again reads as the same one. -/
theorem readPair_classifies (key operand : String) :
    (∀ c, readPair key operand = .ok c ↔ Asks key c.field c.operator ∧ c.operand = operand) ∧
      (∀ k word, readPair key operand = .error (.unknownOperator k word) ↔
        k = key ∧ AsksUnknown key word) ∧
      (∀ k, readPair key operand = .error (.malformedKey k) ↔
        k = key ∧ (¬ ∃ field op, Asks key field op) ∧ ¬ ∃ word, AsksUnknown key word) ∧
      (key.toList ∈ fieldNames → readPair (key ++ "[eq]") operand = readPair key operand) ∧
      ∀ c, readPair key operand = .ok c →
        readPair (c.field ++ "[" ++ c.operator.token ++ "]") c.operand = .ok c := by
  refine ⟨fun c => readPair_eq_ok_iff_asks, fun k word => readPair_eq_unknown_iff,
    fun k => readPair_eq_malformed_iff, fun hname => ?_, fun c hread => ?_⟩
  · have hbare : readPair key operand = .ok ⟨key, .eq, operand⟩ :=
      readPair_eq_ok_iff_asks.mpr ⟨⟨hname, .inl ⟨rfl, rfl⟩⟩, rfl⟩
    have hkey : key ++ "[eq]" = key ++ "[" ++ Operator.eq.token ++ "]" := by
      simp [Operator.token, String.append_assoc]
    rw [hbare, readPair_eq_ok_iff_asks]
    exact ⟨⟨hname, .inr hkey⟩, rfl⟩
  · obtain ⟨⟨hname, -⟩, -⟩ := readPair_eq_ok_iff_asks.mp hread
    exact readPair_eq_ok_iff_asks.mpr ⟨⟨hname, .inr rfl⟩, rfl⟩

/-- A line break is part of no key, not even at its end. -/
example : readPair "title[eq]\n" "Dune" = .error (.malformedKey "title[eq]\n") := rfl

example : readPair "title[EQ]" "Dune" = .error (.unknownOperator "title[EQ]" "EQ") := rfl

end ResourceApi.Filter
