import ResourceApi.Proofs.Media.Negotiation
import ResourceApi.Proofs.Number.Decimals

/-!
# The canonical form of an accept header

The entries of a header that ask for something, best first, are a canonical form of the header.
Each of them is folded and trimmed and has a quality above zero and up to one, so it is read from
its spelling; and their spellings one after the other are a header with these entries in this order.

## Main definitions

- `Quality.InUnit` — the qualities that count
- `MediaRange.entries` — the entries of a header that can be read
- `MediaRange.Canonical` — the entries that reading yields

## Main results

- `MediaRange.canonical_of_read` — what is read from an item of a header is canonical if it counts
- `MediaRange.Canonical.read_text` — a canonical entry is read from its spelling
- `Representation.ranges_canonical` — the entries of a header are a canonical form of it
-/

namespace ResourceApi

open ResourceApi.Number
open ResourceApi.Text (cut lower pieces trim Trimmed)

/-! ## Qualities -/

namespace Quality

/-- The qualities that count are greater than zero and not greater than one; NaN is neither. -/
def InUnit (q : Quality) : Prop :=
  (Binary.zero binary32).compare? q = some .lt ∧
    (q.compare? (Binary.one binary32) = some .lt ∨ q.compare? (Binary.one binary32) = some .eq)

instance (q : Quality) : Decidable q.InUnit := inferInstanceAs (Decidable (_ ∧ _))

theorem compare_eq_some_iff {q q' : Quality} {o : Ordering} : q.compare? q' = some o ↔
    q.isNaN = false ∧ q'.isNaN = false ∧ compare q.position q'.position = o := by
  rw [Binary.compare?]
  cases q.isNaN <;> cases q'.isNaN <;> simp

theorem inUnit_iff {q : Quality} : q.InUnit ↔
    q.isNaN = false ∧ 0 < q.position ∧ q.position ≤ (Binary.one binary32).position := by
  have hzero : (Binary.zero binary32).isNaN = false := by decide
  have hone : (Binary.one binary32).isNaN = false := by decide
  have hposition : (Binary.zero binary32).position = 0 := rfl
  simp only [InUnit, compare_eq_some_iff, hzero, hone, hposition, Int.compare_eq_lt,
    Int.compare_eq_eq]
  constructor
  · rintro ⟨⟨-, hnumber, hpositive⟩, ⟨-, -, hle⟩ | ⟨-, -, hle⟩⟩
    · exact ⟨hnumber, hpositive, Int.le_of_lt hle⟩
    · exact ⟨hnumber, hpositive, Int.le_of_eq hle⟩
  · rintro ⟨hnumber, hpositive, hle⟩
    refine ⟨⟨trivial, hnumber, hpositive⟩, ?_⟩
    rcases Int.lt_or_eq_of_le hle with hlt | heq
    · exact .inl ⟨hnumber, trivial, hlt⟩
    · exact .inr ⟨hnumber, trivial, heq⟩

theorem isPositive_iff {q : Quality} :
    isPositive q = true ↔ q.isNaN = false ∧ 0 < q.position := by
  have hzero : (Binary.zero binary32).isNaN = false := by decide
  have hposition : (Binary.zero binary32).position = 0 := rfl
  rw [isPositive, beq_iff_eq, compare_eq_some_iff, hzero, hposition, Int.compare_eq_lt]
  simp

theorem InUnit.isPositive {q : Quality} (h : q.InUnit) : isPositive q = true :=
  isPositive_iff.mpr ⟨(inUnit_iff.mp h).1, (inUnit_iff.mp h).2.1⟩

/-- A clamped quality is never too great. -/
theorem inUnit_clamp {q : Quality} (h : isPositive (clamp q) = true) : (clamp q).InUnit := by
  obtain ⟨hnumber, hpositive⟩ := isPositive_iff.mp h
  refine inUnit_iff.mpr ⟨hnumber, hpositive, ?_⟩
  revert hnumber
  rw [clamp]
  split
  · intro _
    decide
  · split
    · exact fun _ => Int.le_refl _
    · next hgreater =>
      intro hnumber
      have hone : (Binary.one binary32).isNaN = false := by decide
      rw [beq_iff_eq, compare_eq_some_iff, Int.compare_eq_lt] at hgreater
      exact Int.not_lt.mp fun hlt => hgreater ⟨hone, hnumber, hlt⟩

theorem InUnit.clamp_eq {q : Quality} (h : q.InUnit) : clamp q = q := by
  obtain ⟨-, hpositive, hle⟩ := inUnit_iff.mp h
  have hposition : (Binary.zero binary32).position = 0 := rfl
  rw [clamp, if_neg, if_neg]
  · rw [beq_iff_eq, compare_eq_some_iff, Int.compare_eq_lt]
    exact fun hlt => Int.not_lt.mpr hle hlt.2.2
  · rw [beq_iff_eq, compare_eq_some_iff, hposition, Int.compare_eq_lt]
    exact fun hlt => Int.not_lt.mpr (Int.le_of_lt hpositive) hlt.2.2

/-- A quality that counts has no minus sign and is finite. -/
theorem InUnit.finite {q : Quality} (h : q.InUnit) : q.negative = false ∧ q.isFinite = true := by
  obtain ⟨-, hpositive, hle⟩ := inUnit_iff.mp h
  obtain ⟨negative, magnitude⟩ := q
  cases negative with
  | true =>
    change 0 < -(magnitude : Int) at hpositive
    omega
  | false =>
    have hone : (Binary.one binary32).position = 1065353216 := by decide
    have hinfinity : binary32.infinity = 2139095040 := by decide
    rw [hone] at hle
    change (magnitude : Int) ≤ 1065353216 at hle
    refine ⟨rfl, decide_eq_true ?_⟩
    rw [hinfinity]
    change magnitude < 2139095040
    omega

/-- A quality that counts is less than one, or is one. -/
theorem InUnit.cases {q : Quality} (h : q.InUnit) :
    isLessThanOne q = true ∨ (isLessThanOne q = false ∧ q = Binary.one binary32) := by
  cases hless : isLessThanOne q with
  | true => exact .inl rfl
  | false =>
    refine .inr ⟨rfl, ?_⟩
    obtain ⟨hnumber, -, hle⟩ := inUnit_iff.mp h
    have hone : (Binary.one binary32).isNaN = false := by decide
    have hge : ¬q.position < (Binary.one binary32).position := fun hlt => by
      rw [isLessThanOne, beq_eq_false_iff_ne] at hless
      exact hless (compare_eq_some_iff.mpr ⟨hnumber, hone, Int.compare_eq_lt.mpr hlt⟩)
    have hposition : q.position = (Binary.one binary32).position :=
      Int.le_antisymm hle (Int.not_lt.mp hge)
    have hsign := h.finite.1
    obtain ⟨negative, magnitude⟩ := q
    subst hsign
    exact congrArg (Binary.mk false) (Int.ofNat_inj.mp hposition)

end Quality

namespace MediaRange

/-! ## Canonical entries -/

/-- An entry as reading yields it: its halves are folded and trimmed, hold no separators, and its
quality counts. The subtype may hold slashes, for an entry is cut at its first one. -/
structure Canonical (r : MediaRange) : Prop where
  main_trimmed : Trimmed r.main
  main_ne_nil : r.main ≠ []
  main_folded : lower r.main = r.main
  main_free : ∀ sep ∈ ['/', ';', ','], sep ∉ r.main
  sub_trimmed : Trimmed r.sub
  sub_ne_nil : r.sub ≠ []
  sub_folded : lower r.sub = r.sub
  sub_free : ∀ sep ∈ [';', ','], sep ∉ r.sub
  quality : r.quality.InUnit

/-- Whatever the parameters say, the quality that counts in the end is clamped. -/
theorem inUnit_of_readQuality {parameters : List (List Char)} {quality q : Quality}
    (hquality : quality.isPositive = true → quality.InUnit)
    (h : readQuality quality parameters = some q) (hpositive : q.isPositive = true) : q.InUnit := by
  induction parameters generalizing quality with
  | nil =>
    obtain rfl := Option.some.inj h
    exact hquality hpositive
  | cons parameter parameters ih =>
    rw [readQuality] at h
    split at h
    · exact ih hquality h
    · split at h
      · split at h
        · cases h
        · exact ih Quality.inUnit_clamp h
      · exact ih hquality h

theorem read_eq_some {raw : List Char} {r : MediaRange} (h : read raw = some r) :
    ∃ name parameters main sub, pieces ';' raw = name :: parameters ∧
      cut '/' (trim name) = some (main, sub) ∧ trim main ≠ [] ∧ trim sub ≠ [] ∧
        readQuality (Binary.one binary32) parameters = some r.quality ∧
          r.main = lower (trim main) ∧ r.sub = lower (trim sub) := by
  rw [read] at h
  split at h
  · cases h
  · next name parameters hpieces =>
    split at h
    · cases h
    · next main sub hcut =>
      dsimp only at h
      split at h
      · cases h
      · next hne =>
        obtain ⟨quality, hquality, rfl⟩ := Option.map_eq_some_iff.mp h
        simp only [Bool.or_eq_true, List.isEmpty_iff, not_or] at hne
        exact ⟨name, parameters, main, sub, hpieces, hcut, hne.1, hne.2, hquality, rfl, rfl⟩

/-- **What is read from an item of a header** is canonical if it counts. -/
theorem canonical_of_read {raw : List Char} {r : MediaRange} (h : read raw = some r)
    (hcomma : ',' ∉ raw) (hpositive : r.quality.isPositive = true) : r.Canonical := by
  obtain ⟨name, parameters, main, sub, hpieces, hcut, hmain, hsub, hquality, hrmain, hrsub⟩ :=
    read_eq_some h
  obtain ⟨hname, hslash⟩ := Text.cut_eq_some_iff.mp hcut
  have hsemicolon : ';' ∉ name :=
    Text.not_mem_of_mem_pieces (hpieces ▸ List.mem_cons_self ..)
  have hraw : raw = name ++ Text.behind ';' parameters := Text.eq_of_pieces hpieces
  have hfree {sep : Char} (hsep : sep ∈ [';', ',']) : sep ∉ trim name := by
    rcases List.mem_pair.mp hsep with rfl | rfl
    · exact fun hmem => hsemicolon (Text.mem_of_mem_trim hmem)
    · exact fun hmem => hcomma (hraw ▸ List.mem_append_left _ (Text.mem_of_mem_trim hmem))
  rw [hname] at hfree
  have hmainFree {sep : Char} (hsep : sep ∈ [';', ',']) : sep ∉ main :=
    fun hmem => hfree hsep (List.mem_append_left _ hmem)
  have hsubFree {sep : Char} (hsep : sep ∈ [';', ',']) : sep ∉ sub :=
    fun hmem => hfree hsep (List.mem_append_right _ (List.mem_cons_of_mem _ hmem))
  have hone : Quality.InUnit (Binary.one binary32) := by decide
  exact {
    main_trimmed := hrmain ▸ (Text.trimmed_trim main).lower
    main_ne_nil := by rwa [hrmain, lower, ne_eq, List.map_eq_nil_iff]
    main_folded := by rw [hrmain, Text.lower_lower]
    main_free := by
      rw [hrmain]
      simp only [List.forall_mem_cons]
      exact ⟨Text.not_mem_lower_trim (by decide) hslash,
        Text.not_mem_lower_trim (by decide) (hmainFree (by decide)),
        Text.not_mem_lower_trim (by decide) (hmainFree (by decide)), by simp⟩
    sub_trimmed := hrsub ▸ (Text.trimmed_trim sub).lower
    sub_ne_nil := by rwa [hrsub, lower, ne_eq, List.map_eq_nil_iff]
    sub_folded := by rw [hrsub, Text.lower_lower]
    sub_free := by
      rw [hrsub]
      simp only [List.forall_mem_cons]
      exact ⟨Text.not_mem_lower_trim (by decide) (hsubFree (by decide)),
        Text.not_mem_lower_trim (by decide) (hsubFree (by decide)), by simp⟩
    quality := inUnit_of_readQuality (fun _ => hone) hquality hpositive }

/-! ## Spellings -/

theorem toList_text (r : MediaRange) : r.text.toList = r.main ++ '/' :: r.sub ++
    if Quality.isLessThanOne r.quality then ';' :: 'q' :: '=' :: r.quality.text.toList else [] := by
  rw [text, String.toList_append, String.toList_ofList]
  split
  · rw [String.toList_append]
    rfl
  · rfl

namespace Canonical

variable {r : MediaRange}

/-- The name of an entry is trimmed and cut at its slash. -/
theorem name_trim (h : r.Canonical) : trim (r.main ++ '/' :: r.sub) = r.main ++ '/' :: r.sub := by
  have happend := h.main_trimmed.append h.sub_trimmed h.main_ne_nil h.sub_ne_nil ['/']
  rw [List.append_assoc, List.singleton_append] at happend
  exact happend.trim_eq

theorem name_free (h : r.Canonical) {sep : Char} (hsep : sep ∈ [';', ',']) :
    sep ∉ r.main ++ '/' :: r.sub := by
  have hmain : sep ∉ r.main := h.main_free sep (List.mem_cons_of_mem _ hsep)
  have hslash : sep ≠ '/' := by
    rcases List.mem_pair.mp hsep with rfl | rfl <;> decide
  simp [hmain, hslash, h.sub_free sep hsep]

theorem quality_text_chars (h : r.Canonical) {c : Char} (hc : c ∈ r.quality.text.toList) :
    c = '.' ∨ c.isDigit = true :=
  Binary.eq_or_isDigit_of_mem_text h.quality.finite.2 h.quality.finite.1 hc

theorem quality_text_free (h : r.Canonical) {sep : Char} (hdot : sep ≠ '.')
    (hdigit : sep.isDigit = false) : sep ∉ r.quality.text.toList := by
  intro hmem
  rcases h.quality_text_chars hmem with rfl | h
  · exact hdot rfl
  · rw [hdigit] at h
    cases h

theorem quality_text_trim (h : r.Canonical) :
    trim r.quality.text.toList = r.quality.text.toList := by
  refine (Text.trimmed_of_forall fun c hc => ?_).trim_eq
  rcases h.quality_text_chars hc with rfl | hdigit
  · decide
  · exact Text.not_blank_of_isDigit hdigit

/-- The quality that the spelling says. -/
theorem readQuality_text (h : r.Canonical) :
    readQuality (Binary.one binary32) ['q' :: '=' :: r.quality.text.toList] = some r.quality := by
  have hcut : cut '=' ('q' :: '=' :: r.quality.text.toList) = some (['q'], r.quality.text.toList) :=
    Text.cut_eq_some_iff.mpr ⟨rfl, by decide⟩
  have hname : Text.sameLetters (trim ['q']) ['q'] = true := by decide
  rw [readQuality, hcut]
  simp only [hname, if_true, h.quality_text_trim, Binary.read_text (Quality.inUnit_iff.mp h.quality).1,
    h.quality.clamp_eq]
  rfl

theorem comma_not_mem_text (h : r.Canonical) : ',' ∉ r.text.toList := by
  rw [toList_text]
  intro hmem
  rcases List.mem_append.mp hmem with hmem | hmem
  · exact h.name_free (by decide) hmem
  · split at hmem
    · simp only [List.mem_cons] at hmem
      rcases hmem with hmem | hmem | hmem | hmem
      · exact absurd hmem (by decide)
      · exact absurd hmem (by decide)
      · exact absurd hmem (by decide)
      · exact h.quality_text_free (by decide) (by decide) hmem
    · cases hmem

/-- **A canonical entry is read from its spelling.** -/
theorem read_text (h : r.Canonical) : read r.text.toList = some r := by
  have hfree : ';' ∉ r.main ++ '/' :: r.sub := h.name_free (by decide)
  obtain ⟨parameters, hpieces, hquality⟩ : ∃ parameters,
      pieces ';' r.text.toList = (r.main ++ '/' :: r.sub) :: parameters ∧
        readQuality (Binary.one binary32) parameters = some r.quality := by
    rw [toList_text]
    rcases h.quality.cases with hless | ⟨hless, hone⟩
    · refine ⟨['q' :: '=' :: r.quality.text.toList], ?_, h.readQuality_text⟩
      have hquality : ';' ∉ r.quality.text.toList := h.quality_text_free (by decide) (by decide)
      have hparameter : ';' ∉ 'q' :: '=' :: r.quality.text.toList := by
        simp [hquality]
      rw [hless, if_pos rfl, Text.pieces_append_sep, Text.pieces_of_not_mem hfree,
        Text.pieces_of_not_mem hparameter]
      rfl
    · refine ⟨[], ?_, congrArg some hone.symm⟩
      rw [hless, if_neg Bool.false_ne_true, List.append_nil, Text.pieces_of_not_mem hfree]
  have hcut : cut '/' (r.main ++ '/' :: r.sub) = some (r.main, r.sub) :=
    Text.cut_eq_some_iff.mpr ⟨rfl, h.main_free '/' (by decide)⟩
  have hmain : r.main.isEmpty = false := List.isEmpty_eq_false_iff.mpr h.main_ne_nil
  have hsub : r.sub.isEmpty = false := List.isEmpty_eq_false_iff.mpr h.sub_ne_nil
  rw [read, hpieces]
  simp only [h.name_trim, hcut, h.main_trimmed.trim_eq, h.sub_trimmed.trim_eq, hmain, hsub,
    hquality, h.main_folded, h.sub_folded]
  rfl

end Canonical

/-! ## Lists of entries -/

/-- The entries of a header that can be read, in the order of the header. -/
def entries (header : String) : List MediaRange := (pieces ',' header.toList).filterMap read

theorem canonical_of_mem_entries {header : String} {r : MediaRange} (h : r ∈ entries header)
    (hpositive : r.quality.isPositive = true) : r.Canonical := by
  obtain ⟨raw, hraw, hread⟩ := List.mem_filterMap.mp h
  exact canonical_of_read hread (Text.not_mem_of_mem_pieces hraw) hpositive

/-- The entries of a header that count. -/
theorem filter_isPositive_entries (header : String) :
    (entries header).filter (fun r => r.quality.isPositive) =
      (entries header).filter fun r => r.quality.InUnit := by
  refine List.filter_congr fun r hr => ?_
  rw [Bool.eq_iff_iff, decide_eq_true_eq]
  exact ⟨fun hpositive => (canonical_of_mem_entries hr hpositive).quality, Quality.InUnit.isPositive⟩

/-- Whether one entry has a greater quality than another. -/
def isBetter (r r' : MediaRange) : Bool := r'.quality.position < r.quality.position

theorem readAll_eq_stableSort (header : String) : readAll header.toList =
    stableSort isBetter ((entries header).filter fun r => r.quality.InUnit) := by
  rw [← filter_isPositive_entries]
  rfl

theorem readAll_sorted (header : String) :
    (readAll header.toList).Pairwise fun r r' => isBetter r' r = false := by
  rw [readAll_eq_stableSort]
  have horders : OrdersOn isBetter fun _ => True := ordersOn_greatest fun (r : MediaRange) =>
    r.quality.position
  have hranked := stableSort_pairwise (R := fun _ _ => True) horders (fun _ _ => trivial)
    (List.pairwise_of_forall (l := (entries header).filter fun r => r.quality.InUnit)
      fun _ _ => trivial)
  refine hranked.imp ?_
  rintro r r' (hbetter | ⟨hnot, -⟩)
  · exact horders.asymm trivial trivial hbetter
  · exact hnot

theorem mem_readAll_iff {header : String} {r : MediaRange} :
    r ∈ readAll header.toList ↔ r ∈ entries header ∧ r.quality.InUnit := by
  rw [readAll_eq_stableSort, mem_stableSort, List.mem_filter, decide_eq_true_eq]

theorem canonical_of_mem_readAll {header : String} {r : MediaRange}
    (h : r ∈ readAll header.toList) : r.Canonical :=
  canonical_of_mem_entries (mem_readAll_iff.mp h).1 (mem_readAll_iff.mp h).2.isPositive

/-- Canonical entries are read from their spellings one after the other. -/
theorem entries_joined {rs : List MediaRange} (h : ∀ r ∈ rs, r.Canonical) :
    entries (String.intercalate ", " (rs.map text)) = rs := by
  cases rs with
  | nil => rfl
  | cons first rest =>
    -- No spelling holds a comma, so each of them is one item.
    have hitems : ((first :: rest).map text).flatMap (fun line => pieces ',' line.toList) =
        (first :: rest).map fun r => r.text.toList := by
      rw [List.flatMap_map, List.map_eq_flatMap]
      refine List.flatMap_congr fun r hr => ?_
      rw [Text.pieces_of_not_mem (h r hr).comma_not_mem_text]
    have hread : (pieces ',' (String.intercalate ", " ((first :: rest).map text)).toList).map read =
        (first :: rest).map some := by
      rw [List.map_cons, map_read_intercalate, ← List.map_cons, hitems, List.map_map]
      exact List.map_congr_left fun r hr => (h r hr).read_text
    rw [entries, filterMap_read, hread, List.filterMap_map]
    exact List.filterMap_some

end MediaRange

namespace Representation

open MediaRange

/-- **The entries of a header that count, best first, are a canonical form of it.** They are the
entries that can be read and whose quality is above zero and up to one; none has a greater quality
than one before it, and those of equal quality stand as in the header. Each is read from its
spelling, and the spellings, joined, are a header with these entries in this order. -/
theorem ranges_canonical (header : String) :
    (ranges (some header)).Perm ((entries header).filter fun r => r.quality.InUnit) ∧
    ((ranges (some header)).Pairwise fun r r' =>
      r'.quality.compare? r.quality = some .lt ∨ r'.quality.compare? r.quality = some .eq) ∧
    (∀ q : Quality, (ranges (some header)).filter (fun r => r.quality.compare? q = some .eq) =
      (entries header).filter fun r => r.quality.InUnit ∧ r.quality.compare? q = some .eq) ∧
    (∀ r ∈ ranges (some header), read r.text.toList = some r) ∧
    ranges (some (String.intercalate ", " ((ranges (some header)).map text))) =
      ranges (some header) := by
  refine ⟨?_, ?_, fun q => ?_, fun r hr => (canonical_of_mem_readAll hr).read_text, ?_⟩
  · rw [ranges, readAll_eq_stableSort]
    exact stableSort_perm ..
  · refine (readAll_sorted header).imp_of_mem fun hr hr' hnot => ?_
    have hnumber := (Quality.inUnit_iff.mp (mem_readAll_iff.mp hr).2).1
    have hnumber' := (Quality.inUnit_iff.mp (mem_readAll_iff.mp hr').2).1
    simp only [isBetter, decide_eq_false_iff_not] at hnot
    simp only [Quality.compare_eq_some_iff, hnumber, hnumber', Int.compare_eq_lt,
      Int.compare_eq_eq, true_and]
    omega
  · rw [ranges, readAll_eq_stableSort, stableSort_filter, List.filter_filter]
    · refine List.filter_congr fun r _ => ?_
      rw [Bool.decide_and, Bool.and_comm]
    · intro r r' hr hr'
      simp only [decide_eq_true_eq, Quality.compare_eq_some_iff, Int.compare_eq_eq] at hr hr'
      simp only [isBetter, decide_eq_false_iff_not]
      omega
  · have hcanonical : ∀ r ∈ ranges (some header), r.Canonical := fun _ => canonical_of_mem_readAll
    have hcount : (ranges (some header)).filter (fun r => r.quality.InUnit) = ranges (some header) :=
      List.filter_eq_self.mpr fun r hr => decide_eq_true (hcanonical r hr).quality
    rw [ranges, readAll_eq_stableSort, entries_joined hcanonical, hcount]
    exact stableSort_eq_self (readAll_sorted header)

-- Blanks, capitals, a parameter, a clamped quality and the order are normalized; what cannot be read
-- or is refused is dropped.
example : ((ranges (some "a/b;q=0.50, Text/HTML;q=7;level=1, x, c/d;q=0, e/f;q=.5 ")).map text) =
    ["text/html", "a/b;q=0.5", "e/f;q=0.5"] := by rfl

end Representation

end ResourceApi
