import ResourceApi.Http.Message
import ResourceApi.Media.Representation
import ResourceApi.Proofs.StableSort
import ResourceApi.Proofs.Text.Pieces

/-!
# Which representation a client prefers

Negotiating joins the lines of a header, cuts the result into entries, reads, drops and sorts them,
and takes the first that decides. What it comes to is a condition on the entries where they stand:
XML is chosen if some entry that covers XML and not JSON is ranked before every entry that covers
JSON.

## Main definitions

- `Message.acceptItems` — the items of all lines, in order
- `MediaRange.StandsAt` — an entry that counts, and its place among the items
- `Representation.PrefersXml` — the condition on the entries

## Main results

- `MediaRange.read_cons_space` — a blank in front of an entry is not part of it
- `Representation.choose_eq_xml_iff` — the choice among ranked entries
- `Representation.negotiate_accept` — negotiation chooses XML on that condition, and JSON otherwise
-/

namespace ResourceApi

open ResourceApi.Text (pieces trim)

/-! ## Items -/

namespace Message

def acceptItems (m : Message) : List (List Char) :=
  (m.values "accept").flatMap fun line => pieces ',' line.toList

end Message

namespace MediaRange

theorem trim_cons_space (cs : List Char) : trim (' ' :: cs) = trim cs := by
  have hblank : Text.isBlank ' ' = true := by decide
  rw [trim, trim, Text.trimStart, Text.trimStart, List.dropWhile_cons_of_pos hblank]

theorem read_cons_space (raw : List Char) : read (' ' :: raw) = read raw := by
  have hspace : ' ' ≠ ';' := by decide
  obtain ⟨name, parameters, hraw, hspaced⟩ := Text.pieces_cons hspace raw
  rw [read, read, hraw, hspaced]
  simp only [trim_cons_space]

theorem map_read_cons_space (cs : List Char) :
    (pieces ',' (' ' :: cs)).map read = (pieces ',' cs).map read := by
  have hspace : ' ' ≠ ',' := by decide
  obtain ⟨first, rest, hpieces, hspaced⟩ := Text.pieces_cons hspace cs
  rw [hpieces, hspaced, List.map_cons, List.map_cons, read_cons_space]

/-- Lines that are joined are read as they are one by one. -/
theorem map_read_intercalate (line : String) (lines : List String) :
    (pieces ',' (String.intercalate ", " (line :: lines)).toList).map read =
      ((line :: lines).flatMap fun line => pieces ',' line.toList).map read := by
  -- By induction on the lines; the blank behind each comma is no part of the entry behind it.
  induction lines generalizing line with
  | nil => rw [String.intercalate_singleton, List.flatMap_cons, List.flatMap_nil, List.append_nil]
  | cons next lines ih =>
    have hjoined : (String.intercalate ", " (line :: next :: lines)).toList =
        line.toList ++ ',' :: ' ' :: (String.intercalate ", " (next :: lines)).toList := by
      rw [String.intercalate_cons_cons, String.toList_append, String.toList_append,
        List.append_assoc]
      rfl
    rw [hjoined, Text.pieces_append_sep, List.map_append, map_read_cons_space, ih, ← List.map_append]
    rfl

theorem filterMap_read (raws : List (List Char)) :
    raws.filterMap read = (raws.map read).filterMap id := by
  rw [List.filterMap_map]
  rfl

/-! ## Entries with their places -/

/-- An entry that counts, and the place of its item: it can be read, it asks for something, and it
is not `*/*`. -/
structure StandsAt (r : MediaRange) (items : List (List Char)) (place : Nat) : Prop where
  reads : items[place]?.bind read = some r
  asked : Quality.isPositive r.quality = true
  specific : r.isCatchAll = false

/-- The entries that ask for something, each with its place. -/
def placed (items : List (List Char)) : List (MediaRange × Nat) :=
  (items.zipIdx.filterMap fun item => (read item.1).map fun r => (r, item.2)).filter
    fun x => Quality.isPositive x.1.quality

theorem map_fst_placed (items : List (List Char)) :
    (placed items).map Prod.fst =
      (items.filterMap read).filter fun r => Quality.isPositive r.quality := by
  have hread : (items.zipIdx.filterMap fun item => (read item.1).map fun r => (r, item.2)).map
      Prod.fst = items.filterMap read := by
    rw [List.map_filterMap]
    simp only [Option.map_map, Function.comp_def, Option.map_id']
    have hitems : items.filterMap read = (items.zipIdx.map Prod.fst).filterMap read := by
      rw [List.zipIdx_map_fst]
    rw [hitems, List.filterMap_map]
    rfl
  rw [← hread, List.filter_map]
  rfl

theorem mem_placed_iff {items : List (List Char)} {r : MediaRange} {place : Nat} :
    (r, place) ∈ placed items ↔
      items[place]?.bind read = some r ∧ Quality.isPositive r.quality = true := by
  rw [placed, List.mem_filter, List.mem_filterMap]
  refine and_congr_left fun _ => ?_
  rw [Option.bind_eq_some_iff]
  constructor
  · rintro ⟨⟨raw, i⟩, hitem, hread⟩
    obtain ⟨r', hraw, heq⟩ := Option.map_eq_some_iff.mp hread
    obtain ⟨rfl, rfl⟩ := Prod.mk.inj heq
    exact ⟨raw, List.mem_zipIdx_iff_getElem?.mp hitem, hraw⟩
  · rintro ⟨raw, hitem, hread⟩
    refine ⟨(raw, place), List.mem_zipIdx_iff_getElem?.mpr hitem, ?_⟩
    rw [hread]
    rfl

theorem placed_increasing (items : List (List Char)) :
    (placed items).Pairwise fun x y => x.2 < y.2 := by
  have hplaces : items.zipIdx.Pairwise fun item item' => item.2 < item'.2 := by
    have hrange : (items.zipIdx.map Prod.snd).Pairwise (· < ·) := by
      rw [List.zipIdx_map_snd]
      exact List.pairwise_lt_range'
    exact List.pairwise_map.mp hrange
  refine List.Pairwise.filter _ (List.pairwise_filterMap.mpr (hplaces.imp ?_))
  intro item item' hlt x hx x' hx'
  obtain ⟨r, -, rfl⟩ := Option.map_eq_some_iff.mp hx
  obtain ⟨r', -, rfl⟩ := Option.map_eq_some_iff.mp hx'
  exact hlt

/-! ## Rank -/

/-- Whether one entry has a greater quality than another. -/
def outranks (x y : MediaRange × Nat) : Bool := y.1.quality.position < x.1.quality.position

/-- One entry is ranked before the other: its quality is greater, or its place is an earlier one. -/
def RankedBefore (x y : MediaRange × Nat) : Prop := Ranked outranks (fun x y => x.2 < y.2) x y

theorem rankedBefore_iff {x y : MediaRange × Nat} :
    RankedBefore x y ↔ y.1.quality.position < x.1.quality.position ∨
      (y.1.quality.position = x.1.quality.position ∧ x.2 < y.2) := by
  simp only [RankedBefore, Ranked, outranks, decide_eq_true_eq, decide_eq_false_iff_not]
  omega

theorem RankedBefore.asymm {x y : MediaRange × Nat} (h : RankedBefore x y) : ¬RankedBefore y x := by
  rw [rankedBefore_iff] at h ⊢
  omega

theorem outranks_orders : OrdersOn outranks fun _ => True :=
  ordersOn_greatest fun (x : MediaRange × Nat) => x.1.quality.position

/-- The entries of a header are ranked by their quality and then by their places. -/
theorem ranked_placed (items : List (List Char)) :
    (stableSort outranks (placed items)).Pairwise RankedBefore :=
  stableSort_pairwise outranks_orders (fun _ _ => trivial) (placed_increasing items)

theorem isNaN_of_isPositive {q : Quality} (h : Quality.isPositive q = true) : q.isNaN = false := by
  cases hq : q.isNaN with
  | false => rfl
  | true =>
    rw [Quality.isPositive, Number.Binary.compare?, hq, Bool.or_true, if_pos rfl] at h
    cases h

/-- Among qualities above zero the ranks are those of the numeric order. -/
theorem rankedBefore_iff_compare {r r' : MediaRange} {place place' : Nat}
    (hr : Quality.isPositive r.quality = true) (hr' : Quality.isPositive r'.quality = true) :
    RankedBefore (r, place) (r', place') ↔ r'.quality.compare? r.quality = some .lt ∨
      (r'.quality.compare? r.quality = some .eq ∧ place < place') := by
  have hcompare : r'.quality.compare? r.quality =
      some (compare r'.quality.position r.quality.position) := by
    rw [Number.Binary.compare?, isNaN_of_isPositive hr, isNaN_of_isPositive hr']
    rfl
  rw [rankedBefore_iff, hcompare, Option.some.injEq, Option.some.injEq, Int.compare_eq_lt,
    Int.compare_eq_eq]

end MediaRange

/-! ## The choice -/

namespace Representation

open MediaRange

/-- Entries in the order of their ranks choose XML if one of them covers XML and not JSON, and is
ranked before all that cover JSON; `*/*` counts neither for nor against. -/
theorem choose_eq_xml_iff {ranked : List (MediaRange × Nat)} (h : ranked.Pairwise RankedBefore) :
    choose (ranked.map Prod.fst) = .xml ↔ ∃ x ∈ ranked, x.1.isCatchAll = false ∧
      x.1.covers "application/xml" = true ∧ x.1.covers "application/json" = false ∧
        ∀ y ∈ ranked, y.1.isCatchAll = false → y.1.covers "application/json" = true →
          RankedBefore x y := by
  -- By induction on the entries, with the cases of the choice: skipped, JSON, XML, passed over.
  induction ranked with
  | nil => simp [choose]
  | cons x ranked ih =>
    obtain ⟨hfirst, hrest⟩ := List.pairwise_cons.mp h
    rw [List.map_cons, choose]
    by_cases hall : x.1.isCatchAll = true
    · rw [if_pos hall, ih hrest]
      simp [hall]
    · rw [if_neg hall]
      have hspecific : x.1.isCatchAll = false := Bool.eq_false_iff.mpr hall
      by_cases hjson : x.1.covers "application/json" = true
      · -- Everything that covers XML alone is ranked behind this entry.
        rw [mediaType, if_pos hjson]
        constructor
        · intro hxml
          cases hxml
        · rintro ⟨y, hy, -, -, hnot, hbefore⟩
          have hyx : RankedBefore y x := hbefore x (List.mem_cons_self ..) hspecific hjson
          rcases List.mem_cons.mp hy with rfl | hy
          · exact absurd hyx hyx.asymm
          · exact absurd (hfirst y hy) hyx.asymm
      · rw [mediaType, if_neg hjson]
        have hnot : x.1.covers "application/json" = false := Bool.eq_false_iff.mpr hjson
        by_cases hxml : x.1.covers "application/xml" = true
        · rw [mediaType, if_pos hxml]
          refine iff_of_true rfl ⟨x, List.mem_cons_self .., hspecific, hxml, hnot, ?_⟩
          intro y hy _ hyjson
          rcases List.mem_cons.mp hy with rfl | hy
          · exact absurd hyjson hjson
          · exact hfirst y hy
        · rw [mediaType, if_neg hxml, ih hrest]
          simp [hxml, hnot]

/-- Some entry covers XML and not JSON, and every entry that covers JSON has a smaller quality, or
the same one at a later place. -/
def PrefersXml (items : List (List Char)) : Prop :=
  ∃ (r : MediaRange) (place : Nat), r.StandsAt items place ∧
    r.covers "application/xml" = true ∧ r.covers "application/json" = false ∧
      ∀ (r' : MediaRange) (place' : Nat), r'.StandsAt items place' →
        r'.covers "application/json" = true → r'.quality.compare? r.quality = some .lt ∨
          (r'.quality.compare? r.quality = some .eq ∧ place < place')

theorem choose_placed_iff (items : List (List Char)) :
    choose ((stableSort outranks (placed items)).map Prod.fst) = .xml ↔ PrefersXml items := by
  have hmem (r : MediaRange) (place : Nat) : (r, place) ∈ stableSort outranks (placed items) ∧
      r.isCatchAll = false ↔ r.StandsAt items place := by
    rw [mem_stableSort, mem_placed_iff]
    exact ⟨fun ⟨⟨hreads, hasked⟩, hspecific⟩ => ⟨hreads, hasked, hspecific⟩,
      fun ⟨hreads, hasked, hspecific⟩ => ⟨⟨hreads, hasked⟩, hspecific⟩⟩
  rw [choose_eq_xml_iff (ranked_placed items)]
  constructor
  · rintro ⟨⟨r, place⟩, hr, hspecific, hxml, hnot, hbefore⟩
    have hstands := (hmem r place).mp ⟨hr, hspecific⟩
    refine ⟨r, place, hstands, hxml, hnot, fun r' place' hstands' hjson => ?_⟩
    obtain ⟨hr', hspecific'⟩ := (hmem r' place').mpr hstands'
    exact (rankedBefore_iff_compare hstands.asked hstands'.asked).mp
      (hbefore (r', place') hr' hspecific' hjson)
  · rintro ⟨r, place, hstands, hxml, hnot, hbefore⟩
    obtain ⟨hr, hspecific⟩ := (hmem r place).mpr hstands
    refine ⟨(r, place), hr, hspecific, hxml, hnot, ?_⟩
    rintro ⟨r', place'⟩ hr' hspecific' hjson
    have hstands' := (hmem r' place').mp ⟨hr', hspecific'⟩
    exact (rankedBefore_iff_compare hstands.asked hstands'.asked).mpr
      (hbefore r' place' hstands' hjson)

theorem readAll_eq (header : List Char) {items : List (List Char)}
    (hitems : (pieces ',' header).map read = items.map read) :
    readAll header = (stableSort outranks (placed items)).map Prod.fst := by
  have hread : (pieces ',' header).filterMap read = items.filterMap read := by
    rw [filterMap_read, filterMap_read, hitems]
  rw [readAll, hread, ← map_fst_placed, stableSort_map]
  rfl

/-- **Negotiation**: from the entries of all lines of a header XML is chosen if they prefer it, and
JSON in every other case. -/
theorem negotiate_accept (m : Message) :
    (negotiate m.accept = .xml ↔ PrefersXml m.acceptItems) ∧
      (negotiate m.accept = .json ↔ ¬PrefersXml m.acceptItems) := by
  have hxml : negotiate m.accept = .xml ↔ PrefersXml m.acceptItems := by
    rw [← choose_placed_iff]
    unfold negotiate ranges Message.accept Message.acceptItems
    cases m.values "accept" with
    | nil => exact Iff.rfl
    | cons line lines =>
      dsimp only
      rw [readAll_eq _ (map_read_intercalate line lines)]
  refine ⟨hxml, ?_⟩
  rw [← hxml]
  cases negotiate m.accept <;> simp

-- Two lines, of which the second one has the better entry.
example : negotiate (Message.mk "GET" "/" [("Accept", "application/json;q=0.5"),
    ("accept", "*/*, application/xml;q=.9")] []).accept = .xml := by rfl

end Representation

end ResourceApi
