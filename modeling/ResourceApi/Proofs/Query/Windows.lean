import ResourceApi.Proofs.Query.Acceptance

/-!
# The windows of queries

A query shows a page if the number or the size of a page is given, and which page it is follows from
the two and the limits. The limits may have been set to anything: a page has at least one entity and
at most the greatest number allowed. And because numbers and sizes are read as numbers of 32 bits,
the place where a page ends has no more than 64.

## Main definitions

- `Parameter.Asks` — the number that pairs give for a parameter

## Main results

- `Query.asks_of_readPositive` — what is read as a number is what is asked for
- `Query.end_le_of_page` — no page ends beyond 64 bits
- `Query.build_windows` — the window of a query that builds
-/

namespace ResourceApi

open ResourceApi.Number (WrittenFor maxUInt32 maxUInt64)

/-- What pairs ask for with a parameter that is a positive number: nothing if they do not give it,
and otherwise the number for which all values that they give it are written. -/
def Parameter.Asks (pairs : List (String × String)) (p : Parameter) : Option Nat → Prop
  | none => ∀ raw, ¬ p.Given pairs raw
  | some n => (∃ raw, p.Given pairs raw) ∧ (∀ raw, p.Given pairs raw → WrittenFor raw.toList n) ∧
      0 < n ∧ n ≤ maxUInt32

theorem Parameter.isSome_iff_of_asks {pairs : List (String × String)} {p : Parameter}
    {asked : Option Nat} (h : p.Asks pairs asked) : asked.isSome ↔ ∃ raw, p.Given pairs raw := by
  cases asked with
  | none => exact ⟨nofun, fun ⟨raw, hraw⟩ => absurd hraw (h raw)⟩
  | some n => exact ⟨fun _ => h.1, fun _ => rfl⟩

namespace Query

variable {schema : Schema} {limits : PageLimits} {given : Parameters}
  {pairs : List (String × String)}

/-! ## Numbers -/

theorem asks_of_readPositive {filters : List (String × String)}
    (hgather : Parameters.gather Parameters.none pairs = .ok (given, filters)) {p : Parameter}
    {asked : Option Nat} (h : readPositive p given = .ok asked) : p.Asks pairs asked := by
  cases asked with
  | none =>
    intro raw hraw
    rw [← Parameters.given_iff_of_gather hgather, readPositive_eq_none_iff.mp h] at hraw
    cases hraw
  | some n =>
    obtain ⟨raw, hraw, hwritten, hn⟩ := readPositive_eq_some_iff.mp h
    refine ⟨⟨raw, (Parameters.given_iff_of_gather hgather).mp hraw⟩, fun other hother => ?_, hn⟩
    -- There is only one value.
    rw [← Parameters.given_iff_of_gather hgather, hraw] at hother
    obtain rfl := Option.some.inj hother
    exact hwritten

/-! ## Pages -/

theorem windowFor_isSome {number size : Option Nat} :
    (windowFor limits number size).isSome ↔ number.isSome ∨ size.isSome := by
  cases number <;> cases size <;> simp [windowFor]

theorem eq_page_of_windowFor {number size : Option Nat} {w : Window}
    (h : windowFor limits number size = some w) :
    w = .page (number.getD 1) (min (size.getD limits.standard) limits.greatest) := by
  cases number with
  | some n => exact (Option.some.inj h).symm
  | none =>
    cases size with
    | some m => exact (Option.some.inj h).symm
    | none => cases h

/-- Numbers and sizes of 32 bits make a page that ends within 64. -/
theorem end_le_of_page {number size : Nat} (hnumber : number ≤ maxUInt32)
    (hsize : size ≤ maxUInt32) :
    (Window.page number size).offset + (Window.page number size).limit ≤ maxUInt64 := by
  have hskipped : (number - 1) * size ≤ (maxUInt32 - 1) * maxUInt32 :=
    Nat.mul_le_mul (Nat.sub_le_sub_right hnumber 1) hsize
  calc (number - 1) * size + size
    _ ≤ (maxUInt32 - 1) * maxUInt32 + maxUInt32 := Nat.add_le_add hskipped hsize
    _ ≤ maxUInt64 := by decide

/-- The limits are in order, so a page has room for an entity. -/
theorem one_le_size {p : Parameter} {size : Option Nat} (h : p.Asks pairs size) :
    1 ≤ min (size.getD limits.standard) limits.greatest := by
  refine Nat.le_min.mpr ⟨?_, Nat.le_trans limits.standard_pos limits.standard_le⟩
  cases size with
  | none => exact limits.standard_pos
  | some n => exact h.2.2.1

theorem number_le {p : Parameter} {number : Option Nat} (h : p.Asks pairs number) :
    number.getD 1 ≤ maxUInt32 := by
  cases number with
  | none => decide
  | some n => exact h.2.2.2

theorem size_of_clamp (standard greatest : Nat) (size : Option Nat) :
    min (size.getD (PageLimits.clamp standard greatest).standard)
        (PageLimits.clamp standard greatest).greatest =
      size.elim (min (max 1 standard) (max 1 greatest)) (min · (max 1 greatest)) := by
  rw [Nat.max_comm 1 standard, Nat.max_comm 1 greatest]
  cases size with
  | none => exact Nat.min_eq_left (Nat.min_le_right ..)
  | some n => rfl

theorem exists_key_iff : (∃ pair ∈ pairs, pair.1 ∈ ["page", "per_page", "limit"]) ↔
    (∃ raw, Parameter.page.Given pairs raw) ∨ ∃ raw, Parameter.pageSize.Given pairs raw := by
  constructor
  · rintro ⟨⟨key, raw⟩, hpair, hkey⟩
    rcases List.mem_cons.mp hkey with rfl | hkey
    · exact .inl ⟨raw, "page", List.mem_cons_self .., hpair⟩
    · exact .inr ⟨raw, key, hkey, hpair⟩
  · rintro (⟨raw, key, hkey, hpair⟩ | ⟨raw, key, hkey, hpair⟩)
    · exact ⟨_, hpair, List.mem_append_left ["per_page", "limit"] hkey⟩
    · exact ⟨_, hpair, List.mem_append_right ["page"] hkey⟩

/-- **The window of a query that builds**, whatever the limits were set to. There is one exactly if
the number or the size of a page is given, under any key. It has the size asked for, or else the
standard one, but at least one place and at most `greatest`, or one if that is zero; and it skips
the pages before it, which are of the same size. No window ends beyond 64 bits. -/
theorem build_windows {standard greatest : Nat} (hgreatest : greatest ≤ maxUInt32) {q : Query}
    (hbuild : build schema (.clamp standard greatest) pairs = .ok q) :
    let cap := max 1 greatest
    (q.window.isSome ↔ ∃ pair ∈ pairs, pair.1 ∈ ["page", "per_page", "limit"]) ∧
      ∃ number size, Parameter.page.Asks pairs number ∧ Parameter.pageSize.Asks pairs size ∧
        ∀ w, q.window = some w →
          w.limit = size.elim (min (max 1 standard) cap) (min · cap) ∧
          1 ≤ w.limit ∧ w.limit ≤ cap ∧
          w.offset = (number.getD 1 - 1) * w.limit ∧ w.offset + w.limit ≤ maxUInt64 := by
  intro cap
  obtain ⟨given, filters, hgather, -, -, hwindow⟩ := build_eq_ok_iff.mp hbuild
  obtain ⟨number, size, hnumber, hsize, hwindow⟩ := readWindow_eq_ok_iff.mp hwindow
  have hnumber : Parameter.page.Asks pairs number := asks_of_readPositive hgather hnumber
  have hsize : Parameter.pageSize.Asks pairs size := asks_of_readPositive hgather hsize
  refine ⟨?_, number, size, hnumber, hsize, fun w hw => ?_⟩
  · rw [← hwindow, windowFor_isSome, Parameter.isSome_iff_of_asks hnumber,
      Parameter.isSome_iff_of_asks hsize, exists_key_iff]
  · rw [← hwindow] at hw
    obtain rfl := eq_page_of_windowFor hw
    have hcap : (PageLimits.clamp standard greatest).greatest = cap := Nat.max_comm ..
    have hle : min (size.getD (PageLimits.clamp standard greatest).standard)
        (PageLimits.clamp standard greatest).greatest ≤ cap := hcap ▸ Nat.min_le_right ..
    have hcap_le : cap ≤ maxUInt32 := Nat.max_le.mpr ⟨by decide, hgreatest⟩
    exact ⟨size_of_clamp standard greatest size, one_le_size hsize, hle, rfl,
      end_le_of_page (number_le hnumber) (Nat.le_trans hle hcap_le)⟩

/-- The last page of the greatest size there is ends within 64 bits. -/
theorem build_windows_at_the_end :
    let pairs := [("page", "4294967295"), ("qty[gt]", "5"), ("limit", "+4294967295")]
    let w : Window := ⟨4294967294 * 4294967295, 4294967295⟩
    ∃ q number size, build Item.schema (.clamp 0 maxUInt32) pairs = .ok q ∧ q.window = some w ∧
      Parameter.page.Asks pairs number ∧ Parameter.pageSize.Asks pairs size ∧
      w.limit ≤ max 1 maxUInt32 ∧ w.offset = (number.getD 1 - 1) * w.limit ∧
      w.offset + w.limit ≤ maxUInt64 := by
  intro pairs w
  have hbuild : build Item.schema (.clamp 0 maxUInt32) pairs =
      .ok ⟨some (.all [.comparison ⟨"qty", .gt, .integer 5⟩]), none, some w⟩ := rfl
  obtain ⟨-, number, size, hnumber, hsize, hwindow⟩ := build_windows (Nat.le_refl _) hbuild
  obtain ⟨-, -, hle, hoffset, hend⟩ := hwindow w rfl
  exact ⟨_, number, size, hbuild, rfl, hnumber, hsize, hle, hoffset, hend⟩

end Query

end ResourceApi
