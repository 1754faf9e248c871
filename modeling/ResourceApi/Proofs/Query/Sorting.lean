import Mathlib.Data.List.Pairwise
import ResourceApi.Proofs.Query.Selection
import ResourceApi.Proofs.Value

/-!
# Sorted listings

Sorting by a field rearranges what a query lists. Where NaN does not occur among the values of the
field they are in order, absent ones at the low end, in either direction; and entities whose values
are the same stay in the order of their identifiers, whatever the direction. So a descending listing
is not the ascending one read backwards, unless no two values are the same.

## Main definitions

- `SortKey.AtMost`, `SortKey.Tied` — the order of optional values, and its ties
- `Direction.Allows` — a value may stand before another one
- `Direction.compareFields` — the comparison of fields in a direction

## Main results

- `SortKey.ordersOn_before` — without NaN, a sort key orders entities up to ties
- `Session.findAll_sorts` — what a store lists in the order of a field
-/

namespace ResourceApi

namespace SortKey

/-- An optional value is at most another one. An absent value is at most every value. -/
def AtMost : Option Value → Option Value → Prop
  | none, _ => True
  | some _, none => False
  | some a, some b => a.compare? b = some .lt ∨ a.compare? b = some .eq

/-- Two optional values are equal, or both are absent. -/
def Tied : Option Value → Option Value → Prop
  | none, none => True
  | some a, some b => a.equals b = true
  | _, _ => False

/-- NaN does not occur in an optional value. -/
def IsComparable (v : Option Value) : Prop := ∀ a, v = some a → a.hasNaN = false

/-! ## The comparison of fields -/

variable {u v w : Option Value}

theorem compareFields_swap (u v : Option Value) :
    compareFields v u = (compareFields u v).swap := by
  cases u with
  | none => cases v <;> rfl
  | some a =>
    cases v with
    | none => rfl
    | some b =>
      rw [compareFields, compareFields, a.compare?_swap b]
      cases a.compare? b <;> rfl

/-- Without NaN nothing counts as equal but what is. -/
theorem compareFields_some {a b : Value} {o : Ordering} (ha : IsComparable (some a))
    (hb : IsComparable (some b)) : compareFields (some a) (some b) = o ↔ a.compare? b = some o := by
  have hsome := a.compare?_isSome b (ha a rfl) (hb b rfl)
  obtain ⟨answer, hanswer⟩ := Option.isSome_iff_exists.mp hsome
  rw [compareFields, hanswer, Option.getD_some, Option.some.injEq]

theorem compareFields_eq_iff (hu : IsComparable u) (hv : IsComparable v) :
    compareFields u v = .eq ↔ Tied u v := by
  cases u with
  | none => cases v <;> simp [compareFields, Tied]
  | some a =>
    cases v with
    | none => simp [compareFields, Tied]
    | some b => rw [compareFields_some hu hv, Tied, a.equals_iff_compare? b]

theorem compareFields_ne_gt_iff (hu : IsComparable u) (hv : IsComparable v) :
    compareFields u v ≠ .gt ↔ AtMost u v := by
  cases u with
  | none => cases v <;> simp [compareFields, AtMost]
  | some a =>
    cases v with
    | none => simp [compareFields, AtMost]
    | some b =>
      rw [AtMost, ← compareFields_some hu hv, ← compareFields_some hu hv]
      cases compareFields (some a) (some b) <;> simp

theorem compareFields_congr (hu : IsComparable u) (hv : IsComparable v)
    (h : compareFields u v = .eq) (w : Option Value) : compareFields u w = compareFields v w := by
  cases u with
  | none =>
    cases v with
    | none => rfl
    | some b => cases h
  | some a =>
    cases v with
    | none => cases h
    | some b =>
      cases w with
      | none => rfl
      | some c =>
        rw [compareFields, compareFields, a.compare?_congr b ((compareFields_some hu hv).mp h) c]

theorem compareFields_trans (hu : IsComparable u) (hv : IsComparable v) (hw : IsComparable w)
    (huv : compareFields u v = .lt) (hvw : compareFields v w = .lt) : compareFields u w = .lt := by
  cases w with
  | none => cases v <;> cases hvw
  | some c =>
    cases u with
    | none => rfl
    | some a =>
      cases v with
      | none => cases huv
      | some b =>
        rw [compareFields_some hu hv] at huv
        rw [compareFields_some hv hw] at hvw
        exact (compareFields_some hu hw).mpr (a.compare?_trans b c huv hvw)

/-- What is below a value is below any third value, or has that one below the value. -/
theorem compareFields_cotrans (hu : IsComparable u) (hv : IsComparable v) (hw : IsComparable w)
    (h : compareFields u w = .lt) : compareFields u v = .lt ∨ compareFields v w = .lt := by
  cases huv : compareFields u v with
  | lt => exact .inl rfl
  | eq => exact .inr (compareFields_congr hu hv huv w ▸ h)
  | gt =>
    have hvu : compareFields v u = .lt := by rw [compareFields_swap u v, huv]; rfl
    exact .inr (compareFields_trans hv hu hw hvu h)

theorem tied_comm : Tied u v ↔ Tied v u := by
  cases u <;> cases v <;> simp only [Tied, Value.equals_comm]

end SortKey

/-! ## Directions -/

namespace Direction

open ResourceApi.SortKey (AtMost IsComparable Tied)

/-- A value may stand before another one. -/
def Allows (d : Direction) (u v : Option Value) : Prop :=
  match d with
  | .ascending => AtMost u v
  | .descending => AtMost v u

/-- The comparison of fields in a direction. -/
def compareFields (d : Direction) (u v : Option Value) : Ordering :=
  match d with
  | .ascending => SortKey.compareFields u v
  | .descending => SortKey.compareFields v u

variable {d : Direction} {u v w : Option Value}

theorem compareFields_swap (d : Direction) (u v : Option Value) :
    d.compareFields v u = (d.compareFields u v).swap := by
  cases d with
  | ascending => exact SortKey.compareFields_swap u v
  | descending => exact SortKey.compareFields_swap v u

theorem compareFields_eq_iff (hu : IsComparable u) (hv : IsComparable v) :
    d.compareFields u v = .eq ↔ Tied u v := by
  cases d with
  | ascending => exact SortKey.compareFields_eq_iff hu hv
  | descending => exact (SortKey.compareFields_eq_iff hv hu).trans SortKey.tied_comm

theorem compareFields_ne_gt_iff (hu : IsComparable u) (hv : IsComparable v) :
    d.compareFields u v ≠ .gt ↔ d.Allows u v := by
  cases d with
  | ascending => exact SortKey.compareFields_ne_gt_iff hu hv
  | descending => exact SortKey.compareFields_ne_gt_iff hv hu

theorem compareFields_cotrans (hu : IsComparable u) (hv : IsComparable v) (hw : IsComparable w)
    (h : d.compareFields u w = .lt) :
    d.compareFields u v = .lt ∨ d.compareFields v w = .lt := by
  cases d with
  | ascending => exact SortKey.compareFields_cotrans hu hv hw h
  -- Downwards the three stand the other way round.
  | descending => exact (SortKey.compareFields_cotrans hw hv hu h).symm

end Direction

namespace SortKey

variable {E : Type} {field : E → String → Option Value} {key : SortKey} {a b : E}

theorem before_eq_true_iff : key.before field a b = true ↔
    key.direction.compareFields (field a key.field) (field b key.field) = .lt := by
  obtain ⟨name, d⟩ := key
  cases d with
  | ascending => exact beq_iff_eq
  | descending =>
    rw [before, beq_iff_eq, Direction.compareFields, compareFields_swap (field a name)]
    cases compareFields (field a name) (field b name) <;> simp

/-- **A sort key orders entities**, up to ties, as long as there is no NaN in the field. -/
theorem ordersOn_before (field : E → String → Option Value) (key : SortKey) :
    OrdersOn (key.before field) fun e => IsComparable (field e key.field) where
  asymm := by
    intro a b _ _ h
    rw [before_eq_true_iff] at h
    rw [← Bool.not_eq_true, before_eq_true_iff, Direction.compareFields_swap, h]
    decide
  cotrans := by
    intro a b c ha hb hc h
    rw [before_eq_true_iff] at h ⊢
    rw [before_eq_true_iff]
    exact Direction.compareFields_cotrans ha hb hc h

/-- Of two entities in order the first may stand before the second; and if they are tied, they stood
in this order before. -/
theorem allows_of_ranked (field : E → String → Option Value) {R : E → E → Prop}
    (ha : IsComparable (field a key.field)) (hb : IsComparable (field b key.field))
    (h : Ranked (key.before field) R a b) :
    key.direction.Allows (field a key.field) (field b key.field) ∧
      (Tied (field a key.field) (field b key.field) → R a b) := by
  rw [← Direction.compareFields_ne_gt_iff ha hb,
    ← Direction.compareFields_eq_iff (d := key.direction) ha hb]
  rcases h with h | ⟨h, hR⟩
  · rw [before_eq_true_iff] at h
    simp [h]
  · refine ⟨fun hgt => ?_, fun _ => hR⟩
    rw [← Bool.not_eq_true, before_eq_true_iff, Direction.compareFields_swap, hgt] at h
    exact h rfl

end SortKey

/-! ## Listings -/

open ResourceApi.SortKey (IsComparable Tied)

variable {E : Type} [Entity E]

namespace Store

/-- The committed entities that a filter admits, with their identifiers, in the order of a field. -/
def sorted (s : Store E) (filter : Option (Filter.Expression Value)) (key : SortKey) :
    List (Int × E) :=
  key.apply (fun entry => Entity.field entry.2) (s.admitted filter)

variable {s : Store E}

theorem select_of_sorted {q : Query} (hwindow : q.window = none) (key : SortKey) :
    s.select { q with sort := some key } = (s.sorted q.filter key).map Prod.snd := by
  rw [select_of_unpaged (q := { q with sort := some key }) hwindow]
  exact stableSort_map _ _

theorem sorted_pairwise {filter : Option (Filter.Expression Value)} (key : SortKey)
    (hcomparable : ∀ entry ∈ s.admitted filter, IsComparable (Entity.field entry.2 key.field)) :
    (s.sorted filter key).Pairwise fun a b =>
      key.direction.Allows (Entity.field a.2 key.field) (Entity.field b.2 key.field) ∧
        (Tied (Entity.field a.2 key.field) (Entity.field b.2 key.field) → a.1 < b.1) := by
  have hranked := stableSort_pairwise
    (SortKey.ordersOn_before (fun entry : Int × E => Entity.field entry.2) key) hcomparable
    (s.admitted_increasing filter)
  refine hranked.imp_of_mem fun {a b} ha hb hab => ?_
  have ha : a ∈ s.admitted filter := (mem_stableSort _).mp ha
  have hb : b ∈ s.admitted filter := (mem_stableSort _).mp hb
  exact SortKey.allows_of_ranked (fun entry : Int × E => Entity.field entry.2) (hcomparable a ha)
    (hcomparable b hb) hab

/-- If two entities are tied, the descending list is not the ascending one backwards: in both they
stand in the order of their identifiers. -/
theorem sorted_descending_ne_reverse {filter : Option (Filter.Expression Value)} {field : String}
    (hcomparable : ∀ entry ∈ s.admitted filter, IsComparable (Entity.field entry.2 field))
    {a b : Int × E} (ha : a ∈ s.admitted filter) (hb : b ∈ s.admitted filter) (hne : a ≠ b)
    (htied : Tied (Entity.field a.2 field) (Entity.field b.2 field)) :
    s.sorted filter ⟨field, .descending⟩ ≠ (s.sorted filter ⟨field, .ascending⟩).reverse := by
  intro hreverse
  have hup := sorted_pairwise ⟨field, .ascending⟩ hcomparable
  have hdown := sorted_pairwise ⟨field, .descending⟩ hcomparable
  rw [hreverse, List.pairwise_reverse] at hdown
  have huntied : (s.sorted filter ⟨field, .ascending⟩).Pairwise fun a b =>
      ¬ Tied (Entity.field a.2 field) (Entity.field b.2 field) := by
    refine hup.imp₂ (fun a b hab hba h => ?_) hdown
    have hlt : a.1 < b.1 := hab.2 h
    have hgt : b.1 < a.1 := hba.2 (SortKey.tied_comm.mp h)
    exact Int.lt_asymm hlt hgt
  have : Std.Symm fun a b : Int × E => ¬ Tied (Entity.field a.2 field) (Entity.field b.2 field) :=
    ⟨fun a b h hba => h (SortKey.tied_comm.mp hba)⟩
  exact huntied.forall ((mem_stableSort _).mpr ha) ((mem_stableSort _).mpr hb) hne htied

end Store

namespace Session

/-- **What a store lists in the order of a field.** Whatever is queried for without naming a page,
and whichever of its entities lack the field: unless NaN occurs in a value of the field, sorting by
the field rearranges the list, which was in the order of the identifiers, so that the values are in
order, and absent ones stand first when ascending and last when descending. In both directions
entities whose values are the same stay in the order of their identifiers; so if there are any, the
descending list is not the reverse of the ascending one. -/
theorem findAll_sorts (x : Session E) {q : Query} (hwindow : q.window = none) (field : String)
    (hcomparable : ∀ id e, x.store.get? id = some e → Query.admits q.filter (Entity.field e) →
      IsComparable (Entity.field e field)) :
    ∃ (unsorted : List (Int × E)) (sorted : Direction → List (Int × E)),
      (x.findAll { q with sort := none }).1 =
        x.store.faults.findAll.elim (.ok (unsorted.map Prod.snd)) .error ∧
      (∀ d, (x.findAll { q with sort := some ⟨field, d⟩ }).1 =
        x.store.faults.findAll.elim (.ok ((sorted d).map Prod.snd)) .error) ∧
      unsorted.Pairwise (fun a b => a.1 < b.1) ∧
      (∀ id e, (id, e) ∈ unsorted ↔
        x.store.get? id = some e ∧ Query.admits q.filter (Entity.field e)) ∧
      (∀ d, (sorted d).Perm unsorted ∧ (sorted d).Pairwise fun a b =>
        d.Allows (Entity.field a.2 field) (Entity.field b.2 field) ∧
          (Tied (Entity.field a.2 field) (Entity.field b.2 field) → a.1 < b.1)) ∧
      ((∃ a ∈ unsorted, ∃ b ∈ unsorted, a ≠ b ∧
          Tied (Entity.field a.2 field) (Entity.field b.2 field)) →
        sorted .descending ≠ (sorted .ascending).reverse) := by
  have hlist (q' : Query) :
      (x.findAll q').1 = x.store.faults.findAll.elim (.ok (x.store.select q')) .error := by
    rw [findAll]
    cases x.store.faults.findAll <;> rfl
  have hadmitted : ∀ entry ∈ x.store.admitted q.filter,
      IsComparable (Entity.field entry.2 field) := by
    rintro ⟨id, e⟩ hentry
    obtain ⟨hstored, hadmits⟩ := Store.mem_admitted_iff.mp hentry
    exact hcomparable id e hstored hadmits
  have hperm (d : Direction) :
      (x.store.sorted q.filter ⟨field, d⟩).Perm (x.store.admitted q.filter) :=
    stableSort_perm _ _
  have hsorted (d : Direction) := Store.sorted_pairwise ⟨field, d⟩ hadmitted
  refine ⟨x.store.admitted q.filter, fun d => x.store.sorted q.filter ⟨field, d⟩, ?_, fun d => ?_,
    x.store.admitted_increasing _, fun id e => Store.mem_admitted_iff,
    fun d => ⟨hperm d, hsorted d⟩, ?_⟩
  · rw [hlist, Store.select_of_unpaged (q := { q with sort := none }) hwindow]
  · rw [hlist, Store.select_of_sorted hwindow]
  · rintro ⟨a, ha, b, hb, hne, htied⟩
    exact Store.sorted_descending_ne_reverse hadmitted ha hb hne htied

/-- A stock of four items, two of them without a note. -/
def annotated : Session Item :=
  ⟨.ofList [⟨1, "pen", 5, none⟩, ⟨2, "ink", 8, some "b"⟩, ⟨3, "cup", 9, none⟩,
    ⟨4, "mug", 2, some "a"⟩], ∅⟩

/-- Of four items the two without a note come first when ascending and last when descending, and in
the order of their identifiers both times. -/
theorem findAll_sorts_annotated :
    ∃ up down, Query.build Item.schema .usual [("sort", "note.text")] = .ok up ∧
      Query.build Item.schema .usual [("sort", "note.text"), ("order", "desc")] = .ok down ∧
      (annotated.findAll up).1 = .ok [⟨1, "pen", 5, none⟩, ⟨3, "cup", 9, none⟩,
        ⟨4, "mug", 2, some "a"⟩, ⟨2, "ink", 8, some "b"⟩] ∧
      (annotated.findAll down).1 = .ok [⟨2, "ink", 8, some "b"⟩, ⟨4, "mug", 2, some "a"⟩,
        ⟨1, "pen", 5, none⟩, ⟨3, "cup", 9, none⟩] ∧
      ∃ sorted : Direction → List (Int × Item),
        (annotated.findAll up).1 = .ok ((sorted .ascending).map Prod.snd) ∧
        (annotated.findAll down).1 = .ok ((sorted .descending).map Prod.snd) ∧
        sorted .descending ≠ (sorted .ascending).reverse := by
  -- A note is a text, if it is there at all.
  have hcomparable (e : Item) : IsComparable (Entity.field e "note.text") := by
    intro v hv
    obtain ⟨note, -, rfl⟩ := Option.map_eq_some_iff.mp hv
    rfl
  obtain ⟨unsorted, sorted, -, hsorted, -, hunsorted, -, hreverse⟩ :=
    findAll_sorts annotated (q := ⟨none, none, none⟩) rfl "note.text" fun _ e _ _ => hcomparable e
  refine ⟨_, _, rfl, rfl, rfl, rfl, sorted, hsorted .ascending, hsorted .descending, hreverse ?_⟩
  exact ⟨(1, ⟨1, "pen", 5, none⟩), (hunsorted ..).mpr ⟨rfl, rfl⟩, (3, ⟨3, "cup", 9, none⟩),
    (hunsorted ..).mpr ⟨rfl, rfl⟩, by decide, trivial⟩

end Session

end ResourceApi
