import ResourceApi.Store.Session

/-!
# Write sets over a store

A write set read as a layer: under each identifier it shows what it stages, and below it what was
there before. Applying a write set to a store is laying it over the committed entities, and a
conflict is a single identifier at which the two contradict each other.

## Main definitions

- `Staged.value?` — what a staged change leaves under its identifier
- `overlay` — a write set over a base
- `Store.Contradicted` — the committed entities contradict some staged change
-/

namespace ResourceApi

variable {E : Type}

/-- What a staged change leaves under its identifier. -/
def Staged.value? : Staged E → Option E
  | .insert e | .update e => some e
  | .delete => none

/-- What stands under an identifier when a write set lies over a base. -/
def overlay (base : Int → Option E) (writes : WriteSet E) (id : Int) : Option E :=
  match writes[id]? with
  | some change => change.value?
  | none => base id

theorem overlay_of_staged {base : Int → Option E} {writes : WriteSet E} {id : Int}
    {change : Staged E} (h : writes[id]? = some change) :
    overlay base writes id = change.value? := by
  simp only [overlay, h]

theorem overlay_of_unstaged {base : Int → Option E} {writes : WriteSet E} {id : Int}
    (h : writes[id]? = none) : overlay base writes id = base id := by
  simp only [overlay, h]

/-- Layers that say nothing of an identifier leave it as it is. -/
theorem foldl_overlay_of_unstaged {layers : List (WriteSet E)} {id : Int}
    (h : ∀ layer ∈ layers, layer[id]? = none) (base : Int → Option E) :
    layers.foldl overlay base id = base id := by
  induction layers generalizing base with
  | nil => rfl
  | cons layer layers ih =>
    have hrest : ∀ other ∈ layers, other[id]? = none := fun other ho =>
      h other (List.mem_cons_of_mem _ ho)
    rw [List.foldl_cons, ih hrest, overlay_of_unstaged (h layer (List.mem_cons_self ..))]

namespace Store

theorem contains_entities (s : Store E) (id : Int) :
    s.entities.contains id = (s.get? id).isSome :=
  Std.ExtTreeMap.contains_eq_isSome_getElem?

theorem entities_ext {s s' : Store E} (h : ∀ id, s.get? id = s'.get? id) :
    s.entities = s'.entities :=
  Std.ExtTreeMap.ext_getElem? fun {id} => h id

/-! ## One staged change -/

theorem get?_applyStaged (s : Store E) (id other : Int) (change : Staged E) :
    (s.applyStaged id change).get? other = if other = id then change.value? else s.get? other := by
  cases change <;>
    simp only [applyStaged, get?, Staged.value?, Std.ExtTreeMap.getElem?_insert,
      Std.ExtTreeMap.getElem?_erase, Std.compare_eq_iff_eq, @eq_comm _ other]

@[simp] theorem tally_applyStaged (s : Store E) (id : Int) (change : Staged E) :
    (s.applyStaged id change).tally = s.tally := by
  cases change <;> rfl

/-! ## A whole write set -/

def applyList (s : Store E) (changes : List (Int × Staged E)) : Store E :=
  changes.foldl (fun s entry => s.applyStaged entry.1 entry.2) s

theorem get?_applyList_of_unstaged {id : Int} {changes : List (Int × Staged E)}
    (h : ∀ entry ∈ changes, entry.1 ≠ id) (s : Store E) :
    (s.applyList changes).get? id = s.get? id := by
  induction changes generalizing s with
  | nil => rfl
  | cons entry changes ih =>
    have hne : id ≠ entry.1 := fun he => h entry (List.mem_cons_self ..) he.symm
    have hrest : ∀ other ∈ changes, other.1 ≠ id := fun other ho =>
      h other (List.mem_cons_of_mem _ ho)
    rw [applyList, List.foldl_cons, ← applyList, ih hrest, get?_applyStaged, if_neg hne]

/-- The identifiers are distinct, so what one change leaves behind no later one touches. -/
theorem get?_applyList_of_staged {id : Int} {change : Staged E}
    {changes : List (Int × Staged E)} (hd : changes.Pairwise (fun a b => a.1 ≠ b.1))
    (h : (id, change) ∈ changes) (s : Store E) :
    (s.applyList changes).get? id = change.value? := by
  induction changes generalizing s with
  | nil => simp at h
  | cons entry changes ih =>
    obtain ⟨hfirst, hrest⟩ := List.pairwise_cons.mp hd
    rw [applyList, List.foldl_cons, ← applyList]
    rcases List.mem_cons.mp h with rfl | h
    -- The change is the first one, and the others leave its identifier alone.
    · have hother : ∀ other ∈ changes, other.1 ≠ id := fun other ho => (hfirst other ho).symm
      rw [get?_applyList_of_unstaged hother, get?_applyStaged, if_pos rfl]
    · exact ih hrest h _

theorem applyAll_eq_applyList (s : Store E) (writes : WriteSet E) :
    s.applyAll writes = s.applyList writes.toList := rfl

theorem toList_distinct (writes : WriteSet E) :
    writes.toList.Pairwise (fun a b => a.1 ≠ b.1) := by
  refine Std.ExtTreeMap.distinct_keys_toList.imp ?_
  intro a b hne he
  exact hne (Std.compare_eq_iff_eq.mpr he)

/-- Applying a write set lays it over the committed entities. -/
theorem get?_applyAll (s : Store E) (writes : WriteSet E) (id : Int) :
    (s.applyAll writes).get? id = overlay s.get? writes id := by
  rw [applyAll_eq_applyList]
  -- The identifier is either staged once or not at all.
  cases hw : writes[id]? with
  | some change =>
    have hmem : (id, change) ∈ writes.toList :=
      Std.ExtTreeMap.mem_toList_iff_getElem?_eq_some.mpr hw
    rw [get?_applyList_of_staged (toList_distinct writes) hmem, overlay_of_staged hw]
  | none =>
    have hother : ∀ entry ∈ writes.toList, entry.1 ≠ id := by
      rintro ⟨other, change⟩ hmem rfl
      have hsome := Std.ExtTreeMap.mem_toList_iff_getElem?_eq_some.mp hmem
      rw [hw] at hsome
      cases hsome
    rw [get?_applyList_of_unstaged hother, overlay_of_unstaged hw]

theorem applyList_keeps {α : Type} (view : Store E → α)
    (h : ∀ (s : Store E) id change, view (s.applyStaged id change) = view s)
    (s : Store E) (changes : List (Int × Staged E)) : view (s.applyList changes) = view s := by
  induction changes generalizing s with
  | nil => rfl
  | cons entry changes ih =>
    rw [applyList, List.foldl_cons, ← applyList, ih, h]

@[simp] theorem tally_applyAll (s : Store E) (writes : WriteSet E) :
    (s.applyAll writes).tally = s.tally :=
  applyList_keeps Store.tally tally_applyStaged s writes.toList

/-! ## Conflicts -/

/-- Some staged insert is onto a taken identifier, or some staged update of a free one. -/
def Contradicted (s : Store E) (writes : WriteSet E) : Prop :=
  ∃ id change, writes[id]? = some change ∧ s.contradicts id change = true

theorem contradicts_iff (s : Store E) (id : Int) (change : Staged E) :
    s.contradicts id change = true ↔
      ((∃ e, change = .insert e) ∧ (s.get? id).isSome) ∨
        ((∃ e, change = .update e) ∧ s.get? id = none) := by
  cases change <;> simp [contradicts, contains_entities]

theorem conflict?_isSome_iff (s : Store E) (writes : WriteSet E) :
    (s.conflict? writes).isSome ↔ s.Contradicted writes := by
  rw [conflict?, Option.isSome_map, List.find?_isSome]
  constructor
  · rintro ⟨⟨id, change⟩, hmem, hc⟩
    exact ⟨id, change, Std.ExtTreeMap.mem_toList_iff_getElem?_eq_some.mp hmem, hc⟩
  · rintro ⟨id, change, hw, hc⟩
    exact ⟨(id, change), Std.ExtTreeMap.mem_toList_iff_getElem?_eq_some.mpr hw, hc⟩

end Store

end ResourceApi
