import ResourceApi.Catalog.Item
import ResourceApi.Proofs.Store.History

/-!
# Two transactions that write one identifier

One transaction commits a write under an identifier while another one has a write staged there. The
later commit looks only at whether the identifier is taken: it fails when that contradicts what it
has staged, and otherwise what the earlier one committed is overwritten.

## Main definitions

- `Staged.Clashes` — a staged change that a committed one makes impossible
- `World.Overtakes` — one transaction commits under an identifier before another one does
- `World.BlockedElsewhere` — a commit is blocked at some other identifier
-/

namespace ResourceApi

variable {τ E : Type}

/-- A staged change that cannot follow a committed one under the same identifier: an insert where
the other has left an entity, or an update where it has left none. -/
def Staged.Clashes : Staged E → Staged E → Prop
  | .insert _, theirs => theirs.value?.isSome
  | .update _, theirs => theirs.value? = none
  | .delete, _ => False

theorem Store.contradicts_iff_clashes {s : Store E} {id : Int} {theirs : Staged E}
    (h : s.get? id = theirs.value?) (mine : Staged E) :
    s.contradicts id mine = true ↔ mine.Clashes theirs := by
  rw [Store.contradicts_iff, h]
  cases mine <;> simp [Staged.Clashes]

namespace World

variable [DecidableEq τ] [Entity E]

/-- The transaction `early` commits a write of an identifier while `late` has one staged there.
In the steps that follow nobody else commits a write of the identifier, and `late` stages nothing
further on it. -/
structure Overtakes (w : World τ E) (early late : τ) (id : Int) (theirs mine : Staged E)
    (between : List (Step τ E)) : Prop where
  distinct : late ≠ early
  staged : (w.writes late)[id]? = some mine
  written : (w.writes early)[id]? = some theirs
  committed : (w.step (.commit early)).1 = .done
  quiet : ∀ layer ∈ (w.step (.commit early)).2.publications between, layer[id]? = none
  held : ((((w.step (.commit early)).2.run between).2).writes late)[id]? = some mine

/-- A commit is blocked by a planted fault or at an identifier other than the given one. -/
def BlockedElsewhere (w : World τ E) (tx : τ) (id : Int) : Prop :=
  w.store.faults.commit.isSome ∨
    ∃ other change, other ≠ id ∧ (w.writes tx)[other]? = some change ∧
      w.store.contradicts other change = true

omit [DecidableEq τ] [Entity E] in
/-- Of all that can block a commit one identifier is taken out. -/
theorem commitBlocked_iff_at {w : World τ E} {tx : τ} {id : Int} {mine : Staged E}
    (h : (w.writes tx)[id]? = some mine) :
    w.CommitBlocked tx ↔ w.store.contradicts id mine = true ∨ w.BlockedElsewhere tx id := by
  rw [commitBlocked_iff]
  constructor
  · rintro (hfault | ⟨other, change, hother, hc⟩)
    · exact .inr (.inl hfault)
    -- One change is staged under the identifier, so a contradiction there is one of that change.
    · by_cases he : other = id
      · subst he
        have hsame : change = mine := Option.some.inj (hother.symm.trans h)
        exact .inl (hsame ▸ hc)
      · exact .inr (.inr ⟨other, change, he, hother, hc⟩)
  · rintro (hc | hfault | ⟨other, change, -, hother, hc⟩)
    · exact .inr ⟨id, mine, h, hc⟩
    · exact .inl hfault
    · exact .inr ⟨other, change, hother, hc⟩

variable {w : World τ E} {early late : τ} {id : Int} {theirs mine : Staged E}
  {between : List (Step τ E)}

/-- What the earlier transaction has written stands until the later one commits. -/
theorem Overtakes.get? (h : w.Overtakes early late id theirs mine between) :
    (w.step (.commit early)).2.store.get? id = theirs.value? ∧
      ((w.step (.commit early)).2.run between).2.store.get? id = theirs.value? := by
  have hleft : (w.step (.commit early)).2.store.get? id = theirs.value? := by
    rw [step_get?, published?_commit_of_done h.committed]
    exact overlay_of_staged h.written
  refine ⟨hleft, ?_⟩
  rw [run_get?, foldl_overlay_of_unstaged h.quiet]
  exact hleft

/-- **The later of two commits on one identifier**:

* it fails exactly when what it has staged clashes with what the earlier one committed, or when it
  is blocked for a reason that has nothing to do with the identifier;
* if it fails, the committed entities stay as they were, and under the identifier as the earlier
  commit left it;
* if it succeeds, what the earlier one committed under the identifier is overwritten. -/
theorem late_commit_fails_iff (h : w.Overtakes early late id theirs mine between) :
    let left := (w.step (.commit early)).2
    let v := (left.run between).2
    let after := v.step (.commit late)
    ((∃ failure, after.1 = .failed failure) ↔
        mine.Clashes theirs ∨ v.BlockedElsewhere late id) ∧
      ((∃ failure, after.1 = .failed failure) →
        after.2.store.entities = v.store.entities ∧
          after.2.store.get? id = left.store.get? id) ∧
      ((¬ ∃ failure, after.1 = .failed failure) →
        after.2.store.get? id = mine.value?) := by
  intro left v after
  obtain ⟨hleft, hbefore⟩ := h.get?
  -- At the identifier the later commit finds what the earlier one has left.
  have hblocked : v.CommitBlocked late ↔ mine.Clashes theirs ∨ v.BlockedElsewhere late id := by
    rw [commitBlocked_iff_at h.held, Store.contradicts_iff_clashes hbefore]
  rcases v.step_commit_cases late with
    ⟨failure, hanswer, hcase, hentities, -⟩ | ⟨hanswer, hfree, hget, -⟩
  · refine ⟨⟨fun _ => hblocked.mp hcase, fun _ => ⟨failure, hanswer⟩⟩, fun _ => ⟨hentities, ?_⟩,
      fun hno => absurd ⟨failure, hanswer⟩ hno⟩
    calc after.2.store.get? id
        = v.store.get? id := by simp only [after, Store.get?, hentities]
      _ = theirs.value? := hbefore
      _ = left.store.get? id := hleft.symm
  · have hno : ¬ ∃ failure, after.1 = .failed failure := by
      rintro ⟨failure, hfailed⟩
      rw [hanswer] at hfailed
      cases hfailed
    refine ⟨⟨fun hyes => absurd hyes hno, fun hcase => absurd (hblocked.mpr hcase) hfree⟩,
      fun hyes => absurd hyes hno, fun _ => ?_⟩
    rw [hget]
    exact overlay_of_staged h.held

/-- A stock of two items, with an insert of the same new item staged twice. -/
def doubleInsert : World Nat Item :=
  ((ofStore (.ofList [⟨1, "pen", 5, none⟩, ⟨2, "ink", 8, none⟩]) : World Nat Item).run
    [.begin 0, .begin 1, .insert 0 ⟨7, "cap", 1, none⟩, .insert 1 ⟨7, "cup", 2, none⟩]).2

theorem late_insert_fails :
    let between : List (Step Nat Item) := [.update 0 ⟨1, "pen", 6, none⟩, .find 7]
    let v := ((doubleInsert.step (.commit 1)).2.run between).2
    doubleInsert.Overtakes 1 0 7 (.insert ⟨7, "cup", 2, none⟩) (.insert ⟨7, "cap", 1, none⟩)
        between ∧
      (∃ failure, (v.step (.commit 0)).1 = .failed failure) ∧
      (v.step (.commit 0)).2.store.get? 7 = some ⟨7, "cup", 2, none⟩ := by
  intro between v
  have h : doubleInsert.Overtakes 1 0 7 (.insert ⟨7, "cup", 2, none⟩)
      (.insert ⟨7, "cap", 1, none⟩) between :=
    ⟨by decide, rfl, rfl, rfl, fun _ hl => absurd hl List.not_mem_nil, rfl⟩
  obtain ⟨hiff, hkept, -⟩ := late_commit_fails_iff h
  have hfails := hiff.mpr (.inl rfl)
  exact ⟨h, hfails, (hkept hfails).2⟩

/-- A stock of one item, with two updates of it staged. -/
def doubleUpdate : World Nat Item :=
  ((ofStore (.ofList [⟨1, "pen", 5, none⟩]) : World Nat Item).run
    [.begin 0, .begin 1, .update 0 ⟨1, "pen", 6, none⟩, .update 1 ⟨1, "nib", 5, none⟩]).2

/-- An update that follows an update goes through, and the first one is lost. -/
theorem late_update_overwrites :
    doubleUpdate.Overtakes 1 0 1 (.update ⟨1, "nib", 5, none⟩) (.update ⟨1, "pen", 6, none⟩) [] ∧
      (doubleUpdate.step (.commit 1)).2.store.get? 1 = some ⟨1, "nib", 5, none⟩ ∧
      (((doubleUpdate.step (.commit 1)).2.step (.commit 0)).1 = .done) ∧
      ((doubleUpdate.step (.commit 1)).2.step (.commit 0)).2.store.get? 1 =
        some ⟨1, "pen", 6, none⟩ :=
  ⟨⟨by decide, rfl, rfl, rfl, fun _ hl => absurd hl List.not_mem_nil, rfl⟩, rfl, rfl, rfl⟩

end World

end ResourceApi
