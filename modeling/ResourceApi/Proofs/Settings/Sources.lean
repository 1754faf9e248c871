import ResourceApi.Proofs.Settings.Layers
import ResourceApi.Proofs.Toml.Names
import ResourceApi.Settings.Basic

/-!
# Sources of settings

The sources that a service reads its settings from: the environment and the settings files, each a
table in which no table names anything twice.

## Main definitions

- `Settings.sources` — the sources of a service, strongest first

## Main results

- `Variable.read_distinct`, `Variable.isSource_tree` — the environment
- `Settings.isSource_ofFile` — a settings file
- `Settings.load_eq_some_iff` — settings come from the sources on top of the standard ones
-/

namespace ResourceApi

namespace Variable

variable {cs rest : List Char} {t : Tree}

/-! ## The environment -/

theorem distinct_plain (cs : List Char) : (plain cs).Distinct := by
  rw [plain]
  split
  next => exact .other (by simp)
  next =>
    split
    next => exact .other (by simp)
    next => split <;> exact .other (by simp)

theorem distinct_scanCharacter (h : scanCharacter cs = some (t, rest)) : t.Distinct := by
  rw [scanCharacter.eq_def] at h
  split at h
  next => cases h; exact .other (by simp)
  next => cases h

/-- With some fuel only values are read that name nothing twice. -/
def ValuesDistinct (fuel : Nat) : Prop :=
  ∀ ⦃cs t rest⦄, scanValue fuel cs = some (t, rest) → t.Distinct

/-- With some fuel only entries are read whose values name nothing twice. -/
def EntriesDistinct (fuel : Nat) : Prop :=
  ∀ ⦃cs entries rest⦄, scanEntries fuel cs = some (entries, rest) →
    ∀ entry ∈ entries, entry.2.Distinct

theorem EntriesDistinct.values_succ {fuel : Nat} (hentries : EntriesDistinct fuel) :
    ValuesDistinct (fuel + 1) := by
  intro cs t rest h
  simp only [scanValue, Option.bind_eq_bind] at h
  split at h
  all_goals
    obtain ⟨⟨value, behind⟩, hvalue, h⟩ := Option.bind_eq_some_iff.mp h
    cases h
  · cases hvalue; exact .other (by simp)
  · cases hvalue; exact .other (by simp)
  · obtain ⟨⟨entries, _⟩, hread, heq⟩ := Option.map_eq_some_iff.mp hvalue
    cases heq
    exact .collect (hentries hread)
  · obtain ⟨_, -, heq⟩ := Option.map_eq_some_iff.mp hvalue
    cases heq
    exact .other (by simp)
  · obtain ⟨_, -, heq⟩ := Option.map_eq_some_iff.mp hvalue
    cases heq
    exact .other (by simp)
  · exact distinct_scanCharacter hvalue
  · obtain ⟨rfl, -⟩ := Prod.mk.inj (Option.some.inj hvalue)
    exact distinct_plain _

theorem EntriesDistinct.succ {fuel : Nat} (hvalues : ValuesDistinct fuel)
    (hentries : EntriesDistinct fuel) : EntriesDistinct (fuel + 1) := by
  intro cs entries rest h
  rw [scanEntries.eq_def] at h
  dsimp only at h
  split at h
  next => cases h
  next => cases h; simp
  next heq _ =>
    cases heq
    simp only [Option.bind_eq_bind, Option.bind_eq_some_iff] at h
    obtain ⟨⟨name, cs'⟩, -, h⟩ := h
    split at h
    next =>
      obtain ⟨⟨value, cs''⟩, hvalue, h⟩ := Option.bind_eq_some_iff.mp h
      have hvalue' : value.Distinct := hvalues hvalue
      split at h
      next =>
        obtain ⟨⟨behind, _⟩, hbehind, h⟩ := Option.bind_eq_some_iff.mp h
        cases h
        exact List.forall_mem_cons.mpr ⟨hvalue', hentries hbehind⟩
      next => cases h; simpa using hvalue'
      next => cases h
    next => cases h

theorem distinct_scan (fuel : Nat) : ValuesDistinct fuel ∧ EntriesDistinct fuel := by
  induction fuel with
  | zero =>
    refine ⟨fun cs t rest h => ?_, fun cs entries rest h => ?_⟩
    · rw [scanValue] at h; cases h
    · rw [scanEntries] at h; cases h
  | succ fuel ih => exact ⟨ih.2.values_succ, ih.2.succ ih.1⟩

/-- The value of a variable names nothing twice. -/
theorem read_distinct (value : String) : (read value).Distinct := by
  simp only [read]
  split
  next tree h => exact (distinct_scan _).1 h
  next => exact .other (by simp)

theorem path_ne_nil {name : String} {path : List String} (h : path? name = some path) :
    path ≠ [] := by
  simp only [path?] at h
  split at h
  next =>
    split at h
    next => cases h
    next =>
      obtain rfl := Option.some.inj h
      simpa using Text.pieces_ne_nil _ _
  next => cases h

/-- **An environment is a table in which no table names anything twice.** -/
theorem isSource_tree (environment : List (String × String)) : (tree environment).IsSource := by
  refine List.foldlRecOn environment _ ⟨.empty, [], rfl⟩ fun under hunder entry _ => ?_
  split
  next path hpath => exact hunder.layer (.nest (read_distinct entry.2) (path_ne_nil hpath))
  next => exact hunder

end Variable

namespace Settings

variable {name text : String} {file : SettingsPlace → Option String}
  {environment : List (String × String)} {s : Settings} {t : Tree}

/-! ## Files -/

/-- **A settings file is a table in which no table names anything twice.** -/
theorem isSource_ofFile (h : ofFile text = some t) : t.IsSource := by
  rw [ofFile, Option.bind_eq_bind, Option.bind_eq_some_iff] at h
  obtain ⟨whole, hwhole, h⟩ := h
  obtain ⟨hdistinct, entries, rfl⟩ := Toml.isSource_of_read hwhole
  obtain ⟨inner, hinner, rfl⟩ := Option.map_eq_some_iff.mp h
  refine ⟨.table ?_ (Tree.Distinct.unboxEntries entries hdistinct.values hinner), inner, rfl⟩
  rw [Tree.Distinct.unboxEntries_names hinner]
  exact hdistinct.names

/-! ## All sources -/

/-- The sources of a service, strongest first: the environment and the settings files. -/
def sources (file : SettingsPlace → Option String) (environment : List (String × String)) :
    List Tree :=
  Variable.tree environment :: (SettingsPlace.all.filterMap file).filterMap ofFile

theorem isSource_of_mem_sources (h : t ∈ sources file environment) : t.IsSource := by
  rcases List.mem_cons.mp h with rfl | h
  · exact Variable.isSource_tree environment
  · obtain ⟨text, -, htext⟩ := List.mem_filterMap.mp h
    exact isSource_ofFile htext

theorem mapM_eq_some_iff {α β : Type} {f : α → Option β} {xs : List α} {ys : List β} :
    xs.mapM f = some ys ↔ (∀ x ∈ xs, (f x).isSome) ∧ xs.filterMap f = ys := by
  induction xs generalizing ys with
  | nil => simp
  | cons x xs ih =>
    cases hx : f x with
    | none => simp [hx]
    | some y =>
      rw [List.mapM_cons, List.filterMap_cons_some hx, List.forall_mem_cons]
      simp only [hx, Option.bind_eq_bind, Option.bind_some, Option.bind_eq_some_iff, ih,
        Option.isSome_some, true_and]
      constructor
      · rintro ⟨_, ⟨hxs, rfl⟩, h⟩
        exact ⟨hxs, by simpa using h⟩
      · rintro ⟨hxs, rfl⟩
        exact ⟨_, ⟨hxs, rfl⟩, rfl⟩

theorem forall_mem_files_iff {p : String → Prop} :
    (∀ text ∈ SettingsPlace.all.filterMap file, p text) ↔
      ∀ place text, file place = some text → p text := by
  simp only [List.mem_filterMap]
  constructor
  · exact fun h place text htext => h text ⟨place, by cases place <;> decide, htext⟩
  · rintro h text ⟨place, -, htext⟩
    exact h place text htext

/-- **The settings of a service** are what its sources on top of the standard settings hold, and
every settings file that there is has to be a source. -/
theorem load_eq_some_iff :
    load name file environment = some s ↔
      (∀ place text, file place = some text → (ofFile text).isSome) ∧
        ofTree (Tree.heap (sources file environment) (standard name).tree) = some s := by
  have hheap : Tree.heap (sources file environment) (standard name).tree =
      (((SettingsPlace.all.reverse.filterMap file).filterMap ofFile).foldl Tree.layer
        (standard name).tree).layer (Variable.tree environment) := by
    rw [List.filterMap_reverse, List.filterMap_reverse, List.foldl_reverse]
    rfl
  rw [load, combine, Option.bind_eq_bind, Option.bind_eq_some_iff, hheap,
    ← forall_mem_files_iff (p := fun text => (ofFile text).isSome)]
  simp only [mapM_eq_some_iff, List.filterMap_reverse, List.mem_reverse]
  constructor
  · rintro ⟨_, ⟨hfiles, rfl⟩, h⟩
    exact ⟨hfiles, h⟩
  · rintro ⟨hfiles, h⟩
    exact ⟨_, ⟨hfiles, rfl⟩, h⟩

end Settings

end ResourceApi
