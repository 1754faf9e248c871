import ResourceApi.Proofs.Settings.Layers
import ResourceApi.Toml.Document

/-!
# Names in a TOML text

A TOML text that is read stands for a table, and neither this table nor one inside it names anything
twice: a key that is taken is refused, and a header that names a table again leads into it.

## Main definitions

- `Toml.Distinct` — no table that is being built up names anything twice
- `Toml.Keeps` — a change of what stands under a name leaves it so
- `Toml.ValuesDistinct`, `Toml.PairsDistinct` — what is read with some fuel

## Main results

- `Toml.distinct_alter` — one entry changed
- `Toml.distinct_put`, `Toml.distinct_alterAt`, `Toml.distinct_within` — a change further inside
- `Toml.distinct_scan` — values, and tables on one line, by induction on the fuel
- `Toml.isSource_of_read` — whole texts
-/

namespace ResourceApi.Toml

variable {entries found : Entries} {name key : String} {path : List String} {value t : Tree}
  {cs rest : List Char}

theorem treesOf_eq_map (entries : Entries) :
    treesOf entries = entries.map fun entry => (entry.1, entry.2.tree) := by
  induction entries with
  | nil => rfl
  | cons entry entries ih => rw [treesOf, ih, List.map_cons]

/-- No table that is being built up names anything twice. -/
def Distinct (entries : Entries) : Prop := (Tree.table (treesOf entries)).Distinct

theorem distinct_iff :
    Distinct entries ↔
      (entries.map Prod.fst).Nodup ∧ ∀ entry ∈ entries, entry.2.tree.Distinct := by
  have hnames : (treesOf entries).map Prod.fst = entries.map Prod.fst := by
    rw [treesOf_eq_map, List.map_map]
    rfl
  constructor
  · intro h
    refine ⟨hnames ▸ h.names, fun entry hentry => h.values (entry.1, entry.2.tree) ?_⟩
    rw [treesOf_eq_map]
    exact List.mem_map_of_mem (f := fun entry : String × Entry => (entry.1, entry.2.tree)) hentry
  · rintro ⟨hnodup, hvalues⟩
    refine .table (hnames ▸ hnodup) fun entry hentry => ?_
    rw [treesOf_eq_map] at hentry
    obtain ⟨source, hsource, rfl⟩ := List.mem_map.mp hentry
    exact hvalues source hsource

theorem distinct_nil : Distinct [] := .empty

theorem distinct_tables (elements : List Entries) : (Entry.tables elements).tree.Distinct :=
  .other (by simp [Entry.tree])

/-! ## Changes -/

/-- A change of what stands under a name brings in no table that names something twice. -/
def Keeps (change : Option Entry → Option Entry) : Prop :=
  ∀ old new, (∀ entry ∈ old, entry.tree.Distinct) → change old = some new → new.tree.Distinct

theorem names_alter {change : Option Entry → Option Entry}
    (h : alter name change entries = some found) (hkey : key ∈ found.map Prod.fst) :
    key = name ∨ key ∈ entries.map Prod.fst := by
  induction entries generalizing found with
  | nil =>
    obtain ⟨entry, -, rfl⟩ := Option.map_eq_some_iff.mp h
    simpa using hkey
  | cons entry entries ih =>
    obtain ⟨first, entry⟩ := entry
    rw [alter] at h
    split at h
    next =>
      obtain ⟨entry', -, rfl⟩ := Option.map_eq_some_iff.mp h
      exact .inr hkey
    next =>
      obtain ⟨behind, hbehind, rfl⟩ := Option.map_eq_some_iff.mp h
      rcases List.mem_cons.mp hkey with rfl | hkey
      · exact .inr List.mem_cons_self
      · exact (ih hbehind hkey).imp_right (List.mem_cons_of_mem _)

theorem distinct_alter {change : Option Entry → Option Entry} (hkeeps : Keeps change)
    (hdistinct : Distinct entries) (h : alter name change entries = some found) :
    Distinct found := by
  induction entries generalizing found with
  | nil =>
    obtain ⟨entry, hentry, rfl⟩ := Option.map_eq_some_iff.mp h
    have htree : entry.tree.Distinct := hkeeps none entry (by simp) hentry
    exact distinct_iff.mpr ⟨by simp, by simpa using htree⟩
  | cons entry entries ih =>
    obtain ⟨first, entry⟩ := entry
    obtain ⟨hnodup, hvalues⟩ := distinct_iff.mp hdistinct
    obtain ⟨hfirst, hnodup'⟩ := List.nodup_cons.mp hnodup
    obtain ⟨hentry, hvalues'⟩ := List.forall_mem_cons.mp hvalues
    rw [alter] at h
    split at h
    next =>
      obtain ⟨entry', hentry', rfl⟩ := Option.map_eq_some_iff.mp h
      have htree : entry'.tree.Distinct :=
        hkeeps (some entry) entry' (by simpa using hentry) hentry'
      exact distinct_iff.mpr ⟨hnodup, List.forall_mem_cons.mpr ⟨htree, hvalues'⟩⟩
    next hname =>
      obtain ⟨behind, hbehind, rfl⟩ := Option.map_eq_some_iff.mp h
      obtain ⟨hnodup'', hvalues''⟩ :=
        distinct_iff.mp (ih (distinct_iff.mpr ⟨hnodup', hvalues'⟩) hbehind)
      have hfirst' : first ∉ behind.map Prod.fst := fun hmem =>
        (names_alter hbehind hmem).elim (by simpa using hname) hfirst
      exact distinct_iff.mpr ⟨List.nodup_cons.mpr ⟨hfirst', hnodup''⟩,
        List.forall_mem_cons.mpr ⟨hentry, hvalues''⟩⟩

theorem distinct_put (hvalue : value.Distinct) (hdistinct : Distinct entries)
    (h : put value path entries = some found) : Distinct found := by
  induction path generalizing entries found with
  | nil => cases h
  | cons name path ih =>
    cases path with
    | nil =>
      refine distinct_alter (fun old new _ hnew => ?_) hdistinct h
      cases old with
      | none => cases hnew; exact hvalue
      | some _ => cases hnew
    | cons next path =>
      refine distinct_alter (fun old new hold hnew => ?_) hdistinct h
      match old with
      | none =>
        obtain ⟨inner, hinner, rfl⟩ := Option.map_eq_some_iff.mp hnew
        exact ih distinct_nil hinner
      | some (.table origin inner) =>
        dsimp only at hnew
        split at hnew
        next =>
          obtain ⟨inner', hinner, rfl⟩ := Option.map_eq_some_iff.mp hnew
          exact ih (hold _ rfl) hinner
        next => cases hnew
      | some (.tables elements) =>
        dsimp only at hnew
        split at hnew
        next => cases hnew
        next =>
          obtain ⟨elements', -, rfl⟩ := Option.map_eq_some_iff.mp hnew
          exact distinct_tables elements'
      | some (.value _) => cases hnew

theorem distinct_alterAt {change : Option Entry → Option Entry} (hkeeps : Keeps change)
    (hdistinct : Distinct entries) (h : alterAt change path entries = some found) :
    Distinct found := by
  induction path generalizing entries found with
  | nil => cases h
  | cons name path ih =>
    cases path with
    | nil => exact distinct_alter hkeeps hdistinct h
    | cons next path =>
      refine distinct_alter (fun old new hold hnew => ?_) hdistinct h
      match old with
      | none =>
        obtain ⟨inner, hinner, rfl⟩ := Option.map_eq_some_iff.mp hnew
        exact ih distinct_nil hinner
      | some (.table origin inner) =>
        obtain ⟨inner', hinner, rfl⟩ := Option.map_eq_some_iff.mp hnew
        exact ih (hold _ rfl) hinner
      | some (.tables elements) =>
        obtain ⟨elements', -, rfl⟩ := Option.map_eq_some_iff.mp hnew
        exact distinct_tables elements'
      | some (.value _) => cases hnew

theorem distinct_declare (hdistinct : Distinct entries) (h : declare path entries = some found) :
    Distinct found := by
  refine distinct_alterAt (fun old new hold hnew => ?_) hdistinct h
  match old with
  | none => cases hnew; exact distinct_nil
  | some (.table .implied inner) => cases hnew; exact hold (.table .implied inner) rfl
  | some (.table .dotted _) | some (.table .opened _) | some (.tables _) | some (.value _) =>
    cases hnew

theorem distinct_append (hdistinct : Distinct entries) (h : append path entries = some found) :
    Distinct found := by
  refine distinct_alterAt (fun old new _ hnew => ?_) hdistinct h
  match old with
  | none | some (.tables _) => cases hnew; exact distinct_tables _
  | some (.table _ _) | some (.value _) => cases hnew

theorem distinct_within {change : Entries → Option Entries}
    (hchange : ∀ {entries found}, Distinct entries → change entries = some found → Distinct found)
    (hdistinct : Distinct entries) (h : within change path entries = some found) :
    Distinct found := by
  induction path generalizing entries found with
  | nil => exact hchange hdistinct h
  | cons name path ih =>
    refine distinct_alter (fun old new hold hnew => ?_) hdistinct h
    match old with
    | some (.table origin inner) =>
      obtain ⟨inner', hinner, rfl⟩ := Option.map_eq_some_iff.mp hnew
      exact ih (hold _ rfl) hinner
    | some (.tables elements) =>
      obtain ⟨elements', -, rfl⟩ := Option.map_eq_some_iff.mp hnew
      exact distinct_tables elements'
    | none | some (.value _) => cases hnew

/-! ## Values and lines -/

theorem distinct_readReal (h : readReal cs = some t) : t.Distinct := by
  simp only [readReal] at h
  split at h
  next => cases h; exact .other (by simp)
  next =>
    split at h
    next => cases h; exact .other (by simp)
    next => cases h

theorem distinct_readWord (h : readWord cs = some t) : t.Distinct := by
  rw [readWord] at h
  split at h
  next => cases h; exact .other (by simp)
  next =>
    split at h
    next => cases h; exact .other (by simp)
    next =>
      cases hinteger : readInteger cs with
      | some n => rw [hinteger] at h; cases h; exact .other (by simp)
      | none =>
        rw [hinteger] at h
        dsimp only at h
        split at h
        next => cases h; exact .moment
        next => exact distinct_readReal h

theorem distinct_scanWord (h : scanWord cs = some (t, rest)) : t.Distinct := by
  simp only [scanWord] at h
  split at h
  next =>
    split at h
    next =>
      obtain ⟨word, hword, heq⟩ := Option.map_eq_some_iff.mp h
      cases heq
      exact distinct_readWord hword
    next => cases h; exact .moment
  next =>
    obtain ⟨word, hword, heq⟩ := Option.map_eq_some_iff.mp h
    cases heq
    exact distinct_readWord hword

/-- With some fuel only values are read that name nothing twice. -/
def ValuesDistinct (fuel : Nat) : Prop :=
  ∀ ⦃depth cs t rest⦄, scanValue fuel depth cs = some (t, rest) → t.Distinct

/-- With some fuel the pairs read into a table bring in no name twice. -/
def PairsDistinct (fuel : Nat) : Prop :=
  ∀ ⦃depth entries cs found rest⦄, Distinct entries →
    scanPairs fuel depth entries cs = some (found, rest) → Distinct found

theorem PairsDistinct.values_succ {fuel : Nat} (hpairs : PairsDistinct fuel) :
    ValuesDistinct (fuel + 1) := by
  intro depth cs t rest h
  rw [scanValue.eq_def] at h
  dsimp only at h
  split at h
  next =>
    obtain ⟨_, -, heq⟩ := Option.map_eq_some_iff.mp h
    cases heq
    exact .other (by simp)
  next =>
    obtain ⟨_, -, heq⟩ := Option.map_eq_some_iff.mp h
    cases heq
    exact .other (by simp)
  next => cases h
  next =>
    obtain ⟨_, -, heq⟩ := Option.map_eq_some_iff.mp h
    cases heq
    exact .other (by simp)
  next => cases h
  next =>
    split at h
    next => cases h; exact .empty
    next =>
      obtain ⟨pairs, hread, heq⟩ := Option.map_eq_some_iff.mp h
      cases heq
      exact hpairs distinct_nil hread
  next => exact distinct_scanWord h

theorem PairsDistinct.succ {fuel : Nat} (hvalues : ValuesDistinct fuel)
    (hpairs : PairsDistinct fuel) : PairsDistinct (fuel + 1) := by
  intro depth entries cs found rest hdistinct h
  simp only [scanPairs, Option.bind_eq_bind, Option.bind_eq_some_iff] at h
  obtain ⟨⟨key, cs'⟩, -, h⟩ := h
  split at h
  next =>
    obtain ⟨⟨value, cs''⟩, hvalue, entries', hput, h⟩ := by
      simpa only [Option.bind_eq_some_iff] using h
    have hdistinct' := distinct_put (hvalues hvalue) hdistinct hput
    split at h
    next => exact hpairs hdistinct' h
    next => cases h; exact hdistinct'
    next => cases h
  next => cases h

theorem distinct_scan (fuel : Nat) : ValuesDistinct fuel ∧ PairsDistinct fuel := by
  induction fuel with
  | zero =>
    refine ⟨fun depth cs t rest h => ?_, fun depth entries cs found rest _ h => ?_⟩
    · rw [scanValue] at h; cases h
    · rw [scanPairs] at h; cases h
  | succ fuel ih => exact ⟨ih.2.values_succ, ih.2.succ ih.1⟩

theorem distinct_scanPair {p q : Progress} (hdistinct : Distinct p.entries)
    (h : scanPair p cs = some (q, rest)) : Distinct q.entries := by
  simp only [scanPair, Option.bind_eq_bind, Option.bind_eq_some_iff] at h
  obtain ⟨⟨key, cs'⟩, -, h⟩ := h
  split at h
  next =>
    obtain ⟨⟨value, cs''⟩, hvalue, entries, hentries, h⟩ := by
      simpa only [Option.bind_eq_some_iff] using h
    cases h
    have hvalue' := (distinct_scan _).1 hvalue
    exact distinct_within (fun hinner hput => distinct_put hvalue' hinner hput) hdistinct hentries
  next => cases h

theorem distinct_scanHeader {close : List Char} {enter : List String → Entries → Option Entries}
    {p q : Progress}
    (henter : ∀ key found, enter key p.entries = some found → Distinct found)
    (h : scanHeader close enter p cs = some (q, rest)) : Distinct q.entries := by
  simp only [scanHeader, Option.bind_eq_bind, Option.bind_eq_some_iff] at h
  obtain ⟨⟨key, cs'⟩, -, h⟩ := h
  split at h
  next =>
    obtain ⟨entries, hentries, h⟩ := Option.bind_eq_some_iff.mp h
    cases h
    exact henter key entries hentries
  next => cases h

theorem distinct_scanLine {p q : Progress} (hdistinct : Distinct p.entries)
    (h : scanLine p cs = some (q, rest)) : Distinct q.entries := by
  simp only [scanLine, Option.bind_eq_bind] at h
  split at h
  all_goals
    obtain ⟨⟨p', cs'⟩, hline, h⟩ := Option.bind_eq_some_iff.mp h
    obtain ⟨cs'', -, h⟩ := Option.bind_eq_some_iff.mp h
    cases h
  · exact distinct_scanHeader (fun _ _ => distinct_append hdistinct) hline
  · exact distinct_scanHeader (fun _ _ => distinct_declare hdistinct) hline
  · exact distinct_scanPair hdistinct hline

theorem distinct_readLines {p q : Progress} (fuel : Nat) (hdistinct : Distinct p.entries)
    (h : readLines fuel p cs = some q) : Distinct q.entries := by
  induction fuel generalizing p cs with
  | zero =>
    rw [readLines] at h
    split at h
    next => cases h; exact hdistinct
    next => cases h
  | succ fuel ih =>
    simp only [readLines, Option.bind_eq_bind, Option.bind_eq_some_iff] at h
    obtain ⟨line, -, h⟩ := h
    split at h
    next => cases h; exact hdistinct
    next =>
      obtain ⟨⟨p', cs'⟩, hline, h⟩ := Option.bind_eq_some_iff.mp h
      exact ih (distinct_scanLine hdistinct hline) h

/-- **A TOML text stands for a table in which no table names anything twice.** -/
theorem isSource_of_read {s : String} (h : read s = some t) : t.IsSource := by
  simp only [read] at h
  obtain ⟨p, hp, rfl⟩ := Option.map_eq_some_iff.mp h
  exact ⟨distinct_readLines _ distinct_nil hp, treesOf p.entries, rfl⟩

end ResourceApi.Toml
