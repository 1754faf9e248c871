import ResourceApi.Settings.Tree

/-!
# Layers of settings

What a source with a stronger source on top holds: under each path of names the value of the
stronger source, and where that has none the value of the weaker one. This is so where the stronger
source has tables along the path and names nothing twice. Layering makes no name occur twice.

## Main definitions

- `Tree.entriesOf` — the entries of a table
- `Tree.Distinct` — no table of a value names anything twice
- `Tree.IsSource` — a table in which no table names anything twice
- `Tree.Tabular` — a source has tables along a path of names
- `Tree.heap` — sources on top of each other

## Main results

- `Tree.lookup_set`, `Tree.lookup_layerAll` — the entries of a table with others on top
- `Tree.Distinct.set`, `Tree.Distinct.collect`, `Tree.Distinct.layer`, `Tree.Distinct.nest`,
  `Tree.Distinct.unbox` — no name comes to occur twice
- `Tree.lookup_layer` — one source on top of another
- `Tree.lookup_heap` — the strongest source counts
-/

namespace ResourceApi.Tree

/-- The entries of a table; nothing else has any. -/
def entriesOf : Tree → List (String × Tree)
  | .table entries => entries
  | _ => []

variable {entries under : List (String × Tree)} {name key : String} {value weak strong t : Tree}
  {path : List String}

/-! ## Entries -/

theorem lookup_cons :
    List.lookup key ((name, value) :: entries) =
      if key = name then some value else entries.lookup key := by
  rw [List.lookup_cons]
  by_cases h : key = name
  · simp [h]
  · rw [beq_eq_false_iff_ne.mpr h, if_neg h]

theorem lookup_set (name : String) (value : Tree) (entries : List (String × Tree)) (key : String) :
    (set name value entries).lookup key =
      if key = name then some value else entries.lookup key := by
  induction entries with
  | nil => exact lookup_cons
  | cons entry entries ih =>
    obtain ⟨first, old⟩ := entry
    rw [set]
    by_cases hfirst : first = name
    · subst hfirst
      by_cases h : key = first <;> simp [lookup_cons, h]
    · by_cases h : key = first
      · subst h
        simp [hfirst]
      · simp [lookup_cons, hfirst, h, ih]

theorem mem_of_lookup (h : entries.lookup key = some value) : (key, value) ∈ entries := by
  obtain ⟨before, behind, rfl, -⟩ := List.lookup_eq_some_iff.mp h
  simp

theorem lookup_eq_none_of_not_mem (h : key ∉ entries.map Prod.fst) : entries.lookup key = none := by
  rw [List.lookup_eq_none_iff]
  intro entry hentry
  exact bne_iff_ne.mpr fun heq => h (heq ▸ List.mem_map_of_mem hentry)

theorem mem_names_set (name : String) (value : Tree) (entries : List (String × Tree)) :
    key ∈ (set name value entries).map Prod.fst ↔ key = name ∨ key ∈ entries.map Prod.fst := by
  induction entries with
  | nil => simp [set]
  | cons entry entries ih =>
    obtain ⟨first, old⟩ := entry
    by_cases hfirst : first = name
    · simp [set, hfirst]
    · simp only [set, beq_iff_eq, hfirst, if_false, List.map_cons, List.mem_cons, ih]
      exact or_left_comm

theorem mem_set {entry : String × Tree} (h : entry ∈ set name value entries) :
    entry.2 = value ∨ entry ∈ entries := by
  induction entries with
  | nil => simp_all [set]
  | cons first entries ih =>
    by_cases hfirst : first.1 = name
    · simp only [set, beq_iff_eq, hfirst, if_true, List.mem_cons] at h
      rcases h with rfl | h
      · exact .inl rfl
      · exact .inr (List.mem_cons_of_mem _ h)
    · simp only [set, beq_iff_eq, hfirst, if_false, List.mem_cons] at h
      rcases h with rfl | h
      · exact .inr List.mem_cons_self
      · exact (ih h).imp_right (List.mem_cons_of_mem _)

theorem nodup_set (name : String) (value : Tree) (h : (entries.map Prod.fst).Nodup) :
    ((set name value entries).map Prod.fst).Nodup := by
  induction entries with
  | nil => simp [set]
  | cons entry entries ih =>
    obtain ⟨first, old⟩ := entry
    obtain ⟨hnew, hrest⟩ := List.nodup_cons.mp h
    by_cases hfirst : first = name
    · simpa [set, hfirst] using h
    · rw [set, if_neg (by simpa using hfirst)]
      have hnew : first ∉ (set name value entries).map Prod.fst := by
        rw [mem_names_set]
        exact not_or.mpr ⟨hfirst, hnew⟩
      exact List.nodup_cons.mpr ⟨hnew, ih hrest⟩

theorem layer_table (weak : Tree) (entries : List (String × Tree)) :
    weak.layer (.table entries) = .table (layerAll weak.entriesOf entries) := by
  cases weak <;> rw [layer, entriesOf] <;> simp

theorem layer_of_not_table (h : ∀ entries, strong ≠ .table entries) :
    weak.layer strong = strong := by
  cases strong with
  | table entries => exact absurd rfl (h entries)
  | _ => rw [layer]; simp

/-- The entries of a table on top of others. -/
theorem lookup_layerAll (h : (entries.map Prod.fst).Nodup) (under : List (String × Tree))
    (key : String) :
    (layerAll under entries).lookup key =
      match entries.lookup key with
      | none => under.lookup key
      | some value =>
        some (match under.lookup key with
          | some weak => layer weak value
          | none => value) := by
  induction entries generalizing under with
  | nil => simp [layerAll]
  | cons entry entries ih =>
    obtain ⟨first, value⟩ := entry
    obtain ⟨hnew, hrest⟩ := List.nodup_cons.mp h
    rw [layerAll, ih hrest, lookup_set]
    by_cases hkey : key = first
    · subst hkey
      -- No later entry has the name, so what is set here stays.
      have hlate : entries.lookup key = none := lookup_eq_none_of_not_mem hnew
      cases under.lookup key <;> simp [hlate]
    · rw [lookup_cons, if_neg hkey, if_neg hkey]

/-! ## No name twice -/

/-- No table of a value names anything twice. Lists are not looked into: they are never layered. -/
inductive Distinct : Tree → Prop where
  | table {entries : List (String × Tree)} (names : (entries.map Prod.fst).Nodup)
      (values : ∀ entry ∈ entries, Distinct entry.2) : Distinct (.table entries)
  | other {t : Tree} (h : ∀ entries, t ≠ .table entries) : Distinct t

namespace Distinct

theorem empty : Distinct .empty := .table List.nodup_nil (by simp)

theorem moment : Distinct .moment := .table (by simp) (by simpa using .other (by simp))

theorem names (h : Distinct (.table entries)) : (entries.map Prod.fst).Nodup := by
  cases h with
  | table names _ => exact names
  | other h => exact absurd rfl (h entries)

theorem values (h : Distinct (.table entries)) : ∀ entry ∈ entries, Distinct entry.2 := by
  cases h with
  | table _ values => exact values
  | other h => exact absurd rfl (h entries)

theorem entriesOf (h : Distinct t) : Distinct (.table t.entriesOf) := by
  cases h with
  | table names values => exact .table names values
  | other h =>
    cases t with
    | table entries => exact absurd rfl (h entries)
    | _ => exact empty

theorem of_lookup (h : Distinct (.table entries)) (hkey : entries.lookup key = some value) :
    Distinct value := h.values _ (mem_of_lookup hkey)

theorem set (h : Distinct (.table entries)) (hvalue : Distinct value) (name : String) :
    Distinct (.table (set name value entries)) := by
  refine .table (nodup_set name value h.names) fun entry hentry => ?_
  rcases mem_set hentry with heq | hentry
  · rwa [heq]
  · exact h.values entry hentry

theorem collect (h : ∀ entry ∈ entries, Distinct entry.2) :
    Distinct (.table (collect entries)) := by
  refine List.foldlRecOn (motive := fun under => Distinct (.table under)) entries _ empty ?_
  exact fun under hunder entry hentry => hunder.set (h entry hentry) entry.1

mutual

theorem layer : (strong : Tree) → {weak : Tree} → Distinct weak → Distinct strong →
    Distinct (weak.layer strong)
  | .table entries, weak, hweak, h => by
    rw [layer_table]
    exact layerAll entries (hweak.entriesOf) h.values
  | .text _, _, _, h | .integer _, _, _, h | .real, _, _, h | .boolean _, _, _, h
  | .list _, _, _, h => by rwa [layer_of_not_table (by simp)]

theorem layerAll : (entries : List (String × Tree)) → {under : List (String × Tree)} →
    Distinct (.table under) → (∀ entry ∈ entries, Distinct entry.2) →
      Distinct (.table (layerAll under entries))
  | [], _, hunder, _ => by rwa [Tree.layerAll]
  | (name, value) :: entries, under, hunder, h => by
    obtain ⟨hvalue, hentries⟩ := List.forall_mem_cons.mp h
    rw [Tree.layerAll]
    refine layerAll entries (hunder.set ?_ name) hentries
    split
    next weak hweak => exact layer value (hunder.of_lookup hweak) hvalue
    next => exact hvalue

end

theorem nest (h : Distinct value) (path : List String) : Distinct (value.nest path) := by
  induction path with
  | nil => exact h
  | cons name path ih => exact .table (by simp) (by simpa using ih)

theorem unboxEntries_names {found : List (String × Tree)} (h : unboxEntries entries = some found) :
    found.map Prod.fst = entries.map Prod.fst := by
  induction entries generalizing found with
  | nil => simp_all [unboxEntries]
  | cons entry entries ih =>
    simp only [unboxEntries, Option.bind_eq_bind, Option.bind_eq_some_iff, Option.some.injEq] at h
    obtain ⟨value, -, rest, hrest, rfl⟩ := h
    simp [ih hrest]

mutual

theorem unbox : (t : Tree) → {found : Tree} → Distinct t → t.unbox = some found → Distinct found
  | .table entries, found, hdistinct, h => by
    rw [Tree.unbox, Option.bind_eq_some_iff] at h
    obtain ⟨inner, hinner, h⟩ := h
    have htable : Distinct (.table inner) :=
      .table (unboxEntries_names hinner ▸ hdistinct.names)
        (unboxEntries entries hdistinct.values hinner)
    rw [contents?] at h
    split at h
    next => cases h
    next =>
      cases hvalue : inner.lookup valueName with
      | none => rw [hvalue] at h; cases h; exact htable
      | some value => rw [hvalue] at h; cases h; exact htable.of_lookup hvalue
  | .list items, found, _, h => by
    rw [Tree.unbox, Option.map_eq_some_iff] at h
    obtain ⟨inner, -, rfl⟩ := h
    exact .other (by simp)
  | .text _, found, hdistinct, h | .integer _, found, hdistinct, h | .real, found, hdistinct, h
  | .boolean _, found, hdistinct, h => by
    rw [Tree.unbox] at h <;> simp_all

theorem unboxEntries : (entries : List (String × Tree)) → {found : List (String × Tree)} →
    (∀ entry ∈ entries, Distinct entry.2) → Tree.unboxEntries entries = some found →
      ∀ entry ∈ found, Distinct entry.2
  | [], found, _, h => by simp_all [Tree.unboxEntries]
  | (name, value) :: entries, found, hdistinct, h => by
    obtain ⟨hvalue, hentries⟩ := List.forall_mem_cons.mp hdistinct
    simp only [Tree.unboxEntries, Option.bind_eq_bind, Option.bind_eq_some_iff,
      Option.some.injEq] at h
    obtain ⟨first, hfirst, rest, hrest, rfl⟩ := h
    exact List.forall_mem_cons.mpr
      ⟨unbox value hvalue hfirst, unboxEntries entries hentries hrest⟩

end

end Distinct

/-- A source: a table in which no table names anything twice. -/
structure IsSource (t : Tree) : Prop where
  distinct : t.Distinct
  table : ∃ entries, t = .table entries

theorem IsSource.layer (hweak : weak.IsSource) (hstrong : strong.IsSource) :
    (weak.layer strong).IsSource := by
  obtain ⟨entries, rfl⟩ := hstrong.table
  exact ⟨.layer _ hweak.distinct hstrong.distinct, _, layer_table weak entries⟩

theorem IsSource.nest (h : value.Distinct) (hpath : path ≠ []) : (value.nest path).IsSource := by
  refine ⟨h.nest path, ?_⟩
  cases path with
  | nil => exact absurd rfl hpath
  | cons name path => exact ⟨_, rfl⟩

/-! ## Sources on top of each other -/

theorem lookup_path (t : Tree) (name : String) (path : List String) :
    t.lookup (name :: path) = (t.entriesOf.lookup name).bind (·.lookup path) := by
  cases t with
  | table entries =>
    rw [lookup, entriesOf]
    cases entries.lookup name <;> rfl
  | _ => simp [lookup, entriesOf]

theorem lookup_name (t : Tree) (name : String) : t.lookup [name] = t.entriesOf.lookup name := by
  rw [lookup_path]
  cases t.entriesOf.lookup name <;> rfl

theorem lookup_cons_path (t : Tree) (name : String) (path : List String) :
    t.lookup (name :: path) = (t.lookup [name]).bind (·.lookup path) := by
  rw [lookup_path, lookup_name]

theorem lookup_of_not_table (h : ∀ entries, t ≠ .table entries) :
    t.lookup (name :: path) = none := by
  cases t with
  | table entries => exact absurd rfl (h entries)
  | _ => rfl

/-- As far as a source has anything on the way along a path of names, it has tables there. -/
def Tabular (t : Tree) : List String → Prop
  | [] => True
  | name :: path =>
    (∃ entries, t = .table entries) ∧
      ∀ inner, t.entriesOf.lookup name = some inner → inner.Tabular path

instance decidableTabular (t : Tree) (path : List String) : Decidable (t.Tabular path) :=
  match path, t with
  | [], _ => isTrue trivial
  | name :: path, .table entries =>
    match h : entries.lookup name with
    | none => isTrue ⟨⟨entries, rfl⟩, fun _ hinner => nomatch h.symm.trans hinner⟩
    | some inner =>
      match decidableTabular inner path with
      | isTrue hinner =>
        isTrue ⟨⟨entries, rfl⟩, fun _ heq => Option.some.inj (h.symm.trans heq) ▸ hinner⟩
      | isFalse hinner => isFalse fun htabular => hinner (htabular.2 inner h)
  | _ :: _, .text _ | _ :: _, .integer _ | _ :: _, .real | _ :: _, .boolean _ | _ :: _, .list _ =>
    isFalse fun htabular => nomatch htabular.1

theorem IsSource.tabular_name (h : t.IsSource) (name : String) : t.Tabular [name] :=
  ⟨h.table, fun _ _ => trivial⟩

theorem IsSource.tabular_iff (h : t.IsSource) :
    t.Tabular [name, key] ↔
      ∀ inner, t.lookup [name] = some inner → ∃ entries, inner = .table entries := by
  rw [lookup_name]
  exact ⟨fun ht inner hinner => (ht.2 inner hinner).1,
    fun ht => ⟨h.table, fun inner hinner => ⟨ht inner hinner, fun _ _ => trivial⟩⟩⟩

/-- A source on top of another has under a path what it has there itself, if anything, and else what
the other one has. -/
theorem lookup_layer (hdistinct : strong.Distinct) (htabular : strong.Tabular path) (weak : Tree) :
    (weak.layer strong).lookup path =
      match strong.lookup path with
      | none => weak.lookup path
      | some value =>
        some (match weak.lookup path with
          | some under => under.layer value
          | none => value) := by
  induction path generalizing weak strong with
  | nil => rfl
  | cons name path ih =>
    obtain ⟨⟨entries, rfl⟩, hinner⟩ := htabular
    rw [layer_table, lookup_path, entriesOf, lookup_layerAll hdistinct.names, lookup_path,
      lookup_path, entriesOf]
    cases hvalue : entries.lookup name with
    | none => rfl
    | some value =>
      have hvalue' := ih (hdistinct.of_lookup hvalue) (hinner value hvalue)
      cases weak.entriesOf.lookup name with
      | none => simp; cases value.lookup path <;> rfl
      | some under => simpa using hvalue' under

/-- Sources on top of a weakest one, the strongest first. -/
def heap (sources : List Tree) (base : Tree) : Tree :=
  sources.foldr (fun strong weak => weak.layer strong) base

section Heap

variable {sources : List Tree} {base : Tree}

theorem lookup_heap_cons (hdistinct : strong.Distinct) (htabular : strong.Tabular path)
    (sources : List Tree) (base : Tree) :
    (heap (strong :: sources) base).lookup path =
      match strong.lookup path with
      | none => (heap sources base).lookup path
      | some value =>
        some (match (heap sources base).lookup path with
          | some under => under.layer value
          | none => value) :=
  lookup_layer hdistinct htabular (heap sources base)

theorem lookup_heap_of_silent (hsources : ∀ t ∈ sources, t.Distinct ∧ t.Tabular path)
    (hsilent : ∀ t ∈ sources, t.lookup path = none) :
    (heap sources base).lookup path = base.lookup path := by
  induction sources with
  | nil => rfl
  | cons strong sources ih =>
    obtain ⟨⟨hdistinct, htabular⟩, hsources⟩ := List.forall_mem_cons.mp hsources
    obtain ⟨hstrong, hsilent⟩ := List.forall_mem_cons.mp hsilent
    rw [lookup_heap_cons hdistinct htabular, hstrong]
    exact ih hsources hsilent

/-- What is no table hides what weaker sources have in its place. -/
theorem lookup_heap_of_plain (hdistinct : strong.Distinct) (htabular : strong.Tabular path)
    (hvalue : strong.lookup path = some value) (hplain : ∀ entries, value ≠ .table entries) :
    (heap (strong :: sources) base).lookup path = some value := by
  rw [lookup_heap_cons hdistinct htabular, hvalue]
  cases (heap sources base).lookup path with
  | none => rfl
  | some under => exact congrArg some (layer_of_not_table hplain)

/-- Tables on top of anything else are a table. -/
theorem lookup_heap_table (hsources : ∀ t ∈ sources, t.Distinct ∧ t.Tabular path)
    (htables : ∀ t ∈ sources, ∀ value, t.lookup path = some value →
      ∃ entries, value = .table entries)
    (hsome : ∃ t ∈ sources, (t.lookup path).isSome) :
    ∃ entries, (heap sources base).lookup path = some (.table entries) := by
  induction sources with
  | nil => simp at hsome
  | cons strong sources ih =>
    obtain ⟨⟨hdistinct, htabular⟩, hsources⟩ := List.forall_mem_cons.mp hsources
    obtain ⟨hstrong, htables⟩ := List.forall_mem_cons.mp htables
    rw [lookup_heap_cons hdistinct htabular]
    cases hvalue : strong.lookup path with
    | none =>
      obtain ⟨t, ht, hthere⟩ := hsome
      rcases List.mem_cons.mp ht with rfl | ht
      · rw [hvalue] at hthere
        cases hthere
      · exact ih hsources htables ⟨t, ht, hthere⟩
    | some value =>
      obtain ⟨entries, rfl⟩ := hstrong value hvalue
      cases (heap sources base).lookup path with
      | none => exact ⟨entries, rfl⟩
      | some under => exact ⟨_, congrArg some (layer_table under entries)⟩

/-- **The strongest source that has something under a path counts**, unless that is a table. -/
theorem lookup_heap (hsources : ∀ t ∈ sources, t.Distinct ∧ t.Tabular path)
    (hplain : ∀ entries, (heap sources base).lookup path ≠ some (.table entries)) :
    (heap sources base).lookup path = (sources ++ [base]).findSome? (·.lookup path) := by
  induction sources with
  | nil => cases h : base.lookup path <;> simp [heap, h]
  | cons strong sources ih =>
    obtain ⟨⟨hdistinct, htabular⟩, hsources⟩ := List.forall_mem_cons.mp hsources
    rw [lookup_heap_cons hdistinct htabular] at hplain ⊢
    rw [List.cons_append, List.findSome?_cons]
    cases hvalue : strong.lookup path with
    | none =>
      rw [hvalue] at hplain
      exact ih hsources hplain
    | some value =>
      rw [hvalue] at hplain
      cases hunder : (heap sources base).lookup path with
      | none => rfl
      | some under =>
        rw [hunder] at hplain
        refine congrArg some (layer_of_not_table ?_)
        rintro entries rfl
        exact hplain _ (congrArg some (layer_table under entries))

end Heap

end ResourceApi.Tree
