import ResourceApi.Proofs.Settings.Sources

/-!
# Which source a setting comes from

Each setting has the value that the strongest source with this setting gives it, whatever other
settings this source has or lacks.

## Main definitions

- `Setting` — the settings, each with its place in a source
- `Setting.held` — the value that a whole source holds for a setting

## Main results

- `Settings.lookup_ofTree` — settings read from a tree are those that it holds
- `Settings.group_heap` — a group in sources on top of each other
- `Settings.load_takes_strongest` — the strongest source counts, setting by setting
-/

namespace ResourceApi

/-- The settings of a service. -/
inductive Setting where
  | name
  | tcpPort
  | logLevel
  | timeoutSecs
  | environment
  | standardPageSize
  | greatestPageSize
  | exposeFailures
deriving DecidableEq

namespace Setting

/-- The name of the table that has the setting. -/
def group : Setting → String
  | name | tcpPort | logLevel | timeoutSecs | environment => "service"
  | standardPageSize | greatestPageSize | exposeFailures => "resources"

/-- The name of the setting in its table. -/
def key : Setting → String
  | name => "name"
  | tcpPort => "port"
  | logLevel => "log_level"
  | timeoutSecs => "timeout_secs"
  | environment => "environment"
  | standardPageSize => "default_per_page"
  | greatestPageSize => "max_per_page"
  | exposeFailures => "expose_internal_errors"

/-- The position of the setting where a list stands in place of its table. -/
def position : Setting → Nat
  | name | standardPageSize => 0
  | tcpPort | greatestPageSize => 1
  | logLevel | exposeFailures => 2
  | timeoutSecs => 3
  | environment => 4

def path (k : Setting) : List String := [k.group, k.key]

/-- The value that a tree holds for a setting, by its name or by its position. -/
def held (k : Setting) (t : Tree) : Option Tree :=
  (t.lookup [k.group]).bind fun group => (Settings.part group k.position k.key).join

end Setting

namespace Settings

variable {name : String} {file : SettingsPlace → Option String}
  {environment : List (String × String)} {s : Settings} {t base : Tree} {k : Setting}
  {layers : List Tree}

/-! ## Settings read from a tree -/

theorem eq_of_text? {x : String} (h : text? t = some x) : t = .text x := by
  cases t <;> simp_all [text?]

theorem eq_of_boolean? {x : Bool} (h : boolean? t = some x) : t = .boolean x := by
  cases t <;> simp_all [boolean?]

theorem eq_of_number? {limit n : Nat} (h : number? limit t = some n) : t = .integer n := by
  cases t with
  | integer m =>
    rw [number?] at h
    split at h
    next hm => cases h; rw [Int.toNat_of_nonneg hm.1]
    next => cases h
  | _ => cases h

theorem valueOr_shows {α : Type} {value? : Tree → Option α} {shown : α → Tree} {usual x : α}
    {found : Option Tree} (hshown : ∀ {t x}, value? t = some x → t = shown x)
    (h : valueOr usual value? found = some x) : some (shown x) = found.or (some (shown usual)) := by
  cases found with
  | none => cases h; rfl
  | some t => rw [hshown h]; rfl

/-- Settings of the process are those in the part of a source that the process is read from. -/
theorem lookup_processOf (h : processOf t = some s.process) (hk : k.group = "service")
    (name : String) :
    s.tree.lookup k.path =
      (part t k.position k.key).join.or ((standard name).tree.lookup k.path) := by
  simp only [processOf, Option.bind_eq_bind, Option.bind_eq_some_iff] at h
  obtain ⟨_, hname, _, ⟨_, rfl, hname'⟩, _, hport, _, hport', _, hlevel, _, hlevel', _, htimeout, _,
    htimeout', _, hplace, _, hplace', h⟩ := h
  obtain ⟨process, resources⟩ := s
  cases h
  cases k with
  | name => rw [Setting.position, Setting.key, hname, eq_of_text? hname']; rfl
  | tcpPort =>
    rw [Setting.position, Setting.key, hport]
    exact (valueOr_shows eq_of_number? hport' :)
  | logLevel =>
    rw [Setting.position, Setting.key, hlevel]
    exact valueOr_shows eq_of_text? hlevel'
  | timeoutSecs =>
    rw [Setting.position, Setting.key, htimeout]
    exact (valueOr_shows eq_of_number? htimeout' :)
  | environment =>
    rw [Setting.position, Setting.key, hplace]
    exact valueOr_shows eq_of_text? hplace'
  | standardPageSize | greatestPageSize | exposeFailures => simp [Setting.group] at hk

/-- Settings of resources are those in the part of a source that they are read from. -/
theorem lookup_resourcesOf (h : resourcesOf t = some s.resources) (hk : k.group = "resources")
    (name : String) :
    s.tree.lookup k.path =
      (part t k.position k.key).join.or ((standard name).tree.lookup k.path) := by
  simp only [resourcesOf, Option.bind_eq_bind, Option.bind_eq_some_iff] at h
  obtain ⟨_, hsize, _, hsize', _, hgreatest, _, hgreatest', _, hexpose, _, hexpose', h⟩ := h
  obtain ⟨process, resources⟩ := s
  cases h
  cases k with
  | standardPageSize =>
    rw [Setting.position, Setting.key, hsize]
    exact (valueOr_shows eq_of_number? hsize' :)
  | greatestPageSize =>
    rw [Setting.position, Setting.key, hgreatest]
    exact (valueOr_shows eq_of_number? hgreatest' :)
  | exposeFailures =>
    rw [Setting.position, Setting.key, hexpose]
    exact valueOr_shows eq_of_boolean? hexpose'
  | name | tcpPort | logLevel | timeoutSecs | environment => simp [Setting.group] at hk

/-- **Settings read from a tree are those that it holds**, and standard values where it holds
none. -/
theorem lookup_ofTree (h : ofTree t = some s) (htable : ∃ entries, t = .table entries)
    (k : Setting) (name : String) :
    s.tree.lookup k.path = (k.held t).or ((standard name).tree.lookup k.path) := by
  obtain ⟨entries, rfl⟩ := htable
  simp only [ofTree, part, Option.bind_eq_bind, Option.bind_eq_some_iff, Option.some.injEq] at h
  obtain ⟨_, hservice, service, rfl, process, hprocess, _, rfl, resources, hresources, rfl⟩ := h
  rw [Setting.held, Tree.lookup_name, Tree.entriesOf]
  have hgroup : k.group = "service" ∨ k.group = "resources" := by cases k <;> decide
  rcases hgroup with hk | hk
  · rw [hk, hservice, Option.bind_some]
    exact lookup_processOf hprocess hk name
  · rw [hk]
    cases hfound : entries.lookup "resources" with
    | none =>
      rw [hfound] at hresources
      cases hresources
      cases k <;> first | rfl | simp [Setting.group] at hk
    | some part =>
      rw [hfound, valueOr] at hresources
      exact lookup_resourcesOf hresources hk name

/-! ## Sources on top of each other -/

theorem held_of_table {entries : List (String × Tree)}
    (h : t.lookup [k.group] = some (.table entries)) : k.held t = t.lookup k.path := by
  rw [Setting.held, h, Setting.path, Tree.lookup_cons_path, h]
  exact (Tree.lookup_name (.table entries) k.key).symm

theorem lookup_ne_table (s : Settings) (k : Setting) (entries : List (String × Tree)) :
    s.tree.lookup k.path ≠ some (.table entries) := by
  cases k <;> exact fun h => by cases h

theorem group_standard (name : String) (k : Setting) :
    ∃ entries, (standard name).tree.lookup [k.group] = some (.table entries) := by
  cases k <;> exact ⟨_, rfl⟩

theorem heap_table (hsources : ∀ t ∈ layers, t.IsSource)
    (hbase : ∃ entries, base = .table entries) :
    ∃ entries, Tree.heap layers base = .table entries := by
  cases layers with
  | nil => exact hbase
  | cons strong layers =>
    obtain ⟨entries, rfl⟩ := (hsources strong List.mem_cons_self).table
    exact ⟨_, Tree.layer_table (Tree.heap layers base) entries⟩

/-- Settings read from sources that have tables for a group, where the group comes out as a
table. -/
theorem lookup_ofTree_heap (h : ofTree (Tree.heap layers base) = some s)
    (hbase : ∃ entries, base = .table entries) (hsources : ∀ t ∈ layers, t.IsSource)
    (htabular : ∀ t ∈ layers, t.Tabular k.path)
    (hgroup : ∃ entries, (Tree.heap layers base).lookup [k.group] = some (.table entries))
    (name : String) :
    s.tree.lookup k.path =
      ((layers ++ [base]).findSome? (·.lookup k.path)).or
        ((standard name).tree.lookup k.path) := by
  obtain ⟨entries, hgroup⟩ := hgroup
  have hread := lookup_ofTree h (heap_table hsources hbase) k name
  rw [held_of_table hgroup] at hread
  have hplain (entries) : (Tree.heap layers base).lookup k.path ≠ some (.table entries) :=
    fun heq => lookup_ne_table s k entries (by rw [hread, heq]; rfl)
  rw [hread, Tree.lookup_heap (fun t ht => ⟨(hsources t ht).distinct, htabular t ht⟩) hplain]

/-- Where every source has a table for a group, or nothing, the group comes out as a table. -/
theorem group_heap (hsources : ∀ t ∈ layers, t.IsSource)
    (htabular : ∀ t ∈ layers, t.Tabular k.path)
    (hsome : (∃ t ∈ layers, (t.lookup [k.group]).isSome) ∨
      ∃ entries, base.lookup [k.group] = some (.table entries)) :
    ∃ entries, (Tree.heap layers base).lookup [k.group] = some (.table entries) := by
  have hnames : ∀ t ∈ layers, t.Distinct ∧ t.Tabular [k.group] := fun t ht =>
    ⟨(hsources t ht).distinct, (hsources t ht).tabular_name k.group⟩
  by_cases hthere : ∃ t ∈ layers, (t.lookup [k.group]).isSome
  · exact Tree.lookup_heap_table hnames
      (fun t ht => (hsources t ht).tabular_iff.mp (htabular t ht)) hthere
  · rw [Tree.lookup_heap_of_silent hnames fun t ht => by simpa using fun h => hthere ⟨t, ht, h⟩]
    exact hsome.resolve_left hthere

/-- What stands in place of a group in a source that has no table there. -/
theorem group_of_not_tabular (hsource : t.IsSource) (h : ¬t.Tabular k.path) :
    ∃ inner, t.lookup [k.group] = some inner ∧ ∀ entries, inner ≠ .table entries := by
  rw [Setting.path, hsource.tabular_iff] at h
  obtain ⟨inner, h⟩ := Classical.not_forall.mp h
  obtain ⟨hinner, hplain⟩ := Classical.not_imp.mp h
  exact ⟨inner, hinner, fun entries heq => hplain ⟨entries, heq⟩⟩

/-- Settings read where a source has something else than a table for a group: the source hides those
that are weaker, and any stronger source with a table hides what it has there. -/
theorem lookup_ofTree_of_not_tabular {stronger weaker : List Tree} {flat : Tree}
    (h : ofTree (Tree.heap (stronger ++ flat :: weaker) base) = some s)
    (hsources : ∀ t ∈ stronger ++ flat :: weaker, t.IsSource)
    (htabular : ∀ t ∈ stronger, t.Tabular k.path) (hflat : ¬flat.Tabular k.path) (name : String) :
    s.tree.lookup k.path =
      (if stronger.any fun t => (t.lookup [k.group]).isSome then
          stronger.findSome? (·.lookup k.path)
        else k.held flat).or ((standard name).tree.lookup k.path) := by
  have hstronger : ∀ t ∈ stronger, t.IsSource := fun t ht =>
    hsources t (List.mem_append_left _ ht)
  have hsource : flat.IsSource := hsources flat (by simp)
  obtain ⟨inner, hinner, hplain⟩ := group_of_not_tabular hsource hflat
  rw [Tree.heap, List.foldr_append] at h
  change ofTree (Tree.heap stronger (Tree.heap (flat :: weaker) base)) = some s at h
  have hbase : ∃ entries, Tree.heap (flat :: weaker) base = .table entries := by
    obtain ⟨entries, rfl⟩ := hsource.table
    exact ⟨_, Tree.layer_table (Tree.heap weaker base) entries⟩
  have hgroup : (Tree.heap (flat :: weaker) base).lookup [k.group] = some inner :=
    Tree.lookup_heap_of_plain hsource.distinct (hsource.tabular_name k.group) hinner hplain
  split
  next hany =>
    have hsome : ∃ t ∈ stronger, (t.lookup [k.group]).isSome := by simpa using hany
    rw [lookup_ofTree_heap h hbase hstronger htabular
      (group_heap hstronger htabular (.inl hsome)) name, List.findSome?_append]
    have hnone : (Tree.heap (flat :: weaker) base).lookup k.path = none := by
      rw [Setting.path, Tree.lookup_cons_path, hgroup]
      exact Tree.lookup_of_not_table hplain
    simp [hnone]
  next hany =>
    have hsilent : ∀ t ∈ stronger, t.lookup [k.group] = none := by simpa using hany
    have hnames : ∀ t ∈ stronger, t.Distinct ∧ t.Tabular [k.group] := fun t ht =>
      ⟨(hstronger t ht).distinct, (hstronger t ht).tabular_name k.group⟩
    rw [lookup_ofTree h (heap_table hstronger hbase) k name, Setting.held,
      Tree.lookup_heap_of_silent hnames hsilent, hgroup, Setting.held, hinner]

/-! ## The settings of a service -/

/-- **A service takes each setting from the strongest source that has it**: the environment, the
file in the working directory, the file of the user, the file of the machine, and at last the
standard settings with the name of the service. This is so where no source has anything but a table
for the group of the setting. Otherwise the strongest source that has something else hides the
weaker ones: it holds the setting by its position unless a stronger source has a table for the
group, and what is held nowhere is standard. Every settings file that there is has been read. -/
theorem load_takes_strongest (h : load name file environment = some s) :
    (∀ place text, file place = some text → (ofFile text).isSome) ∧
      ∀ k : Setting,
        ((∀ t ∈ sources file environment, t.Tabular k.path) →
          s.tree.lookup k.path =
            (sources file environment ++ [(standard name).tree]).findSome? (·.lookup k.path)) ∧
        ∀ stronger flat weaker, sources file environment = stronger ++ flat :: weaker →
          (∀ t ∈ stronger, t.Tabular k.path) → ¬flat.Tabular k.path →
            s.tree.lookup k.path =
              (if stronger.any fun t => (t.lookup [k.group]).isSome then
                  stronger.findSome? (·.lookup k.path)
                else k.held flat).or ((standard name).tree.lookup k.path) := by
  obtain ⟨hfiles, hread⟩ := load_eq_some_iff.mp h
  have hsources : ∀ t ∈ sources file environment, t.IsSource := fun t => isSource_of_mem_sources
  refine ⟨hfiles, fun k => ⟨fun htabular => ?_, ?_⟩⟩
  · rw [lookup_ofTree_heap hread ⟨_, rfl⟩ hsources htabular
      (group_heap hsources htabular (.inr (group_standard name k))) name, List.findSome?_append]
    cases (sources file environment).findSome? (·.lookup k.path) <;> simp
  · intro stronger flat weaker heq htabular hflat
    rw [heq] at hread hsources
    exact lookup_ofTree_of_not_tabular hread hsources htabular hflat name

/-- The settings files of a service for orders. -/
def orderFiles : SettingsPlace → Option String
  | .working => some "[service]\nport = 9000\n"
  | .user => some "service.port = 7000\nservice.timeout_secs = 60\n[resources]\nmax_per_page = 50\n"
  | .machine => some "[service]\nlog_level = 'warn'\ntimeout_secs = 10\n"

/-- The environment of a service for orders. -/
def orderVariables : List (String × String) :=
  [("ACTON_RESOURCES__MAX_PER_PAGE", "200"), ("ACTON_SERVICE__ENVIRONMENT", "prod")]

/-- The settings of a service for orders. -/
def orderSettings : Settings := ⟨⟨"orders", 9000, "warn", 60, "prod"⟩, ⟨20, 200, false⟩⟩

theorem orderSources_tabular :
    ∀ t ∈ sources orderFiles orderVariables, ∀ k ∈ [Setting.name, .tcpPort, .logLevel, .timeoutSecs,
      .environment, .standardPageSize, .greatestPageSize, .exposeFailures], t.Tabular k.path := by
  decide +kernel

theorem load_takes_strongest_of_orders :
    load "orders" orderFiles orderVariables = some orderSettings ∧
      ∀ k : Setting,
        (∀ t ∈ sources orderFiles orderVariables, t.Tabular k.path) ∧
          orderSettings.tree.lookup k.path =
            (sources orderFiles orderVariables ++ [(standard "orders").tree]).findSome?
              (·.lookup k.path) := by
  have hload : load "orders" orderFiles orderVariables = some orderSettings := by decide +kernel
  refine ⟨hload, fun k => ?_⟩
  have htabular := fun t ht => orderSources_tabular t ht k (by cases k <;> decide)
  exact ⟨htabular, ((load_takes_strongest hload).2 k).1 htabular⟩

end Settings

end ResourceApi
