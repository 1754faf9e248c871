import ResourceApi.Filter.Satisfies

/-!
# Trees and their leaves

A tree of comparisons is told by its leaves and its shape. It holds if all its leaves do. Mapping it
is mapping the list of its leaves, whatever the effects are, and keeps its shape. So a
transformation that has a state and may fail meets the leaves one by one from left to right, and
none behind the first on which it fails.

## Main definitions

- `Expression.shape` — how a tree branches
- `Expression.Transforms` — a transformation that succeeds on comparisons one after the other
- `Expression.calls` — the comparisons that a transformation is called on for a tree

## Main results

- `Expression.holds_eq_all_leaves` — a tree holds if all its leaves do
- `Expression.leaves_mapM` — a tree is mapped as the list of its leaves is
- `Expression.shape_mapM` — mapping keeps the shape
- `Expression.acts_through_leaves` — a tree is evaluated and transformed leaf by leaf
-/

namespace ResourceApi.Filter.Expression

variable {U V ε σ : Type}

/-! ## Evaluation -/

mutual

theorem holds_eq_all_leaves (p : Comparison V → Bool) :
    (e : Expression V) → e.holds p = e.leaves.all p
  | .comparison leaf => by rw [holds, leaves, List.all_cons, List.all_nil, Bool.and_true]
  | .all children => by rw [holds, leaves, allHold_eq_all_leaves]

theorem allHold_eq_all_leaves (p : Comparison V → Bool) :
    (es : List (Expression V)) → allHold p es = (leavesOfAll es).all p
  | [] => rfl
  | e :: es => by
    rw [allHold, leavesOfAll, List.all_append, holds_eq_all_leaves, allHold_eq_all_leaves]

end

theorem satisfiedBy_iff_forall_leaves {field : String → Option Value} {e : Expression Value} :
    e.satisfiedBy field = true ↔ ∀ leaf ∈ e.leaves, leaf.satisfiedBy field = true := by
  rw [satisfiedBy, holds_eq_all_leaves, List.all_eq_true]

/-! ## Mapping -/

/-- The shape of a tree, without what its leaves say. -/
inductive Shape where
  | leaf
  | node (children : List Shape)

mutual

def shape : Expression V → Shape
  | .comparison _ => .leaf
  | .all children => .node (shapes children)

def shapes : List (Expression V) → List Shape
  | [] => []
  | e :: es => shape e :: shapes es

end

section Effects

variable {m : Type → Type} [Monad m] [LawfulMonad m] (f : Comparison V → m (Comparison U))

mutual

/-- Mapping a tree is mapping the list of its leaves: the same effects in the same order. -/
theorem leaves_mapM : (e : Expression V) → leaves <$> e.mapM f = e.leaves.mapM f
  | .comparison leaf => by
    simp [mapM, leaves]
  | .all children => by
    simp [mapM, leaves, ← leavesOfAll_mapAllM children]

theorem leavesOfAll_mapAllM :
    (es : List (Expression V)) → leavesOfAll <$> mapAllM f es = (leavesOfAll es).mapM f
  | [] => by
    simp [mapAllM, leavesOfAll]
  | e :: es => by
    rw [mapAllM, leavesOfAll, List.mapM_append, ← leaves_mapM e, ← leavesOfAll_mapAllM es]
    simp [leavesOfAll]

end

mutual

/-- Whatever comes of mapping a tree has the shape of the tree. -/
theorem shape_mapM : (e : Expression V) → shape <$> e.mapM f = (fun _ => e.shape) <$> e.mapM f
  | .comparison leaf => by
    simp [mapM, shape]
  | .all children => calc
    shape <$> mapM f (.all children) = Shape.node <$> shapes <$> mapAllM f children := by
      simp [mapM, shape]
    _ = (fun _ => shape (.all children)) <$> mapM f (.all children) := by
      rw [shapes_mapAllM children]
      simp [mapM, shape]

theorem shapes_mapAllM : (es : List (Expression V)) →
    shapes <$> mapAllM f es = (fun _ => shapes es) <$> mapAllM f es
  | [] => by
    simp [mapAllM, shapes]
  | e :: es => calc
    shapes <$> mapAllM f (e :: es) = (do
        let first ← shape <$> mapM f e
        let rest ← shapes <$> mapAllM f es
        pure (first :: rest)) := by
      simp [mapAllM, shapes]
    _ = (fun _ => shapes (e :: es)) <$> mapAllM f (e :: es) := by
      rw [shape_mapM e, shapes_mapAllM es]
      simp [mapAllM, shapes]

end

end Effects

/-! ## Transformations that have a state and may fail -/

section Outcomes

variable {α β : Type}

/-- What comes of a transformation in a state, and the state it leaves behind, also where it
fails. -/
def outcome (x : ExceptT ε (StateM σ) α) (s : σ) : Except ε α × σ := x.run.run s

variable {x : ExceptT ε (StateM σ) α} {s s' : σ}

theorem outcome_bind_ok {a : α} (h : outcome x s = (.ok a, s'))
    (next : α → ExceptT ε (StateM σ) β) : outcome (x >>= next) s = outcome (next a) s' := by
  rw [outcome, StateT.run] at h
  rw [outcome, ExceptT.run_bind, StateT.run_bind, StateT.run, h]
  rfl

theorem outcome_bind_error {fault : ε} (h : outcome x s = (.error fault, s'))
    (next : α → ExceptT ε (StateM σ) β) : outcome (x >>= next) s = (.error fault, s') := by
  rw [outcome, StateT.run] at h
  rw [outcome, ExceptT.run_bind, StateT.run_bind, StateT.run, h]
  rfl

theorem outcome_map (g : α → β) (x : ExceptT ε (StateM σ) α) (s : σ) :
    outcome (g <$> x) s = ((outcome x s).1.map g, (outcome x s).2) := by
  rw [outcome, ExceptT.run_map, StateT.run_map]
  rfl

end Outcomes

/-- A transformation succeeds on comparisons one after the other, the state handed on. -/
inductive Transforms (f : Comparison V → ExceptT ε (StateM σ) (Comparison U)) :
    σ → List (Comparison V) → List (Comparison U) → σ → Prop
  | nil (s : σ) : Transforms f s [] [] s
  | cons {s s' s'' : σ} {leaf : Comparison V} {leaves : List (Comparison V)}
      {image : Comparison U} {images : List (Comparison U)}
      (first : outcome (f leaf) s = (.ok image, s')) (rest : Transforms f s' leaves images s'') :
      Transforms f s (leaf :: leaves) (image :: images) s''

/-- A transformation that writes down what it is called on. -/
def recorded (f : Comparison V → ExceptT ε (StateM σ) (Comparison U)) (leaf : Comparison V) :
    ExceptT ε (StateM (σ × List (Comparison V))) (Comparison U) :=
  .mk fun (s, calls) =>
    let (answer, s') := outcome (f leaf) s
    (answer, (s', calls ++ [leaf]))

/-- The comparisons that a transformation of a tree is called on, in the order of the calls. -/
def calls (f : Comparison V → ExceptT ε (StateM σ) (Comparison U)) (e : Expression V) (s : σ) :
    List (Comparison V) :=
  (outcome (e.mapM (recorded f)) (s, [])).2.2

variable {f : Comparison V → ExceptT ε (StateM σ) (Comparison U)} {s s' s'' : σ}

theorem outcome_recorded {leaf : Comparison V} {answer : Except ε (Comparison U)}
    (h : outcome (f leaf) s = (answer, s')) (calls : List (Comparison V)) :
    outcome (recorded f leaf) (s, calls) = (answer, (s', calls ++ [leaf])) := by
  change (let (answer, s') := outcome (f leaf) s; (answer, (s', calls ++ [leaf]))) = _
  rw [h]

theorem Transforms.recorded {leaves : List (Comparison V)} {images : List (Comparison U)}
    (h : Transforms f s leaves images s') (calls : List (Comparison V)) :
    Transforms (recorded f) (s, calls) leaves images (s', calls ++ leaves) := by
  induction h generalizing calls with
  | nil s =>
    rw [List.append_nil]
    exact .nil _
  | @cons _ _ _ leaf _ _ _ first _ ih =>
    have hrest := ih (calls ++ [leaf])
    rw [List.append_assoc, List.singleton_append] at hrest
    exact .cons (outcome_recorded first calls) hrest

/-- There are no two ways: either all comparisons are transformed, or there is a first one on which
the transformation fails. -/
theorem transforms_or_fails (f : Comparison V → ExceptT ε (StateM σ) (Comparison U)) (s : σ)
    (leaves : List (Comparison V)) : (∃ images s', Transforms f s leaves images s') ∨
      ∃ before leaf after images s' fault s'', leaves = before ++ leaf :: after ∧
        Transforms f s before images s' ∧ outcome (f leaf) s' = (.error fault, s'') := by
  induction leaves generalizing s with
  | nil => exact .inl ⟨[], s, .nil s⟩
  | cons leaf leaves ih =>
    rcases hfirst : outcome (f leaf) s with ⟨fault | image, s'⟩
    · exact .inr ⟨[], leaf, leaves, [], s, fault, s', rfl, .nil s, hfirst⟩
    · rcases ih s' with ⟨images, s'', hrest⟩ |
        ⟨before, failing, after, images, s₁, fault, s₂, rfl, hbefore, hfault⟩
      · exact .inl ⟨image :: images, s'', .cons hfirst hrest⟩
      · exact .inr ⟨leaf :: before, failing, after, image :: images, s₁, fault, s₂, rfl,
          .cons hfirst hbefore, hfault⟩

/-! ### On lists -/

theorem outcome_mapM_of_transforms {leaves : List (Comparison V)} {images : List (Comparison U)}
    (h : Transforms f s leaves images s') : outcome (leaves.mapM f) s = (.ok images, s') := by
  induction h with
  | nil s =>
    rw [List.mapM_nil]
    rfl
  | cons first _ ih =>
    rw [List.mapM_cons, outcome_bind_ok first, outcome_bind_ok ih]
    rfl

/-- Nothing behind a failure is looked at. -/
theorem outcome_mapM_of_fault {before : List (Comparison V)} {leaf : Comparison V}
    {images : List (Comparison U)} {fault : ε} (h : Transforms f s before images s')
    (hfault : outcome (f leaf) s' = (.error fault, s'')) (after : List (Comparison V)) :
    outcome ((before ++ leaf :: after).mapM f) s = (.error fault, s'') := by
  rw [List.mapM_append, outcome_bind_ok (outcome_mapM_of_transforms h), List.mapM_cons]
  exact outcome_bind_error (outcome_bind_error hfault _) _

/-! ### On trees -/

theorem outcome_mapM_ok {e : Expression V} {images : List (Comparison U)}
    (h : outcome (e.leaves.mapM f) s = (.ok images, s')) :
    ∃ e', outcome (e.mapM f) s = (.ok e', s') ∧ e'.shape = e.shape ∧ e'.leaves = images := by
  have hshape := congrArg (fun x => outcome x s) (shape_mapM f e)
  simp only [outcome_map] at hshape
  rw [← leaves_mapM, outcome_map] at h
  rcases hrun : outcome (e.mapM f) s with ⟨fault | e', s₁⟩
  · rw [hrun] at h
    simp [Except.map] at h
  · rw [hrun] at h hshape
    obtain ⟨himages, rfl⟩ := Prod.mk.inj h
    exact ⟨e', rfl, Except.ok.inj (Prod.mk.inj hshape).1, Except.ok.inj himages⟩

theorem outcome_mapM_error {e : Expression V} {fault : ε}
    (h : outcome (e.leaves.mapM f) s = (.error fault, s')) :
    outcome (e.mapM f) s = (.error fault, s') := by
  rw [← leaves_mapM, outcome_map] at h
  rcases hrun : outcome (e.mapM f) s with ⟨fault' | e', s₁⟩
  · rw [hrun] at h
    obtain ⟨hfault, rfl⟩ := Prod.mk.inj h
    rw [Except.error.inj hfault]
  · rw [hrun] at h
    simp [Except.map] at h

/-- **A tree is evaluated and transformed leaf by leaf.** It is satisfied if all its leaves are. A
transformation that succeeds on the leaves one after the other yields a tree of the same shape with
their images for leaves. Otherwise there is a first leaf on which it fails, and that failure is what
comes of the tree. In both cases the transformation is called on these leaves and on no others, once
each, from left to right. -/
theorem acts_through_leaves :
    (∀ (field : String → Option Value) (e : Expression Value),
      e.satisfiedBy field = true ↔ ∀ leaf ∈ e.leaves, leaf.satisfiedBy field = true) ∧
    ∀ (U V ε σ : Type) (f : Comparison V → ExceptT ε (StateM σ) (Comparison U))
      (e : Expression V) (s : σ),
      (∀ images s', Transforms f s e.leaves images s' →
        (∃ e', outcome (e.mapM f) s = (.ok e', s') ∧ e'.shape = e.shape ∧ e'.leaves = images) ∧
          e.calls f s = e.leaves) ∧
      (∀ before leaf after images s' fault s'', e.leaves = before ++ leaf :: after →
        Transforms f s before images s' → outcome (f leaf) s' = (.error fault, s'') →
          outcome (e.mapM f) s = (.error fault, s'') ∧ e.calls f s = before ++ [leaf]) ∧
      ((∃ images s', Transforms f s e.leaves images s') ∨
        ∃ before leaf after images s' fault s'', e.leaves = before ++ leaf :: after ∧
          Transforms f s before images s' ∧ outcome (f leaf) s' = (.error fault, s'')) := by
  refine ⟨fun field e => satisfiedBy_iff_forall_leaves, fun U V ε σ f e s => ⟨?_, ?_, ?_⟩⟩
  · intro images s' h
    obtain ⟨e', hrecorded, -⟩ := outcome_mapM_ok (outcome_mapM_of_transforms (h.recorded []))
    refine ⟨outcome_mapM_ok (outcome_mapM_of_transforms h), ?_⟩
    rw [calls, hrecorded, List.nil_append]
  · intro before leaf after images s' fault s'' hleaves h hfault
    have hrecorded := outcome_mapM_of_fault (h.recorded []) (outcome_recorded hfault _) after
    have hplain := outcome_mapM_of_fault h hfault after
    rw [← hleaves] at hrecorded hplain
    refine ⟨outcome_mapM_error hplain, ?_⟩
    rw [calls, outcome_mapM_error hrecorded, List.nil_append]
  · exact transforms_or_fails f s e.leaves

/-- Reads an operand as a number and counts what it is called on. -/
def readCounted (c : Comparison String) : ExceptT String (StateM Nat) (Comparison Nat) := do
  modify (· + 1)
  match Number.readNat c.operand.toList with
  | some n => pure ⟨c.field, c.operator, n⟩
  | none => throw c.field

/-- A tree of two levels with an empty conjunction in it, whose second leaf holds no number. -/
def stockLevels : Expression String :=
  .all [.all [], .comparison ⟨"qty", .gte, "12"⟩,
    .all [.comparison ⟨"price", .lt, "dear"⟩, .comparison ⟨"shelf", .eq, "3"⟩]]

theorem acts_through_leaves_of_stockLevels :
    stockLevels.leaves = [⟨"qty", .gte, "12"⟩] ++ ⟨"price", .lt, "dear"⟩ :: [⟨"shelf", .eq, "3"⟩] ∧
      Transforms readCounted 0 [⟨"qty", .gte, "12"⟩] [⟨"qty", .gte, 12⟩] 1 ∧
      outcome (readCounted ⟨"price", .lt, "dear"⟩) 1 = (.error "price", 2) ∧
      outcome (stockLevels.mapM readCounted) 0 = (.error "price", 2) ∧
      stockLevels.calls readCounted 0 = [⟨"qty", .gte, "12"⟩, ⟨"price", .lt, "dear"⟩] := by
  have hleaves : stockLevels.leaves =
      [⟨"qty", .gte, "12"⟩] ++ ⟨"price", .lt, "dear"⟩ :: [⟨"shelf", .eq, "3"⟩] := rfl
  have hqty : Transforms readCounted 0 [⟨"qty", .gte, "12"⟩] [⟨"qty", .gte, 12⟩] 1 :=
    .cons rfl (.nil 1)
  have hprice : outcome (readCounted ⟨"price", .lt, "dear"⟩) 1 = (.error "price", 2) := rfl
  obtain ⟨-, htree⟩ := acts_through_leaves
  obtain ⟨-, hfails, -⟩ := htree _ _ _ _ readCounted stockLevels 0
  exact ⟨hleaves, hqty, hprice, hfails _ _ _ _ _ _ _ hleaves hqty hprice⟩

end ResourceApi.Filter.Expression
