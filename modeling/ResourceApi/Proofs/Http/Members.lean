import ResourceApi.Http.Routes

/-!
# Messages about one entity

A member's identifier is read from its path alone, so messages with one target are about one entity,
whatever their methods are.

## Main definitions

- `Routes.Names` — what a path names

## Main results

- `Routes.dispatch_of_names` — the request of a message about an entity
- `Routes.dispatch_eq_request` — where a request comes from
- `Routes.names_of_get` — a message that asks for an entity has named it
-/

namespace ResourceApi

deriving instance DecidableEq for Request, Dispatch

/-- What is read as an integer of 64 bits is one. -/
theorem Number.bounds_of_readInt64 {cs : List Char} {n : Int} (h : readInt64 cs = some n) :
    minInt64 ≤ n ∧ n ≤ maxInt64 :=
  of_decide_eq_true (Option.filter_eq_some_iff.mp h).2

namespace Routes

variable {E D : Type} (r : Routes E D)

/-- A path names the entity under an identifier: it is the path of a member with one parameter that
is not reserved, which reads as the identifier. -/
def Names (path : List Char) (id : Int) : Prop :=
  ∃ parameters raw, r.place? path = some (.member parameters) ∧
    (parameters.filter fun parameter => !isReserved parameter).mapM decode = .ok [raw] ∧
    Number.readInt64 raw.toList = some id

variable {r} {path : List Char} {id : Int} {m : Message}

theorem Names.bounds (h : r.Names path id) : Number.minInt64 ≤ id ∧ id ≤ Number.maxInt64 := by
  obtain ⟨_, raw, -, -, hid⟩ := h
  exact Number.bounds_of_readInt64 hid

/-- **The request of a message** about an entity is the one of its method. -/
theorem dispatch_of_names (h : r.Names m.path id) {operation : Operation}
    (hmethod : memberOperation? m.method = some operation) :
    r.dispatch m = .request (requestFor operation id m) := by
  obtain ⟨parameters, raw, hplace, hraw, hid⟩ := h
  rw [dispatch, hplace]
  dsimp only
  rw [dispatchMember, hmethod, hraw]
  dsimp only
  rw [hid]

/-- A request comes from the collection or names an entity, and is the one of its method. -/
theorem dispatch_eq_request {request : Request} (h : r.dispatch m = .request request) :
    (∃ operation, collectionOperation? m.method = some operation ∧
        request = requestFor operation 0 m) ∨
      ∃ operation id, memberOperation? m.method = some operation ∧ r.Names m.path id ∧
        request = requestFor operation id m := by
  unfold dispatch at h
  split at h
  · cases h
  · split at h
    · cases h
    · next operation hoperation =>
      exact .inl ⟨operation, hoperation, (Dispatch.request.inj h).symm⟩
  · next parameters hplace =>
    unfold dispatchMember at h
    split at h
    · cases h
    · next operation hoperation =>
      split at h
      · cases h
      · next raw hraw =>
        split at h
        · next id hid =>
          exact .inr ⟨operation, id, hoperation, ⟨parameters, raw, hplace, hraw, hid⟩,
            (Dispatch.request.inj h).symm⟩
        · cases h
      · cases h

/-- The operations on a collection. -/
theorem collectionOperation?_cases {method : String} {operation : Operation}
    (h : collectionOperation? method = some operation) :
    operation = .list ∨ operation = .create := by
  unfold collectionOperation? at h
  split at h
  · exact .inl (Option.some.inj h).symm
  · split at h
    · exact .inr (Option.some.inj h).symm
    · cases h

/-- **A message that asks for an entity** has named it: the requests of a collection are others. -/
theorem names_of_get {accept : Option String} (h : r.dispatch m = .request (.get id accept)) :
    r.Names m.path id := by
  rcases dispatch_eq_request h with ⟨operation, hoperation, hrequest⟩ |
    ⟨operation, other, -, hnames, hrequest⟩
  · rcases collectionOperation?_cases hoperation with rfl | rfl <;> cases hrequest
  · have hid : other = id := by
      -- Only one of the requests about an entity asks for it.
      cases operation <;> cases hrequest
      rfl
    exact hid ▸ hnames

theorem operation_requestFor (operation : Operation) (id : Int) (m : Message) :
    (requestFor operation id m).operation = operation := by
  cases operation <;> rfl

/-- `HEAD` asks for nothing but what is there. -/
theorem method_of_request {request : Request} (h : r.dispatch m = .request request)
    (hlist : request.operation ≠ .list) (hget : request.operation ≠ .get) :
    (m.method == "HEAD") = false := by
  refine beq_eq_false_iff_ne.mpr fun hmethod => ?_
  have hcollection : collectionOperation? m.method = some .list := by
    rw [hmethod]
    rfl
  have hmember : memberOperation? m.method = some .get := by
    rw [hmethod]
    rfl
  rcases dispatch_eq_request h with ⟨operation, hoperation, rfl⟩ | ⟨operation, id, hoperation, -, rfl⟩
  · rw [operation_requestFor] at hlist
    exact hlist (Option.some.inj (hoperation.symm.trans hcollection))
  · rw [operation_requestFor] at hget
    exact hget (Option.some.inj (hoperation.symm.trans hmember))

end Routes

end ResourceApi
