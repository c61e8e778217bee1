import CueScript.Scope.Tree

set_option autoImplicit false

namespace CueScript

namespace ScopeTree

variable {tree tree' : ScopeTree} {id owner p : ScopeId} {name other : String} {value : Value}

/-- A scope and its ancestors, the nearest first. -/
def chain (tree : ScopeTree) (id : ScopeId) : List ScopeId :=
  match tree.parent? id with
  | none => [id]
  | some p => if p < id then id :: tree.chain p else [id]
termination_by id

def owner? (tree : ScopeTree) (id : ScopeId) (name : String) : Option ScopeId :=
  (tree.chain id).find? fun s => (tree.bindings s).contains name

/-- Every scope is younger than its parent. -/
def Grown (tree : ScopeTree) : Prop :=
  ∀ id p, tree.parent? id = some p → p < id

inductive Nearest (tree : ScopeTree) (name : String) : ScopeId → ScopeId → Prop
  | here {id : ScopeId} {value : Value} (bound : tree.getLocal id name = some value) : Nearest tree name id id
  | outer {id p owner : ScopeId} (free : tree.getLocal id name = none) (inside : tree.parent? id = some p)
      (found : Nearest tree name p owner) : Nearest tree name id owner

section Trees

theorem Grown.outward (grown : tree.Grown) {motive : ScopeId → Prop}
    (step : ∀ id, (∀ p, tree.parent? id = some p → motive p) → motive id) (id : ScopeId) : motive id := by
  induction id using Nat.strongRecOn with
  | ind id ih => exact step id fun p inside => ih p (grown id p inside)

theorem grown_root : root.Grown := by
  intro id p inside
  cases id with
  | zero => cases inside
  | succ id => simp [root, parent?] at inside

theorem Grown.child (grown : tree.Grown) (known : p < tree.nodes.size) : (tree.child p).2.Grown := by
  intro id q inside
  simp only [ScopeTree.child, parent?, Array.getElem?_push] at inside
  split at inside
  next last =>
    cases inside
    rw [last]
    exact known
  next => exact grown id q inside

theorem chain_eq (grown : tree.Grown) (id : ScopeId) :
    tree.chain id = id :: ((tree.parent? id).map tree.chain).getD [] := by
  rw [chain]
  split
  next top => rw [top]; rfl
  next p inside => rw [if_pos (grown id p inside), inside]; rfl

end Trees

section Reading

theorem get_eq (grown : tree.Grown) (id : ScopeId) (name : String) :
    tree.get id name = (tree.getLocal id name).or ((tree.parent? id).bind (tree.get · name)) := by
  rw [get]
  cases tree.getLocal id name with
  | some found => rfl
  | none =>
    cases inside : tree.parent? id with
    | none => rfl
    | some p => simp only [if_pos (grown id p inside), Option.none_or, Option.bind_some]

theorem contains_eq (grown : tree.Grown) (id : ScopeId) (name : String) :
    tree.contains id name = ((tree.getLocal id name).isSome || ((tree.parent? id).map (tree.contains · name)).getD false) := by
  rw [contains]
  cases inside : tree.parent? id with
  | none => rfl
  | some p => simp only [if_pos (grown id p inside), Option.map_some, Option.getD_some, Bindings.contains, getLocal]

theorem get_eq_lookupNearest (grown : tree.Grown) (id : ScopeId) (name : String) :
    tree.get id name = lookupNearest ((tree.chain id).map tree.bindings) name := by
  induction id using grown.outward with
  | step id ih =>
    rw [get_eq grown, chain_eq grown, List.map_cons, lookupNearest, List.findSome?_cons, getLocal]
    cases (tree.bindings id).get? name with
    | some found => rfl
    | none =>
      cases inside : tree.parent? id with
      | none => rfl
      | some p => exact ih p inside

theorem owner?_eq (grown : tree.Grown) (id : ScopeId) (name : String) :
    tree.owner? id name = if tree.getLocal id name = none then (tree.parent? id).bind (tree.owner? · name) else some id := by
  unfold owner?
  rw [chain_eq grown, List.find?_cons]
  change (match (tree.getLocal id name).isSome with | true => some id | false => _) = _
  cases tree.getLocal id name with
  | some found => rfl
  | none => cases tree.parent? id <;> rfl

theorem owner?_eq_some (grown : tree.Grown) : tree.owner? id name = some owner ↔ tree.Nearest name id owner := by
  constructor
  next =>
    induction id using grown.outward with
    | step id ih =>
      intro found
      rw [owner?_eq grown] at found
      split at found
      next free =>
        obtain ⟨p, inside, found⟩ := Option.bind_eq_some_iff.mp found
        exact .outer free inside (ih p inside found)
      next bound =>
        obtain ⟨value, bound⟩ := Option.ne_none_iff_exists'.mp bound
        cases found
        exact .here bound
  next =>
    intro nearest
    induction nearest with
    | here bound => rw [owner?_eq grown, bound, if_neg (by simp)]
    | outer free inside _ ih => rw [owner?_eq grown, if_pos free, inside, Option.bind_some, ih]

theorem get_of_nearest (grown : tree.Grown) (nearest : tree.Nearest name id owner) :
    tree.get id name = tree.getLocal owner name := by
  induction nearest with
  | here bound => rw [get_eq grown, bound, Option.some_or]
  | outer free inside _ ih => rw [get_eq grown, free, Option.none_or, inside, Option.bind_some, ih]

theorem Nearest.known (nearest : tree.Nearest name id owner) : owner < tree.nodes.size := by
  induction nearest with
  | @here id _ bound =>
    refine Nat.lt_of_not_le fun unknown => ?_
    -- There is no scope of that number, so nothing is bound in it.
    have missing : tree.nodes[id]? = none := Array.getElem?_eq_none unknown
    simp [getLocal, bindings, missing, Bindings.get?] at bound
  | outer _ _ _ ih => exact ih

theorem Nearest.unique (grown : tree.Grown) {owner' : ScopeId} (nearest : tree.Nearest name id owner)
    (nearest' : tree.Nearest name id owner') : owner = owner' := by
  rw [← owner?_eq_some grown] at nearest nearest'
  exact Option.some.inj (nearest.symm.trans nearest')

theorem get_eq_some (grown : tree.Grown) :
    tree.get id name = some value ↔ ∃ owner, tree.Nearest name id owner ∧ tree.getLocal owner name = some value := by
  constructor
  next =>
    induction id using grown.outward with
    | step id ih =>
      intro found
      rw [get_eq grown] at found
      cases own : tree.getLocal id name with
      | some value =>
        rw [own, Option.some_or] at found
        exact ⟨id, .here own, own.trans found⟩
      | none =>
        rw [own, Option.none_or] at found
        obtain ⟨p, inside, found⟩ := Option.bind_eq_some_iff.mp found
        obtain ⟨owner, nearest, bound⟩ := ih p inside found
        exact ⟨owner, .outer own inside nearest, bound⟩
  next =>
    rintro ⟨owner, nearest, bound⟩
    rw [get_of_nearest grown nearest, bound]

theorem contains_iff (grown : tree.Grown) (id : ScopeId) (name : String) :
    tree.contains id name = true ↔ ∃ value, tree.get id name = some value := by
  rw [← Option.isSome_iff_exists]
  induction id using grown.outward with
  | step id ih =>
    rw [contains_eq grown, get_eq grown]
    cases tree.getLocal id name with
    | some value => simp
    | none =>
      cases inside : tree.parent? id with
      | none => simp
      | some p => simpa using ih p inside

end Reading

section Writing

/-- One binding was written, in the scope `owner`; it was added if there was none. -/
structure Written (tree : ScopeTree) (owner : ScopeId) (name : String) (value : Value) (tree' : ScopeTree) : Prop where
  scopes : tree'.nodes.size = tree.nodes.size
  parent : ∀ id, tree'.parent? id = tree.parent? id
  bindings : ∀ id other,
    tree'.getLocal id other = if id = owner ∧ other = name then some value else tree.getLocal id other
  sizes : ∀ id, (tree'.bindings id).size =
    if id = owner ∧ tree.getLocal owner name = none then (tree.bindings id).size + 1 else (tree.bindings id).size

theorem written_setLocal (known : owner < tree.nodes.size) (name : String) (value : Value) :
    tree.Written owner name value (tree.setLocal owner name value) := by
  have node (id : ScopeId) : (tree.setLocal owner name value).nodes[id]? =
      if id = owner then some { tree.nodes[owner] with bindings := tree.nodes[owner].bindings.set name value }
      else tree.nodes[id]? := by
    rw [setLocal, Array.getElem?_modify]
    by_cases same : id = owner
    next => simp [same, known]
    next => simp [same, Ne.symm same]
  refine ⟨Array.size_modify, fun id => ?_, fun id other => ?_, fun id => ?_⟩
  all_goals by_cases same : id = owner
  next => simp [parent?, node, same, known]
  next => simp [parent?, node, same]
  next => simp [getLocal, bindings, node, same, known, Bindings.get?_set]
  next => simp [getLocal, bindings, node, same]
  next => simp [getLocal, bindings, node, same, known, Bindings.size_set]
  next => simp [bindings, node, same]

namespace Written

theorem grown (written : tree.Written owner name value tree') (grown : tree.Grown) : tree'.Grown := by
  intro id p inside
  rw [written.parent] at inside
  exact grown id p inside

theorem bound (written : tree.Written owner name value tree') : tree'.getLocal owner name = some value := by
  rw [written.bindings, if_pos ⟨rfl, rfl⟩]

theorem get_owned (written : tree.Written owner name value tree') (grown : tree.Grown)
    (nearest : tree'.Nearest name id owner) : tree'.get id name = some value := by
  rw [get_of_nearest (written.grown grown) nearest, written.bound]

theorem get_unowned (written : tree.Written owner name value tree') (grown : tree.Grown)
    (elsewhere : ¬ tree'.Nearest name id owner) : tree'.get id name = tree.get id name := by
  induction id using grown.outward with
  | step id ih =>
    have notOwner : id ≠ owner := fun same => elsewhere (by rw [same]; exact .here written.bound)
    have own : tree'.getLocal id name = tree.getLocal id name := by
      rw [written.bindings, if_neg fun both => notOwner both.1]
    rw [get_eq (written.grown grown), get_eq grown, own, written.parent]
    cases free : tree.getLocal id name with
    | some value => rfl
    | none =>
      cases inside : tree.parent? id with
      | none => rfl
      | some p =>
        -- Were the written binding the nearest one for the parent, it would be for the scope too.
        refine ih p inside fun nearest => elsewhere (.outer (own.trans free) ?_ nearest)
        rw [written.parent, inside]

theorem get_other (written : tree.Written owner name value tree') (grown : tree.Grown) (differs : other ≠ name)
    (id : ScopeId) : tree'.get id other = tree.get id other := by
  induction id using grown.outward with
  | step id ih =>
    rw [get_eq (written.grown grown), get_eq grown, written.bindings, if_neg fun both => differs both.2, written.parent]
    cases inside : tree.parent? id with
    | none => rfl
    | some p => rw [Option.bind_some, Option.bind_some, ih p inside]

theorem nearest (written : tree.Written owner name value tree') (before : tree.Nearest name id owner) :
    tree'.Nearest name id owner := by
  induction before with
  | here => exact .here written.bound
  | @outer id p owner free inside _ ih =>
    by_cases same : id = owner
    next => rw [same]; exact .here written.bound
    next =>
      refine .outer ?_ ((written.parent id).trans inside) (ih written)
      rw [written.bindings, if_neg fun both => same both.1, free]

end Written

theorem replace?_eq (grown : tree.Grown) (id : ScopeId) (name : String) (value : Value) :
    tree.replace? id name value = (tree.owner? id name).map (tree.setLocal · name value) := by
  induction id using grown.outward with
  | step id ih =>
    rw [replace?, owner?_eq grown, Bindings.contains, ← getLocal]
    cases own : tree.getLocal id name with
    | some bound => simp
    | none =>
      cases inside : tree.parent? id with
      | none => simp
      | some p => simpa [grown id p inside] using ih p inside

theorem set_eq (grown : tree.Grown) (id : ScopeId) (name : String) (value : Value) :
    tree.set id name value = tree.setLocal ((tree.owner? id name).getD id) name value := by
  rw [set, owner?_eq grown, Bindings.contains, ← getLocal]
  cases tree.getLocal id name with
  | some bound => simp
  | none =>
    cases tree.parent? id with
    | none => simp
    | some p =>
      simp only [Option.isSome_none, Bool.false_eq_true, if_false, Option.bind_some, if_true, replace?_eq grown]
      cases tree.owner? p name <;> rfl

theorem written_set (grown : tree.Grown) (known : id < tree.nodes.size) (name : String) (value : Value) :
    ∃ owner, (tree.Nearest name id owner ∨ owner = id ∧ ∀ scope, ¬ tree.Nearest name id scope) ∧
      tree.Written owner name value (tree.set id name value) ∧ (tree.set id name value).Nearest name id owner := by
  cases found : tree.owner? id name with
  | some owner =>
    have before := (owner?_eq_some grown).mp found
    have written : tree.Written owner name value (tree.set id name value) := by
      rw [set_eq grown, found]
      exact written_setLocal before.known name value
    exact ⟨owner, .inl before, written, written.nearest before⟩
  | none =>
    have written : tree.Written id name value (tree.set id name value) := by
      rw [set_eq grown, found]
      exact written_setLocal known name value
    refine ⟨id, .inr ⟨rfl, fun scope nearest => ?_⟩, written, .here written.bound⟩
    rw [(owner?_eq_some grown).mpr nearest] at found
    cases found

end Writing

end ScopeTree

/-- An assignment writes the nearest binding of the name, or a new one where it stands, and nothing else. From each scope
the name then has the new value if the written binding is the nearest one, and what it had otherwise. -/
theorem set_writes_nearest_binding {tree : ScopeTree} (grown : tree.Grown) {s : ScopeId} (known : s < tree.nodes.size)
    (name : String) (value : Value) :
    (∃ owner, (tree.Nearest name s owner ∨ owner = s ∧ ∀ scope, ¬ tree.Nearest name s scope) ∧
      tree.Written owner name value (tree.set s name value) ∧ (tree.set s name value).Nearest name s owner ∧
      ∀ t, ((tree.set s name value).Nearest name t owner → (tree.set s name value).get t name = some value) ∧
        (¬ (tree.set s name value).Nearest name t owner → (tree.set s name value).get t name = tree.get t name) ∧
        ∀ other, other ≠ name → (tree.set s name value).get t other = tree.get t other) ∧
    (∀ t other found, tree.get t other = some found ↔
      ∃ owner, tree.Nearest other t owner ∧ tree.getLocal owner other = some found) ∧
    (∀ t other, (tree.set s name value).contains t other = true ↔
      ∃ found, (tree.set s name value).get t other = some found) ∧
    tree.Written s name value (tree.setLocal s name value) ∧
    ∀ t other found, tree.getLocal t other = some found ↔ tree.Nearest other t t ∧ tree.get t other = some found := by
  obtain ⟨owner, place, written, nearest⟩ := ScopeTree.written_set grown known name value
  refine ⟨⟨owner, place, written, nearest, fun t => ⟨written.get_owned grown, written.get_unowned grown, ?_⟩⟩,
    fun t other found => ScopeTree.get_eq_some grown, fun t other => ScopeTree.contains_iff (written.grown grown) t other,
    ScopeTree.written_setLocal known name value, fun t other found => ⟨fun own => ?_, fun ⟨nearest, read⟩ => ?_⟩⟩
  next => exact fun other differs => written.get_other grown differs t
  next => exact ⟨.here own, by rw [ScopeTree.get_of_nearest grown (.here own), own]⟩
  next => rw [← ScopeTree.get_of_nearest grown nearest, read]

def nestedScopes : ScopeTree :=
  let tree := ((ScopeTree.root.child 0).2.child 1).2.child 0
  (tree.2.setLocal 0 "x" (.int 1)).setLocal 1 "x" (.int 2)

theorem inner_assignment_spares_root :
    nestedScopes.Grown ∧ 2 < nestedScopes.nodes.size ∧ (nestedScopes.set 2 "x" (.int 7)).get 1 "x" = some (.int 7) ∧
    (nestedScopes.set 2 "x" (.int 7)).get 3 "x" = nestedScopes.get 3 "x" := by
  have bare : (((ScopeTree.root.child 0).2.child 1).2.child 0).2.Grown :=
    ((ScopeTree.grown_root.child (by decide)).child (by decide)).child (by decide)
  have grown : nestedScopes.Grown :=
    (ScopeTree.written_setLocal (by decide) _ _).grown ((ScopeTree.written_setLocal (by decide) _ _).grown bare)
  have known : 2 < nestedScopes.nodes.size := by decide
  have nearest : nestedScopes.Nearest "x" 2 1 := .outer rfl rfl (.here rfl)
  obtain ⟨⟨owner, place, written, _, reads⟩, _⟩ := set_writes_nearest_binding grown known "x" (.int 7)
  obtain rfl : owner = 1 := by
    rcases place with found | ⟨_, free⟩
    next => exact found.unique grown nearest
    next => exact absurd nearest (free 1)
  refine ⟨grown, known, (reads 1).1 (.here written.bound), (reads 3).2.1 fun reached => ?_⟩
  -- The second scope inside the root finds the binding of the root first.
  have first : (nestedScopes.set 2 "x" (.int 7)).Nearest "x" 3 0 :=
    .outer ((written.bindings 3 "x").trans rfl) ((written.parent 3).trans rfl)
      (.here ((written.bindings 0 "x").trans rfl))
  exact absurd (reached.unique (written.grown grown) first) (by decide)

end CueScript
