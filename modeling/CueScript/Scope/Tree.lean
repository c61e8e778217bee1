import CueScript.Scope.Bindings

set_option autoImplicit false

namespace CueScript

abbrev ScopeId := Nat

structure ScopeNode where
  parent : Option ScopeId := none
  bindings : Bindings := {}

structure ScopeTree where
  nodes : Array ScopeNode

namespace ScopeTree

def root : ScopeTree :=
  { nodes := #[{}] }

def parent? (tree : ScopeTree) (id : ScopeId) : Option ScopeId :=
  tree.nodes[id]?.bind (·.parent)

def isRoot (tree : ScopeTree) (id : ScopeId) : Bool :=
  (tree.parent? id).isNone

def bindings (tree : ScopeTree) (id : ScopeId) : Bindings :=
  (tree.nodes[id]?.map (·.bindings)).getD {}

def child (tree : ScopeTree) (parent : ScopeId) : ScopeId × ScopeTree :=
  (tree.nodes.size, { nodes := tree.nodes.push { parent := some parent } })

def getLocal (tree : ScopeTree) (id : ScopeId) (name : String) : Option Value :=
  (tree.bindings id).get? name

def setLocal (tree : ScopeTree) (id : ScopeId) (name : String) (value : Value) : ScopeTree :=
  { nodes := tree.nodes.modify id fun node => { node with bindings := node.bindings.set name value } }

/-- The value in the scope itself or else, by way of its parent, in the nearest one outward. -/
def get (tree : ScopeTree) (id : ScopeId) (name : String) : Option Value :=
  match tree.getLocal id name with
  | some value => some value
  | none =>
    match tree.parent? id with
    | some p => if p < id then tree.get p name else none
    | none => none
termination_by id

def contains (tree : ScopeTree) (id : ScopeId) (name : String) : Bool :=
  (tree.bindings id).contains name ||
    match tree.parent? id with
    | some p => if p < id then tree.contains p name else false
    | none => false
termination_by id

def replace? (tree : ScopeTree) (id : ScopeId) (name : String) (value : Value) : Option ScopeTree :=
  if (tree.bindings id).contains name then some (tree.setLocal id name value)
  else
    match tree.parent? id with
    | some p => if p < id then tree.replace? p name value else none
    | none => none
termination_by id

def set (tree : ScopeTree) (id : ScopeId) (name : String) (value : Value) : ScopeTree :=
  if (tree.bindings id).contains name then tree.setLocal id name value
  else
    match (tree.parent? id).bind fun p => tree.replace? p name value with
    | some tree => tree
    | none => tree.setLocal id name value

end ScopeTree

end CueScript
