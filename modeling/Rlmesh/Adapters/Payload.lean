import Rlmesh.Adapters.Specs
import Rlmesh.Adapters.Stateful
/-!
# The payload tree (`apply/obs.rs`, `apply/lookup.rs`, `resolver.rs`)

A model's input is a tree of dicts and tuples with a leaf for every value it
takes. `collectLeaves` lists the leaves with their placements, `NodeBuilder`
scatters the produced values to them, and `resolveSource` reads a position of the
payload back.
-/
open Rlmesh.Lib

namespace Rlmesh.Adapters

/-- A payload value; tensors, texts, bytes and numbers are all `other`. -/
inductive Value (α : Type) where
  | other (value : α)
  | tuple (items : List (Value α))
  | list (items : List (Value α))
  | map (entries : List (String × Value α))

/-- A node of a model's input tree; a dict's keys are sorted. -/
inductive InputNode (L : Type) where
  | leaf (leaf : L)
  | dict (children : List (String × InputNode L))
  | tuple (items : List (InputNode L))

variable {α L : Type}

/-! ## Leaves -/

mutual
/-- The leaves under a node, each with its placement. -/
def collectLeaves : InputNode L → NodePath → List (L × NodePath)
  | .leaf leaf, placement => [(leaf, placement)]
  | .dict children, placement => collectFields children placement
  | .tuple items, placement => collectItems items 0 placement

def collectFields : List (String × InputNode L) → NodePath → List (L × NodePath)
  | [], _ => []
  | (key, child) :: rest, placement => collectLeaves child (placement ++ [.key key]) ++ collectFields rest placement

def collectItems : List (InputNode L) → Nat → NodePath → List (L × NodePath)
  | [], _, _ => []
  | item :: rest, index, placement =>
    collectLeaves item (placement ++ [.index index]) ++ collectItems rest (index + 1) placement
end

/-! ## Placements -/

/-- A node as the map a key is placed in; an empty list is still open. -/
def Value.asMap : Value α → Option (List (String × Value α))
  | .map entries => some entries
  | .list [] => some []
  | _ => none

/-- A node as the list an index is placed in; an empty map is still open. -/
def Value.asList : Value α → Option (List (Value α))
  | .list items => some items
  | .map [] => some []
  | _ => none

/-- `items.resize(index + 1, ..)` where the list is too short. -/
def grown (items : List (Value α)) (index : Nat) : List (Value α) :=
  items ++ List.replicate (index + 1 - items.length) (.map [])

/-- `insert_at`: put a value at a path, opening maps and lists on the way. -/
def insertAt (value : Value α) : NodePath → Value α → Except ApplyError (Value α)
  | [], _ => .ok value
  | .key key :: rest, node =>
    match node.asMap with
    | none => .error { message := s!"payload placement conflict: expected a Map to place key '{key}'" }
    | some entries => do
      let child ← insertAt value rest ((entries.lookup key).getD (.map []))
      return .map (insertKey key child entries)
  | .index index :: rest, node =>
    match node.asList with
    | none => .error { message := s!"payload placement conflict: expected a List to place index [{index}]" }
    | some items => do
      let child ← insertAt value rest ((grown items index)[index]?.getD (.map []))
      return .list ((grown items index).set index child)

/-- The payload built so far, if anything was placed. -/
structure NodeBuilder (α : Type) where
  root : Option (Value α) := none

def NodeBuilder.place (builder : NodeBuilder α) (placement : NodePath) (value : Value α) :
    Except ApplyError (NodeBuilder α) :=
  match placement with
  | [] =>
    if builder.root.isSome then .error { message := "two model inputs both target the root payload placement" }
    else .ok { root := some value }
  | first :: _ => do
    let root := builder.root.getD (match first with
      | .index _ => .list []
      | .key _ => .map [])
    let placed ← insertAt value placement root
    return { root := some placed }

def NodeBuilder.finish (builder : NodeBuilder α) : Value α := builder.root.getD (.map [])

/-- Place the values the leaves produce, in the order given. -/
def placeAll (produce : L → Value α) (leaves : List (L × NodePath)) : Except ApplyError (Value α) := do
  let builder ← leaves.foldlM (fun (builder : NodeBuilder α) leaf => builder.place leaf.2 (produce leaf.1)) {}
  return builder.finish

/-! ## Lookups -/

/-- `<root>`, or keys with dots and indexes in brackets. -/
def pathText : NodePath → String
  | [] => "<root>"
  | .key key :: rest => key ++ tailText rest
  | .index index :: rest => s!"[{index}]" ++ tailText rest
where
  tailText : NodePath → String
    | [] => ""
    | .key key :: rest => "." ++ key ++ tailText rest
    | .index index :: rest => s!"[{index}]" ++ tailText rest

def Value.kind (kindOf : α → String) : Value α → String
  | .other value => kindOf value
  | .tuple _ => "a tuple"
  | .list _ => "a list"
  | .map _ => "a map"

/-- `resolve_walk!`: the rest of a path from a node on. -/
def resolveWalk (kindOf : α → String) (path : NodePath) : NodePath → Value α → Except ApplyError (Value α)
  | [], node => .ok node
  | .key key :: rest, .map entries =>
    match entries.lookup key with
    | some child => resolveWalk kindOf path rest child
    | none =>
      let whole := pathText path
      let available := ", ".intercalate (entries.map (fun entry => s!"'{entry.1}'"))
      .error { message := s!"observation path '{whole}' is missing key '{key}'; available: [{available}]" }
  | .index index :: rest, .list items | .index index :: rest, .tuple items =>
    match items[index]? with
    | some child => resolveWalk kindOf path rest child
    | none =>
      let whole := pathText path
      .error { message := s!"observation path '{whole}' index [{index}] is out of range (len {items.length})" }
  | .key key :: _, other =>
    let whole := pathText path
    let got := other.kind kindOf
    .error { message := s!"observation path '{whole}' expected a Dict at '{key}', got {got}" }
  | .index index :: _, other =>
    let whole := pathText path
    let got := other.kind kindOf
    .error { message := s!"observation path '{whole}' expected a Tuple at [{index}], got {got}" }

def resolveSource (kindOf : α → String) (root : Value α) (path : NodePath) : Except ApplyError (Value α) :=
  resolveWalk kindOf path path root

end Rlmesh.Adapters
