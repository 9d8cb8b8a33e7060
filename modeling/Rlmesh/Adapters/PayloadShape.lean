import Rlmesh.Adapters.Payload
import Rlmesh.Lib.Keyed
import Rlmesh.Lib.Results
/-!
# The assembled payload is the model's input tree

`Partly` describes the payload while leaves are being placed: what lies below a
placement made so far has its final kind, everything else is missing or still the
empty map that stands for it. Placing a leaf keeps it, by induction on the
leaf's path, and once every leaf is placed the payload has the tree's shape. A
container without a leaf below it is never opened, so the trees have none.
-/
open Rlmesh.Lib

namespace Rlmesh.Adapters

variable {α L : Type}

/-! ## Positions of a tree -/

/-- The node at a path. -/
def InputNode.nodeAt : NodePath → InputNode L → Option (InputNode L)
  | [], node => some node
  | .key key :: rest, .dict children => (children.lookup key).bind (nodeAt rest)
  | .index index :: rest, .tuple items => items[index]?.bind (nodeAt rest)
  | _, _ => none

/-- The leaf at a path, if there is one. -/
def InputNode.leafAt (path : NodePath) (node : InputNode L) : Option L :=
  match node.nodeAt path with
  | some (.leaf found) => some found
  | _ => none

/-- The keys of every dict are sorted, as in a `BTreeMap`. -/
def InputNode.Sorted (tree : InputNode L) : Prop :=
  ∀ path children, tree.nodeAt path = some (.dict children) → Ascending children

/-- Every node but the root has a leaf below it. -/
def InputNode.Leafy (tree : InputNode L) : Prop :=
  ∀ segment path node, tree.nodeAt (segment :: path) = some node → ∃ rest leaf, node.leafAt rest = some leaf

section

variable {tree : InputNode L} {children : List (String × InputNode L)} {items : List (InputNode L)} {child : InputNode L}

theorem nodeAt_key {key : String} (h : children.lookup key = some child) (rest : NodePath) :
    (InputNode.dict children).nodeAt (.key key :: rest) = child.nodeAt rest := by
  show (children.lookup key).bind (InputNode.nodeAt rest) = _
  rw [h]
  rfl

theorem nodeAt_index {index : Nat} (h : items[index]? = some child) (rest : NodePath) :
    (InputNode.tuple items).nodeAt (.index index :: rest) = child.nodeAt rest := by
  show items[index]?.bind (InputNode.nodeAt rest) = _
  rw [h]
  rfl

theorem leafAt_key {key : String} (h : children.lookup key = some child) (rest : NodePath) :
    (InputNode.dict children).leafAt (.key key :: rest) = child.leafAt rest := by
  rw [InputNode.leafAt, InputNode.leafAt, nodeAt_key h]

theorem leafAt_index {index : Nat} (h : items[index]? = some child) (rest : NodePath) :
    (InputNode.tuple items).leafAt (.index index :: rest) = child.leafAt rest := by
  rw [InputNode.leafAt, InputNode.leafAt, nodeAt_index h]

theorem nodeAt_cons {segment : PathSeg} {rest : NodePath} {node : InputNode L}
    (h : tree.nodeAt (segment :: rest) = some node) :
    (∃ key children child, segment = .key key ∧ tree = .dict children ∧ children.lookup key = some child ∧
      child.nodeAt rest = some node) ∨
    ∃ index items child, segment = .index index ∧ tree = .tuple items ∧ items[index]? = some child ∧
      child.nodeAt rest = some node := by
  cases segment with
  | key key =>
    cases tree with
    | leaf _ | tuple _ => cases h
    | dict children =>
      obtain ⟨child, hchild, hnode⟩ := Option.bind_eq_some_iff.1 h
      exact .inl ⟨key, children, child, rfl, rfl, hchild, hnode⟩
  | index index =>
    cases tree with
    | leaf _ | dict _ => cases h
    | tuple items =>
      obtain ⟨child, hchild, hnode⟩ := Option.bind_eq_some_iff.1 h
      exact .inr ⟨index, items, child, rfl, rfl, hchild, hnode⟩

theorem leafAt_eq_some {path : NodePath} {leaf : L} : tree.leafAt path = some leaf ↔ tree.nodeAt path = some (.leaf leaf) := by
  unfold InputNode.leafAt
  split
  · rename_i found hfound
    simp [hfound]
  · rename_i hnot
    simp only [reduceCtorEq, false_iff]
    exact fun h => hnot leaf h

end

/-! ## Payloads under construction -/

section

variable (produce : L → Value α)

/-- The payload of a tree once the leaves of `placed` were placed. -/
inductive Partly : InputNode L → (NodePath → Prop) → Value α → Prop
  | absent {tree placed} : (∀ path, ¬ placed path) → Partly tree placed (.map [])
  | leaf {leaf placed} : placed [] → Partly (.leaf leaf) placed (produce leaf)
  | dict {children placed entries} : Ascending entries →
      (∀ key, (entries.lookup key).isSome = true ↔ ∃ rest, placed (.key key :: rest)) →
      (∀ key child value, children.lookup key = some child → entries.lookup key = some value →
        Partly child (fun rest => placed (.key key :: rest)) value) →
      Partly (.dict children) placed (.map entries)
  | tuple {items placed values} : values.length ≤ items.length →
      (∀ index rest, placed (.index index :: rest) → index < values.length) →
      (∀ index child value, items[index]? = some child → values[index]? = some value →
        Partly child (fun rest => placed (.index index :: rest)) value) →
      Partly (.tuple items) placed (.list values)

variable {produce} {tree : InputNode L} {placed : NodePath → Prop} {value : Value α}

/-- A dict under construction is a map; a missing child stands open. -/
theorem Partly.map_of_dict {children : List (String × InputNode L)} (h : Partly produce (.dict children) placed value) :
    ∃ entries, value.asMap = some entries ∧ Ascending entries ∧
      (∀ key, (entries.lookup key).isSome = true ↔ ∃ rest, placed (.key key :: rest)) ∧
      ∀ key child, children.lookup key = some child →
        Partly produce child (fun rest => placed (.key key :: rest)) ((entries.lookup key).getD (.map [])) := by
  cases h with
  | absent hnone =>
    refine ⟨[], rfl, .nil, fun key => ?_, fun key child _ => .absent fun rest => hnone _⟩
    simp only [List.lookup_nil, Option.isSome_none, Bool.false_eq_true, false_iff, not_exists]
    exact fun rest => hnone _
  | @dict _ _ entries hsorted hkeys hchildren =>
    refine ⟨entries, rfl, hsorted, hkeys, fun key child hchild => ?_⟩
    cases hentry : entries.lookup key with
    | some value => exact hchildren key child value hchild hentry
    | none =>
      refine .absent fun rest hplaced => ?_
      have hsome := (hkeys key).2 ⟨rest, hplaced⟩
      rw [hentry] at hsome
      cases hsome

/-- A tuple under construction is a list up to the last child that was reached. -/
theorem Partly.list_of_tuple {items : List (InputNode L)} (h : Partly produce (.tuple items) placed value) :
    ∃ values, value.asList = some values ∧ values.length ≤ items.length ∧
      (∀ index rest, placed (.index index :: rest) → index < values.length) ∧
      ∀ (index : Nat) child, items[index]? = some child →
        Partly produce child (fun rest => placed (.index index :: rest)) (values[index]?.getD (.map [])) := by
  cases h with
  | absent hnone =>
    exact ⟨[], rfl, Nat.zero_le _, fun _ _ hplaced => absurd hplaced (hnone _), fun _ _ _ => .absent fun _ => hnone _⟩
  | @tuple _ _ values hlength hreach hchildren =>
    refine ⟨values, rfl, hlength, hreach, fun index child hchild => ?_⟩
    cases hentry : values[index]? with
    | some value => exact hchildren index child value hchild hentry
    | none =>
      refine .absent fun rest hplaced => ?_
      exact absurd (hreach index rest hplaced) (not_lt.2 (List.getElem?_eq_none_iff.1 hentry))

theorem grown_getElem? (values : List (Value α)) (index position : Nat) :
    (grown values index)[position]? = if position < values.length then values[position]?
      else if position ≤ index then some (.map []) else none := by
  unfold grown
  split
  · rename_i h
    exact List.getElem?_append_left h
  · rename_i h
    rw [List.getElem?_append_right (not_lt.1 h), List.getElem?_replicate]
    congr 1
    simp only [eq_iff_iff]
    omega

theorem length_grown (values : List (Value α)) (index : Nat) : (grown values index).length = max values.length (index + 1) := by
  rw [grown, List.length_append, List.length_replicate]
  omega

theorem Partly.insert (h : Partly produce tree placed value) {path : NodePath} {leaf : L}
    (hleaf : tree.leafAt path = some leaf) :
    ∃ value', insertAt (produce leaf) path value = .ok value' ∧
      Partly produce tree (fun other => other = path ∨ placed other) value' := by
  induction path generalizing tree placed value with
  | nil =>
    cases leafAt_eq_some.1 hleaf
    exact ⟨produce leaf, rfl, .leaf (.inl rfl)⟩
  | cons segment rest ih =>
    rcases nodeAt_cons (leafAt_eq_some.1 hleaf) with ⟨key, children, child, rfl, rfl, hchild, hnode⟩ |
      ⟨index, items, child, rfl, rfl, hchild, hnode⟩
    · obtain ⟨entries, hmap, hsorted, hkeys, hchildren⟩ := h.map_of_dict
      obtain ⟨value', hinsert, hpartly⟩ := ih (hchildren key child hchild) (leafAt_eq_some.2 hnode)
      refine ⟨.map (insertKey key value' entries), ?_, .dict (hsorted.insertKey key value') (fun other => ?_)
        (fun other child' value hchild' hvalue => ?_)⟩
      · simp only [insertAt, hmap, hinsert]
        rfl
      · rw [lookup_insertKey]
        split
        · rename_i hother
          simp only [hother, Option.isSome_some, true_iff]
          exact ⟨rest, .inl rfl⟩
        · rename_i hother
          rw [hkeys other]
          simp [hother]
      · rw [lookup_insertKey] at hvalue
        split at hvalue
        · rename_i hother
          rw [hother, hchild] at hchild'
          cases hchild'
          cases hvalue
          simpa [hother] using hpartly
        · rename_i hother
          have hold := hchildren other child' hchild'
          rw [hvalue, Option.getD_some] at hold
          simpa [hother] using hold
    · obtain ⟨values, hlist, hlength, hreach, hchildren⟩ := h.list_of_tuple
      have hindex : index < items.length := (List.getElem?_eq_some_iff.1 hchild).1
      have hopen : (grown values index)[index]?.getD (.map []) = values[index]?.getD (.map []) := by
        rw [grown_getElem?]
        split
        · rfl
        · rename_i hshort
          rw [if_pos le_rfl, List.getElem?_eq_none (not_lt.1 hshort)]
          rfl
      obtain ⟨value', hinsert, hpartly⟩ := ih (hchildren index child hchild) (leafAt_eq_some.2 hnode)
      refine ⟨.list ((grown values index).set index value'), ?_, .tuple ?_ (fun other rest' hplaced => ?_)
        (fun other child' value hchild' hvalue => ?_)⟩
      · simp only [insertAt, hlist, hopen, hinsert]
        rfl
      · rw [List.length_set, length_grown]
        omega
      · rw [List.length_set, length_grown]
        rcases hplaced with heq | hplaced
        · have : other = index := by simpa using (List.cons.inj heq).1
          omega
        · have := hreach other rest' hplaced
          omega
      · rw [List.getElem?_set] at hvalue
        split at hvalue
        · rename_i hother
          subst hother
          rw [hchild] at hchild'
          cases hchild'
          split at hvalue
          · cases hvalue
            simpa using hpartly
          · cases hvalue
        · rename_i hother
          have hold := hchildren other child' hchild'
          have hsame : values[other]?.getD (.map []) = value := by
            rw [grown_getElem?] at hvalue
            split at hvalue
            · rw [hvalue]
              rfl
            · rename_i hshort
              split at hvalue
              · rw [List.getElem?_eq_none (not_lt.1 hshort)]
                exact Option.some.inj hvalue
              · cases hvalue
          rw [hsame] at hold
          simpa [Ne.symm hother] using hold

/-! ## Whole runs -/

theorem place_ok {builder : NodeBuilder α} (h : Partly produce tree placed builder.finish) {path : NodePath} {leaf : L}
    (hpath : path ≠ []) (hleaf : tree.leafAt path = some leaf) :
    ∃ builder', builder.place path (produce leaf) = .ok builder' ∧
      Partly produce tree (fun other => other = path ∨ placed other) builder'.finish := by
  cases path with
  | nil => exact absurd rfl hpath
  | cons segment rest =>
    obtain ⟨value, hinsert, hpartly⟩ := h.insert hleaf
    refine ⟨{ root := some value }, ?_, hpartly⟩
    -- a fresh root has the kind the first segment asks for; either kind is still open
    have hroot : ∀ fresh : Value α, (fresh = .map [] ∨ ∃ index, segment = .index index ∧ fresh = .list []) →
        insertAt (produce leaf) (segment :: rest) (builder.root.getD fresh) = .ok value := by
      intro fresh hfresh
      rw [← hinsert]
      unfold NodeBuilder.finish
      cases builder.root with
      | some root => rfl
      | none =>
        rcases hfresh with rfl | ⟨index, rfl, rfl⟩
        · rfl
        · rfl
    cases segment with
    | key key =>
      unfold NodeBuilder.place
      dsimp only
      rw [hroot _ (.inl rfl)]
      rfl
    | index index =>
      unfold NodeBuilder.place
      dsimp only
      rw [hroot _ (.inr ⟨index, rfl, rfl⟩)]
      rfl

theorem foldlM_place_ok {leaves : List (L × NodePath)} {builder : NodeBuilder α} (h : Partly produce tree placed builder.finish)
    (hleaves : ∀ leaf ∈ leaves, leaf.2 ≠ [] ∧ tree.leafAt leaf.2 = some leaf.1) :
    ∃ builder', leaves.foldlM (fun (builder : NodeBuilder α) leaf => builder.place leaf.2 (produce leaf.1)) builder = .ok builder' ∧
      Partly produce tree (fun path => path ∈ leaves.map Prod.snd ∨ placed path) builder'.finish := by
  induction leaves generalizing builder placed with
  | nil => exact ⟨builder, rfl, by simpa using h⟩
  | cons leaf rest ih =>
    obtain ⟨hpath, hleaf⟩ := hleaves leaf List.mem_cons_self
    obtain ⟨middle, hplace, hmiddle⟩ := place_ok h hpath hleaf
    obtain ⟨builder', hrest, hpartly⟩ := ih hmiddle (fun other hother => hleaves other (List.mem_cons_of_mem _ hother))
    refine ⟨builder', ?_, ?_⟩
    · rw [List.foldlM_cons, hplace]
      exact hrest
    · have hsame : (fun path => path ∈ (leaf :: rest).map Prod.snd ∨ placed path) =
          fun path => path ∈ rest.map Prod.snd ∨ path = leaf.2 ∨ placed path := by
        funext path
        simp only [List.map_cons, List.mem_cons, eq_iff_iff]
        tauto
      rw [hsame]
      exact hpartly

/-! ## The finished payload -/

/-- What a payload holds for a node: a leaf's value, a map with a dict's keys, a list of a tuple's arity. -/
def HasShape (produce : L → Value α) : InputNode L → Value α → Prop
  | .leaf leaf, value => value = produce leaf
  | .dict children, value => ∃ entries, value = .map entries ∧ entries.map Prod.fst = children.map Prod.fst
  | .tuple items, value => items ≠ [] → ∃ values, value = .list values ∧ values.length = items.length

theorem Leafy.child {segment : PathSeg} {child : InputNode L} (h : tree.Leafy)
    (hchild : ∀ rest, tree.nodeAt (segment :: rest) = child.nodeAt rest) : child.Leafy :=
  fun next path node hnode => h segment (next :: path) node (by rw [hchild, hnode])

theorem Sorted.child {segment : PathSeg} {child : InputNode L} (h : tree.Sorted)
    (hchild : ∀ rest, tree.nodeAt (segment :: rest) = child.nodeAt rest) : child.Sorted :=
  fun path children hnode => h (segment :: path) children (by rw [hchild, hnode])

/-- The leaves placed are those of the tree. -/
def AllPlaced (tree : InputNode L) (placed : NodePath → Prop) : Prop := ∀ path, placed path ↔ ∃ leaf, tree.leafAt path = some leaf

theorem AllPlaced.child {segment : PathSeg} {child : InputNode L} (h : AllPlaced tree placed)
    (hchild : ∀ rest, tree.nodeAt (segment :: rest) = child.nodeAt rest) : AllPlaced child fun rest => placed (segment :: rest) := by
  intro path
  simp only [h (segment :: path), leafAt_eq_some, hchild]

theorem exists_placed (hleafy : tree.Leafy) (hall : AllPlaced tree placed) {segment : PathSeg} {child : InputNode L}
    (hchild : ∀ rest, tree.nodeAt (segment :: rest) = child.nodeAt rest) : ∃ rest, placed (segment :: rest) := by
  obtain ⟨rest, leaf, hleaf⟩ := hleafy segment [] child (by rw [hchild]; rfl)
  exact ⟨rest, (hall.child hchild rest).2 ⟨leaf, hleaf⟩⟩

theorem Partly.root_shape (h : Partly produce tree placed value) (hsorted : tree.Sorted) (hleafy : tree.Leafy)
    (hall : AllPlaced tree placed) : HasShape produce tree value := by
  cases tree with
  | leaf leaf =>
    cases h with
    | absent hnone => exact absurd ((hall []).2 ⟨leaf, rfl⟩) (hnone [])
    | leaf _ => rfl
  | dict children =>
    obtain ⟨entries, hmap, hascending, hkeys, -⟩ := h.map_of_dict
    have hvalue : value = .map entries := by
      cases h with
      | absent _ =>
        cases hmap
        rfl
      | dict _ _ _ =>
        cases hmap
        rfl
    refine ⟨entries, hvalue, hascending.keys_eq (hsorted [] children rfl) fun key => ?_⟩
    rw [hkeys key]
    constructor
    · rintro ⟨rest, hplaced⟩
      obtain ⟨leaf, hleaf⟩ := (hall _).1 hplaced
      obtain ⟨child, hchild, -⟩ := Option.bind_eq_some_iff.1 (leafAt_eq_some.1 hleaf)
      exact Option.isSome_iff_exists.2 ⟨child, hchild⟩
    · intro hsome
      obtain ⟨child, hchild⟩ := Option.isSome_iff_exists.1 hsome
      exact exists_placed hleafy hall (nodeAt_key hchild)
  | tuple items =>
    intro hne
    obtain ⟨values, hlist, hlength, hreach, -⟩ := h.list_of_tuple
    have hlong : values.length = items.length := by
      by_contra hshort
      have hindex : values.length < items.length := by omega
      obtain ⟨rest, hplaced⟩ := exists_placed hleafy hall (nodeAt_index (List.getElem?_eq_getElem hindex))
      exact absurd (hreach _ _ hplaced) (lt_irrefl _)
    refine ⟨values, ?_, hlong⟩
    cases h with
    | absent _ =>
      cases hlist
      exact absurd (List.length_eq_zero_iff.1 hlong.symm) hne
    | tuple _ _ _ =>
      cases hlist
      rfl

/-- Below the root too, at every position: by induction on the path. -/
theorem Partly.walk_shape (h : Partly produce tree placed value) (hsorted : tree.Sorted) (hleafy : tree.Leafy)
    (hall : AllPlaced tree placed) (kindOf : α → String) (whole : NodePath) {path : NodePath} {node : InputNode L}
    (hnode : tree.nodeAt path = some node) :
    ∃ found, resolveWalk kindOf whole path value = .ok found ∧ HasShape produce node found := by
  induction path generalizing tree placed value with
  | nil =>
    cases hnode
    exact ⟨value, by cases value <;> rfl, h.root_shape hsorted hleafy hall⟩
  | cons segment rest ih =>
    have hshape := h.root_shape hsorted hleafy hall
    rcases nodeAt_cons hnode with ⟨key, children, child, rfl, rfl, hchild, hrest⟩ | ⟨index, items, child, rfl, rfl, hchild, hrest⟩
    · have hbelow := nodeAt_key (L := L) hchild
      obtain ⟨entries, hmap, -, hkeys, hchildren⟩ := h.map_of_dict
      obtain ⟨_, rfl, -⟩ := hshape
      cases hmap
      obtain ⟨entry, hentry⟩ := Option.isSome_iff_exists.1 ((hkeys key).2 (exists_placed hleafy hall hbelow))
      have hpartly := hchildren key child hchild
      rw [hentry, Option.getD_some] at hpartly
      obtain ⟨found, hwalk, hfound⟩ := ih hpartly (Sorted.child hsorted hbelow) (Leafy.child hleafy hbelow) (hall.child hbelow) hrest
      exact ⟨found, by simpa only [resolveWalk, hentry] using hwalk, hfound⟩
    · have hbelow := nodeAt_index (L := L) hchild
      have hindex := (List.getElem?_eq_some_iff.1 hchild).1
      obtain ⟨values, hlist, -, -, hchildren⟩ := h.list_of_tuple
      obtain ⟨_, rfl, hlength⟩ := hshape (List.ne_nil_of_length_pos (by omega))
      cases hlist
      have hentry : values[index]? = some values[index] := List.getElem?_eq_getElem (by omega)
      have hpartly := hchildren index child hchild
      rw [hentry, Option.getD_some] at hpartly
      obtain ⟨found, hwalk, hfound⟩ := ih hpartly (Sorted.child hsorted hbelow) (Leafy.child hleafy hbelow) (hall.child hbelow) hrest
      exact ⟨found, by simpa only [resolveWalk, hentry] using hwalk, hfound⟩

end

/-! ## The leaves collected -/

theorem mem_collectFields {children : List (String × InputNode L)} {placement : NodePath} {entry : L × NodePath} :
    entry ∈ collectFields children placement ↔
      ∃ key child, (key, child) ∈ children ∧ entry ∈ collectLeaves child (placement ++ [.key key]) := by
  induction children with
  | nil => simp [collectFields]
  | cons first rest ih =>
    obtain ⟨key, child⟩ := first
    simp only [collectFields, List.mem_append, List.mem_cons, Prod.mk.injEq, ih]
    constructor
    · rintro (hfirst | ⟨key', child', hmem, hentry⟩)
      · exact ⟨key, child, .inl ⟨rfl, rfl⟩, hfirst⟩
      · exact ⟨key', child', .inr hmem, hentry⟩
    · rintro ⟨_, _, ⟨rfl, rfl⟩ | hmem, hentry⟩
      · exact .inl hentry
      · exact .inr ⟨_, _, hmem, hentry⟩

theorem mem_collectItems {items : List (InputNode L)} {start : Nat} {placement : NodePath} {entry : L × NodePath} :
    entry ∈ collectItems items start placement ↔
      ∃ (index : Nat) (child : InputNode L), items[index]? = some child ∧
        entry ∈ collectLeaves child (placement ++ [.index (start + index)]) := by
  induction items generalizing start with
  | nil => simp [collectItems]
  | cons first rest ih =>
    simp only [collectItems, List.mem_append, ih]
    constructor
    · rintro (hfirst | ⟨index, child, hchild, hentry⟩)
      · exact ⟨0, first, rfl, hfirst⟩
      · exact ⟨index + 1, child, hchild, by rwa [Nat.add_right_comm] at hentry⟩
    · rintro ⟨index, child, hchild, hentry⟩
      cases index with
      | zero =>
        cases hchild
        exact .inl hentry
      | succ index => exact .inr ⟨index, child, hchild, by rwa [Nat.add_right_comm]⟩

/-- What is collected below a placement is a leaf of the tree, at the rest of its path. -/
theorem leafAt_of_collected {leaf : L} {path : NodePath} (tree : InputNode L) (placement : NodePath) (hsorted : tree.Sorted)
    (h : (leaf, path) ∈ collectLeaves tree placement) : ∃ rest, path = placement ++ rest ∧ tree.leafAt rest = some leaf := by
  match tree with
  | .leaf found =>
    simp only [collectLeaves, List.mem_singleton, Prod.mk.injEq] at h
    obtain ⟨rfl, rfl⟩ := h
    exact ⟨[], (List.append_nil _).symm, rfl⟩
  | .dict children =>
    rw [collectLeaves, mem_collectFields] at h
    obtain ⟨key, child, hmem, hentry⟩ := h
    have hchild := (hsorted [] children rfl).lookup_of_mem hmem
    obtain ⟨rest, rfl, hleaf⟩ := leafAt_of_collected child _ (Sorted.child hsorted (nodeAt_key hchild)) hentry
    exact ⟨.key key :: rest, by simp, by rw [leafAt_key hchild, hleaf]⟩
  | .tuple items =>
    rw [collectLeaves, mem_collectItems] at h
    obtain ⟨index, child, hchild, hentry⟩ := h
    obtain ⟨rest, rfl, hleaf⟩ := leafAt_of_collected child _ (Sorted.child hsorted (nodeAt_index hchild)) hentry
    exact ⟨.index index :: rest, by simp, by rw [leafAt_index hchild, hleaf]⟩
termination_by tree
decreasing_by
  · have := List.sizeOf_lt_of_mem hmem
    simp only [Prod.mk.sizeOf_spec, InputNode.dict.sizeOf_spec] at *
    omega
  · have := List.sizeOf_lt_of_mem (List.mem_of_getElem? hchild)
    simp only [InputNode.tuple.sizeOf_spec]
    omega

theorem collected_of_leafAt {leaf : L} {rest : NodePath} {tree : InputNode L} (placement : NodePath)
    (h : tree.leafAt rest = some leaf) : (leaf, placement ++ rest) ∈ collectLeaves tree placement := by
  induction rest generalizing tree placement with
  | nil =>
    cases leafAt_eq_some.1 h
    simp [collectLeaves]
  | cons segment rest ih =>
    rcases nodeAt_cons (leafAt_eq_some.1 h) with ⟨key, children, child, rfl, rfl, hchild, hnode⟩ |
      ⟨index, items, child, rfl, rfl, hchild, hnode⟩
    · rw [collectLeaves, mem_collectFields]
      refine ⟨key, child, mem_of_lookup hchild, ?_⟩
      have hbelow := ih (placement ++ [.key key]) (leafAt_eq_some.2 hnode)
      rwa [List.append_assoc] at hbelow
    · rw [collectLeaves, mem_collectItems]
      refine ⟨index, child, hchild, ?_⟩
      have hbelow := ih (placement ++ [.index index]) (leafAt_eq_some.2 hnode)
      rw [Nat.zero_add]
      rwa [List.append_assoc] at hbelow

theorem mem_collectLeaves {tree : InputNode L} (hsorted : tree.Sorted) {leaf : L} {path : NodePath} :
    (leaf, path) ∈ collectLeaves tree [] ↔ tree.leafAt path = some leaf := by
  constructor
  · intro h
    obtain ⟨rest, rfl, hleaf⟩ := leafAt_of_collected tree [] hsorted h
    exact hleaf
  · exact collected_of_leafAt []

/-! ## Placements in any order -/

theorem placeAll_ok (produce : L → Value α) {tree : InputNode L} (hsorted : tree.Sorted) {order : List (L × NodePath)}
    (horder : order.Perm (collectLeaves tree [])) :
    ∃ payload placed, placeAll produce order = .ok payload ∧ Partly produce tree placed payload ∧ AllPlaced tree placed := by
  have hmem : ∀ leaf path, (leaf, path) ∈ order ↔ tree.leafAt path = some leaf := fun leaf path =>
    horder.mem_iff.trans (mem_collectLeaves hsorted)
  have hplaced : AllPlaced tree fun path => path ∈ order.map Prod.snd ∨ False := by
    intro path
    simp only [List.mem_map, or_false, Prod.exists, exists_eq_right, hmem]
  cases hroot : tree.leafAt [] with
  | some leaf =>
    -- the tree is one leaf, and its value the whole payload
    cases leafAt_eq_some.1 hroot
    rw [collectLeaves, List.perm_singleton] at horder
    subst horder
    exact ⟨produce leaf, _, rfl, .leaf (.inl List.mem_cons_self), hplaced⟩
  | none =>
    have hleaves : ∀ leaf ∈ order, leaf.2 ≠ [] ∧ tree.leafAt leaf.2 = some leaf.1 := by
      rintro ⟨leaf, path⟩ hleaf
      have hat := (hmem leaf path).1 hleaf
      refine ⟨?_, hat⟩
      rintro rfl
      rw [hroot] at hat
      cases hat
    have hempty : Partly produce tree (fun _ => False) (NodeBuilder.finish {}) := .absent fun _ => not_false
    obtain ⟨builder, hrun, hpartly⟩ := foldlM_place_ok hempty hleaves
    exact ⟨builder.finish, _, by rw [placeAll, hrun]; rfl, hpartly, hplaced⟩

/-- A camera under a key, and a state beside it. -/
def nestedInput : InputNode Nat := .tuple [.dict [("camera", .leaf 0)], .leaf 1]

theorem nestedInput_nodes {segment : PathSeg} {path : NodePath} {node : InputNode Nat}
    (h : nestedInput.nodeAt (segment :: path) = some node) :
    node = .dict [("camera", .leaf 0)] ∨ ∃ leaf, node = .leaf leaf := by
  have hleaf : ∀ {rest : NodePath} {leaf : Nat} {node}, (InputNode.leaf leaf).nodeAt rest = some node → node = .leaf leaf := by
    intro rest leaf node hnode
    cases rest with
    | nil => exact (Option.some.inj hnode).symm
    | cons first _ => cases first <;> cases hnode
  rcases nodeAt_cons h with ⟨_, _, _, -, htree, -, -⟩ | ⟨index, items, child, rfl, htree, hchild, hnode⟩
  · cases htree
  cases htree
  match index, hchild with
  | 1, hchild =>
    cases hchild
    exact .inr ⟨1, hleaf hnode⟩
  | 0, hchild =>
    cases hchild
    cases path with
    | nil => exact .inl (Option.some.inj hnode).symm
    | cons next rest =>
      rcases nodeAt_cons hnode with ⟨key, _, child, rfl, hdict, hlookup, hbelow⟩ | ⟨_, _, _, -, hdict, -, -⟩
      · cases hdict
        rcases List.mem_singleton.1 (mem_of_lookup hlookup) with hentry
        cases hentry
        exact .inr ⟨0, hleaf hbelow⟩
      · cases hdict

end Rlmesh.Adapters
