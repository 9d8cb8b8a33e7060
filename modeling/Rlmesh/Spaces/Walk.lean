import Rlmesh.Lib.Results
import Rlmesh.Spaces.Space
/-!
# The leaves of a value (`rlmesh-spaces/src/spaces/walk.rs`)

`flattenLeaves` lists a composite value's fundamental leaves in the order the
spec declares them, `assembleValue` rebuilds the value. For a well-formed spec
and a value that fits it the two undo each other.
-/
open Rlmesh.Lib

namespace Rlmesh.Spaces

variable {B : Type}

mutual
/-- Fundamental leaf specs in canonical pre-order. -/
def leafSpecs : SpaceSpec B → List (SpaceSpec B)
  | .dict _ _ _ spaces => leafSpecsAll spaces
  | .tuple _ _ spaces => leafSpecsAll spaces
  | leaf => [leaf]

def leafSpecsAll : List (SpaceSpec B) → List (SpaceSpec B)
  | [] => []
  | spec :: rest => leafSpecs spec ++ leafSpecsAll rest
end

mutual
/-- Leaf values of a value in canonical order, driven by the spec's structure. -/
def flattenLeaves : SpaceSpec B → SpaceValue → Except SpaceError (List SpaceValue)
  | .dict _ _ keys spaces, .dict entries => flattenFields entries keys spaces
  | .tuple _ _ spaces, .tuple items =>
    if items.length ≠ spaces.length then
      .error { path := "$", msg := s!"tuple arity {items.length} != spec {spaces.length}" }
    else flattenItems spaces items
  | .dict .., _ => .error { path := "$", msg := "composite spec but value is not the matching composite" }
  | .tuple .., _ => .error { path := "$", msg := "composite spec but value is not the matching composite" }
  | _, value => .ok [value]

def flattenFields (entries : List (String × SpaceValue)) :
    List String → List (SpaceSpec B) → Except SpaceError (List SpaceValue)
  | key :: keys, child :: spaces =>
    match entries.lookup key with
    | none => .error { path := "$", msg := s!"dict missing key {key.quote}" }
    | some value => do
      let leaves ← flattenLeaves child value
      let rest ← flattenFields entries keys spaces
      return leaves ++ rest
  | _, _ => .ok []

def flattenItems : List (SpaceSpec B) → List SpaceValue → Except SpaceError (List SpaceValue)
  | child :: spaces, value :: items => do
    let leaves ← flattenLeaves child value
    let rest ← flattenItems spaces items
    return leaves ++ rest
  | _, _ => .ok []
end

mutual
/-- Rebuild a value from the next leaves, and the leaves after them. -/
def assembleFrom : SpaceSpec B → List SpaceValue → Except SpaceError (SpaceValue × List SpaceValue)
  | .dict _ _ keys spaces, leaves => do
    let (entries, rest) ← assembleFields [] keys spaces leaves
    return (.dict entries, rest)
  | .tuple _ _ spaces, leaves => do
    let (items, rest) ← assembleItems spaces leaves
    return (.tuple items, rest)
  | _, value :: rest => .ok (value, rest)
  | _, [] => .error { path := "$", msg := "fewer leaves than spec expects" }

def assembleFields (entries : List (String × SpaceValue)) : List String → List (SpaceSpec B) → List SpaceValue →
    Except SpaceError (List (String × SpaceValue) × List SpaceValue)
  | key :: keys, child :: spaces, leaves => do
    let (value, rest) ← assembleFrom child leaves
    assembleFields (insertKey key value entries) keys spaces rest
  | _, _, leaves => .ok (entries, leaves)

def assembleItems : List (SpaceSpec B) → List SpaceValue → Except SpaceError (List SpaceValue × List SpaceValue)
  | [], leaves => .ok ([], leaves)
  | child :: spaces, leaves => do
    let (value, rest) ← assembleFrom child leaves
    let (items, rest) ← assembleItems spaces rest
    return (value :: items, rest)
end

/-- Rebuild a typed value from its leaves in canonical order. -/
def assembleValue (spec : SpaceSpec B) (leaves : List SpaceValue) : Except SpaceError SpaceValue :=
  match assembleFrom spec leaves with
  | .error e => .error e
  | .ok (value, []) => .ok value
  | .ok (_, _ :: _) => .error { path := "$", msg := "more leaves than spec expects" }

/-! ## Structure of specs and values -/

def SpaceSpec.isLeaf : SpaceSpec B → Bool
  | .dict .. => false
  | .tuple .. => false
  | _ => true

/-- Induction over a spec's tree, every leaf kind alike. -/
theorem SpaceSpec.tree_induction {P : SpaceSpec B → Prop} (leaf : ∀ spec, spec.isLeaf = true → P spec)
    (dict : ∀ shape dtype keys spaces, (∀ child ∈ spaces, P child) → P (.dict shape dtype keys spaces))
    (tuple : ∀ shape dtype spaces, (∀ child ∈ spaces, P child) → P (.tuple shape dtype spaces)) :
    ∀ spec, P spec
  | .dict shape dtype keys spaces => dict shape dtype keys spaces (fun child _ => tree_induction leaf dict tuple child)
  | .tuple shape dtype spaces => tuple shape dtype spaces (fun child _ => tree_induction leaf dict tuple child)
  | .box .. => leaf _ rfl
  | .discrete .. => leaf _ rfl
  | .multiBinary .. => leaf _ rfl
  | .multiDiscrete .. => leaf _ rfl
  | .text .. => leaf _ rfl
  | .unspecified .. => leaf _ rfl

/-- The composites of the spec are well formed: a Dict has one space per key, and no key twice. -/
inductive WellKeyed : SpaceSpec B → Prop
  | leaf {spec : SpaceSpec B} (h : spec.isLeaf = true) : WellKeyed spec
  | dict {shape : List Int} {dtype : DType} {keys : List String} {spaces : List (SpaceSpec B)}
      (hlen : keys.length = spaces.length) (hn : keys.Nodup) (hc : ∀ child ∈ spaces, WellKeyed child) :
      WellKeyed (.dict shape dtype keys spaces)
  | tuple {shape : List Int} {dtype : DType} {spaces : List (SpaceSpec B)}
      (hc : ∀ child ∈ spaces, WellKeyed child) : WellKeyed (.tuple shape dtype spaces)

/-- The value has the spec's composite structure: a Dict value has exactly the
declared keys, a Tuple value the declared arity. -/
inductive Shaped : SpaceSpec B → SpaceValue → Prop
  | leaf {spec : SpaceSpec B} {value : SpaceValue} (h : spec.isLeaf = true) : Shaped spec value
  | dict {shape : List Int} {dtype : DType} {keys : List String} {spaces : List (SpaceSpec B)}
      {entries : List (String × SpaceValue)} {values : List SpaceValue}
      (hkeys : List.Forall₂ (fun key value => entries.lookup key = some value) keys values)
      (hvalues : List.Forall₂ Shaped spaces values) (honly : ∀ entry ∈ entries, entry.1 ∈ keys) :
      Shaped (.dict shape dtype keys spaces) (.dict entries)
  | tuple {shape : List Int} {dtype : DType} {spaces : List (SpaceSpec B)} {items : List SpaceValue}
      (h : List.Forall₂ Shaped spaces items) : Shaped (.tuple shape dtype spaces) (.tuple items)

variable {spec : SpaceSpec B} {entries : List (String × SpaceValue)} {keys : List String}
  {values leaves items : List SpaceValue} {spaces : List (SpaceSpec B)} {value : SpaceValue}

theorem leafSpecs_leaf (h : spec.isLeaf = true) : leafSpecs spec = [spec] := by
  cases spec <;> first | rfl | cases h

theorem flattenLeaves_leaf (h : spec.isLeaf = true) (value : SpaceValue) :
    flattenLeaves spec value = .ok [value] := by
  cases spec <;> first | rfl | cases h

theorem assembleFrom_leaf (h : spec.isLeaf = true) (leaves : List SpaceValue) :
    assembleFrom spec leaves = match leaves with
      | value :: rest => .ok (value, rest)
      | [] => .error { path := "$", msg := "fewer leaves than spec expects" } := by
  cases spec <;> first | (cases leaves <;> rfl) | cases h

/-! ## A Dict is the tuple of its declared fields -/

theorem flattenFields_eq (h : List.Forall₂ (fun key value => entries.lookup key = some value) keys values)
    (spaces : List (SpaceSpec B)) : flattenFields entries keys spaces = flattenItems spaces values := by
  induction h generalizing spaces with
  | nil => cases spaces <;> rfl
  | cons hkey _ ih =>
    cases spaces with
    | nil => rfl
    | cons child spaces => simp only [flattenFields, flattenItems, hkey, ih]

theorem assembleFields_eq (hlen : keys.length = spaces.length) (entries : List (String × SpaceValue))
    (leaves : List SpaceValue) :
    assembleFields entries keys spaces leaves =
      (assembleItems spaces leaves).map (fun (values, rest) => (insertAll (keys.zip values) entries, rest)) := by
  induction keys generalizing spaces entries leaves with
  | nil =>
    cases spaces with
    | nil => rfl
    | cons child spaces => cases hlen
  | cons key keys ih =>
    cases spaces with
    | nil => cases hlen
    | cons child spaces =>
      rw [assembleFields, assembleItems]
      cases assembleFrom child leaves with
      | error e => rfl
      | ok first =>
        change assembleFields (insertKey key first.1 entries) keys spaces first.2 = _
        rw [ih (Nat.succ.inj hlen)]
        change _ = (assembleItems spaces first.2 >>= fun (items, rest) => pure (first.1 :: items, rest)).map _
        cases assembleItems spaces first.2 <;> rfl

theorem lookups_of_flattenFields (hlen : keys.length = spaces.length)
    (h : flattenFields entries keys spaces = .ok leaves) :
    ∃ values, List.Forall₂ (fun key value => entries.lookup key = some value) keys values := by
  induction keys generalizing spaces leaves with
  | nil => exact ⟨[], .nil⟩
  | cons key keys ih =>
    cases spaces with
    | nil => cases hlen
    | cons child spaces =>
      rw [flattenFields] at h
      split at h
      · cases h
      · rename_i value hkey
        obtain ⟨first, -, h⟩ := bind_ok.1 h
        obtain ⟨rest, hrest, -⟩ := bind_ok.1 h
        obtain ⟨values, hvalues⟩ := ih (Nat.succ.inj hlen) hrest
        exact ⟨value :: values, .cons hkey hvalues⟩

/-! ## As many leaves as leaf specs -/

theorem length_flattenItems
    (hc : ∀ child ∈ spaces, ∀ value leaves, flattenLeaves child value = .ok leaves → leaves.length = (leafSpecs child).length)
    (hlen : items.length = spaces.length) (h : flattenItems spaces items = .ok leaves) :
    leaves.length = (leafSpecsAll spaces).length := by
  induction spaces generalizing items leaves with
  | nil =>
    cases items with
    | nil => cases h; rfl
    | cons item items => cases hlen
  | cons child spaces ih =>
    cases items with
    | nil => cases hlen
    | cons item items =>
      rw [flattenItems] at h
      obtain ⟨first, hfirst, h⟩ := bind_ok.1 h
      obtain ⟨rest, hrest, h⟩ := bind_ok.1 h
      cases h
      have hhead := hc child List.mem_cons_self item first hfirst
      have htail := ih (fun other hother => hc other (List.mem_cons_of_mem _ hother)) (Nat.succ.inj hlen) hrest
      rw [leafSpecsAll, List.length_append, List.length_append, hhead, htail]

theorem length_flattenLeaves (hw : WellKeyed spec) (h : flattenLeaves spec value = .ok leaves) :
    leaves.length = (leafSpecs spec).length := by
  induction spec using SpaceSpec.tree_induction generalizing value leaves with
  | leaf spec hleaf =>
    rw [flattenLeaves_leaf hleaf] at h
    cases h
    rw [leafSpecs_leaf hleaf]
    rfl
  | dict shape dtype keys spaces ih =>
    cases hw with
    | leaf hleaf => cases hleaf
    | dict hlen hn hc =>
      cases value with
      | dict entries =>
        rw [flattenLeaves] at h
        obtain ⟨values, hvalues⟩ := lookups_of_flattenFields hlen h
        rw [flattenFields_eq hvalues] at h
        exact length_flattenItems (fun child hchild _ _ hflat => ih child hchild (hc child hchild) hflat)
          (hvalues.length_eq.symm.trans hlen) h
      | _ => cases h
  | tuple shape dtype spaces ih =>
    cases hw with
    | leaf hleaf => cases hleaf
    | tuple hc =>
      cases value with
      | tuple items =>
        rw [flattenLeaves] at h
        split at h
        · cases h
        · rename_i hlen
          exact length_flattenItems (fun child hchild _ _ hflat => ih child hchild (hc child hchild) hflat)
            (not_not.1 hlen) h
      | _ => cases h

/-- Enough leaves always assemble, using as many as there are leaf specs. -/
def Assembles (spec : SpaceSpec B) : Prop :=
  ∀ leaves rest : List SpaceValue, leaves.length = (leafSpecs spec).length →
    ∃ value, assembleFrom spec (leaves ++ rest) = .ok (value, rest)

theorem assembleItems_total (hc : ∀ child ∈ spaces, Assembles child)
    (hlen : leaves.length = (leafSpecsAll spaces).length) (rest : List SpaceValue) :
    ∃ items, assembleItems spaces (leaves ++ rest) = .ok (items, rest) := by
  induction spaces generalizing leaves with
  | nil =>
    cases List.length_eq_zero_iff.1 hlen
    exact ⟨[], rfl⟩
  | cons child spaces ih =>
    rw [leafSpecsAll, List.length_append] at hlen
    have hcut : leaves ++ rest = leaves.take (leafSpecs child).length ++ (leaves.drop (leafSpecs child).length ++ rest) := by
      rw [← List.append_assoc, List.take_append_drop]
    obtain ⟨value, hvalue⟩ := hc child List.mem_cons_self (leaves.take (leafSpecs child).length)
      (leaves.drop (leafSpecs child).length ++ rest) (by rw [List.length_take]; omega)
    obtain ⟨items, hitems⟩ := ih (fun other hother => hc other (List.mem_cons_of_mem _ hother))
      (by rw [List.length_drop]; omega : (leaves.drop (leafSpecs child).length).length = _)
    rw [assembleItems, hcut]
    exact ⟨value :: items, bind_ok.2 ⟨_, hvalue, bind_ok.2 ⟨_, hitems, rfl⟩⟩⟩

theorem assembles (hw : WellKeyed spec) : Assembles spec := by
  induction spec using SpaceSpec.tree_induction with
  | leaf spec hleaf =>
    intro leaves rest hlen
    rw [leafSpecs_leaf hleaf] at hlen
    obtain ⟨value, rfl⟩ := List.length_eq_one_iff.1 hlen
    exact ⟨value, by rw [assembleFrom_leaf hleaf]; rfl⟩
  | dict shape dtype keys spaces ih =>
    intro leaves rest hlen
    cases hw with
    | leaf hleaf => cases hleaf
    | dict hkeys hn hc =>
      obtain ⟨items, hitems⟩ := assembleItems_total (fun child hchild => ih child hchild (hc child hchild)) hlen rest
      rw [assembleFrom, assembleFields_eq hkeys, hitems]
      exact ⟨_, rfl⟩
  | tuple shape dtype spaces ih =>
    intro leaves rest hlen
    cases hw with
    | leaf hleaf => cases hleaf
    | tuple hc =>
      obtain ⟨items, hitems⟩ := assembleItems_total (fun child hchild => ih child hchild (hc child hchild)) hlen rest
      rw [assembleFrom, hitems]
      exact ⟨_, rfl⟩

theorem assembleValue_total (hw : WellKeyed spec) (hlen : leaves.length = (leafSpecs spec).length) :
    ∃ value, assembleValue spec leaves = .ok value := by
  obtain ⟨value, hvalue⟩ := assembles hw leaves [] hlen
  rw [List.append_nil] at hvalue
  exact ⟨value, by rw [assembleValue, hvalue]⟩

/-! ## Assembling undoes flattening -/

/-- The spec's values come back from their leaves, whatever follows them. -/
def Rebuilds (spec : SpaceSpec B) : Prop :=
  ∀ value leaves rest, Shaped spec value → value.Ordered → flattenLeaves spec value = .ok leaves →
    assembleFrom spec (leaves ++ rest) = .ok (value, rest)

theorem assembleItems_flattenItems (hc : ∀ child ∈ spaces, Rebuilds child) (hs : List.Forall₂ Shaped spaces items)
    (ho : ∀ item ∈ items, item.Ordered) (h : flattenItems spaces items = .ok leaves) (rest : List SpaceValue) :
    assembleItems spaces (leaves ++ rest) = .ok (items, rest) := by
  induction hs generalizing leaves with
  | nil => cases h; rfl
  | cons hitem _ ih =>
    rw [flattenItems] at h
    obtain ⟨first, hfirst, h⟩ := bind_ok.1 h
    obtain ⟨more, hmore, h⟩ := bind_ok.1 h
    cases h
    have hhead := hc _ List.mem_cons_self _ _ (more ++ rest) hitem (ho _ List.mem_cons_self) hfirst
    have htail := ih (fun child hchild => hc child (List.mem_cons_of_mem _ hchild))
      (fun item hitem => ho item (List.mem_cons_of_mem _ hitem)) hmore
    rw [assembleItems, List.append_assoc, hhead]
    change (assembleItems _ (more ++ rest) >>= fun (items, rest) => pure (_ :: items, rest)) = _
    rw [htail]
    rfl

theorem ordered_of_lookup (ho : orderedEntries entries) {key : String} (h : entries.lookup key = some value) :
    value.Ordered := by
  obtain ⟨before, after, rfl, -⟩ := List.lookup_eq_some_iff.1 h
  exact orderedEntries_iff.1 ho (key, value) (by simp)

/-- A map with exactly the given keys is what inserting its values one by one builds. -/
theorem insertAll_lookups (hasc : Ascending entries) (hn : keys.Nodup)
    (hkeys : List.Forall₂ (fun key value => entries.lookup key = some value) keys values)
    (honly : ∀ entry ∈ entries, entry.1 ∈ keys) : insertAll (keys.zip values) [] = entries := by
  have hfst : (keys.zip values).map Prod.fst = keys := List.map_fst_zip hkeys.length_eq.le
  refine Ascending.ext (Ascending.insertAll List.Pairwise.nil _) hasc (fun k => ?_)
  rw [lookup_insertAll (by rwa [hfst]), List.lookup_nil, Option.or_none]
  clear hfst hn
  by_cases hk : k ∈ keys
  · clear honly
    induction hkeys with
    | nil => cases hk
    | @cons key value keys values hkey _ ih =>
      rw [List.zip_cons_cons, lookup_cons_eq]
      split
      · rename_i heq
        rw [heq, hkey]
      · rename_i hne
        exact ih ((List.mem_cons.1 hk).resolve_left hne)
  · rw [lookup_eq_none_of_ne, lookup_eq_none_of_ne]
    · exact fun entry hentry heq => hk (heq ▸ honly entry hentry)
    · exact fun entry hentry heq => hk (heq ▸ (List.of_mem_zip hentry).1)

theorem rebuilds (hw : WellKeyed spec) : Rebuilds spec := by
  induction spec using SpaceSpec.tree_induction with
  | leaf spec hleaf =>
    intro value leaves rest _ _ h
    rw [flattenLeaves_leaf hleaf, Except.ok.injEq] at h
    subst h
    rw [assembleFrom_leaf hleaf]
    rfl
  | dict shape dtype keys spaces ih =>
    intro value leaves rest hs ho h
    cases hw with
    | leaf hleaf => cases hleaf
    | dict hlen hn hc =>
      cases hs with
      | leaf hleaf => cases hleaf
      | dict hkeys hvalues honly =>
        obtain ⟨hasc, hentries⟩ := ho
        rw [flattenLeaves, flattenFields_eq hkeys] at h
        have hitems := assembleItems_flattenItems (fun child hchild => ih child hchild (hc child hchild)) hvalues
          (fun value hvalue => ?_) h rest
        · rw [assembleFrom, assembleFields_eq hlen, hitems]
          change Except.ok (SpaceValue.dict (insertAll _ []), rest) = _
          rw [insertAll_lookups hasc hn hkeys honly]
        · obtain ⟨key, -, hkey⟩ := forall₂_mem_right hkeys hvalue
          exact ordered_of_lookup hentries hkey
  | tuple shape dtype spaces ih =>
    intro value leaves rest hs ho h
    cases hw with
    | leaf hleaf => cases hleaf
    | tuple hc =>
      cases hs with
      | leaf hleaf => cases hleaf
      | tuple hitems =>
        rw [flattenLeaves, if_neg (not_not.2 hitems.length_eq.symm)] at h
        have hitems := assembleItems_flattenItems (fun child hchild => ih child hchild (hc child hchild)) hitems
          (orderedItems_iff.1 ho) h rest
        rw [assembleFrom, hitems]
        rfl

theorem assembleValue_flattenLeaves (hw : WellKeyed spec) (hs : Shaped spec value) (ho : value.Ordered)
    (h : flattenLeaves spec value = .ok leaves) : assembleValue spec leaves = .ok value := by
  have hfrom := rebuilds hw value leaves [] hs ho h
  rw [List.append_nil] at hfrom
  rw [assembleValue, hfrom]

/-! ## Flattening undoes assembling -/

/-- What the spec assembles from a prefix of the leaves flattens to that prefix. -/
def Flattens (spec : SpaceSpec B) : Prop :=
  ∀ leaves value rest, assembleFrom spec leaves = .ok (value, rest) → ∃ used, leaves = used ++ rest ∧
    used.length = (leafSpecs spec).length ∧ flattenLeaves spec value = .ok used

theorem flattenItems_assembleItems (hc : ∀ child ∈ spaces, Flattens child) {rest : List SpaceValue}
    (h : assembleItems spaces leaves = .ok (items, rest)) :
    ∃ used, leaves = used ++ rest ∧ used.length = (leafSpecsAll spaces).length ∧ items.length = spaces.length ∧
      flattenItems spaces items = .ok used := by
  induction spaces generalizing leaves items with
  | nil =>
    cases h
    exact ⟨[], rfl, rfl, rfl, rfl⟩
  | cons child spaces ih =>
    rw [assembleItems] at h
    obtain ⟨⟨value, more⟩, hfirst, h⟩ := bind_ok.1 h
    obtain ⟨⟨others, last⟩, hothers, h⟩ := bind_ok.1 h
    cases h
    obtain ⟨used, rfl, hlen, hflat⟩ := hc child List.mem_cons_self _ _ _ hfirst
    obtain ⟨used', rfl, hlen', hitems, hflat'⟩ := ih (fun c hmem => hc c (List.mem_cons_of_mem _ hmem)) hothers
    refine ⟨used ++ used', (List.append_assoc ..).symm, ?_, ?_, ?_⟩
    · rw [leafSpecsAll, List.length_append, List.length_append, hlen, hlen']
    · rw [List.length_cons, List.length_cons, hitems]
    · rw [flattenItems, hflat]
      change (flattenItems spaces others >>= fun more => pure (used ++ more)) = _
      rw [hflat']
      rfl

theorem lookups_insertAll (hn : keys.Nodup) (hlen : keys.length = values.length) :
    List.Forall₂ (fun key value => (insertAll (keys.zip values) []).lookup key = some value) keys values := by
  have hfst : (keys.zip values).map Prod.fst = keys := List.map_fst_zip hlen.le
  refine List.forall₂_iff_zip.2 ⟨hlen, fun {key value} hmem => ?_⟩
  rw [lookup_insertAll (by rwa [hfst]), List.lookup_nil, Option.or_none]
  clear hfst
  induction keys generalizing values with
  | nil => cases hmem
  | cons first keys ih =>
    cases values with
    | nil => cases hmem
    | cons head values =>
      rw [List.zip_cons_cons] at hmem ⊢
      rw [lookup_cons_eq]
      rcases List.mem_cons.1 hmem with heq | hmem
      · cases heq
        rw [if_pos rfl]
      · have hne : key ≠ first := fun heq => (List.nodup_cons.1 hn).1 (heq ▸ (List.of_mem_zip hmem).1)
        rw [if_neg hne]
        exact ih (List.nodup_cons.1 hn).2 (Nat.succ.inj hlen) hmem

theorem flattens (hw : WellKeyed spec) : Flattens spec := by
  induction spec using SpaceSpec.tree_induction with
  | leaf spec hleaf =>
    intro leaves value rest h
    rw [assembleFrom_leaf hleaf] at h
    cases leaves with
    | nil => cases h
    | cons first others =>
      cases h
      exact ⟨[value], rfl, by rw [leafSpecs_leaf hleaf]; rfl, flattenLeaves_leaf hleaf value⟩
  | dict shape dtype keys spaces ih =>
    intro leaves value rest h
    cases hw with
    | leaf hleaf => cases hleaf
    | dict hlen hn hc =>
      rw [assembleFrom, assembleFields_eq hlen] at h
      obtain ⟨⟨entries, last⟩, hfields, h⟩ := bind_ok.1 h
      cases h
      cases hitems : assembleItems spaces leaves with
      | error e => rw [hitems] at hfields; cases hfields
      | ok assembled =>
        rw [hitems] at hfields
        cases hfields
        obtain ⟨used, hused, hcount, harity, hflat⟩ := flattenItems_assembleItems
          (fun child hchild => ih child hchild (hc child hchild)) hitems
        refine ⟨used, hused, hcount, ?_⟩
        rw [flattenLeaves, flattenFields_eq (lookups_insertAll hn (hlen.trans harity.symm)), hflat]
  | tuple shape dtype spaces ih =>
    intro leaves value rest h
    cases hw with
    | leaf hleaf => cases hleaf
    | tuple hc =>
      rw [assembleFrom] at h
      obtain ⟨⟨items, last⟩, hitems, h⟩ := bind_ok.1 h
      cases h
      obtain ⟨used, hused, hcount, harity, hflat⟩ := flattenItems_assembleItems
        (fun child hchild => ih child hchild (hc child hchild)) hitems
      refine ⟨used, hused, hcount, ?_⟩
      rw [flattenLeaves, if_neg (not_not.2 harity), hflat]

theorem flattenLeaves_assembleValue (hw : WellKeyed spec) (h : assembleValue spec leaves = .ok value) :
    leaves.length = (leafSpecs spec).length ∧ flattenLeaves spec value = .ok leaves := by
  unfold assembleValue at h
  split at h
  · cases h
  · rename_i hfrom
    cases h
    obtain ⟨used, hused, hcount, hflat⟩ := flattens hw _ _ _ hfrom
    rw [List.append_nil] at hused
    subst hused
    exact ⟨hcount, hflat⟩
  · cases h

end Rlmesh.Spaces
