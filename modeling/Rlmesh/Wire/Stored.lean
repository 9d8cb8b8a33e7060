import Rlmesh.Spaces.Views
import Rlmesh.Wire.Values
/-!
# Stored values survive the wire

A value as the source holds it: its Box leaves are views of storage, in any layout.
`tensor_wire_bytes` (`wire/value/codec.rs`) shares the storage of a contiguous view
with the message and gathers any other. The bytes on the wire depend on the logical
value only, and an admitted value comes back from them.
-/
open Rlmesh.Lib Rlmesh.Spaces

namespace Rlmesh.Wire

variable {B : Type}

inductive StoredValue where
  | box (view : TensorView)
  | discrete (index : Int)
  | multiBinary (flags : List Bool)
  | multiDiscrete (values : List Int)
  | text (value : String)
  | dict (entries : List (String × StoredValue))
  | tuple (items : List StoredValue)

mutual
/-- The value itself, whatever the layout of its tensors. -/
def StoredValue.logical : StoredValue → SpaceValue
  | .box view => .box view.tensor
  | .discrete index => .discrete index
  | .multiBinary flags => .multiBinary flags
  | .multiDiscrete values => .multiDiscrete values
  | .text value => .text value
  | .dict entries => .dict (logicalEntries entries)
  | .tuple items => .tuple (logicalItems items)

def logicalEntries : List (String × StoredValue) → List (String × SpaceValue)
  | [] => []
  | (key, value) :: rest => (key, value.logical) :: logicalEntries rest

def logicalItems : List StoredValue → List SpaceValue
  | [] => []
  | value :: rest => value.logical :: logicalItems rest
end

/-! ## The codec on stored values -/

mutual
def flattenStored : SpaceSpec B → StoredValue → Except SpaceError (List StoredValue)
  | .dict _ _ keys spaces, .dict entries => flattenStoredFields entries keys spaces
  | .tuple _ _ spaces, .tuple items =>
    if items.length ≠ spaces.length then
      .error { path := "$", msg := s!"tuple arity {items.length} != spec {spaces.length}" }
    else flattenStoredItems spaces items
  | .dict .., _ => .error { path := "$", msg := "composite spec but value is not the matching composite" }
  | .tuple .., _ => .error { path := "$", msg := "composite spec but value is not the matching composite" }
  | _, value => .ok [value]

def flattenStoredFields (entries : List (String × StoredValue)) :
    List String → List (SpaceSpec B) → Except SpaceError (List StoredValue)
  | key :: keys, child :: spaces =>
    match entries.lookup key with
    | none => .error { path := "$", msg := s!"dict missing key {key.quote}" }
    | some value => do
      let leaves ← flattenStored child value
      let rest ← flattenStoredFields entries keys spaces
      return leaves ++ rest
  | _, _ => .ok []

def flattenStoredItems : List (SpaceSpec B) → List StoredValue → Except SpaceError (List StoredValue)
  | child :: spaces, value :: items => do
    let leaves ← flattenStored child value
    let rest ← flattenStoredItems spaces items
    return leaves ++ rest
  | _, _ => .ok []
end

/-- The tensor's element bytes: shared with the storage when contiguous, gathered otherwise. -/
def tensorWireBytes (view : TensorView) : Bytes :=
  if view.isContiguous then (view.storage.drop view.byteOffset).take view.nbytes
  else view.gatherInto view.numel (view.dims.map (fun _ => 0))

def encodeStoredLeaf (spec : SpaceSpec B) (value : StoredValue) : Except ProtocolError Bytes :=
  match spec, value with
  | .box shape dtype _, .box view =>
    if view.dtype ≠ dtype ∨ view.shape ≠ shape then
      .error (.encodeError s!"box leaf {view.dtype.debug}{view.shape} does not match spec {dtype.debug}{shape}")
    else .ok (tensorWireBytes view)
  | spec, value => encodeLeaf spec value.logical

/-- `encode_leaves` on a stored value. -/
def encodeStored (value : StoredValue) (spec : SpaceSpec B) : Except ProtocolError Leaves := do
  let values ← (flattenStored spec value).mapError (fun e => .encodeError e.toString)
  ((leafSpecs spec).zip values).mapM (fun entry => encodeStoredLeaf entry.1 entry.2)

/-! ## The bytes depend on the logical value only -/

theorem tensorWireBytes_eq (view : TensorView) : tensorWireBytes view = view.tensor.data := view.toContiguousBytes_eq

theorem lookup_logicalEntries (entries : List (String × StoredValue)) (key : String) :
    (logicalEntries entries).lookup key = (entries.lookup key).map StoredValue.logical := by
  induction entries with
  | nil => rfl
  | cons entry rest ih =>
    rw [logicalEntries, lookup_cons_eq, lookup_cons_eq, ih]
    split <;> rfl

theorem length_logicalItems (items : List StoredValue) : (logicalItems items).length = items.length := by
  induction items with
  | nil => rfl
  | cons item rest ih => rw [logicalItems, List.length_cons, List.length_cons, ih]

/-- Flattening takes no notice of the layout. -/
def Commutes (spec : SpaceSpec B) : Prop :=
  ∀ value, flattenLeaves spec value.logical = (flattenStored spec value).map (List.map StoredValue.logical)

/-- Two parts flattened one after the other, each without notice of the layout. -/
theorem append_commutes {first rest : Except SpaceError (List StoredValue)} {first' rest' : Except SpaceError (List SpaceValue)}
    (hfirst : first' = first.map (List.map StoredValue.logical))
    (hrest : rest' = rest.map (List.map StoredValue.logical)) :
    (do let leaves ← first'; let more ← rest'; return leaves ++ more) =
      (do let leaves ← first; let more ← rest; return leaves ++ more : Except SpaceError (List StoredValue)).map
        (List.map StoredValue.logical) := by
  subst hfirst hrest
  cases first with
  | error e => rfl
  | ok leaves =>
    cases rest with
    | error e => rfl
    | ok more => exact congrArg Except.ok List.map_append.symm

theorem flattenItems_logical {spaces : List (SpaceSpec B)} (hc : ∀ child ∈ spaces, Commutes child)
    (items : List StoredValue) :
    flattenItems spaces (logicalItems items) = (flattenStoredItems spaces items).map (List.map StoredValue.logical) := by
  induction spaces generalizing items with
  | nil => cases items <;> rfl
  | cons child spaces ih =>
    cases items with
    | nil => rfl
    | cons item items =>
      rw [logicalItems, flattenItems, flattenStoredItems]
      exact append_commutes (hc child List.mem_cons_self item)
        (ih (fun other hother => hc other (List.mem_cons_of_mem _ hother)) items)

theorem flattenFields_logical {spaces : List (SpaceSpec B)} (hc : ∀ child ∈ spaces, Commutes child)
    (entries : List (String × StoredValue)) (keys : List String) :
    flattenFields (logicalEntries entries) keys spaces =
      (flattenStoredFields entries keys spaces).map (List.map StoredValue.logical) := by
  induction spaces generalizing keys with
  | nil => cases keys <;> rfl
  | cons child spaces ih =>
    cases keys with
    | nil => rfl
    | cons key keys =>
      rw [flattenFields, flattenStoredFields, lookup_logicalEntries]
      cases entries.lookup key with
      | none => rfl
      | some value =>
        exact append_commutes (hc child List.mem_cons_self value)
          (ih (fun other hother => hc other (List.mem_cons_of_mem _ hother)) keys)

theorem flattenStored_leaf {spec : SpaceSpec B} (h : spec.isLeaf = true) (value : StoredValue) :
    flattenStored spec value = .ok [value] := by
  cases spec <;> first | rfl | cases h

theorem flattenLeaves_logical (spec : SpaceSpec B) : Commutes spec := by
  induction spec using SpaceSpec.tree_induction with
  | leaf spec hleaf =>
    intro value
    rw [flattenLeaves_leaf hleaf, flattenStored_leaf hleaf]
    rfl
  | dict shape dtype keys spaces ih =>
    intro value
    cases value with
    | dict entries => exact flattenFields_logical ih entries keys
    | _ => rfl
  | tuple shape dtype spaces ih =>
    intro value
    cases value with
    | tuple items =>
      rw [StoredValue.logical, flattenLeaves, flattenStored, length_logicalItems]
      split
      · rfl
      · exact flattenItems_logical ih items
    | _ => rfl

theorem encodeStoredLeaf_eq (spec : SpaceSpec B) (value : StoredValue) :
    encodeStoredLeaf spec value = encodeLeaf spec value.logical := by
  cases spec with
  | box shape dtype bounds =>
    cases value with
    | box view =>
      rw [encodeStoredLeaf, StoredValue.logical, encodeLeaf, tensorWireBytes_eq]
      rfl
    | _ => rfl
  | _ => rfl

theorem encodeStored_eq (value : StoredValue) (spec : SpaceSpec B) :
    encodeStored value spec = encodeLeaves value.logical spec := by
  rw [encodeStored, encodeLeaves, flattenLeaves_logical spec value]
  cases flattenStored spec value with
  | error e => rfl
  | ok values =>
    change _ = ((leafSpecs spec).zip (values.map StoredValue.logical)).mapM (fun entry => encodeLeaf entry.1 entry.2)
    rw [← List.map_id (leafSpecs spec), List.zip_map, List.mapM_map, List.map_id]
    simp only [Function.comp_def, Prod.map, encodeStoredLeaf_eq, id]
    rfl

/-! ## Admitted values are encoded -/

section Admitted

variable [BoxBounds B]

theorem rangeCheck_of_check {value : Int} {dtype : DType} (h : (checkIntInDtypeRange value dtype).toBool = true) :
    rangeCheck value dtype = .ok () := by
  unfold rangeCheck
  cases hcheck : checkIntInDtypeRange value dtype with
  | error e => rw [hcheck] at h; cases h
  | ok _ => rfl

theorem rangeCheck_between {dtype : DType} (hd : dtype.isInteger = true) {low value high : Int}
    (hlow : rangeCheck low dtype = .ok ()) (hhigh : rangeCheck high dtype = .ok ()) (hv : low ≤ value ∧ value ≤ high) :
    rangeCheck value dtype = .ok () := by
  have hleast := rangeCheck_ok hlow
  have hmost := rangeCheck_ok hhigh
  cases dtype with
  | uint8 | uint16 | uint32 | uint64 | int8 | int16 | int32 | int64 =>
    have hl := hleast _ _ rfl
    have hm := hmost _ _ rfl
    exact rangeCheck_of_range (by decide) rfl (by omega)
  | _ => cases hd

theorem rangeCheck_zero {dtype : DType} (hd : dtype.isInteger = true) : rangeCheck 0 dtype = .ok () := by
  cases dtype with
  | uint8 | uint16 | uint32 | uint64 | int8 | int16 | int32 | int64 =>
    exact rangeCheck_of_range (by decide) rfl (by omega)
  | _ => cases hd

theorem encodeLeaf_of_fits {spec : SpaceSpec B} {path : String} (haccepted : validateSpaceAt path spec = .ok ())
    (hleaf : spec.isLeaf = true) {value : SpaceValue} (hf : LeafFits spec value) :
    ∃ bytes, encodeLeaf spec value = .ok bytes := by
  have hi := categoriesIntegral_of_valid hleaf haccepted
  cases spec with
  | box shape dtype bounds =>
    cases value with
    | box tensor =>
      obtain ⟨rfl, rfl⟩ := hf
      exact ⟨tensor.data, by rw [encodeLeaf, if_neg (by simp)]⟩
    | _ => cases hf
  | discrete shape dtype n start =>
    cases value with
    | discrete index =>
      have hfits := (validateDiscreteAt_ok.1 haccepted).fits
      have hlow := rangeCheck_of_check (hfits start (by simp))
      have hhigh := rangeCheck_of_check (hfits (start + (n - 1)) (by simp))
      have hcheck := rangeCheck_between hi hlow hhigh (by have := hf.1; have := hf.2; omega : start ≤ index ∧ _)
      obtain ⟨bytes, hbytes⟩ := encodeIntSequence_total hi [index]
      exact ⟨bytes, by rw [encodeLeaf, hcheck]; exact hbytes⟩
    | _ => cases hf
  | multiBinary shape dtype =>
    cases value with
    | multiBinary flags => exact ⟨_, rfl⟩
    | _ => cases hf
  | multiDiscrete shape dtype nvec =>
    cases value with
    | multiDiscrete values =>
      have hcounts := (validateMultidiscreteAt_ok.1 haccepted).categories
      have hchecks : ∀ value ∈ values, rangeCheck value dtype = .ok () := by
        intro value hvalue
        obtain ⟨n, hn, hrange⟩ := forall₂_mem_right (List.Forall₂.flip hf) hvalue
        exact rangeCheck_between hi (rangeCheck_zero hi) (rangeCheck_of_check (hcounts n hn).2) (by omega)
      obtain ⟨bytes, hbytes⟩ := encodeIntSequence_total hi values
      exact ⟨bytes, by rw [encodeLeaf, mapM_rangeCheck hchecks]; exact hbytes⟩
    | _ => cases hf
  | text shape dtype minLength maxLength charset =>
    cases value with
    | text text => exact ⟨_, rfl⟩
    | _ => cases hf
  | _ => cases value <;> cases hf

/-- An admitted value is encoded, one byte string per leaf, and comes back from them,
however its tensors are laid out. -/
theorem admitted_survives_wire {spec : SpaceSpec B} (hvalid : validateSpace spec = .ok ()) {value : StoredValue}
    (hordered : value.logical.Ordered) (hadmitted : ∀ e, conform spec value.logical ≠ .structural e) :
    ∃ leaves, encodeStored value spec = .ok leaves ∧ leaves.length = (leafSpecs spec).length ∧
      decodeLeaves leaves spec = .ok value.logical := by
  have hw := wellFormed_of_accepted ⟨_, hvalid⟩
  obtain ⟨hshaped, values, hflat, hfits⟩ := admitsShaped hw.keyed value.logical ⟨_, hadmitted⟩
  have hentries : ∀ entry ∈ (leafSpecs spec).zip values, LeafFits entry.1 entry.2 :=
    fun entry hentry => (List.forall₂_iff_zip.1 hfits).2 hentry
  have htotal : ∀ entry ∈ (leafSpecs spec).zip values, ∃ leaf, encodeLeaf entry.1 entry.2 = .ok leaf := by
    intro entry hentry
    obtain ⟨hleaf, path, haccepted⟩ := accepted_leaf ⟨_, hvalid⟩ entry.1 (List.of_mem_zip hentry).1
    exact encodeLeaf_of_fits haccepted hleaf (hentries entry hentry)
  obtain ⟨leaves, hleaves⟩ := mapM_total htotal
  have hencoded := mapM_ok.1 hleaves
  have hlen := hfits.length_eq.symm
  refine ⟨leaves, ?_, ?_, ?_⟩
  · rw [encodeStored_eq]
    exact encodeLeaves_ok.2 ⟨values, hflat, hencoded⟩
  · rw [← hencoded.length_eq, List.length_zip, hlen, Nat.min_self]
  · exact decodeLeaves_encoded hlen (fun entry hentry => leafSized_of_fits (hentries entry hentry)) hencoded
      (assembleValue_flattenLeaves hw.keyed hshaped hordered hflat)

/-- A picture and an index, the picture declared first. -/
def pictured : SpaceSpec (Option Bounds) :=
  .dict [] .unspecified ["picture", "choice"] [.box [2, 2] .uint8 (some (.unbounded true)), oneOfFour]

/-- Two rows stored column by column, behind one byte of something else. -/
def columnwise : TensorView where
  storage := [9, 1, 3, 2, 4]
  dtype := .uint8
  shape := [2, 2]
  strides := some [1, 2]
  byteOffset := 1
  stored := by decide
  readable := ⟨4, by decide⟩

theorem columnwise_survives_wire :
    ∃ leaves, encodeStored (.dict [("choice", .multiDiscrete [2]), ("picture", .box columnwise)]) pictured = .ok leaves ∧
      leaves.length = 2 ∧ decodeLeaves leaves pictured =
        .ok (.dict [("choice", .multiDiscrete [2]), ("picture", .box columnwise.tensor)]) := by
  have hconform : conform pictured
      (.dict [("choice", .multiDiscrete [2]), ("picture", .box columnwise.tensor)]) = .ok := by
    decide +kernel
  have hordered : SpaceValue.Ordered (.dict [("choice", .multiDiscrete [2]), ("picture", .box columnwise.tensor)]) :=
    ⟨by decide, trivial, trivial, trivial⟩
  exact admitted_survives_wire (by decide +kernel) hordered (fun e he => by cases hconform.symm.trans he)

end Admitted

end Rlmesh.Wire
