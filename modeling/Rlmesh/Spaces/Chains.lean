import Rlmesh.Spaces.Accessors
/-!
# Accessors never fail, within bounds (`rlmesh-spaces/src/tensor.rs`)

`from_storage` bounds the elements a view addresses. It does not bound the products
of an empty view's other dimensions, the size of a broadcast view or a stride no
element needs, and the accessors multiply all three. `Modest` says that they fit;
then every accessor computes what `TensorView` says, and so does every tensor made
by reshaping, unstacking and stacking.
-/
open Rlmesh.Lib

namespace Rlmesh.Spaces

/-! ## What `from_storage` accepts -/

variable {shape : List Int} {strides : Option (List Int)} {dtype : DType}

theorem checkStrides_ok {strides : List Int} :
    checkStrides shape (some strides) = .ok () ↔ strides.length = shape.length ∧ ∀ stride ∈ strides, 0 ≤ stride := by
  dsimp only [checkStrides]
  by_cases hlen : strides.length = shape.length
  · rw [if_neg (not_not.2 hlen)]
    cases hfind : strides.find? (· < 0) with
    | some stride =>
      have hneg : stride < 0 := by simpa using List.find?_some hfind
      refine ⟨nofun, fun h => ?_⟩
      have hnonneg := h.2 stride (List.mem_of_find?_eq_some hfind)
      omega
    | none =>
      refine ⟨fun _ => ⟨hlen, fun stride hstride => ?_⟩, fun _ => rfl⟩
      simpa using List.find?_eq_none.1 hfind stride hstride
  · rw [if_pos hlen]
    exact ⟨nofun, fun h => absurd h.1 hlen⟩

theorem lastElement_of_lt {pairs : List (Int × Int)} {last : Nat}
    (h : last + (pairs.map (fun pair => (pair.1.toNat - 1) * pair.2.toNat)).sum < 2 ^ 64) :
    lastElement last pairs = some (last + (pairs.map (fun pair => (pair.1.toNat - 1) * pair.2.toNat)).sum) := by
  induction pairs generalizing last with
  | nil => rfl
  | cons pair pairs ih =>
    rw [List.map_cons, List.sum_cons, ← Nat.add_assoc] at h ⊢
    have hadd : checkedAdd last ((pair.1.toNat - 1) * pair.2.toNat) = some (last + (pair.1.toNat - 1) * pair.2.toNat) :=
      if_pos (by omega)
    rw [lastElement, checkedMul_of_lt (by omega)]
    simp only [Option.bind_eq_bind, Option.bind_some, hadd]
    exact ih h

/-- The bytes a view needs: none when it is empty. -/
def needed (shape : List Int) (strides : Option (List Int)) (dtype : DType) : Nat :=
  if (shape.map Int.toNat).prod = 0 then 0 else TensorView.reach shape strides * dtypeSize dtype

theorem requiredBytes_of_lt (hnonneg : ∀ dim ∈ shape, 0 ≤ dim) (hdims : nonzeroProd (shape.map Int.toNat) < 2 ^ 64)
    (hsize : 0 < dtypeSize dtype) (h : needed shape strides dtype < 2 ^ 64) :
    requiredBytes shape strides dtype = .ok (needed shape strides dtype) := by
  unfold requiredBytes needed at *
  refine bind_ok.2 ⟨_, checkedNumel_of_nonneg hnonneg hdims, ?_⟩
  by_cases hzero : (shape.map Int.toNat).prod = 0
  · rw [if_pos hzero, if_pos hzero]
    rfl
  rw [if_neg hzero] at h ⊢
  rw [if_neg hzero]
  cases strides with
  | none =>
    rw [TensorView.reach] at h ⊢
    dsimp only
    rw [checkedMul_of_lt h]
    rfl
  | some strides =>
    rw [TensorView.reach] at h ⊢
    have hcount := Nat.lt_of_le_of_lt (Nat.le_mul_of_pos_right _ hsize) h
    have hlast := @lastElement_of_lt (shape.zip strides) 0 (by omega)
    rw [Nat.zero_add] at hlast
    have hadd : checkedAdd ((shape.zip strides).map (fun pair => (pair.1.toNat - 1) * pair.2.toNat)).sum 1 =
      some (((shape.zip strides).map (fun pair => (pair.1.toNat - 1) * pair.2.toNat)).sum + 1) := if_pos hcount
    simp only [hlast, Option.bind_eq_bind, Option.bind_some, hadd, checkedMul_of_lt h]
    rfl

theorem fromStorage_of_checked {storage : Storage} {byteOffset : Nat}
    (h : checkStorage storage.1.length dtype shape strides byteOffset = .ok ()) :
    fromStorage storage dtype shape strides byteOffset = .ok ⟨storage, dtype, shape, strides, byteOffset, h⟩ := by
  unfold fromStorage
  split
  · rfl
  · rename_i e herror
    rw [h] at herror
    cases herror

theorem fromStorage_ok {storage : Storage} {byteOffset : Nat} {t : StoredTensor}
    (h : fromStorage storage dtype shape strides byteOffset = .ok t) :
    t.dtype = dtype ∧ t.shape = shape ∧ t.strides = strides := by
  unfold fromStorage at h
  split at h
  · cases h
    exact ⟨rfl, rfl, rfl⟩
  · cases h

namespace StoredTensor

variable {t : StoredTensor}

theorem dtype_ne (t : StoredTensor) : t.dtype ≠ .unspecified := by
  intro h
  have hstored := t.stored
  rw [checkStorage, if_pos h] at hstored
  cases hstored

theorem size_pos (t : StoredTensor) : 0 < dtypeSize t.dtype := by
  cases hcase : t.dtype <;> first | exact absurd hcase t.dtype_ne | decide

theorem exists_checkedNumel (t : StoredTensor) : ∃ numel, checkedNumel t.shape = .ok numel := by
  obtain ⟨-, required, hrequired, -⟩ := TensorView.checkStorage_ok t.stored
  unfold requiredBytes at hrequired
  obtain ⟨numel, hnumel, -⟩ := bind_ok.1 hrequired
  exact ⟨numel, hnumel⟩

theorem shape_nonneg (t : StoredTensor) : ∀ dim ∈ t.shape, 0 ≤ dim := by
  obtain ⟨numel, hnumel⟩ := t.exists_checkedNumel
  exact (numel_of_checkedNumel hnumel).1

theorem strides_nonneg {strides : List Int} (h : t.strides = some strides) :
    strides.length = t.shape.length ∧ ∀ stride ∈ strides, 0 ≤ stride := by
  have hchecked := (TensorView.checkStorage_ok t.stored).1
  rw [h] at hchecked
  exact checkStrides_ok.1 hchecked

/-- The elements between the first and the last index of every axis, an empty one taken as a single index. -/
def span (shape strides : List Int) : Nat :=
  ((shape.zip strides).map (fun pair => (pair.1.toNat - 1) * pair.2.toNat)).sum

theorem span_cons (dim stride : Int) (shape strides : List Int) :
    span (dim :: shape) (stride :: strides) = (dim.toNat - 1) * stride.toNat + span shape strides := rfl

theorem reach_some (shape strides : List Int) : TensorView.reach shape (some strides) = span shape strides + 1 := rfl

/-- The sizes `from_storage` leaves open fit: the nonzero dimensions, each stride, and where an empty view points. -/
structure Modest (t : StoredTensor) : Prop where
  sized : nonzeroProd (t.shape.map Int.toNat) * dtypeSize t.dtype < 2 ^ 63
  strided : ∀ strides, t.strides = some strides → ∀ stride ∈ strides, stride.toNat * dtypeSize t.dtype < 2 ^ 64
  inside : ∀ strides, t.strides = some strides →
    t.byteOffset + span t.shape strides * dtypeSize t.dtype ≤ t.storage.1.length

theorem Modest.dims_lt (h : t.Modest) : nonzeroProd (t.shape.map Int.toNat) < 2 ^ 63 :=
  Nat.lt_of_le_of_lt (Nat.le_mul_of_pos_right _ t.size_pos) h.sized

theorem Modest.nbytes_lt (h : t.Modest) : (t.shape.map Int.toNat).prod * dtypeSize t.dtype < 2 ^ 63 :=
  Nat.lt_of_le_of_lt (Nat.mul_le_mul_right _ (prod_le_nonzeroProd _)) h.sized

theorem Modest.readable (h : t.Modest) : ∃ nbytes, checkedNbytes t.shape t.dtype = .ok nbytes := by
  have hfits := h.nbytes_lt
  have hdims := h.dims_lt
  unfold checkedNbytes
  rw [if_neg t.dtype_ne, checkedNumel_of_nonneg t.shape_nonneg (by omega)]
  dsimp only
  rw [checkedMul_of_lt (by omega)]
  exact ⟨_, rfl⟩

/-- The tensor as a view of its storage, in unbounded numbers. -/
def view (t : StoredTensor) (h : t.Modest) : TensorView where
  storage := t.storage.1
  dtype := t.dtype
  shape := t.shape
  strides := t.strides
  byteOffset := t.byteOffset
  stored := t.stored
  readable := h.readable

/-! ## Each accessor -/

theorem effectiveStrides_eq (h : t.Modest) : t.effectiveStrides = .ok ((t.view h).effectiveStrides.map Nat.cast) := by
  unfold effectiveStrides TensorView.effectiveStrides
  rw [show (t.view h).strides = t.strides from rfl]
  cases hstrides : t.strides with
  | some strides =>
    dsimp only
    rw [map_natCast_toNat (strides_nonneg hstrides).2]
  | none =>
    have hrun := contiguousStrides_natCast h.dims_lt
    rw [map_natCast_toNat t.shape_nonneg] at hrun
    exact bind_ok.2 ⟨_, hrun, rfl⟩

theorem numel_eq (h : t.Modest) : t.numel = .ok (t.view h).numel := by
  obtain ⟨numel, hnumel⟩ := t.exists_checkedNumel
  have hprod : numel = (t.view h).numel := TensorView.checkedNumel_ok hnumel
  rw [← hprod]
  exact (numel_of_checkedNumel hnumel).2

theorem nbytes_eq (h : t.Modest) : t.nbytes = .ok (t.view h).nbytes := by
  have hfits : (t.view h).numel * dtypeSize t.dtype < 2 ^ 63 := h.nbytes_lt
  exact bind_ok.2 ⟨_, numel_eq h, mulUsize_of_lt (by omega)⟩

theorem isContiguous_eq (h : t.Modest) : t.isContiguous = .ok (t.view h).isContiguous := by
  unfold isContiguous TensorView.isContiguous
  rw [show (t.view h).strides = t.strides from rfl]
  cases hstrides : t.strides with
  | none => rfl
  | some strides =>
    have hlen := (strides_nonneg hstrides).1
    have hpairs : (t.shape.zip strides).reverse =
        ((((t.view h).dims).zip (strides.map Int.toNat)).reverse).map (Prod.map Nat.cast Nat.cast) := by
      rw [List.map_reverse, ← List.zip_map, map_natCast_toNat (strides_nonneg hstrides).2]
      congr 2
      exact (map_natCast_toNat t.shape_nonneg).symm
    have hfst : ((((t.view h).dims).zip (strides.map Int.toNat)).reverse).map Prod.fst = (t.view h).dims.reverse := by
      rw [List.map_reverse, List.map_fst_zip]
      rw [TensorView.dims, List.length_map, List.length_map, hlen]
      rfl
    dsimp only
    rw [hpairs]
    refine contiguousFrom_natCast ?_
    rw [hfst, nonzeroProd_reverse, Nat.one_mul]
    exact h.dims_lt

theorem element_fits (h : t.Modest) {k : Nat} (hk : k < (t.view h).numel) :
    t.byteOffset + ((t.view h).elementAt (TensorView.unravel (t.view h).dims k) + 1) * dtypeSize t.dtype ≤
      t.storage.1.length := by
  obtain ⟨-, required, hrequired, hfits⟩ := TensorView.checkStorage_ok t.stored
  have hrequired : required = TensorView.reach t.shape t.strides * dtypeSize t.dtype :=
    TensorView.requiredBytes_ok (Nat.ne_of_gt (Nat.zero_lt_of_lt hk)) hrequired
  have hle : ((t.view h).elementAt (TensorView.unravel (t.view h).dims k) + 1) * dtypeSize t.dtype ≤
      TensorView.reach t.shape t.strides * dtypeSize t.dtype :=
    Nat.mul_le_mul_right _ ((t.view h).elementAt_lt hk)
  omega

theorem gatherElements_eq (h : t.Modest) {n k : Nat} (hk : k + n ≤ (t.view h).numel) :
    gatherElements (dtypeSize t.dtype) (t.view h).dims ((t.view h).effectiveStrides.map Nat.cast)
        (t.storage.1.drop t.byteOffset) n (TensorView.unravel (t.view h).dims k) =
      .ok ((t.view h).gatherInto n (TensorView.unravel (t.view h).dims k)) := by
  induction n generalizing k with
  | zero => rfl
  | succ n ih =>
    have hfits := element_fits h (show k < (t.view h).numel by omega)
    have hlen := t.storage.2
    have hsize := t.size_pos
    rw [Nat.succ_mul] at hfits
    have helement : (t.view h).elementAt (TensorView.unravel (t.view h).dims k) ≤
        (t.view h).elementAt (TensorView.unravel (t.view h).dims k) * dtypeSize t.dtype := Nat.le_mul_of_pos_right _ hsize
    have hat : elementAt (TensorView.unravel (t.view h).dims k) ((t.view h).effectiveStrides.map Nat.cast) =
        .ok ((t.view h).elementAt (TensorView.unravel (t.view h).dims k)) :=
      elementAt_natCast (show (t.view h).elementAt (TensorView.unravel (t.view h).dims k) < 2 ^ 64 by omega)
    have hstart : mulUsize ((t.view h).elementAt (TensorView.unravel (t.view h).dims k)) (dtypeSize t.dtype) = .ok _ :=
      mulUsize_of_lt (by omega)
    have hstop : addUsize ((t.view h).elementAt (TensorView.unravel (t.view h).dims k) * dtypeSize t.dtype)
        (dtypeSize t.dtype) = .ok _ := addUsize_of_lt (by omega)
    have hitem := @slice_of_le (t.storage.1.drop t.byteOffset)
      ((t.view h).elementAt (TensorView.unravel (t.view h).dims k) * dtypeSize t.dtype) _ (Nat.le_add_right _ _)
      (show _ + dtypeSize t.dtype ≤ _ by rw [List.length_drop]; omega)
    rw [Nat.add_sub_cancel_left] at hitem
    -- the index after the last element is never read
    have hrest : gatherElements (dtypeSize t.dtype) (t.view h).dims ((t.view h).effectiveStrides.map Nat.cast)
        (t.storage.1.drop t.byteOffset) n
          (TensorView.advance (t.view h).dims (TensorView.unravel (t.view h).dims k)).1 =
        .ok ((t.view h).gatherInto n
          (TensorView.advance (t.view h).dims (TensorView.unravel (t.view h).dims k)).1) := by
      cases n with
      | zero => rfl
      | succ n =>
        have hprod : k + 1 ≠ (t.view h).dims.prod := by rw [TensorView.numel] at hk; omega
        rw [TensorView.advance_unravel (show k < (t.view h).dims.prod by rw [TensorView.numel] at hk; omega),
          if_neg hprod]
        exact ih (by omega)
    exact bind_ok.2 ⟨_, hat, bind_ok.2 ⟨_, hstart, bind_ok.2 ⟨_, hstop, bind_ok.2 ⟨_, hitem,
      bind_ok.2 ⟨_, hrest, rfl⟩⟩⟩⟩⟩

theorem offset_le (t : StoredTensor) : t.byteOffset ≤ t.storage.1.length := by
  obtain ⟨-, required, -, hfits⟩ := TensorView.checkStorage_ok t.stored
  omega

theorem gatherInto_eq (h : t.Modest) : t.gatherInto = .ok (t.view h).content := by
  have hdata : slice t.storage.1 t.byteOffset t.storage.1.length = .ok (t.storage.1.drop t.byteOffset) := by
    rw [slice_of_le t.offset_le (Nat.le_refl _), List.take_of_length_le (by rw [List.length_drop])]
  have hstart : t.shape.map (fun _ => 0) = TensorView.unravel (t.view h).dims 0 := by
    rw [TensorView.unravel_zero, TensorView.dims, List.map_map]
    rfl
  have hrun := gatherElements_eq h (show 0 + (t.view h).numel ≤ (t.view h).numel by omega)
  rw [TensorView.gatherInto_unravel _ (by omega), ← List.range_eq_range'] at hrun
  refine bind_ok.2 ⟨_, effectiveStrides_eq h, bind_ok.2 ⟨_, hdata, bind_ok.2 ⟨_, numel_eq h, ?_⟩⟩⟩
  rw [hstart]
  exact hrun

theorem toContiguousBytes_eq (h : t.Modest) : t.toContiguousBytes = .ok (t.view h).content := by
  refine bind_ok.2 ⟨_, isContiguous_eq h, bind_ok.2 ⟨_, nbytes_eq h, ?_⟩⟩
  have hbytes : (t.view h).nbytes < 2 ^ 63 := h.nbytes_lt
  have hlen := t.storage.2
  have hoffset := t.offset_le
  by_cases hcontiguous : (t.view h).isContiguous = true
  · -- the slice is inside the storage: its content has as many bytes as the view
    have hcontent := (t.view h).toContiguousBytes_eq
    have hlength := (t.view h).length_content
    rw [← hcontent, TensorView.toContiguousBytes, if_pos hcontiguous, List.length_take, List.length_drop] at hlength
    have hfits : t.byteOffset + (t.view h).nbytes ≤ t.storage.1.length := by
      have hsame : (t.view h).storage.length - (t.view h).byteOffset = t.storage.1.length - t.byteOffset := rfl
      omega
    rw [if_pos hcontiguous]
    refine bind_ok.2 ⟨_, addUsize_of_lt (by omega), ?_⟩
    rw [slice_of_le (Nat.le_add_right _ _) hfits, Nat.add_sub_cancel_left, ← hcontent, TensorView.toContiguousBytes,
      if_pos hcontiguous]
    rfl
  · rw [if_neg hcontiguous]
    exact bind_ok.2 ⟨_, reserve_of_lt hbytes, gatherInto_eq h⟩

/-! ## Unstacking -/

theorem flatMap_range_mul {α : Type} (rows width : Nat) (f : Nat → List α) :
    (List.range (rows * width)).flatMap f =
      (List.range rows).flatMap (fun i => (List.range width).flatMap (fun j => f (i * width + j))) := by
  induction rows with
  | zero => rw [Nat.zero_mul]; rfl
  | succ rows ih =>
    rw [Nat.succ_mul, List.range_add, List.flatMap_append, ih, List.range_succ, List.flatMap_append, List.flatMap_map]
    simp

section Parts

variable {count : Int} {inner : List Int} {outer : Nat} {rest : List Nat}

/-- The strides of a tensor of some rank: those of its axes, first the outer one. -/
theorem strides_cases (h : t.Modest) (hshape : t.shape = count :: inner)
    (hstrides : (t.view h).effectiveStrides = outer :: rest) :
    (t.strides = none ∧ outer = (inner.map Int.toNat).prod ∧
      rest = (TensorView.contiguousStrides (inner.map Int.toNat)).1) ∨
    t.strides = some ((outer : Int) :: rest.map Nat.cast) := by
  unfold TensorView.effectiveStrides at hstrides
  rw [show (t.view h).strides = t.strides from rfl] at hstrides
  cases hown : t.strides with
  | none =>
    rw [hown] at hstrides
    rw [TensorView.dims, show (t.view h).shape = count :: inner from hshape, List.map_cons,
      TensorView.contiguousStrides_cons, TensorView.contiguousStrides_prod] at hstrides
    obtain ⟨houter, hrest⟩ := List.cons.inj hstrides
    exact .inl ⟨rfl, houter.symm, hrest.symm⟩
  | some strides =>
    rw [hown] at hstrides
    have hnat : strides.map Int.toNat = outer :: rest := hstrides
    right
    rw [← map_natCast_toNat (strides_nonneg hown).2, hnat, List.map_cons]

variable {i : Nat}

theorem row_le (outer size : Nat) (hi : i < count.toNat) : i * (outer * size) ≤ (count.toNat - 1) * outer * size := by
  rw [← Nat.mul_assoc]
  exact Nat.mul_le_mul_right _ (Nat.mul_le_mul_right _ (by omega))

/-- Where part `i` starts, and that an empty part of a strided tensor points inside the storage. -/
theorem part_inside (h : t.Modest) (hshape : t.shape = count :: inner)
    (hown : t.strides = some ((outer : Int) :: rest.map Nat.cast)) (hi : i < count.toNat) :
    t.byteOffset + i * (outer * dtypeSize t.dtype) + span inner (rest.map Nat.cast) * dtypeSize t.dtype ≤
      t.storage.1.length := by
  have hinside := h.inside _ hown
  rw [hshape, span_cons, Int.toNat_natCast, Nat.add_mul] at hinside
  have hrow := row_le outer (dtypeSize t.dtype) hi
  omega

theorem part_needed (h : t.Modest) (hshape : t.shape = count :: inner)
    (hstrides : (t.view h).effectiveStrides = outer :: rest) (hi : i < count.toNat) :
    t.byteOffset + i * (outer * dtypeSize t.dtype) +
      needed inner (t.strides.map (fun _ => rest.map Nat.cast)) t.dtype ≤ t.storage.1.length := by
  have hoffset := t.offset_le
  obtain ⟨-, required, hrequired, hfits⟩ := TensorView.checkStorage_ok t.stored
  unfold needed
  by_cases hzero : (inner.map Int.toNat).prod = 0
  · rw [if_pos hzero]
    rcases strides_cases h hshape hstrides with ⟨-, houter, -⟩ | hown
    · rw [houter, hzero, Nat.zero_mul, Nat.mul_zero]
      exact hoffset
    · have hinside := part_inside h hshape hown hi
      omega
  · have hsome : (t.shape.map Int.toNat).prod ≠ 0 := by
      rw [hshape, List.map_cons, List.prod_cons]
      exact Nat.mul_ne_zero (by omega) hzero
    have hneeds := TensorView.requiredBytes_ok hsome hrequired
    rw [if_neg hzero]
    rcases strides_cases h hshape hstrides with ⟨hown, houter, -⟩ | hown
    · rw [hown, TensorView.reach, hshape, List.map_cons, List.prod_cons] at hneeds
      rw [hown, Option.map_none, TensorView.reach, houter]
      have hrows : (i + 1) * ((inner.map Int.toNat).prod * dtypeSize t.dtype) ≤
          count.toNat * ((inner.map Int.toNat).prod * dtypeSize t.dtype) := Nat.mul_le_mul_right _ hi
      rw [Nat.succ_mul] at hrows
      rw [Nat.mul_assoc] at hneeds
      omega
    · rw [hown, reach_some, hshape, span_cons, Int.toNat_natCast, Nat.add_assoc, Nat.add_mul] at hneeds
      rw [hown, Option.map_some, reach_some]
      have hrow := row_le outer (dtypeSize t.dtype) hi
      omega

theorem part_stored (h : t.Modest) (hshape : t.shape = count :: inner)
    (hstrides : (t.view h).effectiveStrides = outer :: rest) (hi : i < count.toNat) :
    checkStorage t.storage.1.length t.dtype inner (t.strides.map (fun _ => rest.map Nat.cast))
      (t.byteOffset + i * (outer * dtypeSize t.dtype)) = .ok () := by
  have hroom := part_needed h hshape hstrides hi
  have hlen := t.storage.2
  have hdims := h.dims_lt
  rw [hshape, List.map_cons] at hdims
  have hinner := Nat.lt_of_le_of_lt (nonzeroProd_le_cons count.toNat (inner.map Int.toNat)) hdims
  have hnonneg : ∀ dim ∈ inner, 0 ≤ dim := fun dim hdim =>
    t.shape_nonneg dim (by rw [hshape]; exact List.mem_cons_of_mem _ hdim)
  have hchecked : checkStrides inner (t.strides.map (fun _ => rest.map Nat.cast)) = .ok () := by
    rcases strides_cases h hshape hstrides with ⟨hown, -⟩ | hown
    · rw [hown]
      rfl
    · have hrank := (strides_nonneg hown).1
      rw [hown, Option.map_some]
      refine checkStrides_ok.2 ⟨?_, fun stride hstride => ?_⟩
      · rw [hshape, List.length_cons, List.length_cons] at hrank
        exact Nat.succ.inj hrank
      · obtain ⟨n, -, rfl⟩ := List.mem_map.1 hstride
        exact Int.natCast_nonneg n
  have hrequired := requiredBytes_of_lt hnonneg (by omega) t.size_pos
    (show needed inner (t.strides.map (fun _ => rest.map Nat.cast)) t.dtype < 2 ^ 64 by omega)
  unfold checkStorage
  rw [if_neg t.dtype_ne]
  refine bind_ok.2 ⟨(), hchecked, bind_ok.2 ⟨_, hrequired, ?_⟩⟩
  rw [if_neg (by omega)]

/-- Part `i` along axis 0. -/
def part (h : t.Modest) (hshape : t.shape = count :: inner) (hstrides : (t.view h).effectiveStrides = outer :: rest)
    (i : Nat) (hi : i < count.toNat) : StoredTensor where
  storage := t.storage
  dtype := t.dtype
  shape := inner
  strides := t.strides.map (fun _ => rest.map Nat.cast)
  byteOffset := t.byteOffset + i * (outer * dtypeSize t.dtype)
  stored := part_stored h hshape hstrides hi

theorem part_modest (h : t.Modest) (hshape : t.shape = count :: inner)
    (hstrides : (t.view h).effectiveStrides = outer :: rest) (hi : i < count.toNat) :
    (part h hshape hstrides i hi).Modest := by
  have hsized := h.sized
  rw [hshape, List.map_cons] at hsized
  have hinner : nonzeroProd (inner.map Int.toNat) * dtypeSize t.dtype < 2 ^ 63 :=
    Nat.lt_of_le_of_lt (Nat.mul_le_mul_right _ (nonzeroProd_le_cons _ _)) hsized
  rcases strides_cases h hshape hstrides with ⟨hown, -⟩ | hown
  · have hnone : (part h hshape hstrides i hi).strides = none := by
      show t.strides.map _ = none
      rw [hown]
      rfl
    have hnot : ∀ strides, (part h hshape hstrides i hi).strides ≠ some strides := by
      intro strides
      rw [hnone]
      exact nofun
    exact ⟨hinner, fun strides hsome => absurd hsome (hnot strides), fun strides hsome => absurd hsome (hnot strides)⟩
  · have hsome : (part h hshape hstrides i hi).strides = some (rest.map Nat.cast) := by
      show t.strides.map _ = _
      rw [hown]
      rfl
    refine ⟨hinner, fun strides heq => ?_, fun strides heq => ?_⟩
    · rw [hsome] at heq
      cases heq
      exact fun stride hstride => h.strided _ hown stride (List.mem_cons_of_mem _ hstride)
    · rw [hsome] at heq
      cases heq
      exact part_inside h hshape hown hi

theorem part_effectiveStrides (h : t.Modest) (hshape : t.shape = count :: inner)
    (hstrides : (t.view h).effectiveStrides = outer :: rest) (hi : i < count.toNat) :
    ((part h hshape hstrides i hi).view (part_modest h hshape hstrides hi)).effectiveStrides = rest := by
  unfold TensorView.effectiveStrides
  rw [show ((part h hshape hstrides i hi).view (part_modest h hshape hstrides hi)).strides =
    t.strides.map (fun _ => rest.map Nat.cast) from rfl]
  rcases strides_cases h hshape hstrides with ⟨hown, -, hrest⟩ | hown
  · rw [hown]
    exact hrest.symm
  · rw [hown, Option.map_some]
    dsimp only
    rw [List.map_map]
    exact (List.map_congr_left (fun n _ => Int.toNat_natCast n)).trans (List.map_id _)

/-- The bytes of row `i`, of `width` elements. -/
def row (h : t.Modest) (width i : Nat) : List UInt8 :=
  (List.range width).flatMap (fun j => (t.view h).item (TensorView.unravel (t.view h).dims (i * width + j)))

theorem part_content (h : t.Modest) (hshape : t.shape = count :: inner)
    (hstrides : (t.view h).effectiveStrides = outer :: rest) (hi : i < count.toNat) :
    ((part h hshape hstrides i hi).view (part_modest h hshape hstrides hi)).content =
      row h (inner.map Int.toNat).prod i := by
  refine List.flatMap_congr (fun j hj => ?_)
  have hj : j < (inner.map Int.toNat).prod := List.mem_range.1 hj
  have hdims : (t.view h).dims = count.toNat :: inner.map Int.toNat := by
    rw [TensorView.dims, show (t.view h).shape = count :: inner from hshape, List.map_cons]
  have hindex : TensorView.unravel (t.view h).dims (i * (inner.map Int.toNat).prod + j) =
      i :: TensorView.unravel (inner.map Int.toNat) j := by
    rw [hdims, TensorView.unravel, Nat.mul_comm i, Nat.mul_add_div (by omega), Nat.div_eq_of_lt hj, Nat.mul_add_mod,
      Nat.mod_eq_of_lt hj, Nat.add_zero]
  have helement : (t.view h).elementAt (i :: TensorView.unravel (inner.map Int.toNat) j) = i * outer +
      ((part h hshape hstrides i hi).view (part_modest h hshape hstrides hi)).elementAt
        (TensorView.unravel (inner.map Int.toNat) j) := by
    rw [TensorView.elementAt, hstrides, List.zipWith_cons_cons, List.sum_cons, TensorView.elementAt,
      part_effectiveStrides h hshape hstrides hi]
  rw [hindex, TensorView.item, TensorView.item, helement, List.drop_drop, List.drop_drop, Nat.add_mul, Nat.mul_assoc,
    ← Nat.add_assoc]
  rfl

end Parts

/-- Unstacking gives one part for each index of axis 0; their bytes one after the other are the tensor's. -/
theorem unstack_eq (h : t.Modest) {count : Int} {inner : List Int} (hshape : t.shape = count :: inner) :
    ∃ views parts, t.unstack = .ok views ∧ (views.length : Int) = count ∧ (∀ view ∈ views, view.Modest) ∧
      views.mapM toContiguousBytes = .ok parts ∧ parts.flatten = (t.view h).content := by
  obtain ⟨outer, rest, hstrides⟩ : ∃ outer rest, (t.view h).effectiveStrides = outer :: rest := by
    unfold TensorView.effectiveStrides
    rw [show (t.view h).strides = t.strides from rfl]
    cases hown : t.strides with
    | none =>
      rw [TensorView.dims, show (t.view h).shape = count :: inner from hshape]
      exact ⟨_, _, rfl⟩
    | some strides =>
      have hrank := (strides_nonneg hown).1
      rw [hshape] at hrank
      cases strides with
      | nil => cases hrank
      | cons stride strides => exact ⟨_, _, rfl⟩
  have hcount : 0 ≤ count := t.shape_nonneg count (by rw [hshape]; exact List.mem_cons_self)
  have hlen := t.storage.2
  have houter : outer * dtypeSize t.dtype < 2 ^ 64 := by
    rcases strides_cases h hshape hstrides with ⟨-, hprod, -⟩ | hown
    · have hsized := h.sized
      rw [hshape, List.map_cons] at hsized
      have hle : outer * dtypeSize t.dtype ≤ nonzeroProd (count.toNat :: inner.map Int.toNat) * dtypeSize t.dtype := by
        rw [hprod]
        exact Nat.mul_le_mul_right _ ((prod_le_nonzeroProd _).trans (nonzeroProd_le_cons _ _))
      omega
    · exact h.strided _ hown outer List.mem_cons_self
  have hparts : ∀ i ∈ List.range count.toNat, ∃ view, (do
      let distance ← mulUsize i (outer * dtypeSize t.dtype)
      let byteOffset ← addUsize t.byteOffset distance
      fromStorage t.storage t.dtype inner (t.strides.map (fun _ => rest.map Nat.cast)) byteOffset : Access _) = .ok view ∧
      (view.Modest ∧ view.toContiguousBytes = .ok (row h (inner.map Int.toNat).prod i)) := by
    intro i hi
    rw [List.mem_range] at hi
    have hroom := part_needed h hshape hstrides hi
    refine ⟨part h hshape hstrides i hi, ?_, part_modest h hshape hstrides hi, ?_⟩
    · exact bind_ok.2 ⟨_, mulUsize_of_lt (by omega), bind_ok.2 ⟨_, addUsize_of_lt (by omega),
        fromStorage_of_checked (part_stored h hshape hstrides hi)⟩⟩
    · rw [toContiguousBytes_eq (part_modest h hshape hstrides hi), part_content h hshape hstrides hi]
  obtain ⟨views, hviews, hall⟩ := mapM_exists hparts
  refine ⟨views, (List.range count.toNat).map (row h (inner.map Int.toNat).prod), ?_, ?_, ?_, mapM_ok.2 ?_, ?_⟩
  · unfold unstack
    rw [hshape]
    refine bind_ok.2 ⟨_, effectiveStrides_eq h, ?_⟩
    rw [hstrides]
    exact bind_ok.2 ⟨_, mulUsize_of_lt houter, hviews⟩
  · rw [← hall.length_eq, List.length_range, Int.toNat_of_nonneg hcount]
  · intro view hview
    obtain ⟨i, -, hmodest, -⟩ := forall₂_mem_right hall hview
    exact hmodest
  · exact List.forall₂_map_right_iff.2 (hall.imp (fun i view hview => hview.2)).flip
  · have hnumel : (t.view h).numel = count.toNat * (inner.map Int.toNat).prod := by
      rw [TensorView.numel, TensorView.dims, show (t.view h).shape = count :: inner from hshape, List.map_cons,
        List.prod_cons]
    rw [TensorView.content, hnumel, flatMap_range_mul, ← List.flatMap_def]
    rfl

/-! ## Everything built from modest tensors -/

theorem reshape_modest (h : t.Modest) {dims : List Int} {t' : StoredTensor}
    (hdims : nonzeroProd (dims.map Int.toNat) * dtypeSize t.dtype < 2 ^ 63) (hreshape : t.reshape dims = .ok t') :
    t'.Modest := by
  unfold reshape at hreshape
  obtain ⟨shape, hshape, hreshape⟩ := bind_ok.1 hreshape
  obtain ⟨target, htarget, hreshape⟩ := bind_ok.1 hreshape
  obtain ⟨numel, hnumel, hreshape⟩ := bind_ok.1 hreshape
  rw [numel_eq h] at hnumel
  cases hnumel
  have htarget := TensorView.checkedNumel_ok (mapError_ok.1 htarget)
  split at hreshape
  · cases hreshape
  rename_i hsame
  rw [not_not] at hsame
  -- with elements the new dimensions multiply to as many; without, an inferred one is zero
  have hsized : nonzeroProd (shape.map Int.toNat) * dtypeSize t.dtype < 2 ^ 63 := by
    by_cases hzero : (t.view h).numel = 0
    · have hsupport : shape.map Int.toNat = dims.map Int.toNat := by
        unfold resolveReshapeDims at hshape
        split at hshape
        · cases hshape
        split at hshape
        · cases hshape
          rfl
        obtain ⟨known, -, hshape⟩ := bind_ok.1 hshape
        obtain ⟨numel, hnumel, hshape⟩ := bind_ok.1 hshape
        rw [numel_eq h] at hnumel
        cases hnumel
        split at hshape
        · cases hshape
        cases hshape
        rw [hzero, Nat.zero_div, List.map_map]
        refine List.map_congr_left (fun dim _ => ?_)
        by_cases hinferred : dim = -1
        · rw [Function.comp_apply, if_pos hinferred, hinferred]
          rfl
        · rw [Function.comp_apply, if_neg hinferred]
      rwa [hsupport]
    · rw [hsame, htarget] at hzero
      rw [nonzeroProd_eq_prod hzero, ← htarget, ← hsame]
      exact h.nbytes_lt
  have hfields : t'.dtype = t.dtype ∧ t'.shape = shape ∧ t'.strides = none := by
    obtain ⟨contiguous, -, hreshape⟩ := bind_ok.1 hreshape
    split at hreshape
    · exact fromStorage_ok hreshape
    · obtain ⟨nbytes, -, hreshape⟩ := bind_ok.1 hreshape
      obtain ⟨storage, -, hreshape⟩ := bind_ok.1 hreshape
      exact fromStorage_ok hreshape
  obtain ⟨hdtype, hnew, hnone⟩ := hfields
  refine ⟨by rwa [hdtype, hnew], fun strides hsome => ?_, fun strides hsome => ?_⟩
  · rw [hnone] at hsome
    cases hsome
  · rw [hnone] at hsome
    cases hsome

theorem wrapI64_of_lt {n : Nat} (h : n < 2 ^ 63) : wrapI64 n = n := by
  unfold wrapI64
  refine Int.bmod_eq_of_le ?_ ?_
  · norm_num
  · norm_num
    omega

theorem stack_modest {tensors : List StoredTensor} {t' : StoredTensor}
    (hdims : ∀ t ∈ tensors, tensors.length * nonzeroProd (t.shape.map Int.toNat) * dtypeSize t.dtype < 2 ^ 63)
    (hstack : stack tensors = .ok t') : t'.Modest := by
  unfold stack at hstack
  cases tensors with
  | nil => cases hstack
  | cons first others =>
    dsimp only at hstack
    split at hstack
    · cases hstack
    obtain ⟨nbytes, -, hstack⟩ := bind_ok.1 hstack
    split at hstack
    · cases hstack
    obtain ⟨storage, -, hstack⟩ := bind_ok.1 hstack
    obtain ⟨hdtype, hshape, hnone⟩ := fromStorage_ok hstack
    have hfirst := hdims first List.mem_cons_self
    have hcount : (first :: others).length < 2 ^ 63 := by
      refine Nat.lt_of_le_of_lt ?_ hfirst
      rw [Nat.mul_assoc]
      exact Nat.le_mul_of_pos_right _ (Nat.mul_pos (nonzeroProd_pos _) first.size_pos)
    have hwrap : (wrapI64 (first :: others).length).toNat = (first :: others).length := by
      rw [wrapI64_of_lt hcount, Int.toNat_natCast]
    refine ⟨?_, fun strides hsome => ?_, fun strides hsome => ?_⟩
    · rw [hdtype, hshape, List.map_cons, hwrap, nonzeroProd_cons (by simp)]
      exact hfirst
    · rw [hnone] at hsome
      cases hsome
    · rw [hnone] at hsome
      cases hsome

/-- Tensors made from modest ones by reshaping, unstacking and stacking, each to dimensions that fit. -/
inductive Built : StoredTensor → Prop where
  | view {t : StoredTensor} : t.Modest → Built t
  | reshape {t t' : StoredTensor} {dims : List Int} : Built t →
      nonzeroProd (dims.map Int.toNat) * dtypeSize t.dtype < 2 ^ 63 → t.reshape dims = .ok t' → Built t'
  | unstack {t t' : StoredTensor} {views : List StoredTensor} : Built t → t.unstack = .ok views → t' ∈ views → Built t'
  | stack {tensors : List StoredTensor} {t' : StoredTensor} : (∀ t ∈ tensors, Built t) →
      (∀ t ∈ tensors, tensors.length * nonzeroProd (t.shape.map Int.toNat) * dtypeSize t.dtype < 2 ^ 63) →
      stack tensors = .ok t' → Built t'

theorem Built.modest (h : Built t) : t.Modest := by
  induction h with
  | view hmodest => exact hmodest
  | reshape _ hdims hreshape ih => exact reshape_modest ih hdims hreshape
  | @unstack t t' views _ hviews hmem ih =>
    cases hshape : t.shape with
    | nil =>
      rw [StoredTensor.unstack, hshape] at hviews
      cases hviews
    | cons count inner =>
      obtain ⟨found, -, hfound, -, hmodest, -⟩ := unstack_eq ih hshape
      rw [hfound] at hviews
      cases hviews
      exact hmodest t' hmem
  | stack _ hdims hstack _ => exact stack_modest hdims hstack

/-- No accessor faults, the bytes are those of the gather whichever path is taken, and unstacking
cuts them into one view for each index of axis 0. -/
structure Accessible (t : StoredTensor) : Prop where
  effectiveStrides : ∃ strides, t.effectiveStrides = .ok strides
  isContiguous : ∃ contiguous, t.isContiguous = .ok contiguous
  numel : ∃ numel, t.numel = .ok numel
  nbytes : ∃ nbytes, t.nbytes = .ok nbytes
  bytes : ∃ bytes, t.toContiguousBytes = .ok bytes ∧ t.gatherInto = .ok bytes
  unstack : ∀ count inner, t.shape = count :: inner → ∃ views parts bytes, t.unstack = .ok views ∧
    (views.length : Int) = count ∧ views.mapM toContiguousBytes = .ok parts ∧ t.toContiguousBytes = .ok bytes ∧
    parts.flatten = bytes

/-- Accessors never fail on a tensor built within the bounds. -/
theorem accessors_never_fail (h : Built t) : t.Accessible := by
  have hmodest := h.modest
  refine ⟨⟨_, effectiveStrides_eq hmodest⟩, ⟨_, isContiguous_eq hmodest⟩, ⟨_, numel_eq hmodest⟩, ⟨_, nbytes_eq hmodest⟩,
    ⟨_, toContiguousBytes_eq hmodest, gatherInto_eq hmodest⟩, fun count inner hshape => ?_⟩
  obtain ⟨views, parts, hviews, hlength, -, hparts, hflat⟩ := unstack_eq hmodest hshape
  exact ⟨views, parts, _, hviews, hlength, hparts, toContiguousBytes_eq hmodest, hflat⟩

/-- A transposed matrix of bytes. -/
def transposed : StoredTensor where
  storage := ⟨[1, 2, 3, 4, 5, 6], by decide⟩
  dtype := .uint8
  shape := [3, 2]
  strides := some [1, 3]
  byteOffset := 0
  stored := by decide

theorem transposed_accessible : Built transposed ∧ transposed.Accessible ∧
    transposed.toContiguousBytes = .ok [1, 4, 2, 5, 3, 6] := by
  have hmodest : transposed.Modest := by
    refine ⟨by decide, fun strides h => ?_, fun strides h => ?_⟩
    · cases h
      simp [transposed, dtypeSize]
    · cases h
      decide
  have hbuilt : Built transposed := .view hmodest
  exact ⟨hbuilt, accessors_never_fail hbuilt, by decide⟩

/-- An empty tensor with two large dimensions. -/
def emptyHuge : StoredTensor where
  storage := ⟨[], by decide⟩
  dtype := .uint8
  shape := [0, 2 ^ 40, 2 ^ 40]
  strides := none
  byteOffset := 0
  stored := by decide

/-- One double, repeated. -/
def broadcast : StoredTensor where
  storage := ⟨[0, 0, 0, 0, 0, 0, 0, 0], by decide⟩
  dtype := .float64
  shape := [2 ^ 62]
  strides := some [0]
  byteOffset := 0
  stored := by decide

/-- Two rows without elements, one byte apart in storage that has none. -/
def emptyRows : StoredTensor where
  storage := ⟨[], by decide⟩
  dtype := .uint8
  shape := [2, 0]
  strides := some [1, 1]
  byteOffset := 0
  stored := by decide

/-- Accepted tensors whose strides overflow, whose size overflows, and whose second row is refused. -/
theorem accepted_not_accessible :
    emptyHuge.effectiveStrides = .error (.fault .overflow) ∧ broadcast.nbytes = .error (.fault .overflow) ∧
    emptyRows.unstack.map List.length = .error (.refused (.outOfBounds 0 1 0)) ∧
    ¬ emptyHuge.Accessible ∧ ¬ broadcast.Accessible ∧ ¬ emptyRows.Accessible := by
  have hstrides : emptyHuge.effectiveStrides = .error (.fault .overflow) := by decide
  have hbytes : broadcast.nbytes = .error (.fault .overflow) := by decide
  have hrows : emptyRows.unstack.map List.length = .error (.refused (.outOfBounds 0 1 0)) := by decide
  refine ⟨hstrides, hbytes, hrows, fun h => ?_, fun h => ?_, fun h => ?_⟩
  · obtain ⟨strides, hok⟩ := h.effectiveStrides
    rw [hstrides] at hok
    cases hok
  · obtain ⟨nbytes, hok⟩ := h.nbytes
    rw [hbytes] at hok
    cases hok
  · obtain ⟨views, parts, bytes, hok, -⟩ := h.unstack 2 [0] rfl
    rw [hok] at hrows
    cases hrows

end StoredTensor

end Rlmesh.Spaces
