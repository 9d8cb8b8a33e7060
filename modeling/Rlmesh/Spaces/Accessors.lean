import Rlmesh.Spaces.Views
/-!
# Tensor accessors in machine integers (`rlmesh-spaces/src/tensor.rs`)

`TensorView` says what a tensor holds, in unbounded numbers. Here its accessors
compute as the source does: strides and expected strides in `i64`, counts and
offsets in `usize`, bytes by slicing. A product or sum that does not fit, a slice
that reaches outside the storage and a buffer larger than any allocation are
faults; a fault where the source is built with overflow checks is a panic.
-/
open Rlmesh.Lib

namespace Rlmesh.Spaces

inductive Fault where
  | overflow
  | outOfBounds
  | capacity
  deriving DecidableEq

/-- How an accessor fails: it faults, or refuses with an error. -/
inductive Failure where
  | fault (fault : Fault)
  | refused (error : TensorError)
  deriving DecidableEq

abbrev Access (α : Type) := Except Failure α

def mulI64 (a b : Int) : Access Int :=
  if -2 ^ 63 ≤ a * b ∧ a * b < 2 ^ 63 then .ok (a * b) else .error (.fault .overflow)

def mulUsize (a b : Nat) : Access Nat := if a * b < 2 ^ 64 then .ok (a * b) else .error (.fault .overflow)

def addUsize (a b : Nat) : Access Nat := if a + b < 2 ^ 64 then .ok (a + b) else .error (.fault .overflow)

/-- `bytes[start..stop]`. -/
def slice (bytes : List UInt8) (start stop : Nat) : Access (List UInt8) :=
  if start ≤ stop ∧ stop ≤ bytes.length then .ok ((bytes.drop start).take (stop - start)) else .error (.fault .outOfBounds)

/-- `Vec::with_capacity`, of bytes. -/
def reserve (capacity : Nat) : Access Unit := if capacity < 2 ^ 63 then .ok () else .error (.fault .capacity)

/-- Stored bytes; no allocation holds more than `isize::MAX`. -/
def Storage := { bytes : List UInt8 // bytes.length < 2 ^ 63 }

/-- A tensor `from_storage` accepted. -/
structure StoredTensor where
  storage : Storage
  dtype : DType
  shape : List Int
  strides : Option (List Int)
  byteOffset : Nat
  stored : checkStorage storage.1.length dtype shape strides byteOffset = .ok ()

def fromStorage (storage : Storage) (dtype : DType) (shape : List Int) (strides : Option (List Int)) (byteOffset : Nat) :
    Access StoredTensor :=
  match h : checkStorage storage.1.length dtype shape strides byteOffset with
  | .ok () => .ok ⟨storage, dtype, shape, strides, byteOffset, h⟩
  | .error e => .error (.refused e)

/-- `Storage::aligned_with`: a buffer of `len` bytes and the padding for its alignment, filled. -/
def alignedWith (len : Nat) (fill : Access (List UInt8)) : Access Storage := do
  let padded ← addUsize len 64
  reserve (padded - 1)
  let bytes ← fill
  if h : bytes.length = len ∧ len < 2 ^ 63 then return ⟨bytes, by omega⟩
  else .error (.fault .outOfBounds)

/-- C-contiguous strides, and the product of all dimensions that the loop ends with. -/
def contiguousStrides : List Int → Access (List Int × Int)
  | [] => .ok ([], 1)
  | dim :: rest => do
    let (strides, stride) ← contiguousStrides rest
    let next ← mulI64 stride dim
    return (stride :: strides, next)

/-- Dimensions and strides, the last first, against the stride a contiguous layout has there. -/
def contiguousFrom (expected : Int) : List (Int × Int) → Access Bool
  | [] => .ok true
  | (dim, stride) :: rest =>
    if dim = 0 then .ok true
    else if dim ≠ 1 then
      if stride ≠ expected then .ok false
      else do
        let expected ← mulI64 expected dim
        contiguousFrom expected rest
    else contiguousFrom expected rest

/-- The number of the element at an index. -/
def elementAt (index : List Nat) (strides : List Int) : Access Nat :=
  (index.zip strides).foldlM (fun sum entry => do
    let offset ← mulUsize entry.1 entry.2.toNat
    addUsize sum offset) 0

/-- Copy `n` elements from an index on. -/
def gatherElements (itemsize : Nat) (dims : List Nat) (strides : List Int) (data : List UInt8) :
    Nat → List Nat → Access (List UInt8)
  | 0, _ => .ok []
  | n + 1, index => do
    let element ← elementAt index strides
    let start ← mulUsize element itemsize
    let stop ← addUsize start itemsize
    let item ← slice data start stop
    let rest ← gatherElements itemsize dims strides data n (TensorView.advance dims index).1
    return item ++ rest

namespace StoredTensor

def effectiveStrides (t : StoredTensor) : Access (List Int) :=
  match t.strides with
  | some strides => .ok strides
  | none => do
    let (strides, _) ← contiguousStrides t.shape
    return strides

def numel (t : StoredTensor) : Access Nat := t.shape.foldlM (fun numel dim => mulUsize numel dim.toNat) 1

def nbytes (t : StoredTensor) : Access Nat := do
  let numel ← t.numel
  mulUsize numel (dtypeSize t.dtype)

def isContiguous (t : StoredTensor) : Access Bool :=
  match t.strides with
  | none => .ok true
  | some strides => contiguousFrom 1 (t.shape.zip strides).reverse

def gatherInto (t : StoredTensor) : Access (List UInt8) := do
  let strides ← t.effectiveStrides
  let data ← slice t.storage.1 t.byteOffset t.storage.1.length
  let numel ← t.numel
  gatherElements (dtypeSize t.dtype) (t.shape.map Int.toNat) strides data numel (t.shape.map (fun _ => 0))

def toContiguousBytes (t : StoredTensor) : Access (List UInt8) := do
  let contiguous ← t.isContiguous
  let nbytes ← t.nbytes
  if contiguous then
    let stop ← addUsize t.byteOffset nbytes
    slice t.storage.1 t.byteOffset stop
  else
    reserve nbytes
    t.gatherInto

/-- `as i64` of a `usize`. -/
def wrapI64 (n : Nat) : Int := (n : Int).bmod (2 ^ 64)

/-- The product of the dimensions asked for, a `-1` apart. -/
def knownDims (dims : List Int) : Access Nat :=
  dims.foldlM (fun known dim =>
    if dim < -1 then .error (.refused (.negativeDim dim))
    else if 0 ≤ dim then
      match checkedMul known dim.toNat with
      | some product => .ok product
      | none => .error (.refused .overflow)
    else .ok known) 1

def resolveReshapeDims (t : StoredTensor) (dims : List Int) : Access (List Int) :=
  if 1 < dims.count (-1) then .error (.refused .ambiguousReshape)
  else if dims.count (-1) = 0 then .ok dims
  else do
    let known ← knownDims dims
    let numel ← t.numel
    if known = 0 ∨ numel % known ≠ 0 then .error (.refused (.numelMismatch numel known))
    else return dims.map (fun dim => if dim = -1 then wrapI64 (numel / known) else dim)

def reshape (t : StoredTensor) (dims : List Int) : Access StoredTensor := do
  let shape ← t.resolveReshapeDims dims
  let target ← (checkedNumel shape).mapError .refused
  let numel ← t.numel
  if numel ≠ target then .error (.refused (.numelMismatch numel target))
  else
    let contiguous ← t.isContiguous
    if contiguous then fromStorage t.storage t.dtype shape none t.byteOffset
    else
      let nbytes ← t.nbytes
      let storage ← alignedWith nbytes t.gatherInto
      fromStorage storage t.dtype shape none 0

def stack (tensors : List StoredTensor) : Access StoredTensor :=
  match tensors with
  | [] => .error (.refused .emptyStack)
  | first :: _ =>
    match tensors.findIdx? (fun t => t.dtype ≠ first.dtype ∨ t.shape ≠ first.shape) with
    | some index => .error (.refused (.stackMismatch index))
    | none => do
      let nbytes ← first.nbytes
      match checkedMul nbytes tensors.length with
      | none => .error (.refused .overflow)
      | some total =>
        let storage ← alignedWith total (do
          let parts ← tensors.mapM toContiguousBytes
          return parts.flatten)
        fromStorage storage first.dtype (wrapI64 tensors.length :: first.shape) none 0

/-- Split along axis 0 into views of the same storage. -/
def unstack (t : StoredTensor) : Access (List StoredTensor) :=
  match t.shape with
  | [] => .error (.refused .unstackScalar)
  | count :: innerShape => do
    let strides ← t.effectiveStrides
    match strides with
    | [] => .error (.fault .outOfBounds)
    | outerStride :: innerStrides =>
      let outerStrideBytes ← mulUsize outerStride.toNat (dtypeSize t.dtype)
      (List.range count.toNat).mapM (fun index => do
        let distance ← mulUsize index outerStrideBytes
        let byteOffset ← addUsize t.byteOffset distance
        fromStorage t.storage t.dtype innerShape (t.strides.map (fun _ => innerStrides)) byteOffset)

end StoredTensor

/-! ## Dimensions that are not zero -/

/-- The product of the nonzero dimensions. A zero dimension makes a tensor empty, but the loops over
strides still multiply the others. -/
def nonzeroProd (dims : List Nat) : Nat := (dims.filter (· ≠ 0)).prod

@[simp] theorem nonzeroProd_nil : nonzeroProd [] = 1 := rfl

theorem nonzeroProd_cons_zero (dims : List Nat) : nonzeroProd (0 :: dims) = nonzeroProd dims := by
  simp [nonzeroProd]

theorem nonzeroProd_cons {dim : Nat} (h : dim ≠ 0) (dims : List Nat) :
    nonzeroProd (dim :: dims) = dim * nonzeroProd dims := by
  simp [nonzeroProd, h]

theorem nonzeroProd_pos (dims : List Nat) : 0 < nonzeroProd dims := by
  refine Nat.pos_of_ne_zero (fun h => ?_)
  have hzero := List.prod_eq_zero_iff.1 h
  simp at hzero

theorem nonzeroProd_reverse (dims : List Nat) : nonzeroProd dims.reverse = nonzeroProd dims := by
  rw [nonzeroProd, List.filter_reverse, List.prod_reverse, nonzeroProd]

theorem nonzeroProd_le_cons (dim : Nat) (dims : List Nat) : nonzeroProd dims ≤ nonzeroProd (dim :: dims) := by
  by_cases h : dim = 0
  · rw [h, nonzeroProd_cons_zero]
  · rw [nonzeroProd_cons h]
    exact Nat.le_mul_of_pos_left _ (Nat.pos_of_ne_zero h)

theorem nonzeroProd_eq_prod {dims : List Nat} (h : dims.prod ≠ 0) : nonzeroProd dims = dims.prod := by
  rw [nonzeroProd, List.filter_eq_self.2]
  intro dim hdim
  rw [decide_eq_true_eq]
  rintro rfl
  exact h (List.prod_eq_zero hdim)

theorem prod_le_nonzeroProd (dims : List Nat) : dims.prod ≤ nonzeroProd dims := by
  by_cases h : dims.prod = 0
  · rw [h]
    exact Nat.zero_le _
  · rw [nonzeroProd_eq_prod h]

/-! ## Machine arithmetic within its bounds -/

theorem mulI64_natCast {a b : Nat} (h : a * b < 2 ^ 63) : mulI64 a b = .ok ((a * b : Nat) : Int) := by
  have hfits : -2 ^ 63 ≤ ((a * b : Nat) : Int) ∧ ((a * b : Nat) : Int) < 2 ^ 63 := by omega
  rw [mulI64, ← Int.natCast_mul, if_pos hfits]

theorem mulUsize_of_lt {a b : Nat} (h : a * b < 2 ^ 64) : mulUsize a b = .ok (a * b) := if_pos h

theorem addUsize_of_lt {a b : Nat} (h : a + b < 2 ^ 64) : addUsize a b = .ok (a + b) := if_pos h

theorem slice_of_le {bytes : List UInt8} {start stop : Nat} (h : start ≤ stop) (hlen : stop ≤ bytes.length) :
    slice bytes start stop = .ok ((bytes.drop start).take (stop - start)) := if_pos ⟨h, hlen⟩

theorem reserve_of_lt {capacity : Nat} (h : capacity < 2 ^ 63) : reserve capacity = .ok () := if_pos h

theorem map_natCast_toNat {shape : List Int} (h : ∀ dim ∈ shape, 0 ≤ dim) :
    (shape.map Int.toNat).map Nat.cast = shape := by
  rw [List.map_map]
  exact (List.map_congr_left (fun dim hdim => Int.toNat_of_nonneg (h dim hdim))).trans (List.map_id _)

theorem contiguousStrides_natCast {dims : List Nat} (h : nonzeroProd dims < 2 ^ 63) :
    contiguousStrides (dims.map Nat.cast) =
      .ok ((TensorView.contiguousStrides dims).1.map Nat.cast, (dims.prod : Int)) := by
  induction dims with
  | nil => rfl
  | cons dim dims ih =>
    have hprod : dims.prod * dim < 2 ^ 63 := by
      rw [Nat.mul_comm, ← List.prod_cons]
      exact Nat.lt_of_le_of_lt (prod_le_nonzeroProd _) h
    have hrest := ih (Nat.lt_of_le_of_lt (nonzeroProd_le_cons dim dims) h)
    refine bind_ok.2 ⟨_, hrest, bind_ok.2 ⟨_, mulI64_natCast hprod, ?_⟩⟩
    rw [TensorView.contiguousStrides_cons, TensorView.contiguousStrides_prod, List.map_cons, List.prod_cons,
      Nat.mul_comm dim]
    rfl

/-- The expected stride is a product of dimensions passed so far, none of them zero. -/
theorem contiguousFrom_natCast {pairs : List (Nat × Nat)} {expected : Nat}
    (h : expected * nonzeroProd (pairs.map Prod.fst) < 2 ^ 63) :
    contiguousFrom expected (pairs.map (Prod.map Nat.cast Nat.cast)) = .ok (TensorView.contiguousFrom expected pairs) := by
  induction pairs generalizing expected with
  | nil => rfl
  | cons pair pairs ih =>
    obtain ⟨dim, stride⟩ := pair
    rw [List.map_cons, Prod.map_apply, contiguousFrom, TensorView.contiguousFrom]
    by_cases hzero : dim = 0
    · rw [if_pos hzero, if_pos (by rw [hzero]; rfl)]
    rw [List.map_cons, nonzeroProd_cons hzero, ← Nat.mul_assoc] at h
    rw [if_neg hzero, if_neg (Int.natCast_eq_zero.not.2 hzero)]
    by_cases hone : dim = 1
    · subst hone
      rw [if_neg (not_not.2 rfl), if_neg (not_not.2 Nat.cast_one)]
      exact ih (by rwa [Nat.mul_one] at h)
    · rw [if_pos hone, if_pos (by exact_mod_cast hone)]
      by_cases hstride : stride = expected
      · subst hstride
        have hmul : stride * dim < 2 ^ 63 :=
          Nat.lt_of_le_of_lt (Nat.le_mul_of_pos_right _ (nonzeroProd_pos _)) h
        rw [if_neg (not_not.2 rfl), if_neg (not_not.2 rfl), mulI64_natCast hmul]
        exact ih h
      · rw [if_pos hstride, if_pos (by exact_mod_cast hstride)]

theorem elementAt_natCast {index strides : List Nat} (h : (index.zipWith (· * ·) strides).sum < 2 ^ 64) :
    elementAt index (strides.map Nat.cast) = .ok (index.zipWith (· * ·) strides).sum := by
  have hfold : ∀ (pairs : List (Nat × Int)) (sum : Nat),
      sum + (pairs.map (fun entry => entry.1 * entry.2.toNat)).sum < 2 ^ 64 →
      pairs.foldlM (fun sum entry => (do
        let offset ← mulUsize entry.1 entry.2.toNat
        addUsize sum offset : Access Nat)) sum =
        .ok (sum + (pairs.map (fun entry => entry.1 * entry.2.toNat)).sum) := by
    intro pairs
    induction pairs with
    | nil => intro sum _; rfl
    | cons entry pairs ih =>
      intro sum hsum
      rw [List.map_cons, List.sum_cons, ← Nat.add_assoc] at hsum ⊢
      rw [List.foldlM_cons, mulUsize_of_lt (by omega)]
      simp only [bind, Except.bind]
      rw [addUsize_of_lt (by omega)]
      exact ih _ hsum
  have hpairs : (index.zip (strides.map (Nat.cast : Nat → Int))).map (fun entry => entry.1 * entry.2.toNat) =
      index.zipWith (· * ·) strides := by
    rw [List.zip_map_right, List.map_map, List.zip_eq_zipWith, List.map_zipWith]
    rfl
  have hrun := hfold (index.zip (strides.map Nat.cast)) 0 (by rw [hpairs]; omega)
  rw [hpairs, Nat.zero_add] at hrun
  exact hrun

/-! ## What acceptance says of the dimensions -/

theorem checkedMul_of_lt {a b : Nat} (h : a * b < 2 ^ 64) : checkedMul a b = some (a * b) := if_pos h

/-- The checked product and the plain one multiply alike, as long as the first succeeds. -/
theorem numel_of_checkedNumel {shape : List Int} {numel : Nat} (h : checkedNumel shape = .ok numel) :
    (∀ dim ∈ shape, 0 ≤ dim) ∧ shape.foldlM (fun numel dim => mulUsize numel dim.toNat) 1 = .ok numel := by
  unfold checkedNumel at h
  generalize 1 = acc at h ⊢
  induction shape generalizing acc with
  | nil =>
    cases h
    exact ⟨nofun, rfl⟩
  | cons dim shape ih =>
    rw [List.foldlM_cons] at h
    obtain ⟨product, hproduct, h⟩ := bind_ok.1 h
    split at hproduct
    · cases hproduct
    rename_i hdim
    unfold checkedMul at hproduct
    by_cases hfits : acc * dim.toNat < 2 ^ 64
    · rw [if_pos hfits] at hproduct
      cases hproduct
      obtain ⟨hnonneg, hrun⟩ := ih _ h
      refine ⟨List.forall_mem_cons.2 ⟨by omega, hnonneg⟩, ?_⟩
      rw [List.foldlM_cons, mulUsize_of_lt hfits]
      exact hrun
    · rw [if_neg hfits] at hproduct
      cases hproduct

theorem checkedNumel_of_nonneg {shape : List Int} (hnonneg : ∀ dim ∈ shape, 0 ≤ dim)
    (h : nonzeroProd (shape.map Int.toNat) < 2 ^ 64) : checkedNumel shape = .ok (shape.map Int.toNat).prod := by
  have hfold : ∀ acc, acc * nonzeroProd (shape.map Int.toNat) < 2 ^ 64 → shape.foldlM (fun numel dim =>
      if dim < 0 then Except.error (TensorError.negativeDim dim)
      else match checkedMul numel dim.toNat with
        | some product => .ok product
        | none => .error .overflow) acc = .ok (acc * (shape.map Int.toNat).prod) := by
    clear h
    induction shape with
    | nil => intro acc _; simp [pure, Except.pure]
    | cons dim shape ih =>
      intro acc hacc
      obtain ⟨hdim, hrest⟩ := List.forall_mem_cons.1 hnonneg
      have hmul : acc * dim.toNat * nonzeroProd (shape.map Int.toNat) < 2 ^ 64 := by
        by_cases hzero : dim.toNat = 0
        · rw [hzero, Nat.mul_zero, Nat.zero_mul]
          omega
        · rwa [List.map_cons, nonzeroProd_cons hzero, ← Nat.mul_assoc] at hacc
      have hfits : acc * dim.toNat < 2 ^ 64 :=
        Nat.lt_of_le_of_lt (Nat.le_mul_of_pos_right _ (nonzeroProd_pos _)) hmul
      rw [List.foldlM_cons, if_neg (by omega), checkedMul_of_lt hfits, List.map_cons, List.prod_cons, ← Nat.mul_assoc]
      exact ih hrest _ hmul
  have hrun := hfold 1 (by rwa [Nat.one_mul])
  rwa [Nat.one_mul] at hrun

end Rlmesh.Spaces
