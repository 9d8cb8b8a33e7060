import Rlmesh.Lib.Bytes
import Rlmesh.Lib.Results
import Rlmesh.Spaces.Space
/-!
# Tensors in storage (`rlmesh-spaces/src/tensor.rs`)

A tensor of the source is a view of stored bytes: an element stride per dimension
and a byte offset. Its logical content is its elements in C order; tensor equality
is equality of that content. `toContiguousBytes` slices the storage when the layout
is contiguous and gathers element by element otherwise. Both give the content.
-/
open Rlmesh.Lib

namespace Rlmesh.Spaces

/-! ## Views -/

/-- `usize::checked_add`. -/
def checkedAdd (a b : Nat) : Option Nat := if a + b < 2 ^ 64 then some (a + b) else none

/-- The number of the last element addressed, dimension by dimension. -/
def lastElement : Nat → List (Int × Int) → Option Nat
  | last, [] => some last
  | last, (dim, stride) :: rest => do
    let span ← checkedMul (dim.toNat - 1) stride.toNat
    let last ← checkedAdd last span
    lastElement last rest

/-- Bytes a view must be able to address past its byte offset. -/
def requiredBytes (shape : List Int) (strides : Option (List Int)) (dtype : DType) : Except TensorError Nat := do
  let numel ← checkedNumel shape
  if numel = 0 then return 0
  let required := match strides with
    | none => checkedMul numel (dtypeSize dtype)
    | some strides => do
      let last ← lastElement 0 (shape.zip strides)
      let count ← checkedAdd last 1
      checkedMul count (dtypeSize dtype)
  match required with
  | some required => return required
  | none => .error .overflow

def checkStrides (shape : List Int) : Option (List Int) → Except TensorError Unit
  | none => .ok ()
  | some strides =>
    if strides.length ≠ shape.length then .error (.strideRankMismatch strides.length shape.length)
    else match strides.find? (· < 0) with
      | some stride => .error (.negativeStride stride)
      | none => .ok ()

/-- The checks of `from_storage`. -/
def checkStorage (available : Nat) (dtype : DType) (shape : List Int) (strides : Option (List Int))
    (byteOffset : Nat) : Except TensorError Unit :=
  if dtype = .unspecified then .error .unspecifiedDtype
  else do
    checkStrides shape strides
    let required ← requiredBytes shape strides dtype
    if byteOffset > available ∨ required > available - byteOffset then
      .error (.outOfBounds required byteOffset available)
    else .ok ()

/-- A view `from_storage` accepted, and whose elements fit a buffer: a broadcast
too large for that can be built, but nothing can read it. -/
structure TensorView where
  storage : List UInt8
  dtype : DType
  shape : List Int
  strides : Option (List Int)
  byteOffset : Nat
  stored : checkStorage storage.length dtype shape strides byteOffset = .ok ()
  readable : ∃ nbytes, checkedNbytes shape dtype = .ok nbytes

namespace TensorView

variable (view : TensorView)

def dims : List Nat := view.shape.map Int.toNat

def numel : Nat := view.dims.prod

def nbytes : Nat := view.numel * dtypeSize view.dtype

/-- C-contiguous strides, from the last dimension on. -/
def contiguousStrides (dims : List Nat) : List Nat × Nat :=
  dims.foldr (fun dim (strides, stride) => (stride :: strides, stride * dim)) ([], 1)

def effectiveStrides : List Nat :=
  match view.strides with
  | some strides => strides.map Int.toNat
  | none => (contiguousStrides view.dims).1

/-- Dimensions and strides, the last first, against the stride a contiguous layout has there. -/
def contiguousFrom : Nat → List (Nat × Nat) → Bool
  | _, [] => true
  | expected, (dim, stride) :: rest =>
    if dim = 0 then true
    else if dim ≠ 1 then
      if stride ≠ expected then false else contiguousFrom (expected * dim) rest
    else contiguousFrom expected rest

def isContiguous : Bool :=
  match view.strides with
  | none => true
  | some strides => contiguousFrom 1 (view.dims.zip (strides.map Int.toNat)).reverse

/-- The number in storage of the element at an index. -/
def elementAt (index : List Nat) : Nat := (index.zipWith (· * ·) view.effectiveStrides).sum

/-- The bytes of one element. -/
def item (index : List Nat) : List UInt8 :=
  ((view.storage.drop view.byteOffset).drop (view.elementAt index * dtypeSize view.dtype)).take (dtypeSize view.dtype)

/-- The next index in C order, and whether it wrapped around. -/
def advance : List Nat → List Nat → List Nat × Bool
  | dim :: dims, i :: index =>
    match advance dims index with
    | (index, false) => (i :: index, false)
    | (index, true) => if i + 1 < dim then ((i + 1) :: index, false) else (0 :: index, true)
  | _, _ => ([], true)

/-- Copy the bytes of the next `n` elements from an index on. -/
def gatherInto : Nat → List Nat → List UInt8
  | 0, _ => []
  | n + 1, index => view.item index ++ gatherInto n (advance view.dims index).1

/-- The element bytes in C order. -/
def toContiguousBytes : List UInt8 :=
  if view.isContiguous then (view.storage.drop view.byteOffset).take view.nbytes
  else view.gatherInto view.numel (view.dims.map (fun _ => 0))

/-! ## C order -/

/-- The index of element `k` of a tensor with the given dimensions. -/
def unravel : List Nat → Nat → List Nat
  | [], _ => []
  | _ :: dims, k => k / dims.prod :: unravel dims (k % dims.prod)

/-- The logical content: the elements one after the other. -/
def content : List UInt8 := (List.range view.numel).flatMap (fun k => view.item (unravel view.dims k))

theorem unravel_zero (dims : List Nat) : unravel dims 0 = dims.map (fun _ => 0) := by
  induction dims with
  | nil => rfl
  | cons dim dims ih => rw [unravel, Nat.zero_div, Nat.zero_mod, ih, List.map_cons]

variable {dims : List Nat} {k : Nat} {shape : List Int} {dtype : DType}

theorem advance_unravel (hk : k < dims.prod) :
    advance dims (unravel dims k) =
      (unravel dims (if k + 1 = dims.prod then 0 else k + 1), decide (k + 1 = dims.prod)) := by
  induction dims generalizing k with
  | nil =>
    rw [List.prod_nil] at hk
    cases Nat.lt_one_iff.1 hk
    rfl
  | cons dim dims ih =>
    rw [List.prod_cons] at hk ⊢
    have hpos : 0 < dims.prod := Nat.pos_of_ne_zero (by rintro h; rw [h] at hk; omega)
    have hmod : k % dims.prod < dims.prod := Nat.mod_lt _ hpos
    have hsplit := Nat.div_add_mod k dims.prod
    have hdiv : k / dims.prod < dim := Nat.div_lt_of_lt_mul (by rwa [Nat.mul_comm])
    rw [unravel, advance, ih hmod]
    by_cases hwrap : k % dims.prod + 1 = dims.prod
    · have hnext : k + 1 = dims.prod * (k / dims.prod + 1) := by rw [Nat.mul_add, Nat.mul_one]; omega
      simp only [hwrap, decide_true, if_true]
      by_cases hlast : k / dims.prod + 1 < dim
      · have hne : k + 1 ≠ dim * dims.prod := by
          rw [hnext, Nat.mul_comm dim]
          exact fun h => absurd (Nat.eq_of_mul_eq_mul_left hpos h) (by omega)
        rw [if_pos hlast, if_neg hne, decide_eq_false hne, unravel, hnext, Nat.mul_div_cancel_left _ hpos,
          Nat.mul_mod_right]
      · have heq : k + 1 = dim * dims.prod := by
          rw [hnext, Nat.mul_comm dim]
          congr 1
          omega
        rw [if_neg hlast, if_pos heq, decide_eq_true heq, unravel, Nat.zero_div, Nat.zero_mod]
    · have hne : k + 1 ≠ dim * dims.prod := by
        intro h
        have hdvd : (k + 1) % dims.prod = 0 := by rw [h, Nat.mul_mod_left]
        rw [Nat.add_mod, Nat.mod_eq_of_lt (show 1 < dims.prod by omega), Nat.mod_eq_of_lt (by omega)] at hdvd
        omega
      have hone : 1 % dims.prod = 1 := Nat.mod_eq_of_lt (by omega)
      have hquot : (k + 1) / dims.prod = k / dims.prod := by
        rw [← hsplit, Nat.add_assoc, Nat.mul_add_div hpos, Nat.mul_add_div hpos, Nat.div_eq_of_lt hmod,
          Nat.div_eq_of_lt (show k % dims.prod + 1 < dims.prod by omega)]
      have hrem : (k + 1) % dims.prod = k % dims.prod + 1 := by
        rw [Nat.add_mod, hone, Nat.mod_eq_of_lt (by omega)]
      simp only [hwrap, decide_false, if_false]
      rw [if_neg hne, decide_eq_false hne, unravel, hquot, hrem]

theorem gatherInto_unravel {n : Nat} (h : k + n ≤ view.numel) :
    view.gatherInto n (unravel view.dims k) =
      (List.range' k n).flatMap (fun k => view.item (unravel view.dims k)) := by
  induction n generalizing k with
  | zero => rfl
  | succ n ih =>
    rw [gatherInto, List.range'_succ, List.flatMap_cons, advance_unravel (show k < view.dims.prod by rw [numel] at h; omega)]
    congr 1
    cases n with
    | zero => rfl
    | succ n =>
      have hne : k + 1 ≠ view.dims.prod := by rw [numel] at h; omega
      rw [if_neg hne]
      exact ih (by omega)

/-! ## What the checks guarantee -/

theorem checkedNumel_ok {numel : Nat} (h : checkedNumel shape = .ok numel) : numel = (shape.map Int.toNat).prod := by
  have hfold : ∀ (acc : Nat), shape.foldlM (fun numel dim =>
      if dim < 0 then Except.error (TensorError.negativeDim dim)
      else match checkedMul numel dim.toNat with
        | some product => .ok product
        | none => .error .overflow) acc = .ok numel → numel = acc * (shape.map Int.toNat).prod := by
    clear h
    induction shape with
    | nil => rintro acc ⟨⟩; simp
    | cons dim shape ih =>
      intro acc h
      rw [List.foldlM_cons] at h
      obtain ⟨product, hproduct, h⟩ := bind_ok.1 h
      split at hproduct
      · cases hproduct
      · unfold checkedMul at hproduct
        split at hproduct
        · rename_i found hfound
          split at hfound
          · cases hfound
            cases hproduct
            rw [ih _ h, List.map_cons, List.prod_cons, Nat.mul_assoc]
          · cases hfound
        · cases hproduct
  simpa using hfold 1 h

theorem checkedNbytes_ok {nbytes : Nat} (h : checkedNbytes shape dtype = .ok nbytes) :
    nbytes = (shape.map Int.toNat).prod * dtypeSize dtype := by
  unfold checkedNbytes checkedMul at h
  split at h
  · cases h
  split at h
  · cases h
  · rename_i numel hnumel
    split at h
    · rename_i found hfound
      split at hfound
      · cases hfound
        cases h
        rw [checkedNumel_ok hnumel]
      · cases hfound
    · cases h

theorem lastElement_ok {pairs : List (Int × Int)} {last final : Nat} (h : lastElement last pairs = some final) :
    final = last + (pairs.map (fun pair => (pair.1.toNat - 1) * pair.2.toNat)).sum := by
  induction pairs generalizing last with
  | nil => cases h; rfl
  | cons pair pairs ih =>
    rw [lastElement] at h
    obtain ⟨span, hspan, h⟩ := Option.bind_eq_some_iff.1 h
    obtain ⟨next, hnext, h⟩ := Option.bind_eq_some_iff.1 h
    unfold checkedMul at hspan
    unfold checkedAdd at hnext
    split at hspan
    · cases hspan
      split at hnext
      · cases hnext
        rw [ih h, List.map_cons, List.sum_cons, Nat.add_assoc]
      · cases hnext
    · cases hspan

/-- The elements of storage a view with some element reaches over. -/
def reach (shape : List Int) : Option (List Int) → Nat
  | none => (shape.map Int.toNat).prod
  | some strides => ((shape.zip strides).map (fun pair => (pair.1.toNat - 1) * pair.2.toNat)).sum + 1

theorem requiredBytes_ok {strides : Option (List Int)} {required : Nat} (hsome : (shape.map Int.toNat).prod ≠ 0)
    (h : requiredBytes shape strides dtype = .ok required) : required = reach shape strides * dtypeSize dtype := by
  unfold requiredBytes at h
  obtain ⟨numel, hnumel, h⟩ := bind_ok.1 h
  have hcount := checkedNumel_ok hnumel
  rw [if_neg (by rw [hcount]; exact hsome)] at h
  unfold checkedMul checkedAdd at h
  cases strides with
  | none =>
    dsimp only at h
    split at h
    · rename_i found hfound
      split at hfound
      · cases hfound
        cases h
        rw [reach, hcount]
      · cases hfound
    · cases h
  | some strides =>
    dsimp only at h
    split at h
    · rename_i found hfound
      cases h
      obtain ⟨last, hlast, hfound⟩ := Option.bind_eq_some_iff.1 hfound
      obtain ⟨count, hnext, hfound⟩ := Option.bind_eq_some_iff.1 hfound
      split at hnext
      · cases hnext
        split at hfound
        · cases hfound
          rw [lastElement_ok hlast, Nat.zero_add, reach]
        · cases hfound
      · cases hnext
    · cases h

theorem checkStorage_ok {available : Nat} {strides : Option (List Int)} {byteOffset : Nat}
    (h : checkStorage available dtype shape strides byteOffset = .ok ()) :
    checkStrides shape strides = .ok () ∧ ∃ required, requiredBytes shape strides dtype = .ok required ∧
      byteOffset + required ≤ available := by
  unfold checkStorage at h
  split at h
  · cases h
  obtain ⟨⟨⟩, hstrides, h⟩ := bind_ok.1 h
  obtain ⟨required, hrequired, h⟩ := bind_ok.1 h
  split at h
  · cases h
  · exact ⟨hstrides, required, hrequired, by omega⟩

theorem rank {strides : List Int} (h : view.strides = some strides) : strides.length = view.shape.length := by
  have hchecked := (checkStorage_ok view.stored).1
  rw [h, checkStrides] at hchecked
  split at hchecked
  · cases hchecked
  · rename_i hlen
    exact not_not.1 hlen

/-! ## Contiguous layouts -/

theorem contiguousStrides_cons (dim : Nat) (dims : List Nat) :
    contiguousStrides (dim :: dims) =
      ((contiguousStrides dims).2 :: (contiguousStrides dims).1, (contiguousStrides dims).2 * dim) := rfl

theorem contiguousStrides_prod (dims : List Nat) : (contiguousStrides dims).2 = dims.prod := by
  induction dims with
  | nil => rfl
  | cons dim dims ih => rw [contiguousStrides_cons, ih, List.prod_cons, Nat.mul_comm]

/-- What the check says of a first part of the dimensions, and of the others after it. -/
theorem contiguousFrom_append {expected : Nat} {first rest : List (Nat × Nat)} (hdims : ∀ entry ∈ first, entry.1 ≠ 0)
    (h : contiguousFrom expected (first ++ rest) = true) :
    contiguousFrom expected first = true ∧ contiguousFrom (expected * (first.map Prod.fst).prod) rest = true := by
  induction first generalizing expected with
  | nil => exact ⟨rfl, by simpa using h⟩
  | cons entry first ih =>
    obtain ⟨dim, stride⟩ := entry
    have hdim : dim ≠ 0 := hdims _ List.mem_cons_self
    have hrest : ∀ entry ∈ first, entry.1 ≠ 0 := fun entry hentry => hdims entry (List.mem_cons_of_mem _ hentry)
    rw [List.cons_append, contiguousFrom, if_neg hdim] at h
    rw [contiguousFrom, if_neg hdim, List.map_cons, List.prod_cons, ← Nat.mul_assoc]
    split at h
    · rename_i hone
      rw [if_pos hone]
      split at h
      · cases h
      · rename_i hstride
        rw [if_neg hstride]
        exact ih hrest h
    · rename_i hone
      rw [not_not] at hone
      rw [if_neg (not_not.2 hone), hone, Nat.mul_one]
      exact ih hrest h

theorem offset_contiguous {strides : List Nat} (hlen : strides.length = dims.length)
    (h : contiguousFrom 1 (dims.zip strides).reverse = true) (hk : k < dims.prod) :
    ((unravel dims k).zipWith (· * ·) strides).sum = k := by
  induction dims generalizing strides k with
  | nil =>
    rw [List.prod_nil] at hk
    cases Nat.lt_one_iff.1 hk
    rfl
  | cons dim dims ih =>
    cases strides with
    | nil => cases hlen
    | cons stride strides =>
      rw [List.prod_cons] at hk
      have hpos : 0 < dims.prod := Nat.pos_of_ne_zero (by rintro h; rw [h] at hk; omega)
      have hdims : ∀ entry ∈ (dims.zip strides).reverse, entry.1 ≠ 0 := by
        intro entry hentry hzero
        have hmem := (List.of_mem_zip (List.mem_reverse.1 hentry)).1
        rw [hzero] at hmem
        rw [List.prod_eq_zero hmem] at hpos
        omega
      rw [List.zip_cons_cons, List.reverse_cons] at h
      obtain ⟨hrest, hfirst⟩ := contiguousFrom_append hdims h
      have hprod : ((dims.zip strides).reverse.map Prod.fst).prod = dims.prod := by
        rw [List.map_reverse, List.prod_reverse, List.map_fst_zip (Nat.succ.inj hlen).ge]
      have hsplit := Nat.div_add_mod k dims.prod
      have htail := ih (Nat.succ.inj hlen) hrest (Nat.mod_lt k hpos)
      rw [unravel, List.zipWith_cons_cons, List.sum_cons, htail]
      rw [hprod, Nat.one_mul, contiguousFrom] at hfirst
      split at hfirst
      · rename_i hzero
        rw [hzero] at hk
        omega
      split at hfirst
      · split at hfirst
        · cases hfirst
        · rename_i hstride
          rw [not_not.1 hstride, Nat.mul_comm]
          exact hsplit
      · rename_i hone
        rw [not_not.1 hone, Nat.one_mul] at hk
        rw [Nat.div_eq_of_lt hk, Nat.zero_mul, Nat.zero_add, Nat.mod_eq_of_lt hk]

theorem offset_contiguousStrides (hk : k < dims.prod) :
    ((unravel dims k).zipWith (· * ·) (contiguousStrides dims).1).sum = k := by
  induction dims generalizing k with
  | nil =>
    rw [List.prod_nil] at hk
    cases Nat.lt_one_iff.1 hk
    rfl
  | cons dim dims ih =>
    rw [List.prod_cons] at hk
    have hpos : 0 < dims.prod := Nat.pos_of_ne_zero (by rintro h; rw [h] at hk; omega)
    rw [contiguousStrides_cons, contiguousStrides_prod, unravel, List.zipWith_cons_cons, List.sum_cons,
      ih (Nat.mod_lt k hpos), Nat.mul_comm]
    exact Nat.div_add_mod k dims.prod

theorem take_flatMap (stride n : Nat) (xs : List UInt8) :
    xs.take (n * stride) = (List.range n).flatMap (fun k => (xs.drop (k * stride)).take stride) := by
  induction n with
  | zero => simp
  | succ n ih => rw [List.range_succ, List.flatMap_append, ← ih, Nat.succ_mul, List.take_add]; simp

/-! ## The logical tensor -/

theorem offset_le {strides : List Nat} (hk : k < dims.prod) :
    ((unravel dims k).zipWith (· * ·) strides).sum ≤ ((dims.zip strides).map (fun pair => (pair.1 - 1) * pair.2)).sum := by
  induction dims generalizing strides k with
  | nil => simp [unravel]
  | cons dim dims ih =>
    cases strides with
    | nil => simp
    | cons stride strides =>
      rw [List.prod_cons] at hk
      have hpos : 0 < dims.prod := Nat.pos_of_ne_zero (by rintro h; rw [h] at hk; omega)
      have hdigit : k / dims.prod < dim := Nat.div_lt_of_lt_mul (by rwa [Nat.mul_comm])
      rw [unravel, List.zipWith_cons_cons, List.sum_cons, List.zip_cons_cons, List.map_cons, List.sum_cons]
      exact Nat.add_le_add (Nat.mul_le_mul_right _ (by omega)) (ih (Nat.mod_lt k hpos))

theorem elementAt_lt (hk : k < view.numel) :
    view.elementAt (unravel view.dims k) < reach view.shape view.strides := by
  unfold elementAt effectiveStrides
  cases hstrides : view.strides with
  | none =>
    rw [reach, offset_contiguousStrides hk]
    exact hk
  | some strides =>
    have hle := @offset_le view.dims k (strides.map Int.toNat) hk
    rw [dims, List.zip_map, List.map_map] at hle
    rw [reach]
    exact Nat.lt_succ_of_le hle

theorem length_item (hk : k < view.numel) : (view.item (unravel view.dims k)).length = dtypeSize view.dtype := by
  obtain ⟨-, required, hrequired, hfits⟩ := checkStorage_ok view.stored
  rw [requiredBytes_ok (Nat.ne_of_gt (Nat.zero_lt_of_lt hk)) hrequired] at hfits
  have hle : (view.elementAt (unravel view.dims k) + 1) * dtypeSize view.dtype ≤
      reach view.shape view.strides * dtypeSize view.dtype := Nat.mul_le_mul_right _ (view.elementAt_lt hk)
  rw [Nat.succ_mul] at hle
  rw [item, List.length_take, List.length_drop, List.length_drop]
  omega

theorem length_content : view.content.length = view.nbytes := by
  have hpieces : ∀ piece ∈ (List.range view.numel).map (fun k => view.item (unravel view.dims k)),
      piece.length = dtypeSize view.dtype := by
    intro piece hpiece
    obtain ⟨k, hk, rfl⟩ := List.mem_map.1 hpiece
    exact view.length_item (List.mem_range.1 hk)
  rw [content, List.flatMap_def, length_flatten_of_pieces hpieces, List.length_map, List.length_range, nbytes,
    Nat.mul_comm]

/-- The tensor a view stands for. -/
def tensor : Tensor where
  dtype := view.dtype
  shape := view.shape
  data := view.content
  sized := by
    obtain ⟨nbytes, hbytes⟩ := view.readable
    rw [hbytes, view.length_content, checkedNbytes_ok hbytes]
    rfl

theorem toContiguousBytes_eq : view.toContiguousBytes = view.content := by
  unfold toContiguousBytes
  split
  · rename_i hcontiguous
    rw [nbytes, take_flatMap]
    refine List.flatMap_congr (fun k hk => ?_)
    rw [List.mem_range] at hk
    have hoffset : view.elementAt (unravel view.dims k) = k := by
      unfold elementAt effectiveStrides
      unfold isContiguous at hcontiguous
      cases hstrides : view.strides with
      | none => exact offset_contiguousStrides hk
      | some strides =>
        rw [hstrides] at hcontiguous
        exact offset_contiguous (by rw [List.length_map, view.rank hstrides, dims, List.length_map]) hcontiguous hk
    rw [item, hoffset]
  · rw [← unravel_zero, gatherInto_unravel view (by omega), ← List.range_eq_range']
    rfl

end TensorView

end Rlmesh.Spaces
