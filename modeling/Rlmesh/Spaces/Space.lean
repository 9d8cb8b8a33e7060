import Rlmesh.Lib.SortedMap
/-!
# Spaces and their values (`rlmesh-spaces`)

A `SpaceSpec` declares which values an env takes and returns; `validateSpace`
says which specs are well formed and `conform` how far a value is from its
space. A tensor is its dtype, shape and contiguous element bytes: strides and
storage offsets are gone, as they are from the source's own tensor equality.

The bounds of a Box leaf are any type `B`; all that is asked of it is what
`validate_box_at` and `conform_box` ask of bounds.
-/
open Rlmesh.Lib

namespace Rlmesh.Spaces

/-! ## Element types -/

inductive DType where
  | unspecified
  | bool
  | uint8
  | uint16
  | uint32
  | uint64
  | int8
  | int16
  | int32
  | int64
  | float16
  | float32
  | float64
  deriving DecidableEq, Repr

namespace DType

/-- The canonical lowercase dtype name. -/
def name : DType → String
  | unspecified => "unspecified"
  | bool => "bool"
  | uint8 => "uint8"
  | uint16 => "uint16"
  | uint32 => "uint32"
  | uint64 => "uint64"
  | int8 => "int8"
  | int16 => "int16"
  | int32 => "int32"
  | int64 => "int64"
  | float16 => "float16"
  | float32 => "float32"
  | float64 => "float64"

/-- The `Debug` form: the variant's own name. -/
def debug : DType → String
  | unspecified => "Unspecified"
  | bool => "Bool"
  | uint8 => "Uint8"
  | uint16 => "Uint16"
  | uint32 => "Uint32"
  | uint64 => "Uint64"
  | int8 => "Int8"
  | int16 => "Int16"
  | int32 => "Int32"
  | int64 => "Int64"
  | float16 => "Float16"
  | float32 => "Float32"
  | float64 => "Float64"

/-- Whether this is an integer dtype; `bool` and the float dtypes are not. -/
def isInteger : DType → Bool
  | uint8 | uint16 | uint32 | uint64 | int8 | int16 | int32 | int64 => true
  | _ => false

end DType

/-- The byte size of a dtype. -/
def dtypeSize : DType → Nat
  | .unspecified => 0
  | .bool | .uint8 | .int8 => 1
  | .float16 | .int16 | .uint16 => 2
  | .int32 | .uint32 | .float32 => 4
  | .int64 | .uint64 | .float64 => 8

/-- The integers a dtype holds exactly, within `i64`; float dtypes have no such range. -/
def signedDtypeRange : DType → Option (Int × Int)
  | .bool => some (0, 1)
  | .uint8 => some (0, 255)
  | .int8 => some (-128, 127)
  | .int16 => some (-32768, 32767)
  | .uint16 => some (0, 65535)
  | .int32 => some (-2147483648, 2147483647)
  | .uint32 => some (0, 4294967295)
  | .int64 => some (-9223372036854775808, 9223372036854775807)
  | .uint64 => some (0, 9223372036854775807)
  | _ => none

/-- `check_int_in_dtype_range`, with the text of its error. -/
def checkIntInDtypeRange (value : Int) (dtype : DType) : Except String Unit :=
  if dtype = .unspecified then .error "cannot encode or decode scalars with unspecified dtype"
  else match signedDtypeRange dtype with
    | some (lo, hi) =>
      if lo ≤ value ∧ value ≤ hi then .ok ()
      else .error s!"value {value} is out of range for {dtype.debug}"
    | none => .ok ()

/-! ## Tensors -/

/-- `usize::checked_mul`. -/
def checkedMul (a b : Nat) : Option Nat := if a * b < 2 ^ 64 then some (a * b) else none

/-- The element count of a shape, if every dimension is one and the product fits `usize`. -/
def shapeNumel (shape : List Int) : Option Nat :=
  shape.foldlM (fun acc dim => if dim < 0 then none else checkedMul acc dim.toNat) 1

inductive TensorError where
  | unspecifiedDtype
  | negativeDim (dim : Int)
  | negativeStride (stride : Int)
  | strideRankMismatch (strides shape : Nat)
  | byteLengthMismatch (expected actual : Nat)
  | outOfBounds (required byteOffset available : Nat)
  | numelMismatch (source target : Nat)
  | ambiguousReshape
  | emptyStack
  | stackMismatch (index : Nat)
  | unstackScalar
  | overflow
  deriving DecidableEq

def TensorError.message : TensorError → String
  | unspecifiedDtype => "tensor dtype must be specified"
  | negativeDim dim => s!"negative dimension {dim} in shape"
  | negativeStride stride => s!"negative stride {stride}"
  | strideRankMismatch strides shape => s!"strides rank {strides} does not match shape rank {shape}"
  | byteLengthMismatch expected actual =>
    s!"data is {actual} bytes but shape and dtype require exactly {expected}"
  | outOfBounds required byteOffset available =>
    s!"view requires {required} bytes at byte offset {byteOffset} but storage holds {available}"
  | numelMismatch source target => s!"cannot reshape {source} elements into {target}"
  | ambiguousReshape => "reshape shape may contain at most one -1"
  | emptyStack => "stack requires at least one tensor"
  | stackMismatch index => s!"stack requires uniform dtype and shape; tensor {index} differs"
  | unstackScalar => "cannot unstack a 0-dimensional tensor"
  | overflow => "tensor size overflows usize"

def checkedNumel (shape : List Int) : Except TensorError Nat :=
  shape.foldlM (fun numel dim =>
    if dim < 0 then .error (.negativeDim dim)
    else match checkedMul numel dim.toNat with
      | some product => .ok product
      | none => .error .overflow) 1

def checkedNbytes (shape : List Int) (dtype : DType) : Except TensorError Nat :=
  if dtype = .unspecified then .error .unspecifiedDtype
  else match checkedNumel shape with
    | .error e => .error e
    | .ok numel =>
      match checkedMul numel (dtypeSize dtype) with
      | some nbytes => .ok nbytes
      | none => .error .overflow

/-- A tensor holds exactly the bytes its shape and dtype require. -/
structure Tensor where
  dtype : DType
  shape : List Int
  data : List UInt8
  sized : checkedNbytes shape dtype = .ok data.length
  deriving DecidableEq

/-- A C-contiguous tensor over a copy of `data`. -/
def Tensor.fromSlice (data : List UInt8) (shape : List Int) (dtype : DType) : Except TensorError Tensor :=
  match h : checkedNbytes shape dtype with
  | .error e => .error e
  | .ok expected =>
    if hlen : data.length = expected then .ok { dtype, shape, data, sized := by rw [h, hlen] }
    else .error (.byteLengthMismatch expected data.length)

def Tensor.numel (tensor : Tensor) : Nat := (shapeNumel tensor.shape).getD 0

theorem shapeNumel_of_checkedNumel {shape : List Int} {numel : Nat} (h : checkedNumel shape = .ok numel) :
    shapeNumel shape = some numel := by
  unfold checkedNumel at h
  unfold shapeNumel
  generalize (1 : Nat) = acc at h ⊢
  induction shape generalizing acc with
  | nil => simpa [pure, Except.pure] using h
  | cons dim rest ih =>
    rw [List.foldlM_cons] at h ⊢
    by_cases hdim : dim < 0
    · simp [hdim, bind, Except.bind] at h
    · rw [if_neg hdim] at h ⊢
      cases hmul : checkedMul acc dim.toNat with
      | none => simp [hmul, bind, Except.bind] at h
      | some product =>
        rw [hmul] at h
        exact ih product h

theorem Tensor.fromSlice_self (tensor : Tensor) :
    Tensor.fromSlice tensor.data tensor.shape tensor.dtype = .ok tensor := by
  unfold fromSlice
  split
  · rename_i e h
    rw [tensor.sized] at h
    cases h
  · rename_i expected h
    have hlen : tensor.data.length = expected := by
      rw [tensor.sized] at h
      exact Except.ok.inj h
    rw [dif_pos hlen]

theorem Tensor.fromSlice_ok {data : List UInt8} {shape : List Int} {dtype : DType} {tensor : Tensor}
    (h : Tensor.fromSlice data shape dtype = .ok tensor) :
    tensor.data = data ∧ tensor.shape = shape ∧ tensor.dtype = dtype := by
  unfold fromSlice at h
  split at h
  · cases h
  · split at h
    · cases h
      exact ⟨rfl, rfl, rfl⟩
    · cases h

/-! ## Specs and values -/

inductive SpaceSpec (B : Type) where
  | box (shape : List Int) (dtype : DType) (bounds : B)
  | discrete (shape : List Int) (dtype : DType) (n start : Int)
  | multiBinary (shape : List Int) (dtype : DType)
  | multiDiscrete (shape : List Int) (dtype : DType) (nvec : List Int)
  | text (shape : List Int) (dtype : DType) (minLength maxLength : Int) (charset : String)
  | dict (shape : List Int) (dtype : DType) (keys : List String) (spaces : List (SpaceSpec B))
  | tuple (shape : List Int) (dtype : DType) (spaces : List (SpaceSpec B))
  | unspecified (shape : List Int) (dtype : DType)

/-- `SpaceType`, in its `Debug` form. -/
def SpaceSpec.spaceType {B : Type} : SpaceSpec B → String
  | .box .. => "Box"
  | .discrete .. => "Discrete"
  | .multiBinary .. => "MultiBinary"
  | .multiDiscrete .. => "MultiDiscrete"
  | .text .. => "Text"
  | .dict .. => "Dict"
  | .tuple .. => "Tuple"
  | .unspecified .. => "Unspecified"

/-- Runtime value carried by a space; the entries of a Dict value are those of a `BTreeMap`. -/
inductive SpaceValue where
  | box (tensor : Tensor)
  | discrete (index : Int)
  | multiBinary (flags : List Bool)
  | multiDiscrete (values : List Int)
  | text (value : String)
  | dict (entries : List (String × SpaceValue))
  | tuple (items : List SpaceValue)

mutual
def SpaceValue.decEq : (a b : SpaceValue) → Decidable (a = b)
  | .box a, .box b => decidable_of_iff (a = b) (by rw [SpaceValue.box.injEq])
  | .discrete a, .discrete b => decidable_of_iff (a = b) (by rw [SpaceValue.discrete.injEq])
  | .multiBinary a, .multiBinary b => decidable_of_iff (a = b) (by rw [SpaceValue.multiBinary.injEq])
  | .multiDiscrete a, .multiDiscrete b => decidable_of_iff (a = b) (by rw [SpaceValue.multiDiscrete.injEq])
  | .text a, .text b => decidable_of_iff (a = b) (by rw [SpaceValue.text.injEq])
  | .dict a, .dict b => @decidable_of_iff _ (a = b) (by rw [SpaceValue.dict.injEq]) (decEqEntries a b)
  | .tuple a, .tuple b => @decidable_of_iff _ (a = b) (by rw [SpaceValue.tuple.injEq]) (decEqItems a b)
  | .box _, .discrete _ | .box _, .multiBinary _ | .box _, .multiDiscrete _
  | .box _, .text _ | .box _, .dict _ | .box _, .tuple _ => isFalse nofun
  | .discrete _, .box _ | .discrete _, .multiBinary _ | .discrete _, .multiDiscrete _
  | .discrete _, .text _ | .discrete _, .dict _ | .discrete _, .tuple _ => isFalse nofun
  | .multiBinary _, .box _ | .multiBinary _, .discrete _ | .multiBinary _, .multiDiscrete _
  | .multiBinary _, .text _ | .multiBinary _, .dict _ | .multiBinary _, .tuple _ => isFalse nofun
  | .multiDiscrete _, .box _ | .multiDiscrete _, .discrete _ | .multiDiscrete _, .multiBinary _
  | .multiDiscrete _, .text _ | .multiDiscrete _, .dict _ | .multiDiscrete _, .tuple _ => isFalse nofun
  | .text _, .box _ | .text _, .discrete _ | .text _, .multiBinary _
  | .text _, .multiDiscrete _ | .text _, .dict _ | .text _, .tuple _ => isFalse nofun
  | .dict _, .box _ | .dict _, .discrete _ | .dict _, .multiBinary _
  | .dict _, .multiDiscrete _ | .dict _, .text _ | .dict _, .tuple _ => isFalse nofun
  | .tuple _, .box _ | .tuple _, .discrete _ | .tuple _, .multiBinary _
  | .tuple _, .multiDiscrete _ | .tuple _, .text _ | .tuple _, .dict _ => isFalse nofun

def decEqEntries : (a b : List (String × SpaceValue)) → Decidable (a = b)
  | [], [] => isTrue rfl
  | (key, value) :: a, (key', value') :: b =>
    @decidable_of_iff _ (key = key' ∧ value = value' ∧ a = b) (by simp [and_assoc])
      (@instDecidableAnd _ _ _ (@instDecidableAnd _ _ (value.decEq value') (decEqEntries a b)))
  | [], _ :: _ => isFalse nofun
  | _ :: _, [] => isFalse nofun

def decEqItems : (a b : List SpaceValue) → Decidable (a = b)
  | [], [] => isTrue rfl
  | value :: a, value' :: b =>
    @decidable_of_iff _ (value = value' ∧ a = b) (by simp)
      (@instDecidableAnd _ _ (value.decEq value') (decEqItems a b))
  | [], _ :: _ => isFalse nofun
  | _ :: _, [] => isFalse nofun
end

instance : DecidableEq SpaceValue := SpaceValue.decEq

mutual
/-- The entries of every Dict inside come in key order. -/
def SpaceValue.Ordered : SpaceValue → Prop
  | .dict entries => Ascending entries ∧ orderedEntries entries
  | .tuple items => orderedItems items
  | _ => True

def orderedEntries : List (String × SpaceValue) → Prop
  | [] => True
  | (_, value) :: rest => value.Ordered ∧ orderedEntries rest

def orderedItems : List SpaceValue → Prop
  | [] => True
  | value :: rest => value.Ordered ∧ orderedItems rest
end

theorem orderedEntries_iff {entries : List (String × SpaceValue)} :
    orderedEntries entries ↔ ∀ entry ∈ entries, entry.2.Ordered := by
  induction entries with
  | nil => simp [orderedEntries]
  | cons entry rest ih => simp [orderedEntries, ih]

theorem orderedItems_iff {items : List SpaceValue} :
    orderedItems items ↔ ∀ item ∈ items, item.Ordered := by
  induction items with
  | nil => simp [orderedItems]
  | cons item rest ih => simp [orderedItems, ih]

structure SpaceError where
  path : String
  msg : String
  deriving DecidableEq, Repr

def SpaceError.toString (e : SpaceError) : String := s!"{e.path}: {e.msg}"

/-- `err_space!` with the name of the space. -/
def errSpace (path name msg : String) : SpaceError := { path, msg := s!"[{name}] {msg}" }

/-- The first deviation a scan of a Box value found. -/
inductive Finding where
  | nan (index : Nat)
  | below (index : Nat)
  | above (index : Nat)
  deriving DecidableEq, Repr

/-- What is asked of the bounds of a Box leaf. -/
class BoxBounds (B : Type) where
  /-- The bounds are well formed for this dtype and element count (`validate_box_at`). -/
  validate : B → DType → Nat → String → Except SpaceError Unit
  /-- The first deviation of the element bytes (`conform_box`); an error if the bounds do not fit the space. -/
  scan : B → DType → Nat → List UInt8 → Except String (Option Finding)

/-! ## Well-formed specs -/

section Validate

variable {B : Type} [BoxBounds B]

def validateBoxAt (shape : List Int) (dtype : DType) (bounds : B) (path : String) : Except SpaceError Unit :=
  if shape.isEmpty then .error (errSpace path "Box" "shape must be set (rank >= 1)")
  else if dtype = .unspecified then .error (errSpace path "Box" "dtype must be set")
  else match shape.findIdx? (· ≤ 0) with
    | some i => .error (errSpace path "Box" s!"shape[{i}] must be > 0")
    | none =>
      match shapeNumel shape with
      | none => .error { path, msg := "Box.shape product overflowed" }
      | some numel => BoxBounds.validate bounds dtype numel path

def validateDiscreteAt (shape : List Int) (dtype : DType) (n start : Int) (path : String) : Except SpaceError Unit :=
  if !shape.isEmpty then .error (errSpace path "Discrete" "shape must be empty")
  else if dtype = .unspecified then .error (errSpace path "Discrete" "dtype must be set")
  else if ¬ (dtype = .int64 ∨ dtype = .int32 ∨ dtype = .uint8) then
    .error (errSpace path "Discrete" s!"Discrete.dtype must be an integer type; got {dtype.debug}")
  else if n ≤ 0 then .error (errSpace path "Discrete" "n must be > 0")
  else if start + (n - 1) > 9223372036854775807 then
    .error { path, msg := "[Discrete] start + (n-1) overflowed i64" }
  else match [start, start + (n - 1)].find? (fun bound => !(checkIntInDtypeRange bound dtype).toBool) with
    | some bound => .error (errSpace path "Discrete" s!"value {bound} does not fit dtype {dtype.name}")
    | none => .ok ()

def validateMultibinaryAt (shape : List Int) (dtype : DType) (path : String) : Except SpaceError Unit :=
  if shape.isEmpty then .error (errSpace path "MultiBinary" "shape must be set (rank >= 1)")
  else if dtype = .unspecified then .error (errSpace path "MultiBinary" "dtype must be set")
  else if dtypeSize dtype ≠ 1 then
    .error (errSpace path "MultiBinary" s!"dtype must be a single-byte type (bool/uint8/int8), got {dtype.name}")
  else match shape.findIdx? (· ≤ 0) with
    | some i => .error (errSpace path "MultiBinary" s!"shape[{i}] must be > 0")
    | none => .ok ()

/-- The element count of a MultiDiscrete shape from dimension `i` on, in `i64`. -/
def multidiscreteNumel (path : String) (i : Nat) (numel : Int) : List Int → Except SpaceError Int
  | [] => .ok numel
  | d :: rest =>
    if d ≤ 0 then .error (errSpace path "MultiDiscrete" s!"MultiDiscrete.shape[{i}] must be > 0")
    else if numel * d > 9223372036854775807 then .error { path, msg := "MultiDiscrete.shape product overflowed" }
    else multidiscreteNumel path (i + 1) (numel * d) rest

/-- The category counts from element `i` on: positive, and the largest index fits the dtype. -/
def validateNvec (path : String) (dtype : DType) (i : Nat) : List Int → Except SpaceError Unit
  | [] => .ok ()
  | n :: rest =>
    if n ≤ 0 then .error (errSpace path "MultiDiscrete" s!"nvec[{i}] must be > 0")
    else match checkIntInDtypeRange (n - 1) dtype with
      | .error _ =>
        .error (errSpace path "MultiDiscrete" s!"nvec[{i}] - 1 = {n - 1} does not fit dtype {dtype.name}")
      | .ok () => validateNvec path dtype (i + 1) rest

def validateMultidiscreteAt (shape : List Int) (dtype : DType) (nvec : List Int) (path : String) :
    Except SpaceError Unit :=
  if shape.isEmpty then .error (errSpace path "MultiDiscrete" "shape must be set (rank >= 1)")
  else if dtype = .unspecified then .error (errSpace path "MultiDiscrete" "dtype must be set")
  else if !dtype.isInteger then
    .error (errSpace path "MultiDiscrete" s!"dtype must be an integer type, got {dtype.name}")
  else match multidiscreteNumel path 0 1 shape with
    | .error e => .error e
    | .ok numel =>
      if nvec.isEmpty then .error (errSpace path "MultiDiscrete" "nvec must be non-empty")
      else match validateNvec path dtype 0 nvec with
        | .error e => .error e
        | .ok () =>
          if (nvec.length : Int) ≠ numel then
            .error (errSpace path "MultiDiscrete" "shape mismatch: expected len(nvec) == numel(shape)")
          else .ok ()

def validateTextAt (shape : List Int) (dtype : DType) (minLength maxLength : Int) (path : String) :
    Except SpaceError Unit :=
  if !shape.isEmpty then .error (errSpace path "Text" "shape must be empty")
  else if dtype ≠ .uint8 then .error (errSpace path "Text" "dtype must be uint8")
  else if minLength < 0 then .error (errSpace path "Text" "min_length must be >= 0")
  else if maxLength < 0 then .error (errSpace path "Text" "max_length must be >= 0")
  else if minLength > maxLength then .error (errSpace path "Text" "min_length must be <= max_length")
  else .ok ()

/-- A composite carries no shape and no dtype of its own. -/
def validateCompositeAt (name : String) (shape : List Int) (dtype : DType) (path : String) :
    Except SpaceError Unit :=
  if !shape.isEmpty then .error (errSpace path name "shape must be empty")
  else if dtype ≠ .unspecified then .error (errSpace path name "dtype must be 'UNSPECIFIED'")
  else .ok ()

mutual
/-- Validate a space spec and its children. -/
def validateSpaceAt (path : String) : SpaceSpec B → Except SpaceError Unit
  | .box shape dtype bounds => validateBoxAt shape dtype bounds path
  | .discrete shape dtype n start => validateDiscreteAt shape dtype n start path
  | .multiBinary shape dtype => validateMultibinaryAt shape dtype path
  | .multiDiscrete shape dtype nvec => validateMultidiscreteAt shape dtype nvec path
  | .text shape dtype minLength maxLength _ => validateTextAt shape dtype minLength maxLength path
  | .dict shape dtype keys spaces =>
    match validateCompositeAt "Dict" shape dtype path with
    | .error e => .error e
    | .ok () =>
      if keys.length ≠ spaces.length then .error (errSpace path "Dict" "keys/spaces length mismatch")
      else validateFields path [] keys spaces
  | .tuple shape dtype spaces =>
    match validateCompositeAt "Tuple" shape dtype path with
    | .error e => .error e
    | .ok () => validateItems path 0 spaces
  | .unspecified .. => .error { path, msg := "spec must be set" }

/-- The fields of a Dict still to visit; `seen` are the keys before them. -/
def validateFields (path : String) (seen : List String) : List String → List (SpaceSpec B) → Except SpaceError Unit
  | key :: keys, child :: spaces =>
    if key.isEmpty then .error (errSpace path "Dict" "keys must be non-empty")
    else if key ∈ seen then .error (errSpace path "Dict" s!"keys must be unique; duplicate: {key}")
    else match validateSpaceAt s!"{path}.{key}" child with
      | .error e => .error e
      | .ok () => validateFields path (key :: seen) keys spaces
  | _, _ => .ok ()

/-- The items of a Tuple from item `i` on. -/
def validateItems (path : String) (i : Nat) : List (SpaceSpec B) → Except SpaceError Unit
  | [] => .ok ()
  | child :: rest =>
    match validateSpaceAt s!"{path}[{i}]" child with
    | .error e => .error e
    | .ok () => validateItems path (i + 1) rest
end

def validateSpace (spec : SpaceSpec B) : Except SpaceError Unit := validateSpaceAt "$" spec

end Validate

/-! ## Conformance -/

/-- Classified outcome of checking a value against a space: structural deviations are
always rejected, range deviations are the serving policy's. -/
inductive Conformance where
  | ok
  | structural (error : SpaceError)
  | range (error : SpaceError)
  deriving DecidableEq

/-- The first range deviation, unless one is already known. -/
def keepFirst (range : Option SpaceError) : Conformance → Option SpaceError
  | .range e => range <|> some e
  | _ => range

/-- The verdict on a composite none of whose children deviates structurally. -/
def composite : Option SpaceError → Conformance
  | some e => .range e
  | none => .ok

section Conform

variable {B : Type} [BoxBounds B]

/-- The tensor's element bytes are a whole number of elements, so the scan
always reads them all. -/
def conformBox (shape : List Int) (dtype : DType) (bounds : B) (path : String) : SpaceValue → Conformance
  | .box tensor =>
    if tensor.shape ≠ shape then
      .structural { path, msg := s!"shape mismatch: expected {shape}, got {tensor.shape}" }
    else if tensor.dtype ≠ dtype then
      .structural { path, msg := s!"dtype mismatch: expected {dtype.debug}, got {tensor.dtype.debug}" }
    else if dtype = .unspecified then .structural { path, msg := "Box value dtype is unspecified" }
    else match BoxBounds.scan bounds dtype tensor.numel tensor.data with
      | .error msg => .structural { path, msg }
      | .ok none => .ok
      | .ok (some (.nan index)) => .structural { path, msg := s!"Box value at element {index} is NaN" }
      | .ok (some (.below index)) =>
        .range { path, msg := s!"Box value at element {index} out of bounds: below low bound" }
      | .ok (some (.above index)) =>
        .range { path, msg := s!"Box value at element {index} out of bounds: above high bound" }
  | _ => .structural { path, msg := "expected Box value" }

def containsDiscrete (n start : Int) (path : String) : SpaceValue → Conformance
  | .discrete val =>
    if start ≤ val ∧ val - start < n then .ok
    else .structural {
      path
      msg := if start + n ≤ 9223372036854775807 then s!"value {val} not in range [{start}, {start + n})"
        else s!"value {val} not in range [{start}, i64::MAX+1)" }
  | _ => .structural { path, msg := "expected Discrete value" }

def containsMultibinary (shape : List Int) (path : String) : SpaceValue → Conformance
  | .multiBinary vals =>
    match shapeNumel shape with
    | none => .structural { path, msg := "MultiBinary shape has an invalid or too-large dimension" }
    | some expected =>
      if vals.length ≠ expected then
        .structural { path, msg := s!"MultiBinary size mismatch: expected {expected}, got {vals.length}" }
      else .ok
  | _ => .structural { path, msg := "expected MultiBinary value" }

/-- The first element, from element `i` on, that names no category. -/
def badCategory (i : Nat) : List Int → List Int → Option String
  | val :: vals, n :: nvec =>
    if val < 0 ∨ n ≤ val then some s!"value[{i}] = {val} not in range [0, {n})"
    else badCategory (i + 1) vals nvec
  | _, _ => none

def containsMultidiscrete (nvec : List Int) (path : String) : SpaceValue → Conformance
  | .multiDiscrete vals =>
    if vals.length ≠ nvec.length then
      .structural { path, msg := s!"MultiDiscrete size mismatch: expected {nvec.length}, got {vals.length}" }
    else match badCategory 0 vals nvec with
      | some msg => .structural { path, msg }
      | none => .ok
  | _ => .structural { path, msg := "expected MultiDiscrete value" }

def conformText (minLength maxLength : Int) (charset path : String) : SpaceValue → Conformance
  | .text value =>
    if (value.length : Int) < minLength then
      .range { path, msg := s!"text length {value.length} below minimum {minLength}" }
    else if (value.length : Int) > maxLength then
      .range { path, msg := s!"text length {value.length} exceeds maximum {maxLength}" }
    else if charset.isEmpty then .ok
    else match value.toList.find? (fun c => !charset.toList.contains c) with
      | some c => .range { path, msg := s!"character '{c}' not in charset" }
      | none => .ok
  | _ => .structural { path, msg := "expected Text value" }

mutual
/-- Classify a value against a space, in one traversal. -/
def conformAt (path : String) : SpaceSpec B → SpaceValue → Conformance
  | .box shape dtype bounds, value => conformBox shape dtype bounds path value
  | .discrete _ _ n start, value => containsDiscrete n start path value
  | .multiBinary shape _, value => containsMultibinary shape path value
  | .multiDiscrete _ _ nvec, value => containsMultidiscrete nvec path value
  | .text _ _ minLength maxLength charset, value => conformText minLength maxLength charset path value
  | .dict _ _ keys spaces, .dict entries =>
    match conformFields path entries none keys spaces with
    | .error e => .structural e
    | .ok range =>
      match entries.find? (fun entry => !keys.contains entry.1) with
      | some entry => .structural { path, msg := s!"unexpected key '{entry.1}'" }
      | none => composite range
  | .dict .., _ => .structural { path, msg := "expected Dict value" }
  | .tuple _ _ spaces, .tuple items =>
    if items.length ≠ spaces.length then
      .structural { path, msg := s!"tuple length mismatch: expected {spaces.length}, got {items.length}" }
    else match conformItems path 0 none spaces items with
      | .error e => .structural e
      | .ok range => composite range
  | .tuple .., _ => .structural { path, msg := "expected Tuple value" }
  | .unspecified .., _ => .structural { path, msg := "space type not specified" }

/-- The declared keys still to visit: the first structural deviation, or the
first range deviation so far. -/
def conformFields (path : String) (entries : List (String × SpaceValue)) (range : Option SpaceError) :
    List String → List (SpaceSpec B) → Except SpaceError (Option SpaceError)
  | key :: keys, child :: spaces =>
    match entries.lookup key with
    | none => .error { path, msg := s!"missing key '{key}'" }
    | some value =>
      match conformAt s!"{path}.{key}" child value with
      | .structural e => .error e
      | verdict => conformFields path entries (keepFirst range verdict) keys spaces
  | _, _ => .ok range

def conformItems (path : String) (i : Nat) (range : Option SpaceError) :
    List (SpaceSpec B) → List SpaceValue → Except SpaceError (Option SpaceError)
  | child :: spaces, value :: items =>
    match conformAt s!"{path}[{i}]" child value with
    | .structural e => .error e
    | verdict => conformItems path (i + 1) (keepFirst range verdict) spaces items
  | _, _ => .ok range
end

def conform (spec : SpaceSpec B) (value : SpaceValue) : Conformance := conformAt "$" spec value

end Conform

/-- The serving side's policy for range deviations. -/
inductive ValidationPolicy where
  | warn
  | strict
  | off
  deriving DecidableEq, Repr

inductive PolicyOutcome where
  | accept
  | warn (error : SpaceError)
  | reject (error : SpaceError)

def ValidationPolicy.evaluate (policy : ValidationPolicy) : Conformance → PolicyOutcome
  | .ok => .accept
  | .structural e => .reject e
  | .range e =>
    match policy with
    | .warn => .warn e
    | .strict => .reject e
    | .off => .accept

def ValidationPolicy.check {B : Type} [BoxBounds B] (policy : ValidationPolicy) (space : SpaceSpec B)
    (value : SpaceValue) : PolicyOutcome := policy.evaluate (conform space value)

end Rlmesh.Spaces
