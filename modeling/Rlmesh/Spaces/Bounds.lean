import Rlmesh.Lib.Bytes
import Rlmesh.Lib.Doubles
import Rlmesh.Spaces.Space
/-!
# Box bounds (`fundamental/box_space/{space,value}.rs`, `scalar.rs`)

The five forms a Box leaf's bounds come in, when they are well formed, and how
the elements of a value are scanned against them. The blocks a scan works in are
left out, as is the text of a fraction in an error.

For an integer or bool dtype a form of bounds comes down to one pair of integer
thresholds per element, and a value is in bounds exactly when every element
lies between its thresholds.
-/
open Rlmesh.Lib

namespace Rlmesh.Spaces

/-- Bounds as declared. The typed forms carry little-endian scalars of the space's dtype. -/
inductive Bounds where
  | unbounded (flag : Bool)
  | uniform (low high : Double)
  | elementwise (low high : List Double)
  | typedUniform (low high : List UInt8)
  | typedElementwise (low high : List UInt8)

/-! ## Scalars -/

def DType.isFloat : DType → Bool
  | .float16 | .float32 | .float64 => true
  | _ => false

/-- A decoded element; a `uint64` is held as the `i64` of the same bits. -/
inductive Scalar where
  | bool (flag : Bool)
  | int (number : Int)
  | float (number : Double)

namespace Scalar

def asI64 : Scalar → Int
  | bool flag => if flag then 1 else 0
  | int number => number
  | float number => number.toInt (-2 ^ 63) (2 ^ 63 - 1)

def asU64 : Scalar → Int
  | bool flag => if flag then 1 else 0
  | int number => number % 2 ^ 64
  | float number => number.toInt 0 (2 ^ 64 - 1)

def isNan : Scalar → Bool
  | float number => number.isNan
  | _ => false

end Scalar

/-- An integral scalar's value in its dtype's domain. -/
def intScalar (value : Scalar) (dtype : DType) : Int := if dtype = .uint64 then value.asU64 else value.asI64

/-- The exact number a scalar stands for. -/
def Scalar.number (value : Scalar) (dtype : DType) : Double :=
  match value with
  | .float number => number
  | other => .finite (intScalar other dtype)

/-- The elements of a float dtype, as doubles. -/
def readFloat (dtype : DType) (chunk : List UInt8) : Double :=
  match dtype with
  | .float16 => .ofBits 5 10 (ofLeBytes chunk)
  | .float32 => .ofBits 8 23 (ofLeBytes chunk)
  | _ => .ofBits 11 52 (ofLeBytes chunk)

def decodeScalar (chunk : List UInt8) (dtype : DType) : Scalar :=
  match dtype with
  | .bool => .bool (chunk != [0])
  | .uint8 | .uint16 | .uint32 => .int (uintOfLeBytes chunk)
  | .float16 | .float32 | .float64 => .float (readFloat dtype chunk)
  | _ => .int (sintOfLeBytes chunk)

/-- The element bytes, one by one. -/
def elements (dtype : DType) (bytes : List UInt8) : List (List UInt8) :=
  chunks (dtypeSize dtype) (bytes.length / dtypeSize dtype) bytes

/-- `decode_scalars`, with the text of its error. -/
def decodeScalars (bytes : List UInt8) (dtype : DType) : Except String (List Scalar) :=
  if dtype = .unspecified then .error "cannot encode or decode scalars with unspecified dtype"
  else if bytes.length % dtypeSize dtype ≠ 0 then
    .error s!"byte length {bytes.length} is not a multiple of element size {dtypeSize dtype} for {dtype.debug}"
  else .ok ((elements dtype bytes).map (decodeScalar · dtype))

/-- `low > high` in the dtype's native domain; a float and an integer compare exactly. -/
def scalarGt (low high : Scalar) (dtype : DType) : Bool := (low.number dtype).gt (high.number dtype)

/-! ## Well-formed bounds -/

inductive BoundSide where
  | low
  | high

def BoundSide.label : BoundSide → String
  | low => "low"
  | high => "high"

/-- Least value, and one past the greatest, of an integer dtype. -/
def intDtypeBounds : DType → Int × Int
  | .uint8 => (0, 2 ^ 8)
  | .uint16 => (0, 2 ^ 16)
  | .uint32 => (0, 2 ^ 32)
  | .uint64 => (0, 2 ^ 64)
  | .int8 => (-2 ^ 7, 2 ^ 7)
  | .int16 => (-2 ^ 15, 2 ^ 15)
  | .int32 => (-2 ^ 31, 2 ^ 31)
  | _ => (-2 ^ 63, 2 ^ 63)

/-- The saturating cast to the dtype would change which values the bound admits. -/
def changesAdmittedSet (dtype : DType) (value : Rat) : BoundSide → Bool
  | .low => decide (((intDtypeBounds dtype).2 : Rat) ≤ value)
  | .high => decide (value < (intDtypeBounds dtype).1)

/-- A float-form bound on an integer dtype is a finite whole number whose cast admits the same values. -/
def rejectNonIntegralIntBound (dtype : DType) (value : Double) (side : BoundSide) (path : String) :
    Except SpaceError Unit :=
  if !dtype.isInteger then .ok ()
  else
    let fractional : SpaceError :=
      errSpace path "Box" s!"integer-dtype bound {side.label}={value.text} must be a finite whole number"
    match value with
    | .finite number =>
      if number.den ≠ 1 then .error fractional
      else if changesAdmittedSet dtype number side then
        .error (errSpace path "Box"
          s!"integer-dtype bound {side.label}={value.text} is not representable in {dtype.name} and would saturate to a different admitted set")
      else .ok ()
    | _ => .error fractional

/-- One pair of float-form bounds; `nan` and `inverted` are the texts of its first two checks. -/
def validatePair (dtype : DType) (low high : Double) (nan inverted path : String) : Except SpaceError Unit := do
  if low.isNan || high.isNan then .error (errSpace path "Box" nan)
  if low.gt high then .error (errSpace path "Box" inverted)
  rejectNonIntegralIntBound dtype low .low path
  rejectNonIntegralIntBound dtype high .high path

/-- The pairs of elementwise bounds from element `i` on. -/
def validatePairs (dtype : DType) (path : String) (i : Nat) : List (Double × Double) → Except SpaceError Unit
  | [] => .ok ()
  | (low, high) :: rest => do
    validatePair dtype low high s!"tensor bounds invalid: NaN bound at element {i}"
      s!"tensor bounds invalid: low>high at element {i}" path
    validatePairs dtype path (i + 1) rest

/-- The pairs of typed bounds from element `i` on. -/
def validateScalars (dtype : DType) (path : String) (i : Nat) : List (Scalar × Scalar) → Except SpaceError Unit
  | [] => .ok ()
  | (low, high) :: rest =>
    if low.isNan || high.isNan then
      .error (errSpace path "Box" s!"typed bounds invalid: NaN bound at element {i}")
    else if scalarGt low high dtype then
      .error (errSpace path "Box" s!"typed bounds invalid: low>high at element {i}")
    else validateScalars dtype path (i + 1) rest

def decodeTyped (bytes : List UInt8) (dtype : DType) (path : String) : Except SpaceError (List Scalar) :=
  (decodeScalars bytes dtype).mapError (fun e => { path, msg := s!"cannot decode typed Box bounds: {e}" })

def validateTypedBounds (low high : List UInt8) (count : Nat) (dtype : DType) (path : String) :
    Except SpaceError Unit :=
  if dtype = .unspecified then .error (errSpace path "Box" "typed bounds require a concrete dtype")
  else match checkedMul count (dtypeSize dtype) with
    | none => .error { path, msg := "Box typed bounds length overflowed" }
    | some expected =>
      if low.length ≠ expected ∨ high.length ≠ expected then
        .error (errSpace path "Box"
          s!"typed bounds invalid: expected {expected} bytes each ({count} x {dtypeSize dtype}-byte {dtype.name}), got low={low.length}, high={high.length}")
      else do
        let lows ← decodeTyped low dtype path
        let highs ← decodeTyped high dtype path
        validateScalars dtype path 0 (lows.zip highs)

/-- The part of `validate_box_at` that is about the bounds. -/
def validateBounds (bounds : Option Bounds) (dtype : DType) (numel : Nat) (path : String) : Except SpaceError Unit :=
  match bounds with
  | none => .error (errSpace path "Box" "bounds must be set")
  | some (.unbounded _) => .ok ()
  | some (.uniform low high) =>
    validatePair dtype low high "scalar bounds invalid: NaN bound" "scalar bounds invalid: low > high" path
  | some (.elementwise low high) =>
    if low.length ≠ high.length then
      .error (errSpace path "Box" "tensor bounds invalid: low/high length mismatch")
    else if low.length ≠ numel then
      .error (errSpace path "Box" s!"tensor bounds invalid: expected length {numel}")
    else validatePairs dtype path 0 (low.zip high)
  | some (.typedUniform low high) => validateTypedBounds low high 1 dtype path
  | some (.typedElementwise low high) => validateTypedBounds low high numel dtype path

/-! ## Scans -/

/-- How one element lies to its thresholds. -/
def deviation {V : Type} (gt : V → V → Bool) (i : Nat) (bound : V × V) (v : V) : Option Finding :=
  if gt bound.1 v then some (.below i) else if gt v bound.2 then some (.above i) else none

/-- Elements against per-element thresholds: NaN first, then the first element out of bounds. -/
def scanAt {V : Type} (isNan : V → Bool) (gt : V → V → Bool) (boundAt : Nat → V × V) :
    Nat → Option Finding → List V → Option Finding
  | _, range, [] => range
  | i, range, v :: rest =>
    if isNan v then some (.nan i)
    else scanAt isNan gt boundAt (i + 1) (range <|> deviation gt i (boundAt i) v) rest

/-- An element of an integer or bool dtype. -/
def readInt (dtype : DType) (chunk : List UInt8) : Int :=
  match dtype with
  | .bool => if chunk = [0] then 0 else 1
  | .uint8 | .uint16 | .uint32 | .uint64 => uintOfLeBytes chunk
  | _ => sintOfLeBytes chunk

/-- An integer or bool dtype's full range. -/
def dtypeRange (dtype : DType) : Int × Int :=
  if dtype = .bool then (0, 1) else ((intDtypeBounds dtype).1, (intDtypeBounds dtype).2 - 1)

def intGt (a b : Int) : Bool := decide (b < a)

/-- The first deviation of integers from one pair of thresholds; bounds that cover
the dtype, or miss it, are decided without a scan. -/
def scanInt (values : List Int) (low high min max : Int) : Option Finding :=
  match values with
  | [] => none
  | first :: _ =>
    if low ≤ min ∧ max ≤ high then none
    else if max < low ∨ high < min then some (if first < low then .below 0 else .above 0)
    else scanAt (fun _ => false) intGt (fun _ => (Max.max low min, Min.min high max)) 0 none values

def i128Min : Int := -2 ^ 127
def i128Max : Int := 2 ^ 127 - 1

/-- An integer dtype's low threshold; absent or NaN imposes no bound. -/
def intLow (low : Option Scalar) (dtype : DType) : Int :=
  match low with
  | none => i128Min
  | some (.float number) => if number.isNan then i128Min else number.ceil.toInt i128Min i128Max
  | some other => intScalar other dtype

def intHigh (high : Option Scalar) (dtype : DType) : Int :=
  match high with
  | none => i128Max
  | some (.float number) => if number.isNan then i128Max else number.floor.toInt i128Min i128Max
  | some other => intScalar other dtype

def floatLow (low : Option Scalar) (dtype : DType) : Double := (low.map (·.number dtype)).getD .negInf
def floatHigh (high : Option Scalar) (dtype : DType) : Double := (high.map (·.number dtype)).getD .posInf

/-- An infinite double bound means unbounded on its side. -/
def finiteFloat (value : Double) : Option Scalar := if value.isFinite then some (.float value) else none

def scanUniform (data : List UInt8) (dtype : DType) (low high : Option Scalar) : Option Finding :=
  if dtype.isFloat then
    scanAt Double.isNan Double.gt (fun _ => (floatLow low dtype, floatHigh high dtype)) 0 none
      ((elements dtype data).map (readFloat dtype))
  else
    scanInt ((elements dtype data).map (readInt dtype)) (intLow low dtype) (intHigh high dtype)
      (dtypeRange dtype).1 (dtypeRange dtype).2

/-- Per-element double bounds, converted one by one as a uniform bound is. -/
def scanElementwise (data : List UInt8) (dtype : DType) (low high : List Double) : Option Finding :=
  if dtype.isFloat then
    scanAt Double.isNan Double.gt
      (fun i => (floatLow (low[i]?.bind finiteFloat) dtype, floatHigh (high[i]?.bind finiteFloat) dtype)) 0 none
      ((elements dtype data).map (readFloat dtype))
  else
    scanAt (fun _ => false) intGt
      (fun i => (intLow (low[i]?.bind finiteFloat) dtype, intHigh (high[i]?.bind finiteFloat) dtype)) 0 none
      ((elements dtype data).map (readInt dtype))

/-- Per-element typed bounds: they share the value's dtype, so every comparison is native. -/
def scanTypedElementwise (data : List UInt8) (dtype : DType) (low high : List UInt8) : Option Finding :=
  if dtype.isFloat then
    scanAt Double.isNan Double.gt
      (fun i => (readFloat dtype ((elements dtype low)[i]?.getD []), readFloat dtype ((elements dtype high)[i]?.getD [])))
      0 none ((elements dtype data).map (readFloat dtype))
  else
    scanAt (fun _ => false) intGt
      (fun i => (readInt dtype ((elements dtype low)[i]?.getD []), readInt dtype ((elements dtype high)[i]?.getD [])))
      0 none ((elements dtype data).map (readInt dtype))

/-- Typed bounds hold exactly `count` whole elements of the dtype. -/
def checkTypedBounds (bytes : List UInt8) (count : Nat) (dtype : DType) : Except String Unit :=
  if bytes.length % dtypeSize dtype ≠ 0 then
    .error s!"cannot decode typed Box bounds: byte length {bytes.length} is not a multiple of element size {dtypeSize dtype} for {dtype.debug}"
  else if bytes.length / dtypeSize dtype ≠ count then
    .error s!"Box typed bounds length mismatch: expected {count} elements, got {bytes.length / dtypeSize dtype}"
  else .ok ()

/-- Resolve the bounds for the dtype and scan the element bytes. -/
def scanBounds (bounds : Option Bounds) (dtype : DType) (numel : Nat) (data : List UInt8) :
    Except String (Option Finding) :=
  match bounds with
  | none => .ok (scanUniform data dtype none none)
  | some (.unbounded _) => .ok (scanUniform data dtype none none)
  | some (.uniform low high) => .ok (scanUniform data dtype (finiteFloat low) (finiteFloat high))
  | some (.elementwise low high) =>
    if low.length ≠ numel ∨ high.length ≠ numel then
      .error s!"Box elementwise bounds length mismatch: expected {numel} elements, got low={low.length}, high={high.length}"
    else .ok (scanElementwise data dtype low high)
  | some (.typedUniform low high) => do
    checkTypedBounds low 1 dtype
    checkTypedBounds high 1 dtype
    return scanUniform data dtype (some (decodeScalar low dtype)) (some (decodeScalar high dtype))
  | some (.typedElementwise low high) => do
    checkTypedBounds low numel dtype
    checkTypedBounds high numel dtype
    return scanTypedElementwise data dtype low high

instance : BoxBounds (Option Bounds) where
  validate := validateBounds
  scan := scanBounds

end Rlmesh.Spaces
