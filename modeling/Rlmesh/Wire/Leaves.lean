import Rlmesh.Lib.Bytes
import Rlmesh.Spaces.Members
import Rlmesh.Wire.Messages
/-!
# Values as wire bytes (`rlmesh-grpc/src/wire/value/leaves.rs`)

A value crosses the wire as one byte string per canonical leaf; a batch of
values as one slab per leaf, the lanes' bytes one after the other, Text with a
header of lengths. The number of lanes is an input of the decoder.

`validateSpace` refuses Discrete and MultiDiscrete leaves with a float dtype, so
their category codec stops at the integer dtypes and `bool`.
-/
open Rlmesh.Lib Rlmesh.Spaces

namespace Rlmesh.Wire

inductive ProtocolError where
  | encodeError (message : String)
  | decodeError (message : String)
  | outOfRange (message : String)
  | lengthMismatch (message : String)
  deriving DecidableEq

def ProtocolError.toString : ProtocolError → String
  | encodeError message => s!"encode error: {message}"
  | decodeError message => s!"decode error: {message}"
  | outOfRange message => s!"out of range: {message}"
  | lengthMismatch message => s!"length mismatch: {message}"

abbrev Bytes := List UInt8

variable {B : Type}

/-! ## Category indices -/

def rangeCheck (value : Int) (dtype : DType) : Except ProtocolError Unit :=
  match checkIntInDtypeRange value dtype with
  | .ok () => .ok ()
  | .error message => .error (.outOfRange message)

/-- One element, little-endian, at the dtype's width. -/
def encodeOne (dtype : DType) (value : Int) : Bytes :=
  match dtype with
  | .bool => [if value = 0 then 0 else 1]
  | _ => intToLeBytes (dtypeSize dtype) value

/-- One element; a `uint64` wraps into `i64`. -/
def decodeScalar (dtype : DType) (chunk : Bytes) : Int :=
  match dtype with
  | .bool => if chunk = [0] then 0 else 1
  | .uint8 | .uint16 | .uint32 => uintOfLeBytes chunk
  | _ => sintOfLeBytes chunk

def encodeIntSequence (values : List Int) (dtype : DType) : Except ProtocolError Bytes :=
  if dtype.isInteger || dtype = .bool then .ok (values.flatMap (encodeOne dtype))
  else .error (.encodeError s!"unsupported scalar encoding for dtype {dtype.debug}")

def decodeIntSequence (bytes : Bytes) (dtype : DType) : Except ProtocolError (List Int) :=
  if dtype = .unspecified then .error (.decodeError "cannot decode scalar bytes with unspecified dtype")
  else if !(dtype.isInteger || dtype = .bool) then
    .error (.decodeError s!"unsupported scalar decoding for dtype {dtype.debug}")
  else if bytes.length % dtypeSize dtype ≠ 0 then
    .error (.decodeError
      s!"byte length {bytes.length} is not a multiple of element size {dtypeSize dtype} for {dtype.debug}")
  else .ok ((chunks (dtypeSize dtype) (bytes.length / dtypeSize dtype) bytes).map (decodeScalar dtype))

/-! ## One leaf -/

def decodeUtf8 (bytes : Bytes) : Except ProtocolError String :=
  match String.fromUTF8? ⟨bytes.toArray⟩ with
  | some text => .ok text
  | none => .error (.decodeError "text payload is not valid UTF-8")

/-- The UTF-8 bytes of a text. -/
def textBytes (text : String) : Bytes := text.toByteArray.data.toList

/-- Element count of a fixed-stride leaf; Text and composites have none. -/
def numel (spec : SpaceSpec B) : Except ProtocolError Nat :=
  let count := match spec with
    | .box shape _ _ => shapeNumel shape
    | .multiBinary shape _ => shapeNumel shape
    | .discrete .. => some 1
    | .multiDiscrete _ _ nvec => some nvec.length
    | _ => none
  match count with
  | some count => .ok count
  | none => .error (.decodeError s!"no fixed numel for {spec.spaceType}")

/-- Bytes of one element of a fixed-stride leaf. -/
def perElem : SpaceSpec B → Nat
  | .box _ dtype _ => dtypeSize dtype
  | .discrete _ dtype _ _ => dtypeSize dtype
  | .multiBinary .. => 1
  | .multiDiscrete _ dtype _ => dtypeSize dtype
  | .text _ dtype _ _ _ => dtypeSize dtype
  | .dict _ dtype _ _ => dtypeSize dtype
  | .tuple _ dtype _ => dtypeSize dtype
  | .unspecified _ dtype => dtypeSize dtype

/-- Per-lane byte length of a fixed-stride leaf. -/
def leafStride (spec : SpaceSpec B) : Except ProtocolError Nat :=
  match numel spec with
  | .error e => .error e
  | .ok count =>
    match checkedMul count (perElem spec) with
    | some stride => .ok stride
    | none => .error (.decodeError "leaf stride overflow")

def exactLen (got want : Nat) (what : String) : Except ProtocolError Unit :=
  if got ≠ want then .error (.lengthMismatch s!"{what} leaf: got {got} bytes, expected {want}") else .ok ()

def encodeLeaf (spec : SpaceSpec B) (value : SpaceValue) : Except ProtocolError Bytes :=
  match spec, value with
  | .box shape dtype _, .box tensor =>
    if tensor.dtype ≠ dtype ∨ tensor.shape ≠ shape then
      .error (.encodeError
        s!"box leaf {tensor.dtype.debug}{tensor.shape} does not match spec {dtype.debug}{shape}")
    else .ok tensor.data
  | .discrete _ dtype _ _, .discrete index => do
    rangeCheck index dtype
    encodeIntSequence [index] dtype
  | .multiBinary .., .multiBinary flags => .ok (flags.map (fun flag => if flag then 1 else 0))
  | .multiDiscrete _ dtype _, .multiDiscrete values => do
    let _ ← values.mapM (rangeCheck · dtype)
    encodeIntSequence values dtype
  | .text .., .text value => .ok (textBytes value)
  | spec, _ => .error (.encodeError s!"value kind did not match leaf space {spec.spaceType}")

def decodeLeaf (bytes : Bytes) (spec : SpaceSpec B) : Except ProtocolError SpaceValue :=
  match spec with
  | .box shape dtype _ =>
    match Tensor.fromSlice bytes shape dtype with
    | .ok tensor => .ok (.box tensor)
    | .error e => .error (.decodeError s!"invalid box payload: {e.message}")
  | .discrete _ dtype _ _ => do
    exactLen bytes.length (dtypeSize dtype) "discrete"
    let values ← decodeIntSequence bytes dtype
    match values with
    | [] => .error (.lengthMismatch "empty discrete leaf")
    | value :: _ => do
      rangeCheck value dtype
      return .discrete value
  | .multiBinary .. => do
    let count ← numel spec
    exactLen bytes.length count "multibinary"
    return .multiBinary (bytes.map (· != 0))
  | .multiDiscrete _ dtype _ => do
    let count ← numel spec
    exactLen bytes.length (count * dtypeSize dtype) "multidiscrete"
    let values ← decodeIntSequence bytes dtype
    return .multiDiscrete values
  | .text .. => do
    let text ← decodeUtf8 bytes
    return .text text
  | spec => .error (.decodeError s!"not a fundamental leaf: {spec.spaceType}")

/-! ## One leaf of every lane -/

/-- No buffer outgrows `usize`. -/
def allocate (bytes : Bytes) : Except ProtocolError Bytes :=
  if bytes.length < 2 ^ 64 then .ok bytes else .error (.encodeError "capacity overflow")

def textOf : SpaceValue → Except ProtocolError Bytes
  | .text value => .ok (textBytes value)
  | _ => .error (.encodeError "expected Text leaf in batch")

/-- Text batch framing: the count, the byte lengths, the texts. -/
def encodeTextSlab (column : List SpaceValue) : Except ProtocolError Bytes := do
  let bodies ← column.mapM textOf
  allocate (toLeBytes 8 column.length ++ bodies.flatMap (fun body => toLeBytes 8 body.length) ++ bodies.flatten)

/-- Each lane contributes exactly `stride` bytes. -/
def encodeStride (spec : SpaceSpec B) (stride : Nat) (entry : SpaceValue × Nat) : Except ProtocolError Bytes :=
  match encodeLeaf spec entry.1 with
  | .error e => .error e
  | .ok leaf =>
    if leaf.length ≠ stride then
      .error (.lengthMismatch s!"batch lane {entry.2} leaf: got {leaf.length} bytes, expected stride {stride}")
    else .ok leaf

def isText : SpaceSpec B → Bool
  | .text .. => true
  | _ => false

/-- The slab of one leaf, over its values lane by lane. -/
def encodeColumn (spec : SpaceSpec B) (column : List SpaceValue) : Except ProtocolError Bytes :=
  if isText spec then encodeTextSlab column
  else do
    let stride ← leafStride spec
    let leaves ← column.zipIdx.mapM (encodeStride spec stride)
    allocate leaves.flatten

/-- Read a `u64` and what follows it. -/
def readU64 (buf : Bytes) : Except ProtocolError (Nat × Bytes) :=
  if buf.length < 8 then .error (.lengthMismatch "text slab header truncated")
  else .ok (ofLeBytes (buf.take 8), buf.drop 8)

def readLens : Nat → Bytes → Except ProtocolError (List Nat × Bytes)
  | 0, buf => .ok ([], buf)
  | n + 1, buf => do
    let (len, buf) ← readU64 buf
    let (lens, buf) ← readLens n buf
    return (len :: lens, buf)

/-- Cut the texts out of what is left of a slab of `size` bytes. -/
def readTexts (size : Nat) : List Nat → Bytes → Except ProtocolError (List SpaceValue × Bytes)
  | [], buf => .ok ([], buf)
  | len :: lens, buf =>
    if 2 ^ 64 ≤ size - buf.length + len then .error (.decodeError "text length overflow")
    else if buf.length < len then .error (.lengthMismatch "text slab body truncated")
    else do
      let text ← decodeUtf8 (buf.take len)
      let (texts, buf) ← readTexts size lens (buf.drop len)
      return (.text text :: texts, buf)

def decodeTextSlab (slab : Bytes) (n : Nat) : Except ProtocolError (List SpaceValue) := do
  let (count, buf) ← readU64 slab
  if count ≠ n then .error (.lengthMismatch s!"text slab count {count} != N {n}")
  else do
    let (lens, buf) ← readLens n buf
    let (texts, buf) ← readTexts slab.length lens buf
    if buf = [] then return texts else .error (.lengthMismatch "trailing bytes in text slab")

/-- Split one leaf's slab into its `n` per-lane values. -/
def decodeLeafColumn (slab : Bytes) (spec : SpaceSpec B) (n : Nat) : Except ProtocolError (List SpaceValue) :=
  if isText spec then decodeTextSlab slab n
  else do
    let stride ← leafStride spec
    match checkedMul stride n with
    | none => .error (.decodeError "slab size overflow")
    | some want =>
      if slab.length ≠ want then
        .error (.lengthMismatch s!"slab: got {slab.length} bytes, expected {n} lanes * {stride}")
      else (chunks stride n slab).mapM (decodeLeaf · spec)

/-! ## The batch -/

/-- `values.length` lanes as one slab per canonical leaf. -/
def encodeLeafSlab (values : List SpaceValue) (spec : SpaceSpec B) : Except ProtocolError Leaves := do
  let lanes ← values.mapM (fun value =>
    (flattenLeaves spec value).mapError (fun e => .encodeError e.toString))
  ((leafSpecs spec).zip (transpose (leafSpecs spec).length lanes)).mapM (fun entry => encodeColumn entry.1 entry.2)

/-- Split each leaf slab into `n` lanes and reassemble `n` typed values. -/
def decodeLeafSlab (leaves : Leaves) (spec : SpaceSpec B) (n : Nat) : Except ProtocolError (List SpaceValue) :=
  if leaves.length ≠ (leafSpecs spec).length then
    .error (.lengthMismatch s!"got {leaves.length} leaf slabs, spec expects {(leafSpecs spec).length}")
  else do
    let columns ← (leaves.zip (leafSpecs spec)).mapM (fun entry => decodeLeafColumn entry.1 entry.2 n)
    (transpose n columns).mapM (fun row =>
      (assembleValue spec row).mapError (fun e => .decodeError e.toString))

/-- Decode a batched wire value; an absent one has no rows. -/
def decodeBatchedPartialValues (payload : Option Leaves) (spec : SpaceSpec B) (n : Nat) :
    Except ProtocolError (List SpaceValue) :=
  match payload with
  | some leaves => decodeLeafSlab leaves spec n
  | none => .ok []

end Rlmesh.Wire
