import Rlmesh.Lib.Fallible
import Rlmesh.Spaces.Rebound
import Rlmesh.Spaces.Thresholds
/-!
# Sampling (`rlmesh-spaces/src/sample.rs`)

`sampleWith` draws a value of a space from a random number generator. Of the
generator only this is known: a draw from a range lies in the range. A sample is
a member of its space where the edges of an integer Box, as declared, either
stay inside the dtype or cover it; an edge outside is drawn and then wraps.

What a float or bool Box element is drawn as, and how a scalar is packed into a
float dtype, are parameters: no result here is about those.
-/
open Rlmesh.Lib

namespace Rlmesh.Spaces

/-- A generator with state `S`. -/
structure Rng (S : Type) where
  /-- `random_range(a..=b)`. -/
  range : Int → Int → S → Int × S
  within : ∀ {a b : Int}, a ≤ b → ∀ s, a ≤ (range a b s).1 ∧ (range a b s).1 ≤ b
  /-- `random::<bool>()`. -/
  flag : S → Bool × S
  /-- The draw of `sample_continuous` between bounds that are not inverted. -/
  continuous : Double → Double → S → Double × S

/-- A computation that draws. -/
abbrev Draw (S : Type) := Fallible S SpaceError

section

variable {S : Type} (rng : Rng S)

def randomRange (a b : Int) : Draw S Int :=
  .ofFun fun s => (.ok (rng.range a b s).1, (rng.range a b s).2)

def randomFlag : Draw S Bool :=
  .ofFun fun s => (.ok (rng.flag s).1, (rng.flag s).2)

/-! ## Integer Boxes -/

/-- One side of an integer element; `none` is an open side. -/
abbrev IntEdge := Option Int

def floatLowEdge (low : Double) : IntEdge := if low.isFinite then some (low.ceil.toInt i128Min i128Max) else none

def floatHighEdge (high : Double) : IntEdge := if high.isFinite then some (high.floor.toInt i128Min i128Max) else none

def floatEdges (values : List Double) (numel : Nat) (edge : Double → IntEdge) : List IntEdge :=
  if values.length = numel then values.map edge else List.replicate numel none

/-- A decoded typed bound as an exact integer. -/
def scalarToIntEdge (value : Scalar) (dtype : DType) : Int :=
  match value with
  | .int _ => intScalar value dtype
  | .float number => number.toInt i128Min i128Max
  | .bool _ => value.asI64

def typedEdge (bytes : List UInt8) (dtype : DType) : IntEdge :=
  match decodeScalars bytes dtype with
  | .ok (first :: _) => some (scalarToIntEdge first dtype)
  | _ => none

def typedEdges (bytes : List UInt8) (numel : Nat) (dtype : DType) : List IntEdge :=
  match decodeScalars bytes dtype with
  | .ok scalars =>
    if scalars.length = numel then scalars.map (fun value => some (scalarToIntEdge value dtype))
    else List.replicate numel none
  | .error _ => List.replicate numel none

/-- The low and high edges, element by element; doubles round inward. -/
def integerBoxBounds (bounds : Option Bounds) (numel : Nat) (dtype : DType) : List IntEdge × List IntEdge :=
  match bounds with
  | some (.uniform low high) =>
    (List.replicate numel (floatLowEdge low), List.replicate numel (floatHighEdge high))
  | some (.elementwise low high) => (floatEdges low numel floatLowEdge, floatEdges high numel floatHighEdge)
  | some (.typedUniform low high) =>
    (List.replicate numel (typedEdge low dtype), List.replicate numel (typedEdge high dtype))
  | some (.typedElementwise low high) => (typedEdges low numel dtype, typedEdges high numel dtype)
  | some (.unbounded _) | none => (List.replicate numel none, List.replicate numel none)

/-- Finite edges for the open sides of an element. -/
def integerDtypeBounds : DType → Int × Int
  | .bool => (0, 1)
  | .uint8 => (0, 255)
  | .int8 => (-128, 127)
  | .int16 => (-32768, 32767)
  | .uint16 => (0, 65535)
  | .int32 => (-2147483648, 2147483647)
  | .uint32 => (0, 4294967295)
  | .uint64 => (0, 2 ^ 53)
  | _ => (-2 ^ 53, 2 ^ 53)

def i64Min : Int := -2 ^ 63
def i64Max : Int := 2 ^ 63 - 1
def u64Max : Int := 2 ^ 64 - 1

/-- The draw is on `i64`, or on `u64` for a range above `i64::MAX`. -/
def sampleIntegerBoxScalar (low high : IntEdge) (dtype : DType) : Draw S Scalar :=
  let lo := low.getD (integerDtypeBounds dtype).1
  let hi := high.getD (integerDtypeBounds dtype).2
  if hi < lo then
    throw { path := "$", msg := s!"cannot sample integer Box element with low {lo} greater than high {hi}" }
  else if i64Max < hi ∧ 0 ≤ lo then do
    let drawn ← randomRange rng (min (min lo u64Max) (min hi u64Max)) (min hi u64Max)
    -- cast back to `i64`; the encoder writes the same bits
    return .int (drawn.bmod (2 ^ 64))
  else do
    let drawn ← randomRange rng (max i64Min (min lo i64Max)) (max i64Min (min hi i64Max))
    return .int drawn

/-! ## Other Boxes -/

def decodeTypedOne (bytes : List UInt8) (dtype : DType) (absent : Double) : Double :=
  match decodeScalars bytes dtype with
  | .ok (first :: _) => first.number dtype
  | _ => absent

def decodeTypedMany (bytes : List UInt8) (dtype : DType) (numel : Nat) (absent : Double) : List Double :=
  match decodeScalars bytes dtype with
  | .ok scalars => if scalars.length = numel then scalars.map (·.number dtype) else List.replicate numel absent
  | .error _ => List.replicate numel absent

def elementwiseOrDefault (values : List Double) (len : Nat) (default : Double) : List Double :=
  if values.length = len then values else List.replicate len default

/-- Per-element bounds for the float dtypes and `bool`. -/
def boxBounds (bounds : Option Bounds) (numel : Nat) (dtype : DType) : List Double × List Double :=
  match bounds with
  | some (.uniform low high) => (List.replicate numel low, List.replicate numel high)
  | some (.elementwise low high) => (elementwiseOrDefault low numel .negInf, elementwiseOrDefault high numel .posInf)
  | some (.typedUniform low high) =>
    (List.replicate numel (decodeTypedOne low dtype .negInf), List.replicate numel (decodeTypedOne high dtype .posInf))
  | some (.typedElementwise low high) =>
    (decodeTypedMany low dtype numel .negInf, decodeTypedMany high dtype numel .posInf)
  | some (.unbounded _) | none => (List.replicate numel .negInf, List.replicate numel .posInf)

/-- `value.round() != 0.0`. -/
def roundsAway : Double → Bool
  | .finite value => decide (1 / 2 ≤ |value|)
  | _ => true

def sampleBoxScalar (low high : Double) (dtype : DType) : Draw S Scalar := do
  if low.isFinite && high.isFinite && low.gt high then
    throw { path := "$", msg := s!"cannot sample Box element with low {low.text} greater than high {high.text}" }
  let value ← (.ofFun fun s => (.ok (rng.continuous low high s).1, (rng.continuous low high s).2) : Draw S Double)
  if dtype = .bool then return .bool (roundsAway value) else return .float value

variable (pack : DType → Scalar → List UInt8)

/-- One element's bytes; an integer wraps to the dtype's width. -/
def encodeScalar (value : Scalar) (dtype : DType) : List UInt8 :=
  match dtype with
  | .bool => [match value with
    | .bool flag => if flag then 1 else 0
    | .int number => if number = 0 then 0 else 1
    | .float number => if number = .finite 0 then 0 else 1]
  | .uint8 => intToLeBytes 1 (match value with
    | .float number => number.toInt 0 255
    | other => other.asI64)
  | .float16 | .float32 | .float64 | .unspecified => pack dtype value
  | _ => intToLeBytes (dtypeSize dtype) value.asI64

/-- `numel`: the product of the dimensions, as `usize` arithmetic wraps. -/
def numelOf (shape : List Int) : Nat :=
  shape.foldl (fun acc dim => acc * (dim % 2 ^ 64).toNat % 2 ^ 64) 1

/-- `unspecified` is sampled as `float32`. -/
def normalizeDtype : DType → DType
  | .unspecified => .float32
  | other => other

def sampleScalars (shape : List Int) (dtype : DType) (bounds : Option Bounds) : Draw S (List Scalar) :=
  let numel := numelOf shape
  if dtype.isInteger then
    let (low, high) := integerBoxBounds bounds (max numel 1) dtype
    ((low.zip high).take numel).mapM (fun edges => sampleIntegerBoxScalar rng edges.1 edges.2 dtype)
  else
    let (low, high) := boxBounds bounds (max numel 1) dtype
    ((low.zip high).take numel).mapM (fun pair => sampleBoxScalar rng pair.1 pair.2 dtype)

def sampleBox (shape : List Int) (dtype : DType) (bounds : Option Bounds) : Draw S Tensor := do
  let scalars ← sampleScalars rng shape dtype bounds
  let dtype := normalizeDtype dtype
  .ofResult ((Tensor.fromSlice (scalars.flatMap (encodeScalar pack · dtype)) shape dtype).mapError
    (fun e => { path := "$", msg := e.message }))

/-! ## Other leaves -/

def sampleDiscrete (n start : Int) : Draw S Int :=
  if n ≤ 0 then throw { path := "$", msg := s!"cannot sample Discrete space with n={n}" }
  else if i64Max < start + (n - 1) then throw { path := "$", msg := "Discrete range exceeds i64::MAX" }
  else randomRange rng start (start + (n - 1))

def sampleMultiBinary (shape : List Int) : Draw S (List Bool) :=
  (List.range (numelOf shape)).mapM (fun _ => randomFlag rng)

def sampleMultiDiscrete (nvec : List Int) : Draw S (List Int) :=
  nvec.mapM (fun n =>
    if n ≤ 0 then
      throw { path := "$", msg := "cannot sample MultiDiscrete space with a non-positive dimension" }
    else randomRange rng 0 (n - 1))

def printableAscii : String := "abcdefghijklmnopqrstuvwxyzABCDEFGHIJKLMNOPQRSTUVWXYZ0123456789 .,!?"

def sampleChar (chars : List Char) : Draw S Char := do
  let i ← randomRange rng 0 (chars.length - 1)
  return chars[i.toNat]?.getD ' '

def sampleLength (minLength maxLength : Int) : Draw S Int :=
  if maxLength ≤ minLength then pure minLength else randomRange rng minLength maxLength

def sampleText (minLength maxLength : Int) (charset : String) : Draw S String := do
  let chars := if charset.isEmpty then printableAscii.toList else charset.toList
  let length ← sampleLength rng minLength maxLength
  let drawn ← (List.range length.toNat).mapM (fun _ => sampleChar rng chars)
  return String.ofList drawn

/-! ## Spaces -/

mutual
/-- Draw a value of the space; composites draw in declared order. -/
def sampleWith : SpaceSpec (Option Bounds) → Draw S SpaceValue
  | .box shape dtype bounds => do return .box (← sampleBox rng pack shape dtype bounds)
  | .discrete _ _ n start => do return .discrete (← sampleDiscrete rng n start)
  | .multiBinary shape _ => do return .multiBinary (← sampleMultiBinary rng shape)
  | .multiDiscrete _ _ nvec => do return .multiDiscrete (← sampleMultiDiscrete rng nvec)
  | .text _ _ minLength maxLength charset => do return .text (← sampleText rng minLength maxLength charset)
  | .dict _ _ keys spaces => do return .dict (← sampleFields [] keys spaces)
  | .tuple _ _ spaces => do return .tuple (← sampleItems spaces)
  | .unspecified .. => throw { path := "$", msg := "space spec is missing" }

def sampleFields (entries : List (String × SpaceValue)) :
    List String → List (SpaceSpec (Option Bounds)) → Draw S (List (String × SpaceValue))
  | key :: keys, child :: spaces => do
    let value ← sampleWith child
    sampleFields (insertKey key value entries) keys spaces
  | _, _ => pure entries

def sampleItems : List (SpaceSpec (Option Bounds)) → Draw S (List SpaceValue)
  | [] => pure []
  | child :: rest => do
    let value ← sampleWith child
    return value :: (← sampleItems rest)
end

end

/-- `contains`: neither structural nor range deviations are let through. -/
def contains {B : Type} [BoxBounds B] (spec : SpaceSpec B) (value : SpaceValue) : Except SpaceError Unit :=
  match conform spec value with
  | .ok => .ok ()
  | .structural e | .range e => .error e

end Rlmesh.Spaces
