import Rlmesh.Spaces.Rebound
import Rlmesh.Spaces.Thresholds
import Rlmesh.Wire.Leaves
/-!
# Space specs on the wire (`rlmesh-grpc/src/wire/spaces.rs`)

A spec crosses the wire at the handshake. The five native forms of bounds become
three there: doubles are packed into the space's dtype, and for an integer or
bool dtype they come back as the typed form. `retype` is what a round trip does
to bounds; it admits the same values unless a bool Box was declared with doubles
that `value != 0.0` does not stand for.

How a double is packed into a float dtype is a parameter: no result here is about
a float Box.
-/
open Rlmesh.Lib Rlmesh.Spaces

namespace Rlmesh.Wire

/-- `BoxSpec.bounds`: little-endian scalars of the space's dtype. -/
inductive ProtoBounds where
  | unbounded (value : Bool)
  | uniform (low high : Bytes)
  | elementwise (low high : Bytes)

/-- `spaces.v1.SpaceSpec`, by the spec it sets; `dtype` is the enum's number. -/
inductive ProtoSpace where
  | box (shape : List Int) (dtype : Int) (bounds : Option ProtoBounds)
  | discrete (shape : List Int) (dtype : Int) (n start : Int)
  | multiBinary (shape : List Int) (dtype : Int)
  | multiDiscrete (shape : List Int) (dtype : Int) (nvec : List Int)
  | text (shape : List Int) (dtype : Int) (minLength maxLength : Int) (charset : String)
  | dict (shape : List Int) (dtype : Int) (keys : List String) (spaces : List ProtoSpace)
  | tuple (shape : List Int) (dtype : Int) (spaces : List ProtoSpace)
  | unset (shape : List Int) (dtype : Int)

/-! ## Element types -/

def protoDtypeFromNative : DType → Int
  | .unspecified => 0
  | .bool => 1
  | .uint8 => 2
  | .uint16 => 3
  | .uint32 => 4
  | .uint64 => 5
  | .int8 => 6
  | .int16 => 7
  | .int32 => 8
  | .int64 => 9
  | .float16 => 10
  | .float32 => 11
  | .float64 => 12

def nativeDtypeFromProto (dtype : Int) : Except ProtocolError DType :=
  match dtype with
  | 0 => .ok .unspecified
  | 1 => .ok .bool
  | 2 => .ok .uint8
  | 3 => .ok .uint16
  | 4 => .ok .uint32
  | 5 => .ok .uint64
  | 6 => .ok .int8
  | 7 => .ok .int16
  | 8 => .ok .int32
  | 9 => .ok .int64
  | 10 => .ok .float16
  | 11 => .ok .float32
  | 12 => .ok .float64
  | other => .error (.decodeError s!"unknown proto dtype value: {other}")

theorem nativeDtypeFromProto_protoDtypeFromNative (dtype : DType) :
    nativeDtypeFromProto (protoDtypeFromNative dtype) = .ok dtype := by
  cases dtype <;> rfl

/-! ## Bounds -/

def validateBoundByteLengths (low high : Bytes) (count : Nat) (dtype : DType) : Except ProtocolError Unit :=
  if dtypeSize dtype = 0 then .error (.decodeError "Box bounds require a concrete dtype")
  else match checkedMul count (dtypeSize dtype) with
    | none => .error (.decodeError "Box bounds byte length overflowed")
    | some expected =>
      match [("low", low), ("high", high)].find? (fun named => named.2.length ≠ expected) with
      | some (name, bytes) =>
        .error (.decodeError s!"Box bounds `{name}` carries {bytes.length} bytes; expected {expected} ({count} {dtype.debug} scalar(s))")
      | none => .ok ()

/-- The element count of a Box shape from dimension `i` on. -/
def checkedDims (i acc : Nat) : List Int → Except ProtocolError Nat
  | [] => .ok acc
  | dim :: rest =>
    if dim ≤ 0 then .error (.decodeError s!"typed elementwise Box bounds shape[{i}] must be > 0")
    else match checkedMul acc dim.toNat with
      | none => .error (.decodeError "typed elementwise Box bounds shape product overflowed")
      | some product => checkedDims (i + 1) product rest

def checkedBoxShapeNumel (shape : List Int) : Except ProtocolError Nat :=
  if shape.isEmpty then .error (.decodeError "typed elementwise Box bounds require a non-empty shape")
  else checkedDims 0 1 shape

section

variable (pack : DType → Double → Bytes)

/-- A double packed at the dtype's width; casts saturate, and any number but zero is a true `bool`. -/
def encodeFloatBound (value : Double) (dtype : DType) : Bytes :=
  match dtype with
  | .float16 | .float32 | .float64 | .unspecified => pack dtype value
  | .bool => [if value = .finite 0 then 0 else 1]
  | _ => intToLeBytes (dtypeSize dtype) (value.toInt (dtypeRange dtype).1 (dtypeRange dtype).2)

def encodeFloatBounds (values : List Double) (dtype : DType) : Bytes :=
  values.flatMap (fun value => encodeFloatBound pack value dtype)

def boxBoundsToProto (bounds : Bounds) (dtype : DType) : ProtoBounds :=
  match bounds with
  | .unbounded value => .unbounded value
  | .uniform low high => .uniform (encodeFloatBound pack low dtype) (encodeFloatBound pack high dtype)
  | .elementwise low high => .elementwise (encodeFloatBounds pack low dtype) (encodeFloatBounds pack high dtype)
  | .typedUniform low high => .uniform low high
  | .typedElementwise low high => .elementwise low high

def boxBoundsFromProto (bounds : ProtoBounds) (dtype : DType) (shape : List Int) : Except ProtocolError Bounds :=
  match bounds with
  | .unbounded value => .ok (.unbounded value)
  | .uniform low high => do
    validateBoundByteLengths low high 1 dtype
    if dtype.isFloat then return .uniform (readFloat dtype low) (readFloat dtype high)
    else return .typedUniform low high
  | .elementwise low high => do
    let numel ← checkedBoxShapeNumel shape
    validateBoundByteLengths low high numel dtype
    if dtype.isFloat then
      return .elementwise ((elements dtype low).map (readFloat dtype)) ((elements dtype high).map (readFloat dtype))
    else return .typedElementwise low high

/-! ## Specs -/

mutual
def spaceSpecToProto : SpaceSpec (Option Bounds) → ProtoSpace
  | .box shape dtype bounds =>
    .box shape (protoDtypeFromNative dtype) (bounds.map (fun bounds => boxBoundsToProto pack bounds dtype))
  | .discrete shape dtype n start => .discrete shape (protoDtypeFromNative dtype) n start
  | .multiBinary shape dtype => .multiBinary shape (protoDtypeFromNative dtype)
  | .multiDiscrete shape dtype nvec => .multiDiscrete shape (protoDtypeFromNative dtype) nvec
  | .text shape dtype minLength maxLength charset =>
    .text shape (protoDtypeFromNative dtype) minLength maxLength charset
  | .dict shape dtype keys spaces => .dict shape (protoDtypeFromNative dtype) keys (spaceSpecsToProto spaces)
  | .tuple shape dtype spaces => .tuple shape (protoDtypeFromNative dtype) (spaceSpecsToProto spaces)
  | .unspecified shape dtype => .unset shape (protoDtypeFromNative dtype)

def spaceSpecsToProto : List (SpaceSpec (Option Bounds)) → List ProtoSpace
  | [] => []
  | spec :: rest => spaceSpecToProto spec :: spaceSpecsToProto rest
end

end

/-- A peer's spec is held to what the local builders enforce. -/
def checkedSpec (spec : SpaceSpec (Option Bounds)) : Except ProtocolError (SpaceSpec (Option Bounds)) :=
  match validateSpace spec with
  | .ok () => .ok spec
  | .error e => .error (.decodeError e.toString)

mutual
def spaceSpecFromProto : ProtoSpace → Except ProtocolError (SpaceSpec (Option Bounds))
  | .box shape dtype bounds => do
    let dtype ← nativeDtypeFromProto dtype
    let bounds ← match bounds with
      | none => pure none
      | some bounds => (boxBoundsFromProto bounds dtype shape).map some
    checkedSpec (.box shape dtype bounds)
  | .discrete shape dtype n start => do
    let dtype ← nativeDtypeFromProto dtype
    checkedSpec (.discrete shape dtype n start)
  | .multiBinary shape dtype => do
    let dtype ← nativeDtypeFromProto dtype
    checkedSpec (.multiBinary shape dtype)
  | .multiDiscrete shape dtype nvec => do
    let dtype ← nativeDtypeFromProto dtype
    checkedSpec (.multiDiscrete shape dtype nvec)
  | .text shape dtype minLength maxLength charset => do
    let dtype ← nativeDtypeFromProto dtype
    checkedSpec (.text shape dtype minLength maxLength charset)
  | .dict shape dtype keys spaces => do
    let dtype ← nativeDtypeFromProto dtype
    let spaces ← spaceSpecsFromProto spaces
    checkedSpec (.dict shape dtype keys spaces)
  | .tuple shape dtype spaces => do
    let dtype ← nativeDtypeFromProto dtype
    let spaces ← spaceSpecsFromProto spaces
    checkedSpec (.tuple shape dtype spaces)
  | .unset shape dtype => do
    let dtype ← nativeDtypeFromProto dtype
    checkedSpec (.unspecified shape dtype)

def spaceSpecsFromProto : List ProtoSpace → Except ProtocolError (List (SpaceSpec (Option Bounds)))
  | [] => .ok []
  | spec :: rest => do
    let spec ← spaceSpecFromProto spec
    let rest ← spaceSpecsFromProto rest
    return spec :: rest
end

/-! ## What the cast makes of a bound -/

section

variable {pack : DType → Double → Bytes} {dtype : DType}

/-- The number a packed bound reads back as. -/
def castBound (dtype : DType) (value : Double) : Int :=
  if dtype = .bool then if value = .finite 0 then 0 else 1
  else value.toInt (dtypeRange dtype).1 (dtypeRange dtype).2

theorem length_encodeFloatBound (hd : dtype.Integral) (value : Double) :
    (encodeFloatBound pack value dtype).length = dtypeSize dtype := by
  rcases hd with hd | rfl
  · cases dtype <;> first | exact length_intToLeBytes _ _ | cases hd
  · rfl

theorem readInt_encodeFloatBound (hd : dtype.Integral) (value : Double) :
    readInt dtype (encodeFloatBound pack value dtype) = castBound dtype value := by
  obtain ⟨hmin, hmax, -, -⟩ := dtypeRange_spans hd
  obtain ⟨hlow, hhigh⟩ := Double.toInt_range hmin hmax value
  rcases hd with hd | rfl
  · have henc : encodeFloatBound pack value dtype =
        intToLeBytes (dtypeSize dtype) (value.toInt (dtypeRange dtype).1 (dtypeRange dtype).2) := by
      cases dtype <;> first | rfl | cases hd
    have hbool : dtype ≠ .bool := by rintro rfl; cases hd
    rw [henc, readInt_intToLeBytes hd hlow hhigh, castBound, if_neg hbool]
  · rw [encodeFloatBound, readInt, castBound, if_pos rfl]
    split_ifs <;> simp_all

/-- Doubles that bound a bool as their casts do: low one of 0 to 1, high 0 or at least 1. -/
def BoolPair (low high : Double) : Prop :=
  (∃ l, low = .finite l ∧ 0 ≤ l ∧ l ≤ 1) ∧ (high = .finite 0 ∨ high = .posInf ∨ ∃ h, high = .finite h ∧ 1 ≤ h)

variable {low high : Double} {v : Int} {numel : Nat} {bounds : Option Bounds} {shape : List Int}
  {spec : SpaceSpec (Option Bounds)}

/-- The bounds of an integer dtype, cast, are the same bounds inside the dtype's range. -/
theorem castBound_integer (hd : dtype.isInteger = true) (hv : ValidPair dtype low high) :
    castBound dtype low ≤ castBound dtype high ∧
      ∀ v, (dtypeRange dtype).1 ≤ v → v ≤ (dtypeRange dtype).2 →
        (castBound dtype low ≤ v ↔ intLow (finiteFloat low) dtype ≤ v) ∧
          (v ≤ castBound dtype high ↔ v ≤ intHigh (finiteFloat high) dtype) := by
  obtain ⟨l, h, rfl, rfl, hordered, hl, hh⟩ := hv.whole hd
  obtain ⟨hmin, hmax, hmin', hmax'⟩ := dtypeRange_spans (.inl hd)
  have hbool : dtype ≠ .bool := by rintro rfl; cases hd
  rw [castBound, castBound, if_neg hbool, if_neg hbool, Double.toInt_whole, Double.toInt_whole, intLow_finite, intHigh_finite,
    Int.ceil_intCast, Int.floor_intCast]
  exact ⟨by omega, fun v hlow hhigh => ⟨by omega, by omega⟩⟩

theorem castBound_bool_low (hlow : ∃ l, low = .finite l ∧ 0 ≤ l ∧ l ≤ 1) :
    castBound .bool low ≤ v ↔ intLow (finiteFloat low) .bool ≤ v := by
  obtain ⟨l, rfl, hnonneg, hle⟩ := hlow
  have hceil : ⌈l⌉ = castBound .bool (.finite l) := by
    rw [castBound, if_pos rfl]
    split_ifs with hzero
    · rw [Double.finite.inj hzero]
      rfl
    · have hpos : 0 < l := lt_of_le_of_ne hnonneg (fun heq => hzero (by rw [← heq]))
      exact Int.ceil_eq_iff.2 ⟨by simpa using hpos, by simpa using hle⟩
  have hcast : 0 ≤ castBound .bool (.finite l) ∧ castBound .bool (.finite l) ≤ 1 := by
    rw [castBound, if_pos rfl]
    split_ifs <;> omega
  rw [intLow_finite, hceil]
  simp only [i128Min, i128Max]
  omega

theorem castBound_bool_high (hhigh : high = .finite 0 ∨ high = .posInf ∨ ∃ h, high = .finite h ∧ 1 ≤ h) (hv : v ≤ 1) :
    v ≤ castBound .bool high ↔ v ≤ intHigh (finiteFloat high) .bool := by
  rcases hhigh with rfl | rfl | ⟨h, rfl, hle⟩
  · rfl
  · have hmax : intHigh (finiteFloat .posInf) .bool = i128Max := rfl
    have hcast : castBound .bool .posInf = 1 := rfl
    rw [hmax, hcast, i128Max]
    omega
  · have hcast : castBound .bool (.finite h) = 1 := by
      rw [castBound, if_pos rfl, if_neg]
      intro hzero
      rw [Double.finite.inj hzero] at hle
      exact absurd hle (by decide)
    have hfloor : 1 ≤ ⌊h⌋ := Int.le_floor.2 (by simpa using hle)
    rw [intHigh_finite, hcast]
    simp only [i128Min, i128Max]
    omega

theorem castBound_bool_le (hordered : low.gt high = false) (hb : BoolPair low high) :
    castBound .bool low ≤ castBound .bool high := by
  obtain ⟨⟨l, rfl, hnonneg, -⟩, hhigh⟩ := hb
  rw [castBound, castBound, if_pos rfl, if_pos rfl]
  split_ifs with hlow _ hzero
  · omega
  · omega
  · -- a positive low is not below a high of zero
    subst hzero
    rw [Double.gt, decide_eq_false_iff_not, not_lt] at hordered
    exact absurd (congrArg Double.finite (le_antisymm hordered hnonneg)) hlow
  · omega

/-- Bounds whose casts stand for them: no condition on an integer dtype. -/
def Castable (dtype : DType) (low high : Double) : Prop := dtype = .bool → BoolPair low high

theorem castBound_ok (hd : dtype.Integral) (hv : ValidPair dtype low high) (hc : Castable dtype low high) :
    castBound dtype low ≤ castBound dtype high ∧
      ∀ v, (dtypeRange dtype).1 ≤ v → v ≤ (dtypeRange dtype).2 →
        (castBound dtype low ≤ v ↔ intLow (finiteFloat low) dtype ≤ v) ∧
          (v ≤ castBound dtype high ↔ v ≤ intHigh (finiteFloat high) dtype) := by
  rcases hd with hd | rfl
  · exact castBound_integer hd hv
  · obtain ⟨hlow, hhigh⟩ := hc rfl
    exact ⟨castBound_bool_le hv.ordered (hc rfl), fun v _ hv' =>
      ⟨castBound_bool_low hlow, castBound_bool_high hhigh hv'⟩⟩

/-! ## What a round trip does to bounds -/

variable (pack) in
/-- Doubles come back typed, at the dtype's width. -/
def retype (dtype : DType) : Option Bounds → Option Bounds
  | some (.uniform low high) =>
    some (.typedUniform (encodeFloatBound pack low dtype) (encodeFloatBound pack high dtype))
  | some (.elementwise low high) =>
    some (.typedElementwise (encodeFloatBounds pack low dtype) (encodeFloatBounds pack high dtype))
  | bounds => bounds

/-- Every pair of doubles is castable. -/
def Faithful (dtype : DType) : Option Bounds → Prop
  | some (.uniform low high) => Castable dtype low high
  | some (.elementwise low high) => ∀ pair ∈ low.zip high, Castable dtype pair.1 pair.2
  | _ => True

/-- A `Vec<f64>` holds at most `isize::MAX` bytes. -/
def InMemory : Option Bounds → Prop
  | some (.elementwise low _) => low.length * 8 < 2 ^ 63
  | _ => True

theorem elements_encodeFloatBounds (hd : dtype.Integral) (values : List Double) :
    elements dtype (encodeFloatBounds pack values dtype) = values.map (encodeFloatBound pack · dtype) := by
  have hpieces : ∀ piece ∈ values.map (encodeFloatBound pack · dtype), piece.length = dtypeSize dtype := by
    intro piece hp
    obtain ⟨value, -, rfl⟩ := List.mem_map.1 hp
    exact length_encodeFloatBound hd value
  have hflat : encodeFloatBounds pack values dtype = (values.map (encodeFloatBound pack · dtype)).flatten := rfl
  rw [elements, hflat, length_flatten_of_pieces hpieces, Nat.mul_div_cancel_left _ hd.size_pos]
  exact chunks_flatten hpieces

theorem length_encodeFloatBounds (hd : dtype.Integral) (values : List Double) :
    (encodeFloatBounds pack values dtype).length = values.length * dtypeSize dtype := by
  induction values with
  | nil => exact (Nat.zero_mul _).symm
  | cons value rest ih =>
    change (encodeFloatBound pack value dtype ++ encodeFloatBounds pack rest dtype).length = _
    rw [List.length_append, ih, length_encodeFloatBound hd, List.length_cons, Nat.succ_mul, Nat.add_comm]

theorem validTyped_encodeFloatBounds (hd : dtype.Integral) {low high : List Double} {count : Nat}
    (hlow : low.length = count) (hhigh : high.length = count) (hfits : count * dtypeSize dtype < 2 ^ 64)
    (hpairs : ∀ pair ∈ low.zip high, ValidPair dtype pair.1 pair.2 ∧ Castable dtype pair.1 pair.2) :
    ValidTyped (encodeFloatBounds pack low dtype) (encodeFloatBounds pack high dtype) count dtype where
  concrete := hd.concrete
  fits := hfits
  lowLength := by rw [length_encodeFloatBounds hd, hlow]
  highLength := by rw [length_encodeFloatBounds hd, hhigh]
  ordered := by
    intro pair hpair
    rw [elements_encodeFloatBounds hd, elements_encodeFloatBounds hd, List.map_map, List.map_map, List.zip_map] at hpair
    obtain ⟨doubles, hmem, rfl⟩ := List.mem_map.1 hpair
    obtain ⟨hv, hc⟩ := hpairs doubles hmem
    refine ⟨isNan_decodeScalar hd _, isNan_decodeScalar hd _, ?_⟩
    change scalarGt (Spaces.decodeScalar (encodeFloatBound pack doubles.1 dtype) dtype)
      (Spaces.decodeScalar (encodeFloatBound pack doubles.2 dtype) dtype) dtype = false
    rw [scalarGt_decodeScalar hd (length_encodeFloatBound hd _) (length_encodeFloatBound hd _),
      readInt_encodeFloatBound hd, readInt_encodeFloatBound hd]
    exact decide_eq_false (Int.not_lt.2 (castBound_ok hd hv hc).1)

theorem dtypeSize_le (dtype : DType) : dtypeSize dtype ≤ 8 := by
  cases dtype <;> decide

theorem encodeFloatBounds_singleton (value : Double) :
    encodeFloatBounds pack [value] dtype = encodeFloatBound pack value dtype := List.append_nil _

theorem validBounds_retype (hd : dtype.Integral) (hv : ValidBounds dtype numel bounds) (hc : Faithful dtype bounds)
    (hm : InMemory bounds) : ValidBounds dtype numel (retype pack dtype bounds) := by
  rcases bounds with _ | ⟨flag⟩ | ⟨low, high⟩ | ⟨low, high⟩ | ⟨low, high⟩ | ⟨low, high⟩
  · exact hv
  · exact hv
  · have hpairs : ∀ pair ∈ [low].zip [high], ValidPair dtype pair.1 pair.2 ∧ Castable dtype pair.1 pair.2 := by
      intro pair hpair
      cases List.mem_singleton.1 hpair
      exact ⟨hv, hc⟩
    have hsize := dtypeSize_le dtype
    have htyped : ValidTyped (encodeFloatBounds pack [low] dtype) (encodeFloatBounds pack [high] dtype) 1 dtype :=
      validTyped_encodeFloatBounds hd rfl rfl (by omega) hpairs
    rwa [encodeFloatBounds_singleton, encodeFloatBounds_singleton] at htyped
  · obtain ⟨hlens, hcount, hpairs⟩ := hv
    have hfits : numel * dtypeSize dtype < 2 ^ 64 := by
      have hle : numel * dtypeSize dtype ≤ numel * 8 := Nat.mul_le_mul_left _ (dtypeSize_le dtype)
      have hm' : low.length * 8 < 2 ^ 63 := hm
      omega
    exact validTyped_encodeFloatBounds hd hcount (hlens ▸ hcount) hfits (fun pair hp => ⟨hpairs pair hp, hc pair hp⟩)
  · exact hv
  · exact hv

/-- Retyped bounds set the same thresholds, as far as the dtype's values can tell. -/
theorem thresholds_retype (hd : dtype.Integral) (hv : ValidBounds dtype numel bounds) (hc : Faithful dtype bounds)
    {i : Nat} (hi : i < numel) (hlow : (dtypeRange dtype).1 ≤ v) (hhigh : v ≤ (dtypeRange dtype).2) :
    ((thresholds (retype pack dtype bounds) dtype i).1 ≤ v ∧ v ≤ (thresholds (retype pack dtype bounds) dtype i).2) ↔
      ((thresholds bounds dtype i).1 ≤ v ∧ v ≤ (thresholds bounds dtype i).2) := by
  rcases bounds with _ | ⟨flag⟩ | ⟨low, high⟩ | ⟨low, high⟩ | ⟨low, high⟩ | ⟨low, high⟩
  · rfl
  · rfl
  · obtain ⟨-, hsame⟩ := castBound_ok hd hv hc
    rw [retype, thresholds, thresholds]
    dsimp only
    rw [readInt_encodeFloatBound hd, readInt_encodeFloatBound hd, (hsame v hlow hhigh).1, (hsame v hlow hhigh).2]
  · obtain ⟨hlens, hcount, hpairs⟩ := hv
    have hlowi : low[i]? = some low[i] := List.getElem?_eq_getElem (by omega)
    have hhighi : high[i]? = some high[i] := List.getElem?_eq_getElem (by omega)
    have hmem : (low[i], high[i]) ∈ low.zip high := by
      refine List.mem_of_getElem? (i := i) ?_
      rw [List.getElem?_zip_eq_some]
      exact ⟨hlowi, hhighi⟩
    obtain ⟨-, hsame⟩ := castBound_ok hd (hpairs _ hmem) (hc _ hmem)
    rw [retype, thresholds, thresholds]
    dsimp only
    rw [elements_encodeFloatBounds hd, elements_encodeFloatBounds hd, List.getElem?_map, List.getElem?_map, hlowi, hhighi]
    dsimp only [Option.map_some, Option.getD_some, Option.bind_some]
    rw [readInt_encodeFloatBound hd, readInt_encodeFloatBound hd, (hsame v hlow hhigh).1, (hsame v hlow hhigh).2]
  · rfl
  · rfl

theorem inBounds_retype (hd : dtype.Integral) (hv : ValidBounds dtype numel bounds) (hc : Faithful dtype bounds)
    {data : Bytes} (hlen : data.length = numel * dtypeSize dtype) :
    InBounds (retype pack dtype bounds) dtype data ↔ InBounds bounds dtype data := by
  refine forall₂_congr (fun i chunk => imp_congr_right (fun hchunk => ?_))
  have hi : i < numel := by
    rw [← length_elements hd.size_pos hlen]
    exact (List.getElem?_eq_some_iff.1 hchunk).1
  obtain ⟨hlow, hhigh⟩ := readInt_range hd (length_of_mem_elements hd.size_pos hlen (List.mem_of_getElem? hchunk))
  exact thresholds_retype hd hv hc hi hlow hhigh

/-! ## Round trips -/

theorem validateBoundByteLengths_ok (hd : dtype.Integral) {low high : Bytes} {count : Nat}
    (hv : ValidTyped low high count dtype) : validateBoundByteLengths low high count dtype = .ok () := by
  have hsize := hd.size_pos
  rw [validateBoundByteLengths, if_neg (by omega), checkedMul, if_pos hv.fits]
  simp [hv.lowLength, hv.highLength]

theorem checkedDims_ok {i acc : Nat} (hpositive : ∀ dim ∈ shape, 0 < dim)
    (h : shape.foldlM (fun acc dim => if dim < 0 then none else checkedMul acc dim.toNat) acc = some numel) :
    checkedDims i acc shape = .ok numel := by
  induction shape generalizing i acc with
  | nil => exact congrArg Except.ok (Option.some.inj h)
  | cons dim rest ih =>
    have hdim : 0 < dim := hpositive dim List.mem_cons_self
    rw [List.foldlM_cons, if_neg (by omega)] at h
    rw [checkedDims, if_neg (by omega)]
    cases hmul : checkedMul acc dim.toNat with
    | none => rw [hmul] at h; cases h
    | some product =>
      rw [hmul] at h
      exact ih (fun other hother => hpositive other (List.mem_cons_of_mem _ hother)) h

theorem checkedBoxShapeNumel_ok (hbox : ValidBox shape dtype bounds numel) :
    checkedBoxShapeNumel shape = .ok numel := by
  rw [checkedBoxShapeNumel, if_neg (fun hempty => hbox.ranked (List.isEmpty_iff.1 hempty))]
  exact checkedDims_ok hbox.positive hbox.counted

theorem boxBoundsFromProto_toProto (hd : dtype.Integral) {bounds : Bounds}
    (hbox : ValidBox shape dtype (retype pack dtype (some bounds)) numel) :
    (boxBoundsFromProto (boxBoundsToProto pack bounds dtype) dtype shape).map some =
      .ok (retype pack dtype (some bounds)) := by
  have hv := hbox.bounds
  cases bounds with
  | unbounded flag => rfl
  | uniform low high | typedUniform low high =>
    rw [boxBoundsToProto, boxBoundsFromProto, validateBoundByteLengths_ok hd hv, hd.not_float]
    rfl
  | elementwise low high | typedElementwise low high =>
    rw [boxBoundsToProto, boxBoundsFromProto, checkedBoxShapeNumel_ok hbox]
    change Except.map some (validateBoundByteLengths _ _ numel dtype >>= _) = _
    rw [validateBoundByteLengths_ok hd hv, hd.not_float]
    rfl

/-- What a round trip needs of a Box leaf. -/
structure Portable (dtype : DType) (bounds : Option Bounds) : Prop where
  integral : dtype.Integral
  faithful : Faithful dtype bounds
  inMemory : InMemory bounds

theorem Portable.validBox (hp : Portable dtype bounds) (hbox : ValidBox shape dtype bounds numel) :
    ValidBox shape dtype (retype pack dtype bounds) numel :=
  { hbox with bounds := validBounds_retype hp.integral hbox.bounds hp.faithful hp.inMemory }

theorem accepted_retype (hp : BoxLeaves Portable spec) (h : Accepted spec) (path : String) :
    validateSpaceAt path (spec.mapBounds (retype pack)) = .ok () := by
  obtain ⟨path', h⟩ := h
  refine validateSpaceAt_mapBounds (fun shape dtype bounds hb _ _ hvalid => ?_) path h
  obtain ⟨numel, hbox⟩ := validateBoxAt_ok.1 hvalid
  exact validateBoxAt_ok.2 ⟨numel, (hp shape dtype bounds hb).validBox hbox⟩

theorem checkedSpec_retype (hp : BoxLeaves Portable spec) (h : Accepted spec) :
    checkedSpec (spec.mapBounds (retype pack)) = .ok (spec.mapBounds (retype pack)) := by
  rw [checkedSpec, validateSpace, accepted_retype hp h]

theorem spaceSpecsFromProto_toProto {spaces : List (SpaceSpec (Option Bounds))}
    (hc : ∀ child ∈ spaces, spaceSpecFromProto (spaceSpecToProto pack child) = .ok (child.mapBounds (retype pack))) :
    spaceSpecsFromProto (spaceSpecsToProto pack spaces) = .ok (mapBoundsAll (retype pack) spaces) := by
  induction spaces with
  | nil => rfl
  | cons child rest ih =>
    rw [spaceSpecsToProto, spaceSpecsFromProto, hc child List.mem_cons_self]
    change (spaceSpecsFromProto _ >>= _) = _
    rw [ih (fun other hother => hc other (List.mem_cons_of_mem _ hother))]
    rfl

theorem spaceSpecFromProto_box {bounds : Bounds} {received : Option Bounds}
    (h : (boxBoundsFromProto (boxBoundsToProto pack bounds dtype) dtype shape).map some = .ok received) :
    spaceSpecFromProto (spaceSpecToProto pack (.box shape dtype (some bounds))) =
      checkedSpec (.box shape dtype received) := by
  rw [spaceSpecToProto, spaceSpecFromProto, nativeDtypeFromProto_protoDtypeFromNative]
  change ((boxBoundsFromProto (boxBoundsToProto pack bounds dtype) dtype shape).map some >>= _) = _
  rw [h]
  rfl

theorem spaceSpecFromProto_toProto (hp : BoxLeaves Portable spec) (h : Accepted spec) :
    spaceSpecFromProto (spaceSpecToProto pack spec) = .ok (spec.mapBounds (retype pack)) := by
  have hchecked : checkedSpec (spec.mapBounds (retype pack)) = .ok (spec.mapBounds (retype pack)) :=
    checkedSpec_retype hp h
  induction spec using SpaceSpec.tree_induction with
  | leaf spec hleaf =>
    cases spec with
    | box shape dtype bounds =>
      obtain ⟨path, h⟩ := h
      obtain ⟨numel, hbox⟩ := validateBoxAt_ok.1 h
      have hport := hp shape dtype bounds List.mem_cons_self
      have hretyped : ValidBox shape dtype (retype pack dtype bounds) numel := hport.validBox hbox
      cases bounds with
      | none => cases hbox.bounds
      | some bounds => exact (spaceSpecFromProto_box (boxBoundsFromProto_toProto hport.integral hretyped)).trans hchecked
    | dict | tuple => cases hleaf
    | unspecified => obtain ⟨path, h⟩ := h; cases h
    | discrete | multiBinary | multiDiscrete | text =>
      rw [spaceSpecToProto, spaceSpecFromProto, nativeDtypeFromProto_protoDtypeFromNative]
      exact hchecked
  | dict shape dtype keys spaces ih =>
    obtain ⟨path, h⟩ := h
    obtain ⟨-, -, haccepted⟩ := accepted_children h
    have hc : ∀ child ∈ spaces, spaceSpecFromProto (spaceSpecToProto pack child) = .ok (child.mapBounds (retype pack)) :=
      fun child hm => ih child hm (BoxLeaves.child hp child hm) (haccepted child hm)
        (checkedSpec_retype (BoxLeaves.child hp child hm) (haccepted child hm))
    rw [spaceSpecToProto, spaceSpecFromProto, nativeDtypeFromProto_protoDtypeFromNative]
    change (spaceSpecsFromProto _ >>= _) = _
    rw [spaceSpecsFromProto_toProto hc]
    exact hchecked
  | tuple shape dtype spaces ih =>
    obtain ⟨path, h⟩ := h
    have haccepted := accepted_children h
    have hc : ∀ child ∈ spaces, spaceSpecFromProto (spaceSpecToProto pack child) = .ok (child.mapBounds (retype pack)) :=
      fun child hm => ih child hm (BoxLeaves.child hp child hm) (haccepted child hm)
        (checkedSpec_retype (BoxLeaves.child hp child hm) (haccepted child hm))
    rw [spaceSpecToProto, spaceSpecFromProto, nativeDtypeFromProto_protoDtypeFromNative]
    change (spaceSpecsFromProto _ >>= _) = _
    rw [spaceSpecsFromProto_toProto hc]
    exact hchecked

theorem conformBox_retype (hp : Portable dtype bounds) {path : String}
    (h : validateBoxAt shape dtype bounds path = .ok ()) (path' : String) (value : SpaceValue) :
    conformBox shape dtype (retype pack dtype bounds) path' value = .ok ↔
      conformBox shape dtype bounds path' value = .ok := by
  obtain ⟨numel, hbox⟩ := validateBoxAt_ok.1 h
  rw [conformBox_ok hp.integral hbox, conformBox_ok hp.integral (hp.validBox hbox)]
  refine exists_congr (fun tensor => and_congr_right (fun _ => and_congr_right (fun hshape => and_congr_right (fun hdtype => ?_))))
  have hlen : tensor.data.length = numel * dtypeSize dtype := by
    rw [Tensor.length_data (hshape ▸ hbox.counted), hdtype]
  exact inBounds_retype hp.integral hbox.bounds hp.faithful hlen

/-- A mask and two pixels, the pixels' bounds wider than a byte. -/
def maskedPixels : SpaceSpec (Option Bounds) :=
  .dict [] .unspecified ["mask", "pixels"]
    [.box [1] .bool (some (.uniform (.finite 0) (.finite 1))),
      .box [2] .uint8 (some (.elementwise [.finite (-5), .finite 0] [.finite 10, .finite 300]))]

/-- No float dtype is packed in the specs below. -/
def floatless : DType → Double → Bytes := fun _ _ => []

/-- A bool Box declared with the vacuous bounds -1 and 1. -/
def signedFlag : SpaceSpec (Option Bounds) := .box [1] .bool (some (.uniform (.finite (-1)) (.finite 1)))

/-- The value false of a one-element bool Box. -/
def unsetFlag : SpaceValue := .box { dtype := .bool, shape := [1], data := [0], sized := by decide }

end

end Rlmesh.Wire
