import Rlmesh.Spaces.Sample
/-!
# Samples are members

Element by element: what an integer element is drawn as, wrapped to its dtype,
lies between the element's thresholds. From there a Box tensor, every other leaf
and, by induction over the spec, every composite.
-/
open Rlmesh.Lib Rlmesh.Lib.Fallible

namespace Rlmesh.Spaces

variable {S : Type} {rng : Rng S} {pack : DType → Scalar → List UInt8} {dtype : DType}

theorem yields_randomRange {a b : Int} (h : a ≤ b) : Yields (randomRange rng a b) (fun v => a ≤ v ∧ v ≤ b) :=
  fun s => ⟨_, _, rfl, rng.within h s⟩

/-! ## Elements -/

/-- Edges between which every draw, wrapped to the dtype, still lies: both inside
the dtype or covering it. A `uint64` is drawn on `u64` above a low of zero, an
`int64` is clamped below one. -/
def Drawable (dtype : DType) (lo hi : Int) : Prop :=
  match dtype with
  | .uint64 => 0 ≤ lo ∨ u64Max ≤ hi
  | .int64 => hi ≤ i64Max ∨ lo < 0
  | _ => ((dtypeRange dtype).1 ≤ lo ∧ hi ≤ (dtypeRange dtype).2) ∨
      (lo ≤ (dtypeRange dtype).1 ∧ (dtypeRange dtype).2 ≤ hi)

theorem encodeScalar_int (hd : dtype.isInteger = true) (v : Int) :
    encodeScalar pack (.int v) dtype = intToLeBytes (dtypeSize dtype) v := by
  cases dtype <;> first | rfl | cases hd

theorem length_encodeScalar (hd : dtype.isInteger = true) (value : Scalar) :
    (encodeScalar pack value dtype).length = dtypeSize dtype := by
  cases dtype <;> first | exact length_intToLeBytes _ _ | cases hd

variable {v lo hi : Int} {bytes : List UInt8} {numel : Nat} {bounds : Option Bounds} {shape : List Int}
  {spaces : List (SpaceSpec (Option Bounds))}

theorem readInt_encodeScalar (hd : dtype.isInteger = true) (hlow : (dtypeRange dtype).1 ≤ v)
    (hhigh : v ≤ (dtypeRange dtype).2) : readInt dtype (encodeScalar pack (.int v) dtype) = v := by
  rw [encodeScalar_int hd, readInt_intToLeBytes hd hlow hhigh]

theorem readInt_encodeScalar_range (hd : dtype.isInteger = true) (v : Int) :
    (dtypeRange dtype).1 ≤ readInt dtype (encodeScalar pack (.int v) dtype) ∧
      readInt dtype (encodeScalar pack (.int v) dtype) ≤ (dtypeRange dtype).2 :=
  readInt_range (.inl hd) (length_encodeScalar hd _)

theorem encodeScalar_bmod (v : Int) : encodeScalar pack (.int (v.bmod (2 ^ 64))) .uint64 = encodeScalar pack (.int v) .uint64 := by
  rw [encodeScalar_int rfl, encodeScalar_int rfl, intToLeBytes, intToLeBytes]
  have hwrap : v.bmod (2 ^ 64) % ((256 ^ dtypeSize .uint64 : Nat) : Int) = v % ((256 ^ dtypeSize .uint64 : Nat) : Int) := by
    exact Int.bmod_emod
  rw [hwrap]

/-- Edges a draw can be made between. -/
structure Edges (dtype : DType) (lo hi : Int) : Prop where
  ordered : lo ≤ hi
  lowReached : lo ≤ (dtypeRange dtype).2
  highReached : (dtypeRange dtype).1 ≤ hi
  drawable : Drawable dtype lo hi

/-- The written element lies between the edges. -/
def Between (pack : DType → Scalar → List UInt8) (dtype : DType) (lo hi : Int) (value : Scalar) : Prop :=
  lo ≤ readInt dtype (encodeScalar pack value dtype) ∧ readInt dtype (encodeScalar pack value dtype) ≤ hi

theorem between_covered (hd : dtype.isInteger = true) (hlow : lo ≤ (dtypeRange dtype).1)
    (hhigh : (dtypeRange dtype).2 ≤ hi) (v : Int) : Between pack dtype lo hi (.int v) := by
  have hrange : (dtypeRange dtype).1 ≤ readInt dtype (encodeScalar pack (.int v) dtype) ∧ _ :=
    readInt_encodeScalar_range hd v
  exact ⟨hlow.trans hrange.1, hrange.2.trans hhigh⟩

theorem between_inside (hd : dtype.isInteger = true) (hmin : (dtypeRange dtype).1 ≤ v)
    (hmax : v ≤ (dtypeRange dtype).2) (hlow : lo ≤ v) (hhigh : v ≤ hi) : Between pack dtype lo hi (.int v) := by
  rw [Between, readInt_encodeScalar hd hmin hmax]
  exact ⟨hlow, hhigh⟩

theorem dtypeRange_i64 (hd : dtype.isInteger = true) (hwide : dtype ≠ .uint64) :
    i64Min ≤ (dtypeRange dtype).1 ∧ (dtypeRange dtype).2 ≤ i64Max := by
  cases dtype <;> first | decide | exact absurd rfl hwide

theorem between_unsigned (hd : dtype.isInteger = true) (h : Edges dtype lo hi) (hbig : i64Max < hi) (hlo : 0 ≤ lo)
    (hlow : min (min lo u64Max) (min hi u64Max) ≤ v) (hhigh : v ≤ min hi u64Max) :
    Between pack dtype lo hi (.int (v.bmod (2 ^ 64))) := by
  obtain ⟨hordered, hmax, hmin, hdraw⟩ := h
  cases dtype with
  | uint64 =>
    simp only [dtypeRange, intDtypeBounds, reduceCtorEq, if_false] at hmax
    simp only [u64Max] at hlow hhigh
    rw [Between, encodeScalar_bmod]
    have hv : 0 ≤ v ∧ v ≤ 2 ^ 64 - 1 := by omega
    rw [readInt_encodeScalar rfl hv.1 hv.2]
    omega
  | int64 =>
    simp only [Drawable, i64Max] at hdraw hbig
    omega
  | uint8 | uint16 | uint32 | int8 | int16 | int32 =>
    have hends := dtypeRange_i64 hd (by decide)
    rcases hdraw with ⟨_, _⟩ | ⟨hcover, hcover'⟩
    · omega
    · exact between_covered hd hcover hcover' _
  | _ => cases hd

theorem between_signed (hd : dtype.isInteger = true) (h : Edges dtype lo hi) (hsmall : ¬ (i64Max < hi ∧ 0 ≤ lo))
    (hlow : max i64Min (min lo i64Max) ≤ v) (hhigh : v ≤ max i64Min (min hi i64Max)) :
    Between pack dtype lo hi (.int v) := by
  obtain ⟨hordered, hmax, hmin, hdraw⟩ := h
  simp only [i64Min, i64Max] at hlow hhigh hsmall
  cases dtype with
  | uint64 =>
    simp only [Drawable, u64Max] at hdraw
    simp only [dtypeRange, intDtypeBounds, reduceCtorEq, if_false] at hmax hmin
    by_cases hneg : lo < 0
    · exact between_covered rfl (by simp only [dtypeRange, intDtypeBounds, reduceCtorEq, if_false]; omega)
        (by simp only [dtypeRange, intDtypeBounds, reduceCtorEq, if_false]; omega) v
    · refine between_inside rfl ?_ ?_ (by omega) (by omega)
      · simp only [dtypeRange, intDtypeBounds, reduceCtorEq, if_false]
        omega
      · simp only [dtypeRange, intDtypeBounds, reduceCtorEq, if_false]
        omega
  | int64 =>
    simp only [dtypeRange, intDtypeBounds, reduceCtorEq, if_false] at hmax hmin
    refine between_inside rfl ?_ ?_ (by omega) (by omega)
    · simp only [dtypeRange, intDtypeBounds, reduceCtorEq, if_false]
      omega
    · simp only [dtypeRange, intDtypeBounds, reduceCtorEq, if_false]
      omega
  | uint8 | uint16 | uint32 | int8 | int16 | int32 =>
    have hends := dtypeRange_i64 hd (by decide)
    simp only [i64Min, i64Max] at hends
    rcases hdraw with ⟨hinside, hinside'⟩ | ⟨hcover, hcover'⟩
    · exact between_inside hd (by omega) (by omega) (by omega) (by omega)
    · exact between_covered hd hcover hcover' v
  | _ => cases hd

theorem yields_sampleIntegerBoxScalar (hd : dtype.isInteger = true) {low high : IntEdge}
    (hlo : low.getD (integerDtypeBounds dtype).1 = lo) (hhi : high.getD (integerDtypeBounds dtype).2 = hi)
    (h : Edges dtype lo hi) : Yields (sampleIntegerBoxScalar rng low high dtype) (Between pack dtype lo hi) := by
  have hordered := h.ordered
  rw [sampleIntegerBoxScalar, hlo, hhi, if_neg (by omega)]
  split_ifs with hbig
  · refine (yields_randomRange (min_le_right _ _)).map (fun v hv => ?_)
    exact between_unsigned hd h hbig.1 hbig.2 hv.1 hv.2
  · refine (yields_randomRange (by omega)).map (fun v hv => ?_)
    exact between_signed hd h hbig hv.1 hv.2

/-! ## Edges and thresholds -/

/-- The doubles of a pair, as whole numbers, are drawable. -/
def DrawablePair (dtype : DType) (low high : Double) : Prop :=
  ∀ l h : Int, low = .finite l → high = .finite h → Drawable dtype l h

def DrawableBounds (dtype : DType) : Option Bounds → Prop
  | some (.uniform low high) => DrawablePair dtype low high
  | some (.elementwise low high) => ∀ pair ∈ low.zip high, DrawablePair dtype pair.1 pair.2
  | _ => True

/-- The edges of an element, open sides filled, can be drawn between and lie inside its thresholds. -/
structure EdgesOf (dtype : DType) (low high : IntEdge) (threshold : Int × Int) : Prop where
  edges : Edges dtype (low.getD (integerDtypeBounds dtype).1) (high.getD (integerDtypeBounds dtype).2)
  aboveLow : threshold.1 ≤ low.getD (integerDtypeBounds dtype).1
  belowHigh : high.getD (integerDtypeBounds dtype).2 ≤ threshold.2

theorem edgesOf_open (hd : dtype.isInteger = true) : EdgesOf dtype none none (intLow none dtype, intHigh none dtype) := by
  cases dtype with
  | uint8 | uint16 | uint32 | uint64 | int8 | int16 | int32 | int64 =>
    exact ⟨⟨by decide, by decide, by decide, by unfold Drawable; decide⟩, by decide, by decide⟩
  | _ => cases hd

theorem Drawable.clamp (hd : dtype.isInteger = true) {l h : Int} (hdraw : Drawable dtype l h) :
    Drawable dtype (max i128Min (min l i128Max)) (max i128Min (min h i128Max)) := by
  obtain ⟨hneg, hpos, hmin, hmax⟩ := dtypeRange_spans (.inl hd)
  simp only [i128Min, i128Max] at hmin hmax ⊢
  cases dtype with
  | uint64 =>
    simp only [Drawable, u64Max] at hdraw ⊢
    omega
  | int64 =>
    simp only [Drawable, i64Max] at hdraw ⊢
    omega
  | uint8 | uint16 | uint32 | int8 | int16 | int32 =>
    simp only [Drawable] at hdraw ⊢
    omega
  | _ => cases hd

theorem edgesOf_pair (hd : dtype.isInteger = true) {low high : Double} (hv : ValidPair dtype low high)
    (hdraw : DrawablePair dtype low high) :
    EdgesOf dtype (floatLowEdge low) (floatHighEdge high)
      (intLow (finiteFloat low) dtype, intHigh (finiteFloat high) dtype) := by
  obtain ⟨l, h, rfl, rfl, hordered, hl, hh⟩ := hv.whole hd
  obtain ⟨hneg, hpos, hmin, hmax⟩ := dtypeRange_spans (.inl hd)
  have hlow : floatLowEdge (.finite l) = some (intLow (finiteFloat (.finite l)) dtype) := rfl
  have hhigh : floatHighEdge (.finite h) = some (intHigh (finiteFloat (.finite h)) dtype) := rfl
  rw [hlow, hhigh, intLow_finite, intHigh_finite, Int.ceil_intCast, Int.floor_intCast]
  refine ⟨⟨?_, ?_, ?_, (hdraw l h rfl rfl).clamp hd⟩, Int.le_refl _, Int.le_refl _⟩
  · simp only [Option.getD_some]
    omega
  · simp only [Option.getD_some]
    omega
  · simp only [Option.getD_some]
    omega

theorem drawable_inside (hd : dtype.isInteger = true) (hmin : (dtypeRange dtype).1 ≤ lo)
    (hmax : hi ≤ (dtypeRange dtype).2) : Drawable dtype lo hi := by
  cases dtype with
  | uint64 => exact .inl hmin
  | int64 => exact .inl hmax
  | uint8 | uint16 | uint32 | int8 | int16 | int32 => exact .inl ⟨hmin, hmax⟩
  | _ => cases hd

theorem scalarToIntEdge_decodeScalar (hd : dtype.isInteger = true) {chunk : List UInt8}
    (hlen : chunk.length = dtypeSize dtype) : scalarToIntEdge (decodeScalar chunk dtype) dtype = readInt dtype chunk := by
  rw [← intScalar_decodeScalar (.inl hd) hlen]
  cases dtype <;> first | rfl | cases hd

theorem edgesOf_typed (hd : dtype.isInteger = true) {low high : List UInt8} (hlow : low.length = dtypeSize dtype)
    (hhigh : high.length = dtypeSize dtype)
    (hordered : scalarGt (decodeScalar low dtype) (decodeScalar high dtype) dtype = false) :
    EdgesOf dtype (some (scalarToIntEdge (decodeScalar low dtype) dtype))
      (some (scalarToIntEdge (decodeScalar high dtype) dtype)) (readInt dtype low, readInt dtype high) := by
  rw [scalarToIntEdge_decodeScalar hd hlow, scalarToIntEdge_decodeScalar hd hhigh]
  rw [scalarGt_decodeScalar (.inl hd) hlow hhigh, decide_eq_false_iff_not, Int.not_lt] at hordered
  obtain ⟨hmin, hmax⟩ := readInt_range (.inl hd) hlow
  obtain ⟨hmin', hmax'⟩ := readInt_range (.inl hd) hhigh
  exact ⟨⟨hordered, hmax, hmin', drawable_inside hd hmin hmax'⟩, Int.le_refl _, Int.le_refl _⟩

/-! ## Tensors -/

theorem elements_single (hd : dtype.isInteger = true) (hlen : bytes.length = 1 * dtypeSize dtype) :
    elements dtype bytes = [bytes] := by
  have hsize : 0 < dtypeSize dtype := DType.Integral.size_pos (.inl hd)
  rw [elements, hlen, Nat.mul_div_cancel _ hsize, chunks, chunks, List.take_of_length_le (by omega)]

theorem exists_element (hd : dtype.isInteger = true) {i : Nat} (hlen : bytes.length = numel * dtypeSize dtype)
    (hi : i < numel) : ∃ chunk, (elements dtype bytes)[i]? = some chunk ∧ chunk.length = dtypeSize dtype := by
  have hsize : 0 < dtypeSize dtype := DType.Integral.size_pos (.inl hd)
  have hi' : i < (elements dtype bytes).length := by rwa [length_elements hsize hlen]
  exact ⟨_, List.getElem?_eq_getElem hi', length_of_mem_elements hsize hlen (List.getElem_mem hi')⟩

theorem typedEdge_ok (hd : dtype.isInteger = true) (hlen : bytes.length = 1 * dtypeSize dtype) :
    typedEdge bytes dtype = some (scalarToIntEdge (decodeScalar bytes dtype) dtype) := by
  rw [typedEdge, decodeScalars_whole (DType.Integral.concrete (.inl hd)) hlen, elements_single hd hlen]
  rfl

theorem typedEdges_ok (hd : dtype.isInteger = true) (hlen : bytes.length = numel * dtypeSize dtype) :
    typedEdges bytes numel dtype =
      (elements dtype bytes).map (fun chunk => some (scalarToIntEdge (decodeScalar chunk dtype) dtype)) := by
  rw [typedEdges, decodeScalars_whole (DType.Integral.concrete (.inl hd)) hlen]
  dsimp only
  rw [if_pos (by rw [List.length_map, length_elements (DType.Integral.size_pos (.inl hd)) hlen]), List.map_map]
  rfl

theorem integerBoxBounds_ok (hd : dtype.isInteger = true) (hv : ValidBounds dtype numel bounds)
    (hdraw : DrawableBounds dtype bounds) {i : Nat} (hi : i < numel) :
    ∃ low high, (integerBoxBounds bounds numel dtype).1[i]? = some low ∧
      (integerBoxBounds bounds numel dtype).2[i]? = some high ∧ EdgesOf dtype low high (thresholds bounds dtype i) := by
  rcases bounds with _ | ⟨flag⟩ | ⟨low, high⟩ | ⟨low, high⟩ | ⟨low, high⟩ | ⟨low, high⟩
  · cases hv
  · exact ⟨none, none, List.getElem?_replicate_of_lt hi, List.getElem?_replicate_of_lt hi, edgesOf_open hd⟩
  · exact ⟨_, _, List.getElem?_replicate_of_lt hi, List.getElem?_replicate_of_lt hi, edgesOf_pair hd hv hdraw⟩
  · obtain ⟨hlens, hcount, hpairs⟩ := hv
    have hlow : low[i]? = some low[i] := List.getElem?_eq_getElem (by omega)
    have hhigh : high[i]? = some high[i] := List.getElem?_eq_getElem (by omega)
    have hmem : (low[i], high[i]) ∈ low.zip high :=
      List.mem_of_getElem? (i := i) (List.getElem?_zip_eq_some.2 ⟨hlow, hhigh⟩)
    refine ⟨floatLowEdge low[i], floatHighEdge high[i], ?_, ?_, ?_⟩
    · rw [integerBoxBounds, floatEdges, if_pos hcount, List.getElem?_map, hlow]
      rfl
    · rw [integerBoxBounds]
      dsimp only
      rw [floatEdges, if_pos (by omega), List.getElem?_map, hhigh]
      rfl
    · rw [thresholds, hlow, hhigh]
      exact edgesOf_pair hd (hpairs _ hmem) (hdraw _ hmem)
  · have hlow : low.length = dtypeSize dtype := by rw [hv.lowLength, Nat.one_mul]
    have hhigh : high.length = dtypeSize dtype := by rw [hv.highLength, Nat.one_mul]
    have hordered := hv.ordered (decodeScalar low dtype, decodeScalar high dtype)
      (by rw [elements_single hd hv.lowLength, elements_single hd hv.highLength]; exact List.mem_cons_self)
    refine ⟨_, _, List.getElem?_replicate_of_lt hi, List.getElem?_replicate_of_lt hi, ?_⟩
    rw [typedEdge_ok hd hv.lowLength, typedEdge_ok hd hv.highLength]
    exact edgesOf_typed hd hlow hhigh hordered.2.2
  · obtain ⟨first, hfirst, hlow⟩ := exists_element hd hv.lowLength hi
    obtain ⟨second, hsecond, hhigh⟩ := exists_element hd hv.highLength hi
    have hmem : (decodeScalar first dtype, decodeScalar second dtype) ∈
        ((elements dtype low).map (decodeScalar · dtype)).zip ((elements dtype high).map (decodeScalar · dtype)) := by
      refine List.mem_of_getElem? (i := i) (List.getElem?_zip_eq_some.2 ⟨?_, ?_⟩)
      · rw [List.getElem?_map, hfirst]
        rfl
      · rw [List.getElem?_map, hsecond]
        rfl
    refine ⟨some (scalarToIntEdge (decodeScalar first dtype) dtype), some (scalarToIntEdge (decodeScalar second dtype) dtype),
      ?_, ?_, ?_⟩
    · rw [integerBoxBounds, typedEdges_ok hd hv.lowLength, List.getElem?_map, hfirst]
      rfl
    · rw [integerBoxBounds]
      dsimp only
      rw [typedEdges_ok hd hv.highLength, List.getElem?_map, hsecond]
      rfl
    · rw [thresholds, hfirst, hsecond]
      exact edgesOf_typed hd hlow hhigh (hv.ordered _ hmem).2.2

theorem length_integerBoxBounds (hd : dtype.isInteger = true) (hv : ValidBounds dtype numel bounds) :
    (integerBoxBounds bounds numel dtype).1.length = numel ∧ (integerBoxBounds bounds numel dtype).2.length = numel := by
  rcases bounds with _ | ⟨flag⟩ | ⟨low, high⟩ | ⟨low, high⟩ | ⟨low, high⟩ | ⟨low, high⟩
  · cases hv
  · exact ⟨List.length_replicate, List.length_replicate⟩
  · exact ⟨List.length_replicate, List.length_replicate⟩
  · obtain ⟨hlens, hcount, -⟩ := hv
    rw [integerBoxBounds]
    dsimp only
    rw [floatEdges, floatEdges, if_pos hcount, if_pos (by omega), List.length_map, List.length_map]
    exact ⟨hcount, by omega⟩
  · exact ⟨List.length_replicate, List.length_replicate⟩
  · have hsize : 0 < dtypeSize dtype := DType.Integral.size_pos (.inl hd)
    rw [integerBoxBounds]
    dsimp only
    rw [typedEdges_ok hd hv.lowLength, typedEdges_ok hd hv.highLength, List.length_map, List.length_map]
    exact ⟨length_elements hsize hv.lowLength, length_elements hsize hv.highLength⟩

theorem numelOf_ok (hpositive : ∀ dim ∈ shape, 0 < dim) (h : shapeNumel shape = some numel) :
    numelOf shape = numel ∧ 0 < numel := by
  have hfold : ∀ acc : Nat, 0 < acc →
      shape.foldlM (fun acc dim => if dim < 0 then none else checkedMul acc dim.toNat) acc = some numel →
      shape.foldl (fun acc dim => acc * (dim % 2 ^ 64).toNat % 2 ^ 64) acc = numel ∧ 0 < numel := by
    clear h
    induction shape with
    | nil =>
      intro acc hacc h
      cases h
      exact ⟨rfl, hacc⟩
    | cons dim rest ih =>
      intro acc hacc h
      have hdim : 0 < dim := hpositive dim List.mem_cons_self
      rw [List.foldlM_cons, if_neg (by omega), checkedMul] at h
      split_ifs at h with hfits
      · have hproduct : 0 < acc * dim.toNat := Nat.mul_pos hacc (by omega)
        have hsmall : dim.toNat < 2 ^ 64 := lt_of_le_of_lt (Nat.le_mul_of_pos_left _ hacc) hfits
        have hmod : dim % 2 ^ 64 = dim := Int.emod_eq_of_lt (by omega) (by omega)
        rw [List.foldl_cons, hmod, Nat.mod_eq_of_lt hfits]
        exact ih (fun other hother => hpositive other (List.mem_cons_of_mem _ hother)) _ hproduct h
      · cases h
  exact hfold 1 Nat.one_pos h

theorem checkedNumel_of_shapeNumel (h : shapeNumel shape = some numel) : checkedNumel shape = .ok numel := by
  unfold shapeNumel at h
  unfold checkedNumel
  generalize (1 : Nat) = acc at h ⊢
  induction shape generalizing acc with
  | nil => exact congrArg Except.ok (Option.some.inj h)
  | cons dim rest ih =>
    rw [List.foldlM_cons] at h ⊢
    by_cases hdim : dim < 0
    · rw [if_pos hdim] at h
      cases h
    · rw [if_neg hdim] at h ⊢
      cases hmul : checkedMul acc dim.toNat with
      | none => rw [hmul] at h; cases h
      | some product =>
        rw [hmul] at h
        exact ih product h

theorem Tensor.fromSlice_sized {data : List UInt8} (hd : dtype ≠ .unspecified)
    (hcounted : shapeNumel shape = some numel) (hfits : numel * dtypeSize dtype < 2 ^ 64)
    (hlen : data.length = numel * dtypeSize dtype) : ∃ tensor, Tensor.fromSlice data shape dtype = .ok tensor := by
  have hsized : checkedNbytes shape dtype = .ok data.length := by
    rw [checkedNbytes, if_neg hd, checkedNumel_of_shapeNumel hcounted]
    dsimp only
    rw [checkedMul, if_pos hfits, hlen]
  exact ⟨_, Tensor.fromSlice_self { dtype, shape, data, sized := hsized }⟩

/-- As many scalars as elements; each, written, lies between its element's thresholds. -/
structure WithinThresholds (pack : DType → Scalar → List UInt8) (bounds : Option Bounds) (dtype : DType) (numel : Nat)
    (scalars : List Scalar) : Prop where
  counted : scalars.length = numel
  between : ∀ i value, scalars[i]? = some value →
    Between pack dtype (thresholds bounds dtype i).1 (thresholds bounds dtype i).2 value

theorem yields_sampleScalars (hd : dtype.isInteger = true) (hbox : ValidBox shape dtype bounds numel)
    (hdraw : DrawableBounds dtype bounds) :
    Yields (sampleScalars rng shape dtype bounds) (WithinThresholds pack bounds dtype numel) := by
  obtain ⟨hnumel, hpos⟩ := numelOf_ok hbox.positive hbox.counted
  have hmax : max numel 1 = numel := Nat.max_eq_left hpos
  obtain ⟨hlows, hhighs⟩ := length_integerBoxBounds hd hbox.bounds
  set lows := (integerBoxBounds bounds numel dtype).1 with hlowsdef
  set highs := (integerBoxBounds bounds numel dtype).2 with hhighsdef
  have htake : (lows.zip highs).take numel = lows.zip highs :=
    List.take_of_length_le (by rw [List.length_zip, hlows, hhighs, Nat.min_self])
  have hedges : ∀ i edges, (lows.zip highs)[i]? = some edges → EdgesOf dtype edges.1 edges.2 (thresholds bounds dtype i) := by
    intro i edges hi
    obtain ⟨hlow, hhigh⟩ := List.getElem?_zip_eq_some.1 hi
    have hlt : i < numel := hlows ▸ (List.getElem?_eq_some_iff.1 hlow).1
    obtain ⟨low, high, hlow', hhigh', h⟩ := integerBoxBounds_ok hd hbox.bounds hdraw hlt
    rw [← hlowsdef, hlow] at hlow'
    rw [← hhighsdef, hhigh] at hhigh'
    cases hlow'
    cases hhigh'
    exact h
  have hdrawn : Yields ((lows.zip highs).mapM (fun edges => sampleIntegerBoxScalar rng edges.1 edges.2 dtype))
      (List.Forall₂ (fun edges value => Between pack dtype (edges.1.getD (integerDtypeBounds dtype).1)
        (edges.2.getD (integerDtypeBounds dtype).2) value) (lows.zip highs)) := by
    refine yields_mapM (fun edges hmem => ?_)
    obtain ⟨i, hi⟩ := List.getElem?_of_mem hmem
    exact yields_sampleIntegerBoxScalar hd rfl rfl (hedges i edges hi).edges
  rw [sampleScalars, hnumel, hmax, if_pos hd]
  change Yields (((lows.zip highs).take numel).mapM _) _
  rw [htake]
  intro s
  obtain ⟨scalars, s', hrun, hall⟩ := hdrawn s
  refine ⟨scalars, s', hrun, ⟨?_, fun i value hi => ?_⟩⟩
  · rw [← hall.length_eq, List.length_zip, hlows, hhighs, Nat.min_self]
  · obtain ⟨edges, hedge, hbetween⟩ := forall₂_getElem? hall.flip hi
    have h := hedges i edges hedge
    exact ⟨h.aboveLow.trans hbetween.1, hbetween.2.trans h.belowHigh⟩

theorem elements_encodeScalars (hd : dtype.isInteger = true) (scalars : List Scalar) :
    elements dtype (scalars.flatMap (encodeScalar pack · dtype)) = scalars.map (encodeScalar pack · dtype) ∧
      (scalars.flatMap (encodeScalar pack · dtype)).length = scalars.length * dtypeSize dtype := by
  have hpieces : ∀ piece ∈ scalars.map (encodeScalar pack · dtype), piece.length = dtypeSize dtype := by
    intro piece hp
    obtain ⟨value, -, rfl⟩ := List.mem_map.1 hp
    exact length_encodeScalar hd value
  have hflat : scalars.flatMap (encodeScalar pack · dtype) = (scalars.map (encodeScalar pack · dtype)).flatten := rfl
  have hlen := length_flatten_of_pieces hpieces
  refine ⟨?_, by rw [hflat, hlen, List.length_map, Nat.mul_comm]⟩
  rw [elements, hflat, hlen, Nat.mul_div_cancel_left _ (DType.Integral.size_pos (.inl hd))]
  exact chunks_flatten hpieces

theorem yields_sampleBox (hd : dtype.isInteger = true) (hbox : ValidBox shape dtype bounds numel)
    (hdraw : DrawableBounds dtype bounds) (hfits : numel * dtypeSize dtype < 2 ^ 64) :
    Yields (sampleBox rng pack shape dtype bounds)
      (fun tensor => ∀ path, conformBox shape dtype bounds path (.box tensor) = .ok) := by
  have hnormal : normalizeDtype dtype = dtype := by cases dtype <;> first | rfl | cases hd
  rw [sampleBox]
  have hdrawn : Yields (sampleScalars rng shape dtype bounds) (WithinThresholds pack bounds dtype numel) :=
    yields_sampleScalars hd hbox hdraw
  refine hdrawn.bind (fun scalars hscalars => ?_)
  obtain ⟨helements, hlen⟩ :
      elements dtype (scalars.flatMap (encodeScalar pack · dtype)) = scalars.map (encodeScalar pack · dtype) ∧ _ :=
    elements_encodeScalars hd scalars
  rw [hscalars.counted] at hlen
  obtain ⟨tensor, htensor⟩ := Tensor.fromSlice_sized hbox.concrete hbox.counted hfits hlen
  obtain ⟨hdata, hshape, hdtype⟩ := Tensor.fromSlice_ok htensor
  rw [hnormal]
  intro s
  refine ⟨tensor, s, ?_, fun path => (conformBox_ok (.inl hd) hbox).2 ⟨tensor, rfl, hshape, hdtype, ?_⟩⟩
  · rw [exec_ofResult, htensor]
    rfl
  · intro i chunk hchunk
    rw [hdata, helements, List.getElem?_map] at hchunk
    obtain ⟨value, hvalue, rfl⟩ := Option.map_eq_some_iff.1 hchunk
    exact hscalars.between i value hvalue

/-! ## Leaves -/

theorem containsDiscrete_drawn {n start : Int} (hlow : start ≤ v) (hhigh : v ≤ start + (n - 1)) (path : String) :
    containsDiscrete n start path (.discrete v) = .ok := by
  rw [containsDiscrete, if_pos (by omega)]

theorem yields_sampleDiscrete {n start : Int} (hv : ValidDiscrete shape dtype n start) :
    Yields (sampleDiscrete rng n start) (fun v => start ≤ v ∧ v ≤ start + (n - 1)) := by
  have hpositive := hv.positive
  have hlast := hv.last
  rw [sampleDiscrete, if_neg (by omega), if_neg (by rw [i64Max]; omega)]
  exact yields_randomRange (by omega)

theorem yields_sampleMultiBinary (hv : ValidMultiBinary shape dtype) (hcounted : shapeNumel shape = some numel) :
    Yields (sampleMultiBinary rng shape) (fun flags => flags.length = numel) := by
  rw [sampleMultiBinary, (numelOf_ok hv.positive hcounted).1]
  have hflag : ∀ i ∈ List.range numel, Yields (randomFlag rng) (fun _ => True) := fun _ _ s => ⟨_, _, rfl, trivial⟩
  intro s
  obtain ⟨flags, s', hrun, hall⟩ := yields_mapM hflag s
  exact ⟨flags, s', hrun, hall.length_eq.symm.trans List.length_range⟩

theorem badCategory_drawn {vals nvec : List Int} (h : List.Forall₂ (fun n v => 0 ≤ v ∧ v ≤ n - 1) nvec vals) (i : Nat) :
    badCategory i vals nvec = none := by
  induction h generalizing i with
  | nil => rfl
  | cons hv _ ih =>
    rw [badCategory, if_neg (by omega)]
    exact ih (i + 1)

theorem yields_sampleMultiDiscrete {nvec : List Int} (hv : ValidMultiDiscrete shape dtype nvec) :
    Yields (sampleMultiDiscrete rng nvec) (List.Forall₂ (fun n v => 0 ≤ v ∧ v ≤ n - 1) nvec) := by
  refine yields_mapM (fun n hn => ?_)
  have hpositive := (hv.categories n hn).1
  rw [if_neg (by omega)]
  exact yields_randomRange (by omega)

theorem yields_sampleChar {chars : List Char} (h : chars ≠ []) : Yields (sampleChar rng chars) (· ∈ chars) := by
  have hlen : 0 < chars.length := List.length_pos_of_ne_nil h
  refine (yields_randomRange (by omega)).map (fun i hi => ?_)
  have hlt : i.toNat < chars.length := by omega
  rw [List.getElem?_eq_getElem hlt]
  exact List.getElem_mem hlt

theorem yields_sampleText {minLength maxLength : Int} (charset : String)
    (hv : ValidText shape dtype minLength maxLength) :
    Yields (sampleText rng minLength maxLength charset) (fun text => minLength ≤ text.length ∧ text.length ≤ maxLength ∧
      (charset.isEmpty = false → ∀ c ∈ text.toList, c ∈ charset.toList)) := by
  have hnonneg := hv.nonneg
  have hordered := hv.ordered
  set chars := if charset.isEmpty then printableAscii.toList else charset.toList with hchars
  have hne : chars ≠ [] := by
    rw [hchars]
    split_ifs with hempty
    · decide
    · intro hnil
      exact hempty (by simpa using hnil)
  have hlength : Yields (sampleLength rng minLength maxLength)
      (fun length => minLength ≤ length ∧ length ≤ maxLength) := by
    rw [sampleLength]
    split_ifs with hle
    · exact yields_pure ⟨Int.le_refl _, hordered⟩
    · exact yields_randomRange hordered
  rw [sampleText]
  refine hlength.bind (fun length hlen => ?_)
  have hdrawn : Yields ((List.range length.toNat).mapM (fun _ => sampleChar rng chars))
      (List.Forall₂ (fun _ c => c ∈ chars) (List.range length.toNat)) := yields_mapM (fun _ _ => yields_sampleChar hne)
  refine hdrawn.map (fun drawn hall => ?_)
  have hcount : drawn.length = length.toNat := by rw [← hall.length_eq, List.length_range]
  rw [String.length_ofList, String.toList_ofList, hcount]
  refine ⟨by omega, by omega, fun hcharset c hc => ?_⟩
  obtain ⟨_, -, hmem⟩ := forall₂_mem_right hall hc
  rwa [hchars, hcharset, if_neg Bool.false_ne_true] at hmem

theorem conformText_drawn {minLength maxLength : Int} {charset text : String} (hlow : minLength ≤ text.length)
    (hhigh : text.length ≤ maxLength) (hchars : charset.isEmpty = false → ∀ c ∈ text.toList, c ∈ charset.toList)
    (path : String) : conformText minLength maxLength charset path (.text text) = .ok := by
  rw [conformText, if_neg (by omega), if_neg (by omega)]
  split_ifs with hempty
  · rfl
  · have hfind : text.toList.find? (fun c => !charset.toList.contains c) = none :=
      List.find?_eq_none.2 (fun c hc => by simp [hchars (by simpa using hempty) c hc])
    rw [hfind]

/-! ## Spaces -/

/-- What a leaf spec asks for so that every sample is a member: drawable edges,
and an element count and byte count that fit `usize`. -/
def Samplable : SpaceSpec (Option Bounds) → Prop
  | .box shape dtype bounds =>
    DrawableBounds dtype bounds ∧ ∀ numel, shapeNumel shape = some numel → numel * dtypeSize dtype < 2 ^ 64
  | .multiBinary shape _ => ∃ numel, shapeNumel shape = some numel
  | _ => True

/-- The space admits the value, wherever it stands. -/
def Member (spec : SpaceSpec (Option Bounds)) (value : SpaceValue) : Prop := ∀ path, conformAt path spec value = .ok

theorem yields_leaf {spec : SpaceSpec (Option Bounds)} (hleaf : spec.isLeaf = true) (haccepted : Accepted spec)
    (hd : BoxLeaves (fun dtype _ => dtype.isInteger = true) spec) (hs : Samplable spec) :
    Yields (sampleWith rng pack spec) (Member spec) := by
  obtain ⟨path, h⟩ := haccepted
  cases spec with
  | box shape dtype bounds =>
    obtain ⟨numel, hbox⟩ := validateBoxAt_ok.1 h
    have hint := hd shape dtype bounds List.mem_cons_self
    exact (yields_sampleBox hint hbox hs.1 (hs.2 numel hbox.counted)).map (fun tensor ht => ht)
  | discrete shape dtype n start =>
    exact (yields_sampleDiscrete (validateDiscreteAt_ok.1 h)).map (fun v hv => containsDiscrete_drawn hv.1 hv.2)
  | multiBinary shape dtype =>
    obtain ⟨numel, hcounted⟩ := hs
    refine (yields_sampleMultiBinary (validateMultibinaryAt_ok.1 h) hcounted).map (fun flags hlen path => ?_)
    rw [conformAt, containsMultibinary, hcounted]
    exact if_neg (not_not.2 hlen)
  | multiDiscrete shape dtype nvec =>
    refine (yields_sampleMultiDiscrete (validateMultidiscreteAt_ok.1 h)).map (fun vals hall path => ?_)
    rw [conformAt, containsMultidiscrete, if_neg (not_not.2 hall.length_eq.symm), badCategory_drawn hall]
  | text shape dtype minLength maxLength charset =>
    exact (yields_sampleText charset (validateTextAt_ok.1 h)).map
      (fun text ht => conformText_drawn ht.1 ht.2.1 ht.2.2)
  | unspecified shape dtype => cases h
  | dict | tuple => cases hleaf

theorem yields_sampleItems (hc : ∀ child ∈ spaces, Yields (sampleWith rng pack child) (Member child)) :
    Yields (sampleItems rng pack spaces) (List.Forall₂ Member spaces) := by
  induction spaces with
  | nil =>
    rw [sampleItems]
    exact yields_pure .nil
  | cons child rest ih =>
    rw [sampleItems]
    refine (hc child List.mem_cons_self).bind (fun value hv => ?_)
    exact (ih (fun other hother => hc other (List.mem_cons_of_mem _ hother))).map (fun items hi => .cons hv hi)

theorem yields_sampleFields (hc : ∀ child ∈ spaces, Yields (sampleWith rng pack child) (Member child))
    {keys : List String} (hlen : keys.length = spaces.length) (entries : List (String × SpaceValue)) :
    Yields (sampleFields rng pack entries keys spaces) (fun fields => ∃ values, List.Forall₂ Member spaces values ∧
      fields = insertAll (keys.zip values) entries) := by
  induction spaces generalizing keys entries with
  | nil =>
    cases List.length_eq_zero_iff.1 hlen
    rw [sampleFields]
    · exact yields_pure ⟨[], .nil, rfl⟩
    · simp
  | cons child rest ih =>
    cases keys with
    | nil => cases hlen
    | cons key keys =>
      rw [sampleFields]
      refine (hc child List.mem_cons_self).bind (fun value hv => ?_)
      have hrest := ih (fun other hother => hc other (List.mem_cons_of_mem _ hother)) (Nat.succ.inj hlen)
        (insertKey key value entries)
      intro s
      obtain ⟨fields, s', hrun, values, hvalues, hfields⟩ := hrest s
      exact ⟨fields, s', hrun, value :: values, .cons hv hvalues, hfields⟩

theorem conformItems_members {items : List SpaceValue} (h : List.Forall₂ Member spaces items) (path : String)
    (i : Nat) : conformItems path i none spaces items = .ok none := by
  induction h generalizing i with
  | nil => rfl
  | cons hv _ ih => exact conformItems_cons.2 ⟨hv _, ih (i + 1)⟩

theorem conformFields_members {values : List SpaceValue} (h : List.Forall₂ Member spaces values) {keys : List String}
    {entries : List (String × SpaceValue)}
    (hkeys : List.Forall₂ (fun key value => entries.lookup key = some value) keys values) (path : String) :
    conformFields path entries none keys spaces = .ok none := by
  induction h generalizing keys with
  | nil => cases hkeys; rfl
  | cons hv _ ih =>
    cases hkeys with
    | cons hkey hkeys => exact conformFields_cons.2 ⟨⟨_, hkey, hv _⟩, ih hkeys⟩

theorem yields_sampleWith {spec : SpaceSpec (Option Bounds)} (haccepted : Accepted spec)
    (hd : BoxLeaves (fun dtype _ => dtype.isInteger = true) spec) (hs : ∀ leaf ∈ leafSpecs spec, Samplable leaf) :
    Yields (sampleWith rng pack spec) (Member spec) := by
  induction spec using SpaceSpec.tree_induction with
  | leaf spec hleaf => exact yields_leaf hleaf haccepted hd (hs spec (by rw [leafSpecs_leaf hleaf]; exact List.mem_cons_self))
  | dict shape dtype keys spaces ih =>
    obtain ⟨path, h⟩ := haccepted
    obtain ⟨hlen, hn, hchildren⟩ := accepted_children h
    have hc : ∀ child ∈ spaces, Yields (sampleWith rng pack child) (Member child) := fun child hm =>
      ih child hm (hchildren child hm) (BoxLeaves.child hd child hm) (fun leaf hl => hs leaf (leafSpecs_of_child hm hl))
    rw [sampleWith]
    refine (yields_sampleFields hc hlen []).map (fun fields hfields path => ?_)
    obtain ⟨values, hvalues, rfl⟩ := hfields
    have hkeys := lookups_insertAll hn (hlen.trans hvalues.length_eq)
    refine conformAt_dict.2 ⟨conformFields_members hvalues hkeys path, List.find?_eq_none.2 (fun entry hentry => ?_)⟩
    -- only declared keys were inserted
    rcases mem_insertAll hentry with hentry | hentry
    · simpa using (List.of_mem_zip hentry).1
    · cases hentry
  | tuple shape dtype spaces ih =>
    obtain ⟨path, h⟩ := haccepted
    have hchildren := accepted_children h
    have hc : ∀ child ∈ spaces, Yields (sampleWith rng pack child) (Member child) := fun child hm =>
      ih child hm (hchildren child hm) (BoxLeaves.child hd child hm) (fun leaf hl => hs leaf (leafSpecs_of_child hm hl))
    rw [sampleWith]
    refine (yields_sampleItems hc).map (fun items hitems path => ?_)
    exact conformAt_tuple.2 ⟨hitems.length_eq.symm, conformItems_members hitems path 0⟩

/-- The generator that draws the least number of every range. -/
def leastRng : Rng Unit where
  range a _ _ := (a, ())
  within h _ := ⟨Int.le_refl _, h⟩
  flag _ := (false, ())
  continuous low _ _ := (low, ())

/-- No float dtype is packed in the specs below. -/
def packNothing : DType → Scalar → List UInt8 := fun _ _ => []

/-- A choice and a pair of bytes, the bytes' bounds vacuous on both sides. -/
def choiceAndBytes : SpaceSpec (Option Bounds) :=
  .tuple [] .unspecified
    [.discrete [] .int64 3 (-1), .box [2] .uint8 (some (.uniform (.finite (-1)) (.finite 300)))]

/-- A byte declared from -1 to 10. -/
def smallByte : SpaceSpec (Option Bounds) := .box [1] .uint8 (some (.uniform (.finite (-1)) (.finite 10)))

end Rlmesh.Spaces
