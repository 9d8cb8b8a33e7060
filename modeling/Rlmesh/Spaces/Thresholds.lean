import Rlmesh.Lib.Results
import Rlmesh.Spaces.Accepted
import Rlmesh.Spaces.Bounds
/-!
# Bounds as thresholds

What it takes for bounds to be well formed, form by form, and what a scan for an
integer or bool dtype decides: every element lies between the two thresholds its
bounds come down to.
-/
open Rlmesh.Lib

namespace Rlmesh.Spaces

/-! ## Well-formed bounds -/

/-- A float-form bound of an integer dtype: a whole number that no cast would turn into another bound. -/
def WholeBound (dtype : DType) (side : BoundSide) (value : Double) : Prop :=
  ∃ n : Int, value = .finite n ∧ match side with
    | .low => n < (intDtypeBounds dtype).2
    | .high => (intDtypeBounds dtype).1 ≤ n

structure ValidPair (dtype : DType) (low high : Double) : Prop where
  lowNumber : low.isNan = false
  highNumber : high.isNan = false
  ordered : low.gt high = false
  wholeLow : dtype.isInteger = true → WholeBound dtype .low low
  wholeHigh : dtype.isInteger = true → WholeBound dtype .high high

/-- The bytes hold `count` pairs of scalars, none inverted and none NaN. -/
structure ValidTyped (low high : List UInt8) (count : Nat) (dtype : DType) : Prop where
  concrete : dtype ≠ .unspecified
  fits : count * dtypeSize dtype < 2 ^ 64
  lowLength : low.length = count * dtypeSize dtype
  highLength : high.length = count * dtypeSize dtype
  ordered : ∀ pair ∈ ((elements dtype low).map (decodeScalar · dtype)).zip
    ((elements dtype high).map (decodeScalar · dtype)),
    pair.1.isNan = false ∧ pair.2.isNan = false ∧ scalarGt pair.1 pair.2 dtype = false

def ValidBounds (dtype : DType) (numel : Nat) : Option Bounds → Prop
  | none => False
  | some (.unbounded _) => True
  | some (.uniform low high) => ValidPair dtype low high
  | some (.elementwise low high) =>
    low.length = high.length ∧ low.length = numel ∧ ∀ pair ∈ low.zip high, ValidPair dtype pair.1 pair.2
  | some (.typedUniform low high) => ValidTyped low high 1 dtype
  | some (.typedElementwise low high) => ValidTyped low high numel dtype

variable {q : Rat} {dtype : DType} {path : String} {i count numel : Nat} {bounds : Option Bounds}
  {chunk data : List UInt8}

theorem rat_of_den_one (h : q.den = 1) : q = (q.num : Int) := (Rat.den_eq_one_iff q).1 h |>.symm

theorem changesAdmittedSet_false {n : Int} {side : BoundSide} :
    changesAdmittedSet dtype n side = false ↔ match side with
      | .low => n < (intDtypeBounds dtype).2
      | .high => (intDtypeBounds dtype).1 ≤ n := by
  cases side with
  | low => rw [changesAdmittedSet, decide_eq_false_iff_not, Int.cast_le, Int.not_le]
  | high => rw [changesAdmittedSet, decide_eq_false_iff_not, Int.cast_lt, Int.not_lt]

theorem rejectNonIntegralIntBound_ok {value : Double} {side : BoundSide} :
    rejectNonIntegralIntBound dtype value side path = .ok () ↔
      (dtype.isInteger = true → WholeBound dtype side value) := by
  unfold rejectNonIntegralIntBound
  by_cases hd : dtype.isInteger = true
  · simp only [hd, Bool.not_true, Bool.false_eq_true, if_false, true_imp_iff]
    cases value with
    | finite q =>
      dsimp only
      by_cases hq : q.den = 1
      · rw [if_neg (not_not.2 hq)]
        rw [rat_of_den_one hq]
        cases hside : changesAdmittedSet dtype (q.num : Rat) side with
        | true =>
          refine ⟨(fun h => by cases h), ?_⟩
          rintro ⟨n, hn, hbound⟩
          cases Int.cast_inj.1 (Double.finite.inj hn)
          rw [changesAdmittedSet_false.2 hbound] at hside
          cases hside
        | false => exact ⟨fun _ => ⟨q.num, rfl, changesAdmittedSet_false.1 hside⟩, fun _ => rfl⟩
      · rw [if_pos hq]
        refine ⟨(fun h => by cases h), ?_⟩
        rintro ⟨n, hn, -⟩
        cases hn
        exact absurd (Rat.den_intCast n) hq
    | posInf | negInf | nan =>
      refine ⟨(fun h => by cases h), ?_⟩
      rintro ⟨n, hn, -⟩
      cases hn
  · simp [hd]

theorem validatePair_ok {low high : Double} {nan inverted : String} :
    validatePair dtype low high nan inverted path = .ok () ↔ ValidPair dtype low high := by
  unfold validatePair
  constructor
  · intro h
    cases hnan : (low.isNan || high.isNan) with
    | true => rw [hnan] at h; cases h
    | false =>
      rw [Bool.or_eq_false_iff] at hnan
      rw [hnan.1, hnan.2] at h
      cases hgt : low.gt high with
      | true => rw [hgt] at h; cases h
      | false =>
        rw [hgt] at h
        obtain ⟨⟨⟩, hlow, hhigh⟩ := bind_ok.1 h
        exact ⟨hnan.1, hnan.2, hgt, rejectNonIntegralIntBound_ok.1 hlow, rejectNonIntegralIntBound_ok.1 hhigh⟩
  · intro h
    rw [h.lowNumber, h.highNumber, h.ordered]
    exact bind_ok.2 ⟨(), rejectNonIntegralIntBound_ok.2 h.wholeLow, rejectNonIntegralIntBound_ok.2 h.wholeHigh⟩

theorem validatePairs_ok {pairs : List (Double × Double)} :
    validatePairs dtype path i pairs = .ok () ↔ ∀ pair ∈ pairs, ValidPair dtype pair.1 pair.2 := by
  induction pairs generalizing i with
  | nil => simp [validatePairs]
  | cons pair rest ih =>
    rw [validatePairs, bind_ok, List.forall_mem_cons]
    constructor
    · rintro ⟨⟨⟩, hpair, hrest⟩
      exact ⟨validatePair_ok.1 hpair, ih.1 hrest⟩
    · rintro ⟨hpair, hrest⟩
      exact ⟨(), validatePair_ok.2 hpair, ih.2 hrest⟩

theorem validateScalars_ok {pairs : List (Scalar × Scalar)} :
    validateScalars dtype path i pairs = .ok () ↔
      ∀ pair ∈ pairs, pair.1.isNan = false ∧ pair.2.isNan = false ∧ scalarGt pair.1 pair.2 dtype = false := by
  induction pairs generalizing i with
  | nil => simp [validateScalars]
  | cons pair rest ih =>
    rw [validateScalars, List.forall_mem_cons]
    cases hlow : pair.1.isNan <;> cases hhigh : pair.2.isNan <;> cases hgt : scalarGt pair.1 pair.2 dtype <;> simp [ih]

theorem decodeScalars_whole {bytes : List UInt8} (hd : dtype ≠ .unspecified)
    (hlen : bytes.length = count * dtypeSize dtype) :
    decodeScalars bytes dtype = .ok ((elements dtype bytes).map (decodeScalar · dtype)) := by
  rw [decodeScalars, if_neg hd, if_neg (by rw [hlen, Nat.mul_mod_left]; exact not_not.2 rfl)]

theorem validateTypedBounds_ok {low high : List UInt8} :
    validateTypedBounds low high count dtype path = .ok () ↔ ValidTyped low high count dtype := by
  unfold validateTypedBounds checkedMul
  constructor
  · intro h
    split at h
    · cases h
    rename_i hd
    split at h
    · cases h
    rename_i expected hexpected
    split at hexpected
    · rename_i hsize
      cases hexpected
      split at h
      · cases h
      · rename_i hlens
        obtain ⟨hlow, hhigh⟩ : low.length = count * dtypeSize dtype ∧ high.length = count * dtypeSize dtype := by
          tauto
        rw [decodeTyped, decodeTyped, decodeScalars_whole hd hlow, decodeScalars_whole hd hhigh] at h
        exact ⟨hd, hsize, hlow, hhigh, validateScalars_ok.1 h⟩
    · cases hexpected
  · intro h
    rw [if_neg h.concrete, if_pos h.fits]
    dsimp only
    rw [if_neg (by rw [h.lowLength, h.highLength]; tauto), decodeTyped, decodeTyped,
      decodeScalars_whole h.concrete h.lowLength, decodeScalars_whole h.concrete h.highLength]
    exact validateScalars_ok.2 h.ordered

theorem validateBounds_ok : validateBounds bounds dtype numel path = .ok () ↔ ValidBounds dtype numel bounds := by
  rcases bounds with _ | ⟨flag⟩ | ⟨low, high⟩ | ⟨low, high⟩ | ⟨low, high⟩ | ⟨low, high⟩
  · simp [validateBounds, ValidBounds]
  · simp [validateBounds, ValidBounds]
  · exact validatePair_ok
  · rw [validateBounds, ValidBounds]
    split
    · rename_i hne
      simp [hne]
    · rename_i heq
      split
      · rename_i hne
        simp [hne]
      · rename_i hnumel
        rw [validatePairs_ok]
        tauto
  · exact validateTypedBounds_ok
  · exact validateTypedBounds_ok

/-! ## Scans of integers -/

/-- The integer thresholds of element `i`. -/
def thresholds (bounds : Option Bounds) (dtype : DType) (i : Nat) : Int × Int :=
  match bounds with
  | none => (intLow none dtype, intHigh none dtype)
  | some (.unbounded _) => (intLow none dtype, intHigh none dtype)
  | some (.uniform low high) => (intLow (finiteFloat low) dtype, intHigh (finiteFloat high) dtype)
  | some (.elementwise low high) =>
    (intLow (low[i]?.bind finiteFloat) dtype, intHigh (high[i]?.bind finiteFloat) dtype)
  | some (.typedUniform low high) => (readInt dtype low, readInt dtype high)
  | some (.typedElementwise low high) =>
    (readInt dtype ((elements dtype low)[i]?.getD []), readInt dtype ((elements dtype high)[i]?.getD []))

/-- Every element lies between its thresholds. -/
def InBounds (bounds : Option Bounds) (dtype : DType) (data : List UInt8) : Prop :=
  ∀ i chunk, (elements dtype data)[i]? = some chunk →
    (thresholds bounds dtype i).1 ≤ readInt dtype chunk ∧ readInt dtype chunk ≤ (thresholds bounds dtype i).2

theorem deviation_none {bound : Int × Int} {v : Int} :
    deviation intGt i bound v = none ↔ bound.1 ≤ v ∧ v ≤ bound.2 := by
  unfold deviation intGt
  split
  · rename_i h
    simp only [decide_eq_true_eq] at h
    simp only [reduceCtorEq, false_iff]
    omega
  · rename_i hlow
    simp only [decide_eq_true_eq] at hlow
    split
    · rename_i h
      simp only [decide_eq_true_eq] at h
      simp only [reduceCtorEq, false_iff]
      omega
    · rename_i hhigh
      simp only [decide_eq_true_eq] at hhigh
      simp only [true_iff]
      omega

theorem orElse_none {α : Type} {a b : Option α} : (a <|> b) = none ↔ a = none ∧ b = none := by
  cases a <;> simp

theorem scanAt_none {boundAt : Nat → Int × Int} {range : Option Finding} {values : List Int} :
    scanAt (fun _ => false) intGt boundAt i range values = none ↔
      range = none ∧ ∀ k v, values[k]? = some v → (boundAt (i + k)).1 ≤ v ∧ v ≤ (boundAt (i + k)).2 := by
  induction values generalizing i range with
  | nil => simp [scanAt]
  | cons first rest ih =>
    rw [scanAt, if_neg Bool.false_ne_true, ih, orElse_none, deviation_none, and_assoc]
    refine and_congr_right (fun _ => ⟨?_, fun h => ⟨h 0 first rfl, fun k v hv => ?_⟩⟩)
    · rintro ⟨hfirst, hrest⟩ k v hv
      cases k with
      | zero => cases hv; exact hfirst
      | succ k => rw [← Nat.add_assoc, Nat.add_right_comm]; exact hrest k v hv
    · rw [Nat.add_right_comm, Nat.add_assoc]
      exact h (k + 1) v hv

theorem scanInt_none {values : List Int} {low high min max : Int} (hv : ∀ v ∈ values, min ≤ v ∧ v ≤ max) :
    scanInt values low high min max = none ↔ ∀ v ∈ values, low ≤ v ∧ v ≤ high := by
  cases values with
  | nil => simp [scanInt]
  | cons first rest =>
    rw [scanInt]
    split
    · rename_i hcover
      refine ⟨fun _ v hmem => ?_, fun _ => rfl⟩
      have hrange := hv v hmem
      omega
    split
    · rename_i hmiss
      have hrange := hv first List.mem_cons_self
      refine ⟨(fun h => by cases h), fun h => ?_⟩
      have hfirst := h first List.mem_cons_self
      omega
    · rw [scanAt_none]
      constructor
      · rintro ⟨-, h⟩ v hmem
        obtain ⟨k, hk⟩ := List.mem_iff_getElem?.1 hmem
        have hclamped := h k v hk
        omega
      · refine fun h => ⟨rfl, fun k v hk => ?_⟩
        have hmem := List.mem_of_getElem? hk
        have hrange := hv v hmem
        have hin := h v hmem
        omega

/-! ## Elements of an integer or bool dtype -/

/-- A dtype whose elements are whole numbers. -/
def DType.Integral (dtype : DType) : Prop := dtype.isInteger = true ∨ dtype = .bool

theorem DType.Integral.concrete (hd : dtype.Integral) : dtype ≠ .unspecified := by
  rintro rfl
  rcases hd with hd | hd <;> cases hd

theorem DType.Integral.not_float (hd : dtype.Integral) : dtype.isFloat = false := by
  rcases hd with hd | rfl
  · cases dtype <;> first | rfl | cases hd
  · rfl

theorem DType.Integral.size_pos (hd : dtype.Integral) : 0 < dtypeSize dtype := by
  rcases hd with hd | rfl
  · cases dtype <;> first | decide | cases hd
  · decide

theorem readInt_range (hd : dtype.Integral) (hlen : chunk.length = dtypeSize dtype) :
    (dtypeRange dtype).1 ≤ readInt dtype chunk ∧ readInt dtype chunk ≤ (dtypeRange dtype).2 := by
  cases dtype with
  | bool =>
    simp only [readInt, dtypeRange, if_true]
    split <;> omega
  | uint8 | uint16 | uint32 | uint64 =>
    have hrange := uintOfLeBytes_range chunk
    rw [hlen] at hrange
    norm_num [dtypeSize] at hrange
    simp only [readInt, dtypeRange, intDtypeBounds, reduceCtorEq, if_false]
    omega
  | int8 | int16 | int32 | int64 =>
    have hrange := sintOfLeBytes_range chunk
    rw [hlen] at hrange
    norm_num [dtypeSize] at hrange
    change (dtypeRange _).1 ≤ sintOfLeBytes chunk ∧ sintOfLeBytes chunk ≤ (dtypeRange _).2
    simp only [dtypeRange, intDtypeBounds, reduceCtorEq, if_false]
    omega
  | _ => rcases hd with hd | hd <;> cases hd

theorem dtypeRange_spans (hd : dtype.Integral) : (dtypeRange dtype).1 ≤ 0 ∧ 0 ≤ (dtypeRange dtype).2 ∧
    i128Min ≤ (dtypeRange dtype).1 ∧ (dtypeRange dtype).2 ≤ i128Max := by
  rcases hd with hd | rfl
  · cases dtype <;> decide
  · decide

theorem readInt_intToLeBytes (hd : dtype.isInteger = true) {value : Int} (hlow : (dtypeRange dtype).1 ≤ value)
    (hhigh : value ≤ (dtypeRange dtype).2) : readInt dtype (intToLeBytes (dtypeSize dtype) value) = value := by
  cases dtype with
  | uint8 | uint16 | uint32 | uint64 =>
    simp only [dtypeRange, intDtypeBounds, reduceCtorEq, if_false] at hlow hhigh
    exact uintOfLeBytes_intToLeBytes hlow (by norm_num [dtypeSize]; omega)
  | int8 | int16 | int32 | int64 =>
    simp only [dtypeRange, intDtypeBounds, reduceCtorEq, if_false] at hlow hhigh
    exact sintOfLeBytes_intToLeBytes (by norm_num [dtypeSize]; omega) (by norm_num [dtypeSize]; omega)
  | _ => cases hd

/-- The bounds of an integer dtype are whole numbers, and neither leaves the dtype empty. -/
theorem ValidPair.whole (hd : dtype.isInteger = true) {low high : Double} (hv : ValidPair dtype low high) :
    ∃ l h : Int, low = .finite l ∧ high = .finite h ∧ l ≤ h ∧ l ≤ (dtypeRange dtype).2 ∧ (dtypeRange dtype).1 ≤ h := by
  obtain ⟨l, rfl, hl⟩ := hv.wholeLow hd
  obtain ⟨h, rfl, hh⟩ := hv.wholeHigh hd
  have hordered := hv.ordered
  rw [Double.gt, decide_eq_false_iff_not, Int.cast_lt, Int.not_lt] at hordered
  have hbool : dtype ≠ .bool := by rintro rfl; cases hd
  have hends : dtypeRange dtype = ((intDtypeBounds dtype).1, (intDtypeBounds dtype).2 - 1) := if_neg hbool
  rw [hends]
  exact ⟨l, h, rfl, rfl, hordered, Int.le_sub_one_of_lt hl, hh⟩

theorem intLow_finite : intLow (finiteFloat (.finite q)) dtype = max i128Min (min ⌈q⌉ i128Max) := by
  change (Double.finite (⌈q⌉ : Int)).toInt i128Min i128Max = _
  exact Double.toInt_whole i128Min i128Max ⌈q⌉

theorem intHigh_finite : intHigh (finiteFloat (.finite q)) dtype = max i128Min (min ⌊q⌋ i128Max) := by
  change (Double.finite (⌊q⌋ : Int)).toInt i128Min i128Max = _
  exact Double.toInt_whole i128Min i128Max ⌊q⌋

theorem intScalar_decodeScalar (hd : dtype.Integral) (hlen : chunk.length = dtypeSize dtype) :
    intScalar (decodeScalar chunk dtype) dtype = readInt dtype chunk := by
  cases dtype with
  | bool =>
    rw [intScalar, if_neg (by decide), decodeScalar, Scalar.asI64, readInt]
    by_cases h : chunk = [0] <;> simp [h]
  | uint64 =>
    have hrange := uintOfLeBytes_range chunk
    rw [hlen] at hrange
    norm_num [dtypeSize] at hrange
    change sintOfLeBytes chunk % 2 ^ 64 = uintOfLeBytes chunk
    rw [sintOfLeBytes, hlen]
    change (uintOfLeBytes chunk).bmod (256 ^ 8) % 2 ^ 64 = _
    have hmod : (2 : Int) ^ 64 = ((256 ^ 8 : Nat) : Int) := by norm_num
    rw [hmod, Int.bmod_emod, Int.emod_eq_of_lt hrange.1 (by norm_num; omega)]
  | uint8 | uint16 | uint32 | int8 | int16 | int32 | int64 => rfl
  | _ => rcases hd with hd | hd <;> cases hd

theorem intLow_decodeScalar (hd : dtype.Integral) (hlen : chunk.length = dtypeSize dtype) :
    intLow (some (decodeScalar chunk dtype)) dtype = readInt dtype chunk := by
  rw [← intScalar_decodeScalar hd hlen]
  cases dtype <;> first | rfl | (rcases hd with hd | hd <;> cases hd)

theorem intHigh_decodeScalar (hd : dtype.Integral) (hlen : chunk.length = dtypeSize dtype) :
    intHigh (some (decodeScalar chunk dtype)) dtype = readInt dtype chunk := by
  rw [← intScalar_decodeScalar hd hlen]
  cases dtype <;> first | rfl | (rcases hd with hd | hd <;> cases hd)

theorem isNan_decodeScalar (hd : dtype.Integral) (chunk : List UInt8) : (decodeScalar chunk dtype).isNan = false := by
  cases dtype <;> first | rfl | (rcases hd with hd | hd <;> cases hd)

theorem number_decodeScalar (hd : dtype.Integral) (hlen : chunk.length = dtypeSize dtype) :
    (decodeScalar chunk dtype).number dtype = .finite (readInt dtype chunk) := by
  rw [← intScalar_decodeScalar hd hlen]
  cases dtype <;> first | rfl | (rcases hd with hd | hd <;> cases hd)

theorem scalarGt_decodeScalar (hd : dtype.Integral) {low high : List UInt8} (hlow : low.length = dtypeSize dtype)
    (hhigh : high.length = dtypeSize dtype) :
    scalarGt (decodeScalar low dtype) (decodeScalar high dtype) dtype =
      decide (readInt dtype high < readInt dtype low) := by
  rw [scalarGt, number_decodeScalar hd hlow, number_decodeScalar hd hhigh, Double.gt]
  exact decide_eq_decide.2 Int.cast_lt

theorem length_of_mem_elements (hsize : 0 < dtypeSize dtype) (hlen : data.length = count * dtypeSize dtype)
    (h : chunk ∈ elements dtype data) : chunk.length = dtypeSize dtype := by
  refine length_of_mem_chunks ?_ h
  rw [hlen, Nat.mul_div_cancel _ hsize, Nat.mul_comm]

theorem length_elements (hsize : 0 < dtypeSize dtype) (hlen : data.length = count * dtypeSize dtype) :
    (elements dtype data).length = count := by
  rw [elements, length_chunks, hlen, Nat.mul_div_cancel _ hsize]

/-! ## What a scan decides -/

theorem checkTypedBounds_ok {bytes : List UInt8} (hsize : 0 < dtypeSize dtype)
    (hlen : bytes.length = count * dtypeSize dtype) : checkTypedBounds bytes count dtype = .ok () := by
  have hmod : bytes.length % dtypeSize dtype = 0 := by rw [hlen, Nat.mul_mod_left]
  have hdiv : bytes.length / dtypeSize dtype = count := by rw [hlen, Nat.mul_div_cancel _ hsize]
  rw [checkTypedBounds, if_neg (not_not.2 hmod), if_neg (not_not.2 hdiv)]

theorem scanUniform_none (hd : dtype.Integral) (hlen : data.length = count * dtypeSize dtype)
    {low high : Option Scalar} :
    scanUniform data dtype low high = none ↔
      ∀ (i : Nat) chunk, (elements dtype data)[i]? = some chunk →
        intLow low dtype ≤ readInt dtype chunk ∧ readInt dtype chunk ≤ intHigh high dtype := by
  have hrange : ∀ v ∈ (elements dtype data).map (readInt dtype), (dtypeRange dtype).1 ≤ v ∧ v ≤ (dtypeRange dtype).2 := by
    intro v hv
    obtain ⟨chunk, hchunk, rfl⟩ := List.mem_map.1 hv
    exact readInt_range hd (length_of_mem_elements hd.size_pos hlen hchunk)
  rw [scanUniform, hd.not_float, if_neg Bool.false_ne_true, scanInt_none hrange]
  rw [List.forall_mem_map]
  simp only [List.mem_iff_getElem?]
  exact ⟨fun h i chunk hi => h chunk ⟨i, hi⟩, fun h chunk ⟨i, hi⟩ => h i chunk hi⟩

theorem scanAt_elements_none {boundAt : Nat → Int × Int} :
    scanAt (fun _ => false) intGt boundAt 0 none ((elements dtype data).map (readInt dtype)) = none ↔
      ∀ i chunk, (elements dtype data)[i]? = some chunk →
        (boundAt i).1 ≤ readInt dtype chunk ∧ readInt dtype chunk ≤ (boundAt i).2 := by
  rw [scanAt_none, eq_self_iff_true, true_and]
  simp only [Nat.zero_add, List.getElem?_map, Option.map_eq_some_iff]
  exact ⟨fun h i chunk hi => h i _ ⟨chunk, hi, rfl⟩, fun h i v ⟨chunk, hi, hv⟩ => hv ▸ h i chunk hi⟩

/-- Well-formed bounds of an integer or bool dtype admit the values between their thresholds. -/
theorem scanBounds_ok_none (hd : dtype.Integral) (hv : ValidBounds dtype numel bounds)
    (hlen : data.length = numel * dtypeSize dtype) :
    scanBounds bounds dtype numel data = .ok none ↔ InBounds bounds dtype data := by
  unfold InBounds
  rcases bounds with _ | ⟨flag⟩ | ⟨low, high⟩ | ⟨low, high⟩ | ⟨low, high⟩ | ⟨low, high⟩
  · cases hv
  · rw [scanBounds, Except.ok.injEq]
    exact scanUniform_none hd hlen
  · rw [scanBounds, Except.ok.injEq]
    exact scanUniform_none hd hlen
  · obtain ⟨hlens, hcount, -⟩ := hv
    rw [scanBounds, if_neg (by omega), Except.ok.injEq, scanElementwise, hd.not_float, if_neg Bool.false_ne_true]
    exact scanAt_elements_none
  · have hlow : low.length = dtypeSize dtype := by rw [hv.lowLength, Nat.one_mul]
    have hhigh : high.length = dtypeSize dtype := by rw [hv.highLength, Nat.one_mul]
    rw [scanBounds, checkTypedBounds_ok hd.size_pos hv.lowLength, checkTypedBounds_ok hd.size_pos hv.highLength]
    change Except.ok (scanUniform data dtype _ _) = _ ↔ _
    rw [Except.ok.injEq, scanUniform_none hd hlen, intLow_decodeScalar hd hlow, intHigh_decodeScalar hd hhigh]
    rfl
  · rw [scanBounds, checkTypedBounds_ok hd.size_pos hv.lowLength, checkTypedBounds_ok hd.size_pos hv.highLength]
    change Except.ok (scanTypedElementwise data dtype _ _) = _ ↔ _
    rw [Except.ok.injEq, scanTypedElementwise, hd.not_float, if_neg Bool.false_ne_true]
    exact scanAt_elements_none

/-! ## Box leaves -/

/-- What `validate_box_at` accepts. -/
structure ValidBox (shape : List Int) (dtype : DType) (bounds : Option Bounds) (numel : Nat) : Prop where
  ranked : shape ≠ []
  concrete : dtype ≠ .unspecified
  positive : ∀ dim ∈ shape, 0 < dim
  counted : shapeNumel shape = some numel
  bounds : ValidBounds dtype numel bounds

theorem validateBoxAt_ok {shape : List Int} :
    validateBoxAt shape dtype bounds path = .ok () ↔ ∃ numel, ValidBox shape dtype bounds numel := by
  unfold validateBoxAt
  constructor
  · intro h
    split_ifs at h with hranked hconcrete
    split at h
    · cases h
    · rename_i hpositive
      split at h
      · cases h
      · rename_i numel hcounted
        exact ⟨numel, fun hnil => hranked (List.isEmpty_iff.2 hnil), hconcrete, findIdx?_nonpositive.1 hpositive,
          hcounted, validateBounds_ok.1 h⟩
  · rintro ⟨numel, hbox⟩
    rw [if_neg (fun hempty => hbox.ranked (List.isEmpty_iff.1 hempty)), if_neg hbox.concrete,
      findIdx?_nonpositive.2 hbox.positive, hbox.counted]
    exact validateBounds_ok.2 hbox.bounds

theorem Tensor.length_data {tensor : Tensor} (h : shapeNumel tensor.shape = some numel) :
    tensor.data.length = numel * dtypeSize tensor.dtype := by
  have hsized := tensor.sized
  unfold checkedNbytes at hsized
  split_ifs at hsized
  split at hsized
  · cases hsized
  · rename_i count hcount
    rw [shapeNumel_of_checkedNumel hcount] at h
    cases h
    unfold checkedMul at hsized
    split_ifs at hsized
    exact (Except.ok.inj hsized).symm

/-- A valid Box of an integer or bool dtype admits the tensors of its shape and dtype that lie in its bounds. -/
theorem conformBox_ok {shape : List Int} (hd : dtype.Integral) (hbox : ValidBox shape dtype bounds numel)
    {value : SpaceValue} :
    conformBox shape dtype bounds path value = .ok ↔
      ∃ tensor, value = .box tensor ∧ tensor.shape = shape ∧ tensor.dtype = dtype ∧ InBounds bounds dtype tensor.data := by
  cases value with
  | box tensor =>
    rw [conformBox]
    simp only [SpaceValue.box.injEq, exists_eq_left']
    split_ifs with hshape hdtype
    · simp [hshape]
    · simp [hdtype]
    · exact absurd ‹_› hbox.concrete
    · have hshape := not_not.1 hshape
      have hdtype := not_not.1 hdtype
      have hcounted : shapeNumel tensor.shape = some numel := by rw [hshape]; exact hbox.counted
      have hlen : tensor.data.length = numel * dtypeSize dtype := by rw [Tensor.length_data hcounted, hdtype]
      have hnumel : tensor.numel = numel := by rw [Tensor.numel, hcounted]; rfl
      rw [hnumel, ← scanBounds_ok_none hd hbox.bounds hlen]
      simp only [hshape, hdtype, true_and,
        show BoxBounds.scan bounds dtype numel tensor.data = scanBounds bounds dtype numel tensor.data from rfl]
      split <;> simp_all
  | _ => simp [conformBox]

end Rlmesh.Spaces
