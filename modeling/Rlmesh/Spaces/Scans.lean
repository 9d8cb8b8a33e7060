import Rlmesh.Lib.Blocks
import Rlmesh.Spaces.Thresholds
/-!
# Box scans in blocks (`fundamental/box_space/value.rs`, `scalar.rs`)

`conform_box` scans a Box value in blocks of 4096 elements: the elements of a
block are compared without branches, and looked at again only when one deviates.
The scan it replaced goes through the elements one at a time, decodes each and
compares it with `cmp_typed`. Both find the same: `firstFinding` says what, and the
shortcuts, blocks and thresholds of the one and the comparisons of the other come
down to it.
-/
open Rlmesh.Lib

namespace Rlmesh.Spaces

/-! ## Scalars compared one by one -/

/-- `partial_cmp` of doubles. -/
def partialCmp (a b : Double) : Option Ordering :=
  if a.isNan || b.isNan then none
  else if a.gt b then some .gt
  else if b.gt a then some .lt
  else some .eq

/-- The integer side of a mixed comparison. -/
inductive IntOperand where
  | signed (number : Int)
  | unsigned (number : Int)

def Scalar.intOperand (value : Scalar) (dtype : DType) : IntOperand :=
  if dtype = .uint64 then .unsigned value.asU64 else .signed value.asI64

/-- `i cmp f`, given `i cmp floor(f)`. -/
def refineIntVsFloat (intCmpFloor : Ordering) (f floor : Double) : Ordering :=
  match intCmpFloor with
  | .lt => .lt
  | .gt => .gt
  | .eq => if f = floor then .eq else .lt

/-- `f cmp i` by their exact values; `none` if `f` is NaN. -/
def cmpFloatInt (f : Double) (operand : IntOperand) : Option Ordering :=
  if f.isNan then none
  else
    let floor := f.floor
    let result : Ordering := match operand with
      | .signed i =>
        if (Double.finite (-2 ^ 63)).gt floor then .gt
        else if !(Double.finite (2 ^ 63)).gt floor then .lt
        else refineIntVsFloat (compare i (floor.toInt (-2 ^ 63) (2 ^ 63 - 1))) f floor
      | .unsigned i =>
        if (Double.finite 0).gt floor then .gt
        else if !(Double.finite (2 ^ 64)).gt floor then .lt
        else refineIntVsFloat (compare i (floor.toInt 0 (2 ^ 64 - 1))) f floor
    some result.swap

def Scalar.cmpTyped (this other : Scalar) (dtype : DType) : Option Ordering :=
  match this, other with
  | .float a, .float b => partialCmp a b
  | .bool a, .bool b => some (compare a b)
  | .float f, other => cmpFloatInt f (other.intOperand dtype)
  | this, .float f => (cmpFloatInt f (this.intOperand dtype)).map Ordering.swap
  | a, b => some (if dtype = .uint64 then compare a.asU64 b.asU64 else compare a.asI64 b.asI64)

/-- A bound pair; `none` is unbounded on that side. -/
abbrev Bound := Option Scalar × Option Scalar

/-- The bounds of each element, as `box_bounds` accepts them. -/
def referenceBounds (bounds : Option Bounds) (dtype : DType) (numel : Nat) : Except String (Nat → Bound) :=
  match bounds with
  | none | some (.unbounded _) => .ok fun _ => (none, none)
  | some (.uniform low high) => .ok fun _ => (finiteFloat low, finiteFloat high)
  | some (.elementwise low high) =>
    if low.length ≠ numel ∨ high.length ≠ numel then
      .error s!"Box elementwise bounds length mismatch: expected {numel} elements, got low={low.length}, high={high.length}"
    else .ok fun i => (low[i]?.bind finiteFloat, high[i]?.bind finiteFloat)
  | some (.typedUniform low high) => do
    checkTypedBounds low 1 dtype
    checkTypedBounds high 1 dtype
    return fun _ => (some (decodeScalar low dtype), some (decodeScalar high dtype))
  | some (.typedElementwise low high) => do
    checkTypedBounds low numel dtype
    checkTypedBounds high numel dtype
    return fun i => ((elements dtype low)[i]?.map (decodeScalar · dtype), (elements dtype high)[i]?.map (decodeScalar · dtype))

/-- How one element lies to its bounds: the low one first. -/
def referenceDeviation (dtype : DType) (i : Nat) (bound : Bound) (value : Scalar) : Option Finding :=
  if bound.1.any (fun low => low.cmpTyped value dtype = some .gt) then some (.below i)
  else if bound.2.any (fun high => value.cmpTyped high dtype = some .gt) then some (.above i)
  else none

/-- The first NaN if any element is NaN, and otherwise the first element out of bounds. -/
def referenceScan (dtype : DType) (boundAt : Nat → Bound) (values : List Scalar) : Option Finding :=
  match values.findIdx? Scalar.isNan with
  | some i => some (.nan i)
  | none => values.zipIdx.findSome? (fun entry => referenceDeviation dtype entry.2 (boundAt entry.2) entry.1)

/-- The scan `conform_box` is compared with: every element is decoded and compared with its own bounds. -/
def referenceFinding (bounds : Option Bounds) (dtype : DType) (numel : Nat) (data : List UInt8) :
    Except String (Option Finding) := do
  let boundAt ← referenceBounds bounds dtype numel
  return referenceScan dtype boundAt ((elements dtype data).map (decodeScalar · dtype))

/-! ## Scans in blocks -/

def blockLen : Nat := 4096

/-- The first element of a block that deviates. -/
def locate {V : Type} (gt : V → V → Bool) (low high : V) (base : Nat) (block : List V) : Option Finding :=
  block.zipIdx.findSome? (fun entry => deviation gt (base + entry.2) (low, high) entry.1)

/-- The loop of `scan_float`, over the blocks from element `base` on. -/
def scanFloatBlocks (low high : Double) : Nat → Option Finding → List (List Double) → Option Finding
  | _, range, [] => range
  | base, range, block :: rest =>
    -- branch-free reduction over the block; locate only on a hit
    let (nan, out) := block.foldl (fun (found : Bool × Bool) v => (found.1 || v.isNan, found.2 || low.gt v || v.gt high))
      (false, false)
    if nan then some (.nan (base + (block.findIdx? Double.isNan).getD 0))
    else
      scanFloatBlocks low high (base + blockLen)
        (if out && range.isNone then locate Double.gt low high base block else range) rest

def scanFloat (values : List Double) (low high : Double) : Option Finding :=
  scanFloatBlocks low high 0 none (blocks blockLen values)

/-- The loop of `scan_int`: integers cannot be NaN, so the first deviation is the answer. -/
def scanIntBlocks (low high : Int) : Nat → List (List Int) → Option Finding
  | _, [] => none
  | base, block :: rest =>
    let out := block.foldl (fun out v => out || decide (v < low) || decide (v > high)) false
    if out then locate intGt low high base block else scanIntBlocks low high (base + blockLen) rest

/-- The range of the type an integer or bool dtype is read as. -/
def readRange (dtype : DType) : Int × Int := if dtype = .bool then (0, 255) else dtypeRange dtype

/-- `T::try_from`, for the type the elements are read as. -/
def tryFrom (range : Int × Int) (value : Int) : Option Int :=
  if range.1 ≤ value ∧ value ≤ range.2 then some value else none

/-- `scan_int`; an error where the source has `unreachable!`. -/
def scanIntDtype (values : List Int) (dtype : DType) (low high : Int) : Except String (Option Finding) :=
  let (min, max) := dtypeRange dtype
  match values with
  | [] => .ok none
  | first :: _ =>
    if low ≤ min ∧ max ≤ high then .ok none
    else if max < low ∨ high < min then .ok (some (if first < low then .below 0 else .above 0))
    else
      match tryFrom (readRange dtype) (Max.max low min), tryFrom (readRange dtype) (Min.min high max) with
      | some low, some high => .ok (scanIntBlocks low high 0 (blocks blockLen values))
      | _, _ => .error "clamped bounds lie in the dtype's range"

def scanUniformBlocks (data : List UInt8) (dtype : DType) (bound : Bound) : Except String (Option Finding) :=
  if dtype.isFloat then
    .ok (scanFloat ((elements dtype data).map (readFloat dtype)) (floatLow bound.1 dtype) (floatHigh bound.2 dtype))
  else scanIntDtype ((elements dtype data).map (readInt dtype)) dtype (intLow bound.1 dtype) (intHigh bound.2 dtype)

/-- The finding of `conform_box`: the bounds are resolved and the element bytes scanned in their native type. -/
def boxFinding (bounds : Option Bounds) (dtype : DType) (numel : Nat) (data : List UInt8) : Except String (Option Finding) :=
  match bounds with
  | none | some (.unbounded _) => scanUniformBlocks data dtype (none, none)
  | some (.uniform low high) => scanUniformBlocks data dtype (finiteFloat low, finiteFloat high)
  | some (.elementwise low high) =>
    if low.length ≠ numel ∨ high.length ≠ numel then
      .error s!"Box elementwise bounds length mismatch: expected {numel} elements, got low={low.length}, high={high.length}"
    else .ok (scanElementwise data dtype low high)
  | some (.typedUniform low high) => do
    checkTypedBounds low 1 dtype
    checkTypedBounds high 1 dtype
    scanUniformBlocks data dtype (some (decodeScalar low dtype), some (decodeScalar high dtype))
  | some (.typedElementwise low high) => do
    checkTypedBounds low numel dtype
    checkTypedBounds high numel dtype
    return scanTypedElementwise data dtype low high

/-! ## What a scan finds -/

section

variable {V : Type}

theorem orElse_assoc {α : Type} (a b c : Option α) : ((a <|> b) <|> c) = (a <|> b <|> c) := by
  cases a <;> rfl

/-- The first deviation of the elements from index `i` on. -/
def firstOut (dev : Nat → V → Option Finding) (i : Nat) : List V → Option Finding
  | [] => none
  | v :: rest => dev i v <|> firstOut dev (i + 1) rest

/-- The first NaN, or else the first deviation after one already known. -/
def firstFinding (isNan : V → Bool) (dev : Nat → V → Option Finding) (i : Nat) (range : Option Finding) (values : List V) :
    Option Finding :=
  match values.findIdx? isNan with
  | some k => some (.nan (i + k))
  | none => range <|> firstOut dev i values

theorem firstOut_append (dev : Nat → V → Option Finding) (i : Nat) (front back : List V) :
    firstOut dev i (front ++ back) = (firstOut dev i front <|> firstOut dev (i + front.length) back) := by
  induction front generalizing i with
  | nil => simp [firstOut]
  | cons v rest ih =>
    rw [List.cons_append, firstOut, ih, firstOut, List.length_cons, Nat.add_right_comm, Nat.add_assoc i,
      orElse_assoc]

theorem findSome?_zipIdx (dev : Nat → V → Option Finding) (base start : Nat) (values : List V) :
    (values.zipIdx start).findSome? (fun entry => dev (base + entry.2) entry.1) = firstOut dev (base + start) values := by
  induction values generalizing start with
  | nil => rfl
  | cons v rest ih =>
    rw [List.zipIdx_cons, List.findSome?_cons, ih, firstOut]
    cases dev (base + start) v <;> rfl

theorem scanAt_eq (isNan : V → Bool) (gt : V → V → Bool) (boundAt : Nat → V × V) (i : Nat) (range : Option Finding)
    (values : List V) :
    scanAt isNan gt boundAt i range values = firstFinding isNan (fun i v => deviation gt i (boundAt i) v) i range values := by
  induction values generalizing i range with
  | nil => simp [scanAt, firstFinding, firstOut]
  | cons v rest ih =>
    rw [scanAt, ih]
    unfold firstFinding
    rw [List.findIdx?_cons]
    cases isNan v with
    | true => rfl
    | false =>
      simp only [Bool.false_eq_true, if_false]
      cases rest.findIdx? isNan with
      | some k => simp only [Option.map_some, Nat.add_assoc, Nat.add_comm 1 k]
      | none =>
        simp only [Option.map_none, firstOut]
        rw [orElse_assoc]

variable {isNan : V → Bool} {dev : Nat → V → Option Finding} {i : Nat}

theorem firstFinding_nil (i : Nat) (range : Option Finding) : firstFinding isNan dev i range [] = range := by
  simp [firstFinding, firstOut]

theorem firstFinding_base {j : Nat} {range : Option Finding} {rest : List V} (h : rest = [] ∨ i = j) :
    firstFinding isNan dev i range rest = firstFinding isNan dev j range rest := by
  rcases h with rfl | rfl
  · rw [firstFinding_nil, firstFinding_nil]
  · rfl


theorem firstFinding_append {range : Option Finding} {front : List V} (hfront : front.findIdx? isNan = none)
    (back : List V) :
    firstFinding isNan dev i range (front ++ back) =
      firstFinding isNan dev (i + front.length) (range <|> firstOut dev i front) back := by
  unfold firstFinding
  rw [List.findIdx?_append, hfront, Option.none_or]
  cases back.findIdx? isNan with
  | some k => simp only [Option.map_some, Nat.add_assoc, Nat.add_comm front.length k]
  | none =>
    simp only [Option.map_none]
    rw [firstOut_append, orElse_assoc]

theorem locate_eq (gt : V → V → Bool) (low high : V) (base : Nat) (block : List V) :
    locate gt low high base block = firstOut (fun i v => deviation gt i (low, high) v) base block :=
  findSome?_zipIdx (fun i v => deviation gt i (low, high) v) base 0 block

theorem firstOut_eq_none {values : List V} (h : ∀ k, ∀ v ∈ values, dev k v = none) :
    firstOut dev i values = none := by
  induction values generalizing i with
  | nil => rfl
  | cons v rest ih =>
    rw [firstOut, h i v List.mem_cons_self, ih fun k w hw => h k w (List.mem_cons_of_mem _ hw)]
    rfl

theorem firstOut_isSome {values : List V} {v : V} (hv : v ∈ values) (hdev : ∀ k, (dev k v).isSome = true) :
    (firstOut dev i values).isSome = true := by
  induction values generalizing i with
  | nil => cases hv
  | cons first rest ih =>
    rw [firstOut]
    cases hfirst : dev i first with
    | some found => rfl
    | none =>
      rcases List.mem_cons.1 hv with rfl | hrest
      · have := hdev i
        rw [hfirst] at this
        cases this
      · exact ih hrest

end

/-! ## Blocks -/

/-- The reduction over a block says whether it has a NaN, and whether an element deviates. -/
theorem foldl_block (low high : Double) (block : List Double) (found : Bool × Bool) :
    block.foldl (fun (found : Bool × Bool) v => (found.1 || v.isNan, found.2 || low.gt v || v.gt high)) found =
      (found.1 || block.any Double.isNan, found.2 || block.any (fun v => low.gt v || v.gt high)) := by
  induction block generalizing found with
  | nil => simp
  | cons v rest ih =>
    rw [List.foldl_cons, ih]
    simp [Bool.or_assoc]

theorem deviation_none_of_not {V : Type} {gt : V → V → Bool} {low high v : V} (hlow : gt low v = false) (hhigh : gt v high = false)
    (i : Nat) : deviation gt i (low, high) v = none := by
  simp [deviation, hlow, hhigh]

/-- Locating only on a hit, and only the first time, loses nothing. -/
theorem range_of_block {V : Type} {out : V → Bool} {block : List V} {range found : Option Finding}
    (h : (∀ v ∈ block, out v = false) → found = none) :
    (if block.any out && range.isNone then found else range) = (range <|> found) := by
  cases range with
  | some first => simp
  | none =>
    cases hout : block.any out with
    | true => rfl
    | false =>
      rw [h fun v hv => by simpa using List.any_eq_false.1 hout v hv]
      rfl

theorem scanFloat_eq (values : List Double) (low high : Double) :
    scanFloat values low high = firstFinding Double.isNan (fun i v => deviation Double.gt i (low, high) v) 0 none values := by
  have hloop : ∀ base range, scanFloatBlocks low high base range (blocks blockLen values) =
      firstFinding Double.isNan (fun i v => deviation Double.gt i (low, high) v) base range values := by
    refine blocks_induction (by decide) (motive := fun values parts => ∀ base range, scanFloatBlocks low high base range parts =
      firstFinding Double.isNan (fun i v => deviation Double.gt i (low, high) v) base range values) ?_ ?_ values
    · intro base range
      simp [scanFloatBlocks, firstFinding, firstOut]
    · intro block rest hfull ih base range
      rw [scanFloatBlocks, foldl_block]
      simp only [Bool.false_or]
      cases hnan : block.findIdx? Double.isNan with
      | some k =>
        have hany : block.any Double.isNan = true := by
          rw [← List.findIdx?_isSome, hnan]
          rfl
        rw [hany, if_pos rfl, firstFinding, List.findIdx?_append, hnan]
        rfl
      | none =>
        have hany : block.any Double.isNan = false := by
          rw [← List.findIdx?_isSome, hnan]
          rfl
        rw [hany, if_neg Bool.false_ne_true, ih, firstFinding_append hnan]
        have hrange : (if (block.any fun v => low.gt v || v.gt high) && range.isNone then locate Double.gt low high base block
            else range) = (range <|> firstOut (fun i v => deviation Double.gt i (low, high) v) base block) := by
          rw [locate_eq]
          exact range_of_block fun hout => firstOut_eq_none fun k v hv => by
            have hv := hout v hv
            rw [Bool.or_eq_false_iff] at hv
            exact deviation_none_of_not hv.1 hv.2 k
        rw [hrange]
        exact firstFinding_base (hfull.imp_right fun hlen => by rw [hlen])
  exact hloop 0 none

theorem firstOut_congr {α V W : Type} {f : α → V} {g : α → W} {dev : Nat → V → Option Finding} {dev' : Nat → W → Option Finding}
    {i : Nat} {items : List α} (h : ∀ (k : Nat) a, items[k]? = some a → dev (i + k) (f a) = dev' (i + k) (g a)) :
    firstOut dev i (items.map f) = firstOut dev' i (items.map g) := by
  induction items generalizing i with
  | nil => rfl
  | cons a rest ih =>
    have hrest : ∀ (k : Nat) b, rest[k]? = some b → dev (i + 1 + k) (f b) = dev' (i + 1 + k) (g b) := by
      intro k b hb
      have := h (k + 1) b hb
      rwa [← Nat.add_assoc, Nat.add_right_comm] at this
    rw [List.map_cons, List.map_cons, firstOut, firstOut, ih hrest]
    exact congrArg (· <|> _) (h 0 a rfl)

theorem scanIntBlocks_eq (values : List Int) (low high : Int) :
    scanIntBlocks low high 0 (blocks blockLen values) = firstOut (fun i v => deviation intGt i (low, high) v) 0 values := by
  have hfold : ∀ (block : List Int) (out : Bool), block.foldl (fun out v => out || decide (v < low) || decide (v > high)) out =
      (out || block.any (fun v => intGt low v || intGt v high)) := by
    intro block out
    induction block generalizing out with
    | nil => simp
    | cons v rest ih =>
      rw [List.foldl_cons, ih]
      simp [intGt, Bool.or_assoc]
  have hloop : ∀ base, scanIntBlocks low high base (blocks blockLen values) =
      firstOut (fun i v => deviation intGt i (low, high) v) base values := by
    refine blocks_induction (by decide) (motive := fun values parts => ∀ base, scanIntBlocks low high base parts =
      firstOut (fun i v => deviation intGt i (low, high) v) base values) (fun _ => rfl) ?_ values
    intro block rest hfull ih base
    rw [scanIntBlocks, hfold, Bool.false_or, firstOut_append, locate_eq]
    cases hout : block.any (fun v => intGt low v || intGt v high) with
    | true =>
      obtain ⟨v, hv, hdeviates⟩ := List.any_eq_true.1 hout
      have hsome : (firstOut (fun i v => deviation intGt i (low, high) v) base block).isSome = true := by
        refine firstOut_isSome hv fun k => ?_
        rw [Bool.or_eq_true] at hdeviates
        unfold deviation
        rcases hdeviates with hlow | hhigh
        · rw [if_pos hlow]
          rfl
        · rw [if_pos hhigh]
          split <;> rfl
      obtain ⟨found, hfound⟩ := Option.isSome_iff_exists.1 hsome
      rw [if_pos rfl, hfound]
      rfl
    | false =>
      have hnone : firstOut (fun i v => deviation intGt i (low, high) v) base block = none := firstOut_eq_none fun k v hv => by
        have hv : (intGt low v || intGt v high) = false := by simpa using List.any_eq_false.1 hout v hv
        rw [Bool.or_eq_false_iff] at hv
        exact deviation_none_of_not hv.1 hv.2 k
      rw [if_neg Bool.false_ne_true, ih, hnone]
      rcases hfull with rfl | hlen
      · rfl
      · rw [hlen]
        rfl
  exact hloop 0

variable {v i : Int} {dtype : DType} {chunk data : List UInt8} {bound : Bound}

theorem deviation_clamped {low high min max : Int} (hv : min ≤ v ∧ v ≤ max) (i : Nat) :
    deviation intGt i (Max.max low min, Min.min high max) v = deviation intGt i (low, high) v := by
  have hbelow : intGt (Max.max low min) v = intGt low v := by
    simp only [intGt, decide_eq_decide]
    omega
  have habove : intGt v (Min.min high max) = intGt v high := by
    simp only [intGt, decide_eq_decide]
    omega
  simp only [deviation, hbelow, habove]

theorem dtypeRange_wide (hd : dtype.Integral) : i128Min < (dtypeRange dtype).1 ∧ (dtypeRange dtype).2 < i128Max := by
  rcases hd with hd | rfl
  · cases dtype <;> decide
  · decide

theorem dtypeRange_read (dtype : DType) :
    (readRange dtype).1 ≤ (dtypeRange dtype).1 ∧ (dtypeRange dtype).2 ≤ (readRange dtype).2 := by
  unfold readRange
  split
  · rename_i hbool
    rw [hbool]
    decide
  · exact ⟨le_rfl, le_rfl⟩

theorem scanAt_int (boundAt : Nat → Int × Int) (values : List Int) :
    scanAt (fun _ => false) intGt boundAt 0 none values = firstOut (fun i v => deviation intGt i (boundAt i) v) 0 values := by
  have hnone : values.findIdx? (fun _ => false) = none := by simp
  rw [scanAt_eq, firstFinding, hnone]
  rfl

/-- The clamped thresholds fit the type the elements are read as, and blocks lose nothing. -/
theorem scanIntDtype_eq_scanInt (values : List Int) (dtype : DType) (low high : Int) :
    scanIntDtype values dtype low high = .ok (scanInt values low high (dtypeRange dtype).1 (dtypeRange dtype).2) := by
  obtain ⟨hmin, hmax⟩ := dtypeRange_read dtype
  unfold scanIntDtype scanInt
  cases values with
  | nil => rfl
  | cons first rest =>
    dsimp only
    by_cases hcover : low ≤ (dtypeRange dtype).1 ∧ (dtypeRange dtype).2 ≤ high
    · rw [if_pos hcover, if_pos hcover]
    rw [if_neg hcover, if_neg hcover]
    by_cases hmiss : (dtypeRange dtype).2 < low ∨ high < (dtypeRange dtype).1
    · rw [if_pos hmiss, if_pos hmiss]
    · have hspan : (dtypeRange dtype).1 ≤ (dtypeRange dtype).2 := by cases dtype <;> decide
      have hlow : tryFrom (readRange dtype) (Max.max low (dtypeRange dtype).1) = some (Max.max low (dtypeRange dtype).1) :=
        if_pos (by omega)
      have hhigh : tryFrom (readRange dtype) (Min.min high (dtypeRange dtype).2) = some (Min.min high (dtypeRange dtype).2) :=
        if_pos (by omega)
      rw [if_neg hmiss, if_neg hmiss, hlow, hhigh]
      dsimp only
      rw [scanIntBlocks_eq, scanAt_int]

theorem scanInt_eq {values : List Int} {low high min max : Int} (hvalues : ∀ v ∈ values, min ≤ v ∧ v ≤ max) :
    scanInt values low high min max = firstOut (fun i v => deviation intGt i (low, high) v) 0 values := by
  unfold scanInt
  cases values with
  | nil => rfl
  | cons first rest =>
    have hfirst := hvalues first List.mem_cons_self
    dsimp only
    by_cases hcover : low ≤ min ∧ max ≤ high
    · rw [if_pos hcover, firstOut_eq_none fun k v hv => ?_]
      have hv := hvalues v hv
      rw [deviation_none]
      exact ⟨hcover.1.trans hv.1, hv.2.trans hcover.2⟩
    rw [if_neg hcover]
    by_cases hmiss : max < low ∨ high < min
    · have hdeviates : deviation intGt 0 (low, high) first = some (if first < low then .below 0 else .above 0) := by
        simp only [deviation, intGt, decide_eq_true_eq]
        split
        · rfl
        · rw [if_pos (by omega)]
      rw [if_pos hmiss, firstOut, hdeviates]
      rfl
    · have hclamped : firstOut (fun i v => deviation intGt i (Max.max low min, Min.min high max) v) 0 ((first :: rest).map id) =
          firstOut (fun i v => deviation intGt i (low, high) v) 0 ((first :: rest).map id) :=
        firstOut_congr fun k v hv => deviation_clamped (hvalues v (List.mem_of_getElem? hv)) (0 + k)
      rw [List.map_id] at hclamped
      rw [if_neg hmiss, scanAt_int, hclamped]

theorem scanUniformBlocks_eq_scanUniform (data : List UInt8) (dtype : DType) (bound : Bound) :
    scanUniformBlocks data dtype bound = .ok (scanUniform data dtype bound.1 bound.2) := by
  unfold scanUniformBlocks scanUniform
  split
  · rw [scanFloat_eq, scanAt_eq]
  · rw [scanIntDtype_eq_scanInt]

theorem boxFinding_eq_scanBounds (bounds : Option Bounds) (dtype : DType) (numel : Nat) (data : List UInt8) :
    boxFinding bounds dtype numel data = scanBounds bounds dtype numel data := by
  rcases bounds with _ | ⟨flag⟩ | ⟨low, high⟩ | ⟨low, high⟩ | ⟨low, high⟩ | ⟨low, high⟩
  · exact scanUniformBlocks_eq_scanUniform data dtype _
  · exact scanUniformBlocks_eq_scanUniform data dtype _
  · exact scanUniformBlocks_eq_scanUniform data dtype _
  · rfl
  · unfold boxFinding scanBounds
    dsimp only
    rw [scanUniformBlocks_eq_scanUniform]
    rfl
  · rfl

/-! ## Comparisons -/

theorem partialCmp_finite (q r : Rat) : partialCmp (.finite q) (.finite r) = some (compare q r) := by
  simp only [partialCmp, Double.isNan, Double.gt, Bool.or_self, Bool.false_eq_true, if_false, decide_eq_true_eq]
  rcases lt_trichotomy q r with h | rfl | h
  · rw [if_neg h.asymm, if_pos h, compare_lt_iff_lt.2 h]
  · rw [if_neg (lt_irrefl q), if_neg (lt_irrefl q), compare_eq_iff_eq.2 rfl]
  · rw [if_pos h, compare_gt_iff_gt.2 h]

theorem partialCmp_swap (a b : Double) : (partialCmp a b).map Ordering.swap = partialCmp b a := by
  cases a with
  | finite q =>
    cases b with
    | finite r =>
      rw [partialCmp_finite, partialCmp_finite, Option.map_some]
      exact congrArg some Std.OrientedCmp.eq_swap.symm
    | posInf | negInf | nan => rfl
  | posInf | negInf | nan => cases b <;> rfl

theorem partialCmp_gt {a b : Double} : partialCmp a b = some .gt ↔ a.gt b = true := by
  unfold partialCmp
  cases hnan : a.isNan || b.isNan with
  | true =>
    have hgt : a.gt b = false := by
      cases a <;> cases b <;> first | rfl | cases hnan
    simp [hgt]
  | false =>
    cases hgt : a.gt b with
    | true => simp
    | false => cases b.gt a <;> simp

/-- Against the floor of `q`, with the fraction breaking the tie, an integer of the type compares as with `q`. -/
theorem compare_floor {q : Rat} {lo hi : Int} (hlo : lo ≤ i) (hhi : i < hi) :
    (if (Double.finite lo).gt (.finite ⌊q⌋) then Ordering.gt
      else if !(Double.finite hi).gt (.finite ⌊q⌋) then .lt
      else refineIntVsFloat (compare i ((Double.finite ⌊q⌋).toInt lo (hi - 1))) (.finite q) (.finite ⌊q⌋)) = compare (i : Rat) q := by
  have hfloor : ((⌊q⌋ : Int) : Rat) ≤ q := Int.floor_le q
  have hnext : q < ((⌊q⌋ : Int) : Rat) + 1 := Int.lt_floor_add_one q
  simp only [Double.gt, Int.cast_lt, decide_eq_true_eq, Bool.not_eq_true', decide_eq_false_iff_not, not_lt]
  split_ifs with hbelow habove
  · have : q < i := hnext.trans_le (by exact_mod_cast (by omega : ⌊q⌋ + 1 ≤ i))
    rw [compare_gt_iff_gt.2 this]
  · have : (i : Rat) < q := lt_of_lt_of_le (by exact_mod_cast (by omega : i < ⌊q⌋)) hfloor
    rw [compare_lt_iff_lt.2 this]
  · rw [Double.toInt_whole, show max lo (min ⌊q⌋ (hi - 1)) = ⌊q⌋ by omega]
    rcases lt_trichotomy i ⌊q⌋ with h | rfl | h
    · have : (i : Rat) < q := lt_of_lt_of_le (by exact_mod_cast h) hfloor
      rw [compare_lt_iff_lt.2 h, compare_lt_iff_lt.2 this]
      rfl
    · rw [compare_eq_iff_eq.2 rfl]
      simp only [refineIntVsFloat, Double.finite.injEq]
      split
      · rename_i heq
        rw [compare_eq_iff_eq.2 heq.symm]
      · rename_i hne
        rw [compare_lt_iff_lt.2 (lt_of_le_of_ne hfloor (Ne.symm hne))]
    · have : q < i := hnext.trans_le (by exact_mod_cast (by omega : ⌊q⌋ + 1 ≤ i))
      rw [compare_gt_iff_gt.2 h, compare_gt_iff_gt.2 this]
      rfl

theorem swap_compare (i : Int) (q : Rat) : (compare (i : Rat) q).swap = compare q (i : Rat) := Std.OrientedCmp.eq_swap.symm

theorem cmpFloatInt_signed (f : Double) (hlo : -2 ^ 63 ≤ i) (hhi : i < 2 ^ 63) :
    cmpFloatInt f (.signed i) = partialCmp f (.finite i) := by
  cases f with
  | finite q =>
    have hcompare := compare_floor (q := q) hlo hhi
    rw [partialCmp_finite, ← swap_compare, ← hcompare]
    push_cast
    rfl
  | posInf | negInf | nan => rfl

theorem cmpFloatInt_unsigned (f : Double) (hlo : 0 ≤ i) (hhi : i < 2 ^ 64) :
    cmpFloatInt f (.unsigned i) = partialCmp f (.finite i) := by
  cases f with
  | finite q =>
    have hcompare := compare_floor (q := q) hlo hhi
    rw [partialCmp_finite, ← swap_compare, ← hcompare]
    push_cast
    rfl
  | posInf | negInf | nan => rfl

/-- An integral scalar is an `i64`. -/
def Scalar.Fits : Scalar → Prop
  | .int number => -2 ^ 63 ≤ number ∧ number < 2 ^ 63
  | _ => True

theorem cmpFloatInt_operand (f : Double) {value : Scalar} (hfits : value.Fits) (hvalue : ∀ number, value ≠ .float number)
    (dtype : DType) : cmpFloatInt f (value.intOperand dtype) = partialCmp f (value.number dtype) := by
  cases value with
  | float number => exact absurd rfl (hvalue number)
  | bool flag =>
    unfold Scalar.number Scalar.intOperand intScalar
    split
    · exact cmpFloatInt_unsigned f (by cases flag <;> decide) (by cases flag <;> decide)
    · exact cmpFloatInt_signed f (by cases flag <;> decide) (by cases flag <;> decide)
  | int number =>
    unfold Scalar.number Scalar.intOperand intScalar
    split
    · exact cmpFloatInt_unsigned f (Int.emod_nonneg number (by decide)) (Int.emod_lt_of_pos number (by decide))
    · exact cmpFloatInt_signed f hfits.1 hfits.2

theorem compare_intCast (i j : Int) : compare (i : Rat) (j : Rat) = compare i j := by
  rcases lt_trichotomy i j with h | rfl | h
  · rw [compare_lt_iff_lt.2 h, compare_lt_iff_lt.2 (Int.cast_lt.2 h)]
  · rw [compare_eq_iff_eq.2 rfl, compare_eq_iff_eq.2 rfl]
  · rw [compare_gt_iff_gt.2 h, compare_gt_iff_gt.2 (Int.cast_lt.2 h)]

theorem cmpTyped_eq {a b : Scalar} (ha : a.Fits) (hb : b.Fits) (dtype : DType) :
    a.cmpTyped b dtype = partialCmp (a.number dtype) (b.number dtype) := by
  have hint : ∀ a b : Scalar, a.number dtype = .finite (intScalar a dtype) → b.number dtype = .finite (intScalar b dtype) →
      some (if dtype = .uint64 then compare a.asU64 b.asU64 else compare a.asI64 b.asI64) =
        partialCmp (a.number dtype) (b.number dtype) := by
    intro a b ha hb
    rw [ha, hb, partialCmp_finite]
    unfold intScalar
    split
    · rw [compare_intCast]
    · rw [compare_intCast]
  cases a with
  | float f =>
    cases b with
    | float g => rfl
    | bool _ | int _ => exact cmpFloatInt_operand f hb (fun _ => (nomatch ·)) dtype
  | bool flag =>
    cases b with
    | float g =>
      rw [← partialCmp_swap]
      exact congrArg (Option.map Ordering.swap) (cmpFloatInt_operand g ha (fun _ => (nomatch ·)) dtype)
    | bool flag' =>
      rw [← hint (.bool flag) (.bool flag') rfl rfl]
      cases flag <;> cases flag' <;> simp [Scalar.cmpTyped, Scalar.asU64, Scalar.asI64] <;> rfl
    | int _ => exact hint _ _ rfl rfl
  | int number =>
    cases b with
    | float g =>
      rw [← partialCmp_swap]
      exact congrArg (Option.map Ordering.swap) (cmpFloatInt_operand g ha (fun _ => (nomatch ·)) dtype)
    | bool _ | int _ => exact hint _ _ rfl rfl

theorem cmpTyped_gt {a b : Scalar} (ha : a.Fits) (hb : b.Fits) (dtype : DType) :
    a.cmpTyped b dtype = some .gt ↔ (a.number dtype).gt (b.number dtype) = true := by
  rw [cmpTyped_eq ha hb, partialCmp_gt]

/-! ## Elements -/

theorem fits_decodeScalar (hlen : chunk.length = dtypeSize dtype) : (decodeScalar chunk dtype).Fits := by
  have hunsigned := uintOfLeBytes_range chunk
  have hsigned := sintOfLeBytes_range chunk
  rw [hlen] at hunsigned hsigned
  cases dtype with
  | bool | float16 | float32 | float64 => trivial
  | uint8 | uint16 | uint32 | int8 | int16 | int32 | int64 | uint64 | unspecified =>
    norm_num [dtypeSize] at hunsigned hsigned
    simp only [decodeScalar, Scalar.Fits]
    omega

/-- The element chunks have the dtype's width, whatever is left over. -/
theorem length_element (h : chunk ∈ elements dtype data) : chunk.length = dtypeSize dtype :=
  length_of_mem_chunks_of_le (Nat.mul_div_le data.length (dtypeSize dtype)) h

theorem decodeScalar_float (hd : dtype.isFloat = true) (chunk : List UInt8) :
    decodeScalar chunk dtype = .float (readFloat dtype chunk) := by
  cases dtype <;> first | rfl | cases hd

def Bound.Fits (bound : Bound) : Prop := (∀ low, bound.1 = some low → low.Fits) ∧ ∀ high, bound.2 = some high → high.Fits

/-- For a float dtype the thresholds are the bounds, and an absent one is never passed. -/
theorem float_deviation (dtype : DType) (hfits : Bound.Fits bound) (i : Nat) (v : Double) :
    deviation Double.gt i (floatLow bound.1 dtype, floatHigh bound.2 dtype) v = referenceDeviation dtype i bound (.float v) := by
  have hlow : (floatLow bound.1 dtype).gt v = bound.1.any (fun low => low.cmpTyped (.float v) dtype = some .gt) := by
    cases hbound : bound.1 with
    | none => cases v <;> rfl
    | some low =>
      simp only [floatLow, Option.map_some, Option.getD_some, Option.any_some, cmpTyped_gt (hfits.1 low hbound) (b := .float v) trivial,
        Scalar.number, Bool.decide_eq_true]
  have hhigh : v.gt (floatHigh bound.2 dtype) = bound.2.any (fun high => (Scalar.float v).cmpTyped high dtype = some .gt) := by
    cases hbound : bound.2 with
    | none => cases v <;> rfl
    | some high =>
      simp only [floatHigh, Option.map_some, Option.getD_some, Option.any_some, cmpTyped_gt (a := .float v) trivial (hfits.2 high hbound),
        Scalar.number, Bool.decide_eq_true]
  unfold deviation referenceDeviation
  rw [hlow, hhigh]

/-- An element is below the threshold of a bound exactly when the bound is greater. -/
theorem intGt_intLow (hmin : i128Min ≤ v) (hmax : v < i128Max) (low : Scalar) :
    intGt (intLow (some low) dtype) v = (low.number dtype).gt (.finite v) := by
  cases low with
  | bool _ | int _ => exact decide_eq_decide.2 Int.cast_lt.symm
  | float number =>
    cases number with
    | finite q =>
      change decide (v < (Double.finite ⌈q⌉).toInt i128Min i128Max) = decide ((v : Rat) < q)
      rw [Double.toInt_whole, decide_eq_decide, ← Int.lt_ceil]
      omega
    | posInf => exact decide_eq_true hmax
    | negInf | nan => exact decide_eq_false (not_lt.2 hmin)

theorem intGt_intHigh (hmin : i128Min < v) (hmax : v ≤ i128Max) (high : Scalar) :
    intGt v (intHigh (some high) dtype) = (Double.finite v).gt (high.number dtype) := by
  cases high with
  | bool _ | int _ => exact decide_eq_decide.2 Int.cast_lt.symm
  | float number =>
    cases number with
    | finite q =>
      change decide ((Double.finite ⌊q⌋).toInt i128Min i128Max < v) = decide (q < (v : Rat))
      rw [Double.toInt_whole, decide_eq_decide, ← Int.floor_lt]
      omega
    | posInf | nan => exact decide_eq_false (not_lt.2 hmax)
    | negInf => exact decide_eq_true hmin

/-- For an integer or bool dtype an element deviates from the thresholds as from the bounds. -/
theorem int_deviation (hd : dtype.Integral) (hfits : Bound.Fits bound) (hlen : chunk.length = dtypeSize dtype)
    (i : Nat) :
    deviation intGt i (intLow bound.1 dtype, intHigh bound.2 dtype) (readInt dtype chunk) =
      referenceDeviation dtype i bound (decodeScalar chunk dtype) := by
  obtain ⟨hlo, hhi⟩ := readInt_range hd hlen
  obtain ⟨hmin, hmax⟩ := dtypeRange_wide hd
  have hscalar := fits_decodeScalar hlen
  have hnumber := number_decodeScalar hd hlen
  have hlow : intGt (intLow bound.1 dtype) (readInt dtype chunk) =
      bound.1.any (fun low => low.cmpTyped (decodeScalar chunk dtype) dtype = some .gt) := by
    cases hbound : bound.1 with
    | none => exact decide_eq_false (not_lt.2 (hmin.le.trans hlo))
    | some low =>
      rw [intGt_intLow (by omega) (by omega)]
      simp only [Option.any_some, cmpTyped_gt (hfits.1 low hbound) hscalar, hnumber, Bool.decide_eq_true]
  have hhigh : intGt (readInt dtype chunk) (intHigh bound.2 dtype) =
      bound.2.any (fun high => (decodeScalar chunk dtype).cmpTyped high dtype = some .gt) := by
    cases hbound : bound.2 with
    | none => exact decide_eq_false (not_lt.2 (hhi.trans hmax.le))
    | some high =>
      rw [intGt_intHigh (by omega) (by omega)]
      simp only [Option.any_some, cmpTyped_gt hscalar (hfits.2 high hbound), hnumber, Bool.decide_eq_true]
  unfold deviation referenceDeviation
  rw [hlow, hhigh]

/-! ## The scans agree -/

theorem referenceScan_eq (dtype : DType) (boundAt : Nat → Bound) (values : List Scalar) :
    referenceScan dtype boundAt values =
      firstFinding Scalar.isNan (fun i v => referenceDeviation dtype i (boundAt i) v) 0 none values := by
  have hfind := findSome?_zipIdx (fun i v => referenceDeviation dtype i (boundAt i) v) 0 0 values
  simp only [Nat.zero_add] at hfind
  unfold referenceScan firstFinding
  rw [hfind]
  cases values.findIdx? Scalar.isNan with
  | some k => simp only [Nat.zero_add]
  | none => rfl

/-- A scan of a float dtype that deviates element by element as the plain one finds what that finds. -/
theorem float_finding (hd : dtype.isFloat = true) {dev : Nat → Double → Option Finding} {boundAt : Nat → Bound}
    (h : ∀ (i : Nat) chunk, (elements dtype data)[i]? = some chunk → dev i (readFloat dtype chunk) = referenceDeviation dtype i (boundAt i) (.float (readFloat dtype chunk))) :
    firstFinding Double.isNan dev 0 none ((elements dtype data).map (readFloat dtype)) =
      referenceScan dtype boundAt ((elements dtype data).map (decodeScalar · dtype)) := by
  have hdecode : (fun chunk => decodeScalar chunk dtype) = fun chunk => .float (readFloat dtype chunk) :=
    funext (decodeScalar_float hd)
  rw [referenceScan_eq, hdecode]
  unfold firstFinding
  rw [List.findIdx?_map, List.findIdx?_map]
  have hout : firstOut dev 0 ((elements dtype data).map (readFloat dtype)) =
      firstOut (fun i v => referenceDeviation dtype i (boundAt i) v) 0
        ((elements dtype data).map fun chunk => .float (readFloat dtype chunk)) :=
    firstOut_congr fun k chunk hchunk => by
      rw [Nat.zero_add]
      exact h k chunk hchunk
  rw [hout]
  rfl

theorem int_finding (hd : dtype.Integral) {dev : Nat → Int → Option Finding} {boundAt : Nat → Bound}
    (h : ∀ (i : Nat) chunk, (elements dtype data)[i]? = some chunk → dev i (readInt dtype chunk) = referenceDeviation dtype i (boundAt i) (decodeScalar chunk dtype)) :
    firstOut dev 0 ((elements dtype data).map (readInt dtype)) =
      referenceScan dtype boundAt ((elements dtype data).map (decodeScalar · dtype)) := by
  have hnone : ((elements dtype data).map (decodeScalar · dtype)).findIdx? Scalar.isNan = none := by
    rw [List.findIdx?_eq_none_iff]
    intro value hvalue
    obtain ⟨chunk, -, rfl⟩ := List.mem_map.1 hvalue
    exact isNan_decodeScalar hd chunk
  rw [referenceScan_eq, firstFinding, hnone]
  exact firstOut_congr fun k chunk hchunk => by
    rw [Nat.zero_add]
    exact h k chunk hchunk

/-- A dtype is a float, an integer or bool dtype, or unspecified, which has no elements. -/
theorem DType.cases_kind (dtype : DType) : dtype.isFloat = true ∨ dtype.Integral ∨ dtype = .unspecified := by
  cases dtype <;> first | exact .inl rfl | exact .inr (.inl (.inl rfl)) | exact .inr (.inl (.inr rfl)) | exact .inr (.inr rfl)

theorem elements_unspecified (data : List UInt8) : elements .unspecified data = [] := by
  simp [elements, dtypeSize, chunks]

theorem scanUniform_eq (hfits : Bound.Fits bound) (data : List UInt8) :
    scanUniform data dtype bound.1 bound.2 =
      referenceScan dtype (fun _ => bound) ((elements dtype data).map (decodeScalar · dtype)) := by
  unfold scanUniform
  rcases dtype.cases_kind with hd | hd | rfl
  · rw [if_pos hd, scanAt_eq, float_finding hd fun i chunk _ => float_deviation dtype hfits i _]
  · have hvalues : ∀ v ∈ (elements dtype data).map (readInt dtype), (dtypeRange dtype).1 ≤ v ∧ v ≤ (dtypeRange dtype).2 := by
      intro v hv
      obtain ⟨chunk, hchunk, rfl⟩ := List.mem_map.1 hv
      exact readInt_range hd (length_element hchunk)
    rw [hd.not_float, if_neg Bool.false_ne_true, scanInt_eq hvalues,
      int_finding hd fun i chunk hchunk => int_deviation hd hfits (length_element (List.mem_of_getElem? hchunk)) i]
  · rw [elements_unspecified]
    rfl

theorem fits_finiteFloat (value : Double) {scalar : Scalar} (h : finiteFloat value = some scalar) : scalar.Fits := by
  unfold finiteFloat at h
  split at h
  · cases h
    trivial
  · cases h

theorem scanElementwise_eq (data : List UInt8) (dtype : DType) (low high : List Double) :
    scanElementwise data dtype low high =
      referenceScan dtype (fun i => (low[i]?.bind finiteFloat, high[i]?.bind finiteFloat))
        ((elements dtype data).map (decodeScalar · dtype)) := by
  have hfits : ∀ i : Nat, Bound.Fits (low[i]?.bind finiteFloat, high[i]?.bind finiteFloat) := by
    intro i
    refine ⟨fun scalar h => ?_, fun scalar h => ?_⟩ <;>
    · obtain ⟨value, -, hvalue⟩ := Option.bind_eq_some_iff.1 h
      exact fits_finiteFloat value hvalue
  unfold scanElementwise
  rcases dtype.cases_kind with hd | hd | rfl
  · rw [if_pos hd, scanAt_eq, float_finding hd fun i chunk _ => float_deviation dtype (hfits i) i _]
  · rw [hd.not_float, if_neg Bool.false_ne_true, scanAt_int,
      int_finding hd fun i chunk hchunk => int_deviation hd (hfits i) (length_element (List.mem_of_getElem? hchunk)) i]
  · rw [elements_unspecified]
    rfl

/-- Typed bounds that pass their check have an element for every element of the value. -/
theorem exists_typed_bound {bytes : List UInt8} {i : Nat}
    (hcheck : checkTypedBounds bytes (data.length / dtypeSize dtype) dtype = .ok ())
    (hchunk : (elements dtype data)[i]? = some chunk) :
    ∃ bound, (elements dtype bytes)[i]? = some bound ∧ bound.length = dtypeSize dtype := by
  have hcount : bytes.length / dtypeSize dtype = data.length / dtypeSize dtype := by
    unfold checkTypedBounds at hcheck
    split_ifs at hcheck with hwhole hcount
    exact not_not.1 hcount
  have hi : i < (elements dtype bytes).length := by
    have hdata := (List.getElem?_eq_some_iff.1 hchunk).1
    rw [elements, length_chunks] at hdata ⊢
    omega
  exact ⟨_, List.getElem?_eq_getElem hi, length_element (List.getElem_mem hi)⟩

theorem length_of_check {bytes : List UInt8} (h : checkTypedBounds bytes 1 dtype = .ok ()) :
    bytes.length = dtypeSize dtype := by
  unfold checkTypedBounds at h
  split_ifs at h with hwhole hcount
  have hwhole := not_not.1 hwhole
  have hdiv := Nat.div_add_mod bytes.length (dtypeSize dtype)
  rw [not_not.1 hcount, hwhole] at hdiv
  omega

theorem fits_typed {low high : List UInt8} (hlow : low.length = dtypeSize dtype)
    (hhigh : high.length = dtypeSize dtype) :
    Bound.Fits (some (decodeScalar low dtype), some (decodeScalar high dtype)) := by
  refine ⟨fun scalar h => ?_, fun scalar h => ?_⟩
  · cases h
    exact fits_decodeScalar hlow
  · cases h
    exact fits_decodeScalar hhigh

theorem scanTypedElementwise_eq {low high : List UInt8}
    (hlow : checkTypedBounds low (data.length / dtypeSize dtype) dtype = .ok ())
    (hhigh : checkTypedBounds high (data.length / dtypeSize dtype) dtype = .ok ()) :
    scanTypedElementwise data dtype low high =
      referenceScan dtype (fun i => ((elements dtype low)[i]?.map (decodeScalar · dtype),
        (elements dtype high)[i]?.map (decodeScalar · dtype))) ((elements dtype data).map (decodeScalar · dtype)) := by
  unfold scanTypedElementwise
  rcases dtype.cases_kind with hd | hd | rfl
  · rw [if_pos hd, scanAt_eq]
    refine float_finding hd fun i chunk hchunk => ?_
    obtain ⟨l, hl, hllen⟩ := exists_typed_bound hlow hchunk
    obtain ⟨h, hh, hhlen⟩ := exists_typed_bound hhigh hchunk
    have hdeviation := float_deviation dtype (fits_typed hllen hhlen) i (readFloat dtype chunk)
    simp only [decodeScalar_float hd, hl, hh, Option.getD_some, Option.map_some] at hdeviation ⊢
    exact hdeviation
  · rw [hd.not_float, if_neg Bool.false_ne_true, scanAt_int]
    refine int_finding hd fun i chunk hchunk => ?_
    obtain ⟨l, hl, hllen⟩ := exists_typed_bound hlow hchunk
    obtain ⟨h, hh, hhlen⟩ := exists_typed_bound hhigh hchunk
    have hdeviation := int_deviation hd (fits_typed hllen hhlen) (length_element (List.mem_of_getElem? hchunk)) i
    simp only [intLow_decodeScalar hd hllen, intHigh_decodeScalar hd hhlen] at hdeviation
    simp only [hl, hh, Option.getD_some, Option.map_some]
    exact hdeviation
  · rw [elements_unspecified data]
    rfl

/-- The vectorised scan finds what the plain one finds, for every dtype, every form of bounds and every
string of element bytes: the same element, the same side, and the same refusal of bounds of a wrong length. -/
theorem boxFinding_eq_reference (bounds : Option Bounds) (dtype : DType) (data : List UInt8) :
    boxFinding bounds dtype (data.length / dtypeSize dtype) data =
      referenceFinding bounds dtype (data.length / dtypeSize dtype) data := by
  have hnone : Bound.Fits (none, none) := ⟨fun _ => (nomatch ·), fun _ => (nomatch ·)⟩
  rw [boxFinding_eq_scanBounds]
  unfold scanBounds referenceFinding referenceBounds
  rcases bounds with _ | ⟨flag⟩ | ⟨low, high⟩ | ⟨low, high⟩ | ⟨low, high⟩ | ⟨low, high⟩
  · exact congrArg Except.ok (scanUniform_eq hnone data)
  · exact congrArg Except.ok (scanUniform_eq hnone data)
  · have hfits : Bound.Fits (finiteFloat low, finiteFloat high) := ⟨fun _ => fits_finiteFloat low, fun _ => fits_finiteFloat high⟩
    exact congrArg Except.ok (scanUniform_eq hfits data)
  · dsimp only
    split
    · rfl
    · exact congrArg Except.ok (scanElementwise_eq data dtype low high)
  · dsimp only
    cases hlow : checkTypedBounds low 1 dtype with
    | error e => rfl
    | ok _ =>
      cases hhigh : checkTypedBounds high 1 dtype with
      | error e => rfl
      | ok _ => exact congrArg Except.ok (scanUniform_eq (fits_typed (length_of_check hlow) (length_of_check hhigh)) data)
  · dsimp only
    cases hlow : checkTypedBounds low (data.length / dtypeSize dtype) dtype with
    | error e => rfl
    | ok _ =>
      cases hhigh : checkTypedBounds high (data.length / dtypeSize dtype) dtype with
      | error e => rfl
      | ok _ => exact congrArg Except.ok (scanTypedElementwise_eq hlow hhigh)

end Rlmesh.Spaces
