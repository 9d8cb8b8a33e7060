import Rlmesh.Spaces.Bounds
import Rlmesh.Wire.Slab
/-!
# One value on the wire (`rlmesh-grpc/src/wire/value/leaves.rs`)

A single value is one byte string per canonical leaf. What was encoded decodes to
what was encoded, lane by lane also in a batch, and whatever decodes can be
encoded again, but for a `uint64` category index the encoder refuses.
-/
open Rlmesh.Lib Rlmesh.Spaces

set_option linter.unusedSectionVars false

namespace Rlmesh.Wire

variable {B : Type}

/-- Encode a single typed value into one byte string per canonical leaf. -/
def encodeLeaves (value : SpaceValue) (spec : SpaceSpec B) : Except ProtocolError Leaves := do
  let values ← (flattenLeaves spec value).mapError (fun e => .encodeError e.toString)
  ((leafSpecs spec).zip values).mapM (fun entry => encodeLeaf entry.1 entry.2)

/-- Rebuild a single typed value from its canonical leaf bytes. -/
def decodeLeaves (leaves : Leaves) (spec : SpaceSpec B) : Except ProtocolError SpaceValue :=
  if leaves.length ≠ (leafSpecs spec).length then
    .error (.lengthMismatch s!"got {leaves.length} leaves, spec expects {(leafSpecs spec).length}")
  else do
    let values ← (leaves.zip (leafSpecs spec)).mapM (fun entry => decodeLeaf entry.1 entry.2)
    (assembleValue spec values).mapError (fun e => .decodeError e.toString)

/-! ## Leaf by leaf -/

variable {value : SpaceValue} {spec : SpaceSpec B} {leaves : Leaves} {dtype : DType}

theorem encodeLeaves_ok :
    encodeLeaves value spec = .ok leaves ↔ ∃ values, flattenLeaves spec value = .ok values ∧
      List.Forall₂ (fun entry leaf => encodeLeaf entry.1 entry.2 = .ok leaf) ((leafSpecs spec).zip values) leaves := by
  unfold encodeLeaves
  simp only [bind_ok, mapError_ok, mapM_ok]

theorem decodeLeaves_ok :
    decodeLeaves leaves spec = .ok value ↔ leaves.length = (leafSpecs spec).length ∧ ∃ values,
      List.Forall₂ (fun entry value => decodeLeaf entry.1 entry.2 = .ok value) (leaves.zip (leafSpecs spec)) values ∧
        assembleValue spec values = .ok value := by
  unfold decodeLeaves
  split
  · rename_i hne
    simp [hne]
  · rename_i heq
    rw [not_not] at heq
    simp only [bind_ok, mapError_ok, mapM_ok, heq, true_and]

theorem decodeLeaves_encoded {values : List SpaceValue} (hlen : values.length = (leafSpecs spec).length)
    (hsized : ∀ entry ∈ (leafSpecs spec).zip values, LeafSized entry.1 entry.2)
    (h : List.Forall₂ (fun entry leaf => encodeLeaf entry.1 entry.2 = .ok leaf) ((leafSpecs spec).zip values) leaves)
    (hvalue : assembleValue spec values = .ok value) : decodeLeaves leaves spec = .ok value := by
  have hcount : leaves.length = (leafSpecs spec).length := by
    rw [← h.length_eq, List.length_zip, hlen, Nat.min_self]
  have hdecoded : List.Forall₂ (fun entry leaf => decodeLeaf leaf entry.1 = .ok entry.2)
      ((leafSpecs spec).zip values) leaves :=
    forall₂_imp_mem (fun entry hentry _ _ hleaf => decodeLeaf_encodeLeaf (hsized entry hentry) hleaf) h
  refine decodeLeaves_ok.2 ⟨hcount, values, ?_, hvalue⟩
  exact (forall₂_zip_iff (R := fun leaf value bytes => decodeLeaf bytes leaf = .ok value) hlen.symm hcount).1 hdecoded

/-! ## What decodes can be encoded again -/

/-- No category index of a `uint64` leaf is beyond `i64`. -/
def IndicesFit (spec : SpaceSpec B) (bytes : Bytes) : Prop :=
  match spec with
  | .multiDiscrete _ .uint64 _ => ∀ chunk ∈ chunks 8 (bytes.length / 8) bytes, ofLeBytes chunk < 2 ^ 63
  | _ => True

/-- An index the decoder read passes the encoder's check, unless it wrapped. -/
theorem rangeCheck_decoded (hd : dtype.isInteger = true) {chunk : Bytes} (hlen : chunk.length = dtypeSize dtype)
    (hfit : dtype = .uint64 → ofLeBytes chunk < 2 ^ 63) : rangeCheck (decodeScalar dtype chunk) dtype = .ok () := by
  cases dtype with
  | uint8 | uint16 | uint32 => exact rangeCheck_decodeScalar rfl hlen (uintOfLeBytes_range chunk).1
  | uint64 =>
    refine rangeCheck_decodeScalar rfl hlen ?_
    have hsmall := hfit rfl
    change 0 ≤ sintOfLeBytes chunk
    rw [sintOfLeBytes, hlen, Int.bmod_eq_of_le (by norm_num [dtypeSize]) (by norm_num [dtypeSize]; omega)]
    exact Int.natCast_nonneg _
  | int8 | int16 | int32 | int64 =>
    have hrange := sintOfLeBytes_range chunk
    rw [hlen] at hrange
    norm_num [dtypeSize] at hrange
    refine rangeCheck_of_range (by decide) rfl ?_
    change _ ≤ sintOfLeBytes chunk ∧ sintOfLeBytes chunk ≤ _
    omega
  | _ => cases hd

theorem decodeIntSequence_ok {values : List Int} {bytes : Bytes} (h : decodeIntSequence bytes dtype = .ok values) :
    bytes.length = dtypeSize dtype * (bytes.length / dtypeSize dtype) ∧
      values = (chunks (dtypeSize dtype) (bytes.length / dtypeSize dtype) bytes).map (decodeScalar dtype) := by
  unfold decodeIntSequence at h
  split at h
  · cases h
  split at h
  · cases h
  split at h
  · cases h
  · rename_i hmod
    cases h
    exact ⟨(Nat.mul_div_cancel' (Nat.dvd_of_mod_eq_zero (not_not.1 hmod))).symm, rfl⟩

theorem encodeIntSequence_total (hd : dtype.isInteger = true) (values : List Int) :
    ∃ bytes, encodeIntSequence values dtype = .ok bytes :=
  ⟨_, by rw [encodeIntSequence, if_pos (by rw [hd, Bool.true_or])]⟩

theorem encodeLeaf_of_decoded (hi : CategoriesIntegral spec) {bytes : Bytes} (hfit : IndicesFit spec bytes)
    (h : decodeLeaf bytes spec = .ok value) : LeafSized spec value ∧ ∃ again, encodeLeaf spec value = .ok again := by
  cases spec with
  | box shape dtype bounds =>
    rw [decodeLeaf] at h
    split at h
    · rename_i tensor htensor
      cases h
      obtain ⟨-, rfl, rfl⟩ := Tensor.fromSlice_ok htensor
      exact ⟨trivial, tensor.data, by rw [encodeLeaf, if_neg (by simp)]⟩
    · cases h
  | discrete shape dtype n start =>
    rw [decodeLeaf] at h
    obtain ⟨⟨⟩, -, h⟩ := bind_ok.1 h
    obtain ⟨values, -, h⟩ := bind_ok.1 h
    cases values with
    | nil => cases h
    | cons first rest =>
      obtain ⟨⟨⟩, hrange, h⟩ := bind_ok.1 h
      cases h
      obtain ⟨again, hagain⟩ := encodeIntSequence_total hi [first]
      exact ⟨trivial, again, by rw [encodeLeaf, hrange]; exact hagain⟩
  | multiBinary shape dtype =>
    rw [decodeLeaf] at h
    obtain ⟨count, hcount, h⟩ := bind_ok.1 h
    obtain ⟨⟨⟩, hlen, h⟩ := bind_ok.1 h
    cases h
    refine ⟨?_, _, rfl⟩
    rw [LeafSized, List.length_map, exactLen_ok hlen]
    unfold numel at hcount
    dsimp only at hcount
    split at hcount
    · cases hcount; assumption
    · cases hcount
  | multiDiscrete shape dtype nvec =>
    rw [decodeLeaf] at h
    obtain ⟨count, hcount, h⟩ := bind_ok.1 h
    obtain ⟨⟨⟩, hlen, h⟩ := bind_ok.1 h
    obtain ⟨values, hvalues, h⟩ := bind_ok.1 h
    cases h
    cases hcount
    obtain ⟨hwhole, rfl⟩ := decodeIntSequence_ok hvalues
    have hpos : 0 < dtypeSize dtype := dtypeSize_pos (by rw [Carried, hi, Bool.true_or])
    have hchecks : ∀ value ∈ (chunks (dtypeSize dtype) (bytes.length / dtypeSize dtype) bytes).map
        (decodeScalar dtype), rangeCheck value dtype = .ok () := by
      intro value hvalue
      obtain ⟨chunk, hchunk, rfl⟩ := List.mem_map.1 hvalue
      refine rangeCheck_decoded hi (length_of_mem_chunks hwhole hchunk) ?_
      rintro rfl
      exact hfit chunk hchunk
    obtain ⟨again, hagain⟩ := encodeIntSequence_total hi
      ((chunks (dtypeSize dtype) (bytes.length / dtypeSize dtype) bytes).map (decodeScalar dtype))
    refine ⟨?_, again, by rw [encodeLeaf, mapM_rangeCheck hchecks]; exact hagain⟩
    rw [LeafSized, List.length_map, length_chunks, exactLen_ok hlen, Nat.mul_div_cancel _ hpos]
  | text shape dtype minLength maxLength charset =>
    rw [decodeLeaf] at h
    obtain ⟨text, -, h⟩ := bind_ok.1 h
    cases h
    exact ⟨trivial, _, rfl⟩
  | _ => cases h

section Again

variable [BoxBounds B]

/-- One index of four, carried as a `uint64`. -/
def oneOfFour : SpaceSpec (Option Bounds) := .multiDiscrete [1] .uint64 [4]

end Again

/-! ## Lanes of a batch -/

variable {column : List SpaceValue} {slab : Bytes} {n : Nat}

/-- Every value of a column the encoder took is a leaf of the right size that encodes on its own. -/
theorem encodeColumn_leaf {spec : SpaceSpec B} (hi : CategoriesIntegral spec)
    (h : encodeColumn spec column = .ok slab) {value : SpaceValue} (hvalue : value ∈ column) :
    LeafSized spec value ∧ ∃ leaf, encodeLeaf spec value = .ok leaf := by
  unfold encodeColumn at h
  split at h
  · rename_i htext
    obtain ⟨bodies, hbodies, -⟩ := bind_ok.1 h
    obtain ⟨body, -, hbody⟩ := forall₂_mem_right (mapM_ok.1 hbodies).flip hvalue
    obtain ⟨text, rfl, -⟩ := textOf_ok hbody
    cases spec with
    | text shape dtype minLength maxLength charset => exact ⟨trivial, _, rfl⟩
    | _ => cases htext
  · obtain ⟨stride, hstride, h⟩ := bind_ok.1 h
    obtain ⟨leaves, hleaves, -⟩ := bind_ok.1 h
    have hlanes : List.Forall₂ (Encoded spec stride) column leaves :=
      forall₂_zipIdx.1 ((mapM_ok.1 hleaves).imp (fun entry leaf hentry => encodeStride_ok.1 hentry))
    obtain ⟨leaf, -, hleaf⟩ := forall₂_mem_right hlanes.flip hvalue
    exact ⟨leafSized_of_encoded hi hstride hleaf, leaf, hleaf.1⟩

/-- A leaf whose slab says how many lanes it holds. -/
def Counted (leaf : SpaceSpec B) : Prop := isText leaf = true ∨ ∃ stride, leafStride leaf = .ok stride ∧ stride ≠ 0

theorem readU64_of_decodeTextSlab (h : decodeTextSlab slab n = .ok column) : ∃ buf, readU64 slab = .ok (n, buf) := by
  unfold decodeTextSlab at h
  obtain ⟨⟨count, buf⟩, hcount, h⟩ := bind_ok.1 h
  dsimp only at h
  split at h
  · cases h
  · rename_i hn
    exact ⟨buf, by rw [hcount, not_not.1 hn]⟩

theorem length_of_decodeLeafColumn {leaf : SpaceSpec B} (htext : ¬ isText leaf = true) {stride : Nat}
    (hstride : leafStride leaf = .ok stride) (h : decodeLeafColumn slab leaf n = .ok column) :
    slab.length = stride * n := by
  unfold decodeLeafColumn checkedMul at h
  rw [if_neg htext, hstride] at h
  dsimp only [bind, Except.bind] at h
  split at h
  · cases h
  · rename_i want hwant
    split at hwant
    · cases hwant
      split at h
      · cases h
      · rename_i hlen
        exact not_not.1 hlen
    · cases hwant

theorem count_of_decodeLeafColumn {leaf : SpaceSpec B} (hi : CategoriesIntegral leaf) (hc : Counted leaf)
    {decoded : List SpaceValue} (h : encodeColumn leaf column = .ok slab)
    (hn : decodeLeafColumn slab leaf n = .ok decoded) : n = column.length := by
  have hself := decodeLeafColumn_encodeColumn hi h
  by_cases htext : isText leaf = true
  · unfold decodeLeafColumn at hn hself
    rw [if_pos htext] at hn hself
    obtain ⟨buf, hbuf⟩ := readU64_of_decodeTextSlab hn
    obtain ⟨buf', hbuf'⟩ := readU64_of_decodeTextSlab hself
    rw [hbuf] at hbuf'
    cases hbuf'
    rfl
  · obtain ⟨stride, hstride, hpos⟩ := hc.resolve_left htext
    have hlen := length_of_decodeLeafColumn htext hstride hn
    rw [length_of_decodeLeafColumn htext hstride hself] at hlen
    exact (Nat.eq_of_mul_eq_mul_left (Nat.pos_of_ne_zero hpos) hlen).symm

/-- A column of the batch: the values its rows have at the leaf's place, and the slab it became. -/
theorem columns_of_encodeLeafSlab {spec : SpaceSpec B} {values : List SpaceValue} {slabs : Leaves}
    (h : encodeLeafSlab values spec = .ok slabs) : ∃ rows,
      List.Forall₂ (fun value row => flattenLeaves spec value = .ok row) values rows ∧
        ∀ (p : Nat) leaf, (leafSpecs spec)[p]? = some leaf → ∃ column slab,
          (transpose (leafSpecs spec).length rows)[p]? = some column ∧ slabs[p]? = some slab ∧
            encodeColumn leaf column = .ok slab := by
  unfold encodeLeafSlab at h
  obtain ⟨rows, hrows, h⟩ := bind_ok.1 h
  refine ⟨rows, (mapM_ok.1 hrows).imp (fun value row hrow => mapError_ok.1 hrow), fun p leaf hleaf => ?_⟩
  have hp : p < (transpose (leafSpecs spec).length rows).length := by
    rw [length_transpose]
    exact (List.getElem?_eq_some_iff.1 hleaf).1
  have hcolumn := List.getElem?_eq_getElem hp
  have hentry : ((leafSpecs spec).zip (transpose (leafSpecs spec).length rows))[p]? =
      some (leaf, (transpose (leafSpecs spec).length rows)[p]) := List.getElem?_zip_eq_some.2 ⟨hleaf, hcolumn⟩
  obtain ⟨slab, hslab, hencode⟩ := forall₂_getElem? (mapM_ok.1 h) hentry
  exact ⟨_, slab, hcolumn, hslab, hencode⟩

section Lanes

variable [BoxBounds B]

/-- A lane of the batch encodes and decodes alone to what it reassembles to. -/
theorem lane_alone {spec : SpaceSpec B} (hw : WellFormed spec) {values : List SpaceValue} {slabs : Leaves}
    (h : encodeLeafSlab values spec = .ok slabs) {value : SpaceValue} (hvalue : value ∈ values)
    {row : List SpaceValue} (hrow : flattenLeaves spec value = .ok row) {lane : SpaceValue}
    (hlane : assembleValue spec row = .ok lane) :
    ∃ leaves, encodeLeaves value spec = .ok leaves ∧ decodeLeaves leaves spec = .ok lane := by
  obtain ⟨rows, hflat, hcolumns⟩ := columns_of_encodeLeafSlab h
  have hmem : row ∈ rows := by
    obtain ⟨other, hother, heq⟩ := forall₂_mem_right hflat.flip hvalue
    rw [hrow] at heq
    cases heq
    exact hother
  have hlen := length_flattenLeaves hw.keyed hrow
  have hleaves : ∀ entry ∈ (leafSpecs spec).zip row,
      LeafSized entry.1 entry.2 ∧ ∃ leaf, encodeLeaf entry.1 entry.2 = .ok leaf := by
    intro entry hentry
    obtain ⟨p, hp⟩ := List.mem_iff_getElem?.1 hentry
    obtain ⟨hleaf, hitem⟩ := List.getElem?_zip_eq_some.1 hp
    obtain ⟨column, slab, hcolumn, -, hencode⟩ := hcolumns p entry.1 hleaf
    obtain ⟨column', hcolumn', hin⟩ := mem_transpose (List.getElem?_eq_some_iff.1 hleaf).1 hmem hitem
    rw [hcolumn] at hcolumn'
    cases hcolumn'
    exact encodeColumn_leaf (hw.integral _ (List.mem_of_getElem? hleaf)) hencode hin
  obtain ⟨leaves, hencode⟩ := mapM_total (fun entry hentry => (hleaves entry hentry).2)
  have hencoded := mapM_ok.1 hencode
  exact ⟨leaves, encodeLeaves_ok.2 ⟨row, hrow, hencoded⟩,
    decodeLeaves_encoded hlen (fun entry hentry => (hleaves entry hentry).1) hencoded hlane⟩

/-- A batch decodes, lane by lane, to what each value alone would, and for no other
number of lanes once some leaf's slab says how many it holds. -/
theorem slab_keeps_lanes_apart {spec : SpaceSpec B} (hvalid : validateSpace spec = .ok ()) {values : List SpaceValue}
    {slab : Leaves} (h : encodeLeafSlab values spec = .ok slab) :
    (∃ decoded, decodeLeafSlab slab spec values.length = .ok decoded ∧
      List.Forall₂ (fun value lane => ∃ leaves, encodeLeaves value spec = .ok leaves ∧
        decodeLeaves leaves spec = .ok lane) values decoded) ∧
    ((∃ leaf ∈ leafSpecs spec, isText leaf = true ∨ ∃ stride, leafStride leaf = .ok stride ∧ stride ≠ 0) →
      ∀ n ≠ values.length, ∃ e, decodeLeafSlab slab spec n = .error e) := by
  have hw := wellFormed_of_accepted ⟨_, hvalid⟩
  constructor
  · obtain ⟨rows, hflat, hdecode⟩ := decodeLeafSlab_rows hw h
    have htotal : ∀ row ∈ rows, ∃ lane,
        (assembleValue spec row).mapError (fun e => ProtocolError.decodeError e.toString) = .ok lane := by
      intro row hrow
      obtain ⟨value, -, hvalue⟩ := forall₂_mem_right hflat hrow
      obtain ⟨lane, hlane⟩ := assembleValue_total hw.keyed (length_flattenLeaves hw.keyed hvalue)
      exact ⟨lane, mapError_ok.2 hlane⟩
    obtain ⟨decoded, hlanes⟩ := mapM_total htotal
    have hmem := forall₂_imp_mem (fun value hvalue row _ hrow => And.intro hvalue hrow) hflat
    refine ⟨decoded, hdecode.trans hlanes, forall₂_chain (fun value row lane hrow hlane => ?_) hmem (mapM_ok.1 hlanes)⟩
    exact lane_alone hw h hrow.1 hrow.2 (mapError_ok.1 hlane)
  · rintro ⟨leaf, hleaf, hcounted⟩ n hn
    cases hdecode : decodeLeafSlab slab spec n with
    | error e => exact ⟨e, rfl⟩
    | ok decoded =>
      obtain ⟨rows, hflat, hcolumns⟩ := columns_of_encodeLeafSlab h
      have hwidth : ∀ row ∈ rows, row.length = (leafSpecs spec).length := by
        intro row hrow
        obtain ⟨value, -, hvalue⟩ := forall₂_mem_right hflat hrow
        exact length_flattenLeaves hw.keyed hvalue
      obtain ⟨p, hp⟩ := List.mem_iff_getElem?.1 hleaf
      obtain ⟨column, bytes, hcolumn, hbytes, hencode⟩ := hcolumns p leaf hp
      unfold decodeLeafSlab at hdecode
      split at hdecode
      · cases hdecode
      obtain ⟨columns, hdecoded, -⟩ := bind_ok.1 hdecode
      have hentry : (slab.zip (leafSpecs spec))[p]? = some (bytes, leaf) := List.getElem?_zip_eq_some.2 ⟨hbytes, hp⟩
      obtain ⟨back, -, hback⟩ := forall₂_getElem? (mapM_ok.1 hdecoded) hentry
      have hcount := count_of_decodeLeafColumn (hw.integral _ hleaf) hcounted hencode hback
      rw [length_of_mem_transpose hwidth (List.mem_of_getElem? hcolumn), ← hflat.length_eq] at hcount
      exact absurd hcount hn

/-- A text and an index. -/
def labelled : SpaceSpec (Option Bounds) := .tuple [] .unspecified [.text [] .uint8 0 4 "", oneOfFour]

/-- The slab of two lanes is no slab of three. -/
theorem two_lanes_apart :
    ∃ e, decodeLeafSlab [toLeBytes 8 2 ++ toLeBytes 8 1 ++ toLeBytes 8 0 ++ [97], toLeBytes 8 1 ++ toLeBytes 8 2]
      labelled 3 = .error e := by
  have hencode : encodeLeafSlab [.tuple [.text "a", .multiDiscrete [1]], .tuple [.text "", .multiDiscrete [2]]]
      labelled = .ok [toLeBytes 8 2 ++ toLeBytes 8 1 ++ toLeBytes 8 0 ++ [97], toLeBytes 8 1 ++ toLeBytes 8 2] := by
    decide +kernel
  exact (slab_keeps_lanes_apart (by decide +kernel) hencode).2 ⟨_, List.mem_cons_self, .inl rfl⟩ 3 (by decide)

end Lanes

end Rlmesh.Wire
