import Rlmesh.Wire.Leaves
/-!
# Slabs keep lanes apart

Encoding a batch of values and decoding it with the same number of lanes gives
the values back, and a slab that decodes to values of the space is the encoding
of those values. Both are proved leaf by leaf, then column by column; the walk
over the spec's tree turns columns back into rows.
-/
open Rlmesh.Lib Rlmesh.Spaces

set_option linter.unusedSectionVars false

namespace Rlmesh.Wire

variable {B : Type}

/-! ## Category indices -/

/-- A dtype the category codec carries. -/
def Carried (dtype : DType) : Prop := (dtype.isInteger || dtype = .bool) = true

variable {dtype : DType} {values : List Int} {bytes buf rest slab : Bytes} {value : SpaceValue} {spec : SpaceSpec B}
  {n stride : Nat} {lens : List Nat} {column : List SpaceValue}

theorem rangeCheck_ok {value : Int} (h : rangeCheck value dtype = .ok ()) :
    ∀ lo hi, signedDtypeRange dtype = some (lo, hi) → lo ≤ value ∧ value ≤ hi := by
  intro lo hi hrange
  unfold rangeCheck checkIntInDtypeRange at h
  rw [hrange] at h
  by_cases hd : dtype = .unspecified
  · rw [if_pos hd] at h; cases h
  · rw [if_neg hd] at h
    by_cases hv : lo ≤ value ∧ value ≤ hi
    · exact hv
    · simp only [if_neg hv] at h; cases h

theorem rangeCheck_of_range {value : Int} {lo hi : Int} (hd : dtype ≠ .unspecified)
    (hrange : signedDtypeRange dtype = some (lo, hi)) (hv : lo ≤ value ∧ value ≤ hi) :
    rangeCheck value dtype = .ok () := by
  simp only [rangeCheck, checkIntInDtypeRange, if_neg hd, hrange, if_pos hv]

@[simp] theorem length_encodeOne (dtype : DType) (value : Int) : (encodeOne dtype value).length = dtypeSize dtype := by
  cases dtype <;> simp [encodeOne, dtypeSize]

theorem decodeScalar_encodeOne (hd : Carried dtype) {value : Int} (h : rangeCheck value dtype = .ok ()) :
    decodeScalar dtype (encodeOne dtype value) = value := by
  have hr := rangeCheck_ok h
  cases dtype with
  | bool =>
    have hv := hr 0 1 rfl
    rcases (show value = 0 ∨ value = 1 by omega) with rfl | rfl <;> rfl
  | uint8 | uint16 | uint32 =>
    have hv := hr _ _ rfl
    exact uintOfLeBytes_intToLeBytes (by omega) (by norm_num [dtypeSize]; omega)
  | uint64 | int8 | int16 | int32 | int64 =>
    have hv := hr _ _ rfl
    exact sintOfLeBytes_intToLeBytes (by norm_num [dtypeSize]; omega) (by norm_num [dtypeSize]; omega)
  | unspecified | float16 | float32 | float64 => cases hd

theorem encodeOne_decodeScalar (hd : dtype.isInteger = true) {chunk : Bytes} (hlen : chunk.length = dtypeSize dtype) :
    encodeOne dtype (decodeScalar dtype chunk) = chunk := by
  cases dtype with
  | uint8 | uint16 | uint32 => exact intToLeBytes_uintOfLeBytes hlen
  | uint64 | int8 | int16 | int32 | int64 => exact intToLeBytes_sintOfLeBytes hlen
  | _ => cases hd

theorem rangeCheck_decodeScalar (hd : dtype.isInteger = true) {chunk : Bytes} (hlen : chunk.length = dtypeSize dtype)
    (h : 0 ≤ decodeScalar dtype chunk) : rangeCheck (decodeScalar dtype chunk) dtype = .ok () := by
  cases dtype with
  | uint8 | uint16 | uint32 =>
    have hr := uintOfLeBytes_range chunk
    rw [hlen] at hr
    refine rangeCheck_of_range (by decide) rfl ⟨hr.1, ?_⟩
    have hhigh := hr.2
    norm_num [dtypeSize] at hhigh
    exact Int.le_of_lt_add_one hhigh
  | uint64 | int8 | int16 | int32 | int64 =>
    have hhigh : sintOfLeBytes chunk < ((256 ^ chunk.length : Nat) + 1 : Int) / 2 := Int.bmod_lt (by positivity)
    rw [hlen] at hhigh
    have hlow : (0 : Int) ≤ sintOfLeBytes chunk := h
    norm_num [dtypeSize] at hhigh
    refine rangeCheck_of_range (by decide) rfl ⟨?_, ?_⟩ <;> simp only [decodeScalar] <;> omega
  | _ => cases hd

theorem dtypeSize_pos (hd : Carried dtype) : 0 < dtypeSize dtype := by
  cases dtype <;> first | decide | cases hd

theorem decodeIntSequence_encodeIntSequence (h : encodeIntSequence values dtype = .ok bytes)
    (hv : ∀ value ∈ values, rangeCheck value dtype = .ok ()) :
    bytes.length = values.length * dtypeSize dtype ∧ decodeIntSequence bytes dtype = .ok values := by
  unfold encodeIntSequence at h
  split at h
  · rename_i hd
    cases h
    have hpieces : ∀ piece ∈ values.map (encodeOne dtype), piece.length = dtypeSize dtype := by
      intro piece hpiece
      obtain ⟨value, -, rfl⟩ := List.mem_map.1 hpiece
      exact length_encodeOne dtype value
    have hlen := length_flatten_of_pieces hpieces
    rw [List.length_map] at hlen
    have hcut := chunks_flatten hpieces
    rw [List.length_map] at hcut
    have hmap : (values.map (encodeOne dtype)).map (decodeScalar dtype) = values := by
      rw [List.map_map]
      refine (List.map_congr_left (fun value hmem => ?_)).trans (List.map_id _)
      exact decodeScalar_encodeOne hd (hv value hmem)
    have hdtype : dtype ≠ .unspecified := by
      rintro rfl
      cases hd
    rw [List.flatMap_def]
    refine ⟨by rw [hlen, Nat.mul_comm], ?_⟩
    unfold decodeIntSequence
    rw [if_neg hdtype, hd, hlen, Nat.mul_mod_right, Nat.mul_div_cancel_left _ (dtypeSize_pos hd), hcut, hmap]
    rfl
  · cases h

theorem encodeIntSequence_decodeIntSequence (hd : dtype.isInteger = true)
    (h : decodeIntSequence bytes dtype = .ok values) :
    encodeIntSequence values dtype = .ok bytes ∧
      (∀ value ∈ values, 0 ≤ value → rangeCheck value dtype = .ok ()) := by
  have hcarried : (dtype.isInteger || dtype = .bool) = true := by rw [hd, Bool.true_or]
  unfold decodeIntSequence at h
  split at h
  · cases h
  split at h
  · cases h
  split at h
  · cases h
  · rename_i hmod
    cases h
    have hlen : bytes.length = dtypeSize dtype * (bytes.length / dtypeSize dtype) := by
      rw [Nat.mul_div_cancel' (Nat.dvd_of_mod_eq_zero (not_not.1 hmod))]
    refine ⟨?_, ?_⟩
    · have hmap : ((chunks (dtypeSize dtype) (bytes.length / dtypeSize dtype) bytes).map (decodeScalar dtype)).map
          (encodeOne dtype) = chunks (dtypeSize dtype) (bytes.length / dtypeSize dtype) bytes := by
        rw [List.map_map]
        refine (List.map_congr_left (fun chunk hmem => ?_)).trans (List.map_id _)
        exact encodeOne_decodeScalar hd (length_of_mem_chunks hlen hmem)
      rw [encodeIntSequence, if_pos hcarried, List.flatMap_def, hmap, flatten_chunks hlen]
    · intro value hvalue hpos
      obtain ⟨chunk, hmem, rfl⟩ := List.mem_map.1 hvalue
      exact rangeCheck_decodeScalar hd (length_of_mem_chunks hlen hmem) hpos

/-! ## One leaf -/

theorem decodeUtf8_textBytes (text : String) : decodeUtf8 (textBytes text) = .ok text := by
  have h : String.fromUTF8? text.toByteArray = some text := by
    rw [String.fromUTF8?, dif_pos text.isValidUTF8]
    rfl
  simp only [decodeUtf8, textBytes, Array.toArray_toList, h]

theorem textBytes_decodeUtf8 {text : String} (h : decodeUtf8 bytes = .ok text) : textBytes text = bytes := by
  unfold decodeUtf8 at h
  split at h
  · rename_i found hfound
    cases h
    unfold String.fromUTF8? at hfound
    split at hfound
    · cases hfound
      rfl
    · cases hfound
  · cases h

theorem exactLen_ok {got want : Nat} {what : String} (h : exactLen got want what = .ok ()) : got = want := by
  unfold exactLen at h
  split at h
  · cases h
  · rename_i heq
    exact not_not.1 heq

theorem exactLen_self (n : Nat) (what : String) : exactLen n n what = .ok () := if_neg (not_not.2 rfl)

theorem rangeChecks {oks : List Unit} (h : values.mapM (rangeCheck · dtype) = .ok oks) :
    ∀ value ∈ values, rangeCheck value dtype = .ok () := by
  intro value hvalue
  have hall := mapM_ok.1 h
  clear h
  induction hall with
  | nil => cases hvalue
  | cons hfirst _ ih =>
    rcases List.mem_cons.1 hvalue with rfl | hvalue
    · exact hfirst
    · exact ih hvalue

theorem mapM_rangeCheck (h : ∀ value ∈ values, rangeCheck value dtype = .ok ()) :
    values.mapM (rangeCheck · dtype) = .ok (values.map (fun _ => ())) := by
  refine mapM_ok.2 (List.forall₂_map_right_iff.2 (List.forall₂_same.2 h))

/-- The value has as many elements as the leaf spec says. -/
def LeafSized : SpaceSpec B → SpaceValue → Prop
  | .multiBinary shape _, .multiBinary flags => shapeNumel shape = some flags.length
  | .multiDiscrete _ _ nvec, .multiDiscrete values => values.length = nvec.length
  | _, _ => True

theorem leafSized_of_fits (hf : LeafFits spec value) : LeafSized spec value := by
  cases spec with
  | multiBinary shape dtype =>
    cases value with
    | multiBinary flags => exact hf
    | _ => trivial
  | multiDiscrete shape dtype nvec =>
    cases value with
    | multiDiscrete values => exact hf.length_eq
    | _ => trivial
  | _ => trivial

theorem decodeLeaf_encodeLeaf (hf : LeafSized spec value) (h : encodeLeaf spec value = .ok bytes) :
    decodeLeaf bytes spec = .ok value := by
  cases spec with
  | box shape dtype bounds =>
    cases value with
    | box tensor =>
      rw [encodeLeaf] at h
      split at h
      · cases h
      · rename_i hsame
        obtain ⟨rfl, rfl⟩ : tensor.dtype = dtype ∧ tensor.shape = shape := by tauto
        cases h
        rw [decodeLeaf, tensor.fromSlice_self]
    | _ => cases h
  | discrete shape dtype n start =>
    cases value with
    | discrete index =>
      rw [encodeLeaf] at h
      obtain ⟨⟨⟩, hrange, h⟩ := bind_ok.1 h
      obtain ⟨hlen, hdecode⟩ := decodeIntSequence_encodeIntSequence h (by simpa using hrange)
      rw [List.length_singleton, Nat.one_mul] at hlen
      simp only [decodeLeaf, hlen, exactLen_self, hdecode, hrange, bind, Except.bind, pure, Except.pure]
    | _ => cases h
  | multiBinary shape dtype =>
    cases value with
    | multiBinary flags =>
      rw [LeafSized] at hf
      rw [encodeLeaf] at h
      cases h
      have hflags : (flags.map (fun flag => if flag then (1 : UInt8) else 0)).map (· != 0) = flags := by
        rw [List.map_map]
        refine (List.map_congr_left (fun flag _ => ?_)).trans (List.map_id _)
        cases flag <;> rfl
      simp only [decodeLeaf, numel, hf, List.length_map, exactLen_self, hflags, bind, Except.bind, pure, Except.pure]
    | _ => cases h
  | multiDiscrete shape dtype nvec =>
    cases value with
    | multiDiscrete values =>
      rw [LeafSized] at hf
      rw [encodeLeaf] at h
      obtain ⟨oks, hrange, h⟩ := bind_ok.1 h
      obtain ⟨hlen, hdecode⟩ := decodeIntSequence_encodeIntSequence h (rangeChecks hrange)
      rw [hf] at hlen
      simp only [decodeLeaf, numel, hlen, exactLen_self, hdecode, bind, Except.bind, pure, Except.pure]
    | _ => cases h
  | text shape dtype minLength maxLength charset =>
    cases value with
    | text text =>
      rw [encodeLeaf] at h
      cases h
      simp only [decodeLeaf, decodeUtf8_textBytes, bind, Except.bind, pure, Except.pure]
    | _ => cases h
  | _ => cases value <;> cases h

/-- The bytes of a MultiBinary leaf are 0 and 1, as the encoder writes them. -/
def PlainFlags (spec : SpaceSpec B) (bytes : Bytes) : Prop :=
  match spec with
  | .multiBinary .. => ∀ b ∈ bytes, b = 0 ∨ b = 1
  | _ => True

theorem encodeLeaf_decodeLeaf (hi : CategoriesIntegral spec) (hf : LeafFits spec value) (hp : PlainFlags spec bytes)
    (h : decodeLeaf bytes spec = .ok value) : encodeLeaf spec value = .ok bytes := by
  cases spec with
  | box shape dtype bounds =>
    rw [decodeLeaf] at h
    split at h
    · rename_i tensor htensor
      cases h
      obtain ⟨rfl, rfl, rfl⟩ := Tensor.fromSlice_ok htensor
      rw [encodeLeaf, if_neg (by simp)]
    · cases h
  | discrete shape dtype n start =>
    rw [decodeLeaf] at h
    obtain ⟨⟨⟩, hlen, h⟩ := bind_ok.1 h
    obtain ⟨values, hvalues, h⟩ := bind_ok.1 h
    obtain ⟨hencode, -⟩ := encodeIntSequence_decodeIntSequence hi hvalues
    cases values with
    | nil => cases h
    | cons first rest =>
      obtain ⟨⟨⟩, hrange, h⟩ := bind_ok.1 h
      cases h
      -- One element's worth of bytes holds one element.
      have hone : rest = [] := by
        unfold decodeIntSequence at hvalues
        split at hvalues
        · cases hvalues
        split at hvalues
        · cases hvalues
        split at hvalues
        · cases hvalues
        · have hcount := congrArg List.length (Except.ok.inj hvalues)
          have hpos : 0 < dtypeSize dtype := dtypeSize_pos (by rw [Carried, hi, Bool.true_or])
          rw [List.length_map, length_chunks, exactLen_ok hlen, Nat.div_self hpos, List.length_cons] at hcount
          exact List.length_eq_zero_iff.1 (Nat.succ.inj hcount).symm
      subst hone
      rw [encodeLeaf, hrange]
      exact hencode
  | multiBinary shape dtype =>
    rw [decodeLeaf] at h
    obtain ⟨count, hcount, h⟩ := bind_ok.1 h
    obtain ⟨⟨⟩, hlen, h⟩ := bind_ok.1 h
    cases h
    rw [encodeLeaf, List.map_map]
    congr 1
    refine (List.map_congr_left (fun b hb => ?_)).trans (List.map_id _)
    rcases hp b hb with rfl | rfl <;> rfl
  | multiDiscrete shape dtype nvec =>
    rw [decodeLeaf] at h
    obtain ⟨count, hcount, h⟩ := bind_ok.1 h
    obtain ⟨⟨⟩, hlen, h⟩ := bind_ok.1 h
    obtain ⟨values, hvalues, h⟩ := bind_ok.1 h
    cases h
    rw [LeafFits] at hf
    obtain ⟨hencode, hranges⟩ := encodeIntSequence_decodeIntSequence hi hvalues
    have hchecked : ∀ value ∈ values, rangeCheck value dtype = .ok () := by
      intro value hvalue
      obtain ⟨n, -, hn⟩ := forall₂_mem_right hf.flip hvalue
      exact hranges value hvalue hn.1
    rw [encodeLeaf, mapM_rangeCheck hchecked]
    exact hencode
  | text shape dtype minLength maxLength charset =>
    rw [decodeLeaf] at h
    obtain ⟨text, htext, h⟩ := bind_ok.1 h
    cases h
    rw [encodeLeaf, textBytes_decodeUtf8 htext]
  | _ => cases h

/-! ## Text columns -/

theorem allocate_ok {out : Bytes} : allocate bytes = .ok out ↔ bytes = out ∧ bytes.length < 2 ^ 64 := by
  unfold allocate
  split
  · rename_i hsize
    exact ⟨fun h => ⟨Except.ok.inj h, hsize⟩, fun h => congrArg Except.ok h.1⟩
  · rename_i hsize
    exact ⟨(fun h => by cases h), fun h => absurd h.2 hsize⟩

theorem readU64_append (h : n < 2 ^ 64) (rest : Bytes) : readU64 (toLeBytes 8 n ++ rest) = .ok (n, rest) := by
  have hlen : (toLeBytes 8 n).length = 8 := length_toLeBytes 8 n
  have hsize : ¬ (toLeBytes 8 n ++ rest).length < 8 := by rw [List.length_append, hlen]; omega
  rw [readU64, if_neg hsize, List.take_left' hlen, List.drop_left' hlen, ofLeBytes_toLeBytes,
    Nat.mod_eq_of_lt (by omega)]

theorem readU64_ok (h : readU64 buf = .ok (n, rest)) : buf = toLeBytes 8 n ++ rest := by
  unfold readU64 at h
  split at h
  · cases h
  · rename_i hsize
    cases h
    have hlen : (buf.take 8).length = 8 := by rw [List.length_take]; omega
    have hword := toLeBytes_ofLeBytes (buf.take 8)
    rw [hlen] at hword
    rw [hword, List.take_append_drop]

theorem readLens_append (h : ∀ len ∈ lens, len < 2 ^ 64) (rest : Bytes) :
    readLens lens.length (lens.flatMap (toLeBytes 8) ++ rest) = .ok (lens, rest) := by
  induction lens with
  | nil => rfl
  | cons len lens ih =>
    have hfirst := readU64_append (h len List.mem_cons_self) (lens.flatMap (toLeBytes 8) ++ rest)
    have hlens := ih (fun other hother => h other (List.mem_cons_of_mem _ hother))
    rw [List.length_cons, readLens, List.flatMap_cons, List.append_assoc, hfirst]
    simp only [bind, Except.bind, hlens]
    rfl

theorem readLens_ok (h : readLens n buf = .ok (lens, rest)) :
    lens.length = n ∧ buf = lens.flatMap (toLeBytes 8) ++ rest := by
  induction n generalizing buf lens with
  | zero => cases h; exact ⟨rfl, rfl⟩
  | succ n ih =>
    rw [readLens] at h
    obtain ⟨⟨len, more⟩, hfirst, h⟩ := bind_ok.1 h
    obtain ⟨⟨others, last⟩, hothers, h⟩ := bind_ok.1 h
    cases h
    obtain ⟨hlen, hbuf⟩ := ih hothers
    refine ⟨by rw [List.length_cons, hlen], ?_⟩
    rw [readU64_ok hfirst, hbuf, List.flatMap_cons, List.append_assoc]

theorem textOf_ok {body : Bytes} (h : textOf value = .ok body) :
    ∃ text, value = .text text ∧ body = textBytes text := by
  cases value with
  | text text => cases h; exact ⟨text, rfl, rfl⟩
  | _ => cases h

theorem readTexts_append {bodies : List Bytes}
    (h : List.Forall₂ (fun value body => textOf value = .ok body) column bodies) {size : Nat} (hsize : size < 2 ^ 64)
    (hfit : (bodies.flatten ++ rest).length ≤ size) :
    readTexts size (bodies.map List.length) (bodies.flatten ++ rest) = .ok (column, rest) := by
  induction h with
  | nil => rfl
  | @cons value body column bodies hvalue _ ih =>
    obtain ⟨text, rfl, rfl⟩ := textOf_ok hvalue
    rw [List.flatten_cons, List.append_assoc, List.length_append] at hfit
    have hlens : (textBytes text ++ (bodies.flatten ++ rest)).length =
        (textBytes text).length + (bodies.flatten ++ rest).length := List.length_append
    have hrest := ih (by omega)
    rw [List.map_cons, readTexts, List.flatten_cons, List.append_assoc, if_neg (by rw [hlens]; omega),
      if_neg (by rw [hlens]; omega), List.take_left, List.drop_left, decodeUtf8_textBytes]
    simp only [bind, Except.bind, hrest]
    rfl

theorem readTexts_ok {size : Nat} (h : readTexts size lens buf = .ok (column, rest)) : ∃ bodies : List Bytes,
      List.Forall₂ (fun value body => textOf value = .ok body) column bodies ∧ lens = bodies.map List.length ∧
        buf = bodies.flatten ++ rest ∧ (lens ≠ [] → size - rest.length < 2 ^ 64) := by
  induction lens generalizing buf column with
  | nil =>
    cases h
    exact ⟨[], .nil, rfl, rfl, fun hne => absurd rfl hne⟩
  | cons len lens ih =>
    rw [readTexts] at h
    split at h
    · cases h
    split at h
    · cases h
    rename_i hover hlong
    obtain ⟨text, htext, h⟩ := bind_ok.1 h
    obtain ⟨⟨others, last⟩, hothers, h⟩ := bind_ok.1 h
    cases h
    obtain ⟨bodies, hbodies, hlens, hbuf, hsize⟩ := ih hothers
    have hbody := textBytes_decodeUtf8 htext
    have hlen : (textBytes text).length = len := by rw [hbody, List.length_take]; omega
    refine ⟨textBytes text :: bodies, .cons rfl hbodies, by rw [List.map_cons, hlen, hlens], ?_, fun _ => ?_⟩
    · rw [List.flatten_cons, List.append_assoc, ← hbuf, hbody, List.take_append_drop]
    · cases lens with
      | nil =>
        -- The last text ends where the rest begins.
        cases hothers
        rw [List.length_drop]
        omega
      | cons len' lens => exact hsize (by simp)

theorem decodeTextSlab_encodeTextSlab (h : encodeTextSlab column = .ok slab) :
    decodeTextSlab slab column.length = .ok column := by
  unfold encodeTextSlab at h
  obtain ⟨bodies, hbodies, h⟩ := bind_ok.1 h
  obtain ⟨hslab, hsize⟩ := allocate_ok.1 h
  have hcolumn := mapM_ok.1 hbodies
  have hlens : bodies.flatMap (fun body => toLeBytes 8 body.length) = (bodies.map List.length).flatMap (toLeBytes 8) := by
    rw [List.flatMap_map]
  rw [hlens, List.append_assoc] at hslab hsize
  have hheader : ((bodies.map List.length).flatMap (toLeBytes 8)).length = 8 * bodies.length := by
    have hpieces : ∀ piece ∈ (bodies.map List.length).map (toLeBytes 8), piece.length = 8 := by
      intro piece hpiece
      obtain ⟨len, -, rfl⟩ := List.mem_map.1 hpiece
      exact length_toLeBytes 8 len
    rw [List.flatMap_def, length_flatten_of_pieces hpieces, List.length_map, List.length_map]
  have hcount : column.length < 2 ^ 64 := by
    have hbodies := hcolumn.length_eq
    rw [List.length_append, List.length_append, hheader] at hsize
    omega
  have hbody : ∀ len ∈ bodies.map List.length, len < 2 ^ 64 := by
    intro len hmem
    obtain ⟨body, hbody, rfl⟩ := List.mem_map.1 hmem
    have hle : body.length ≤ bodies.flatten.length := (List.sublist_flatten_of_mem hbody).length_le
    rw [List.length_append, List.length_append] at hsize
    omega
  have hreadLens := readLens_append hbody bodies.flatten
  rw [List.length_map, ← hcolumn.length_eq] at hreadLens
  have hfit : (bodies.flatten ++ []).length ≤
      (toLeBytes 8 bodies.length ++ ((bodies.map List.length).flatMap (toLeBytes 8) ++ bodies.flatten)).length := by
    rw [List.append_nil, List.length_append, List.length_append]
    omega
  have hreadTexts := readTexts_append hcolumn hsize hfit
  rw [List.append_nil] at hreadTexts
  subst hslab
  unfold decodeTextSlab
  rw [readU64_append hcount]
  change (if column.length ≠ column.length then _ else readLens column.length _ >>= _) = _
  rw [if_neg (not_not.2 rfl), hreadLens]
  change (readTexts _ _ _ >>= _) = _
  rw [hreadTexts]
  rfl

theorem encodeTextSlab_decodeTextSlab (h : decodeTextSlab slab n = .ok column) :
    column.length = n ∧ encodeTextSlab column = .ok slab := by
  unfold decodeTextSlab at h
  obtain ⟨⟨count, buf⟩, hcount, h⟩ := bind_ok.1 h
  dsimp only at h
  split at h
  · cases h
  rename_i hn
  rw [not_not] at hn
  subst hn
  obtain ⟨⟨lens, buf'⟩, hlens, h⟩ := bind_ok.1 h
  obtain ⟨⟨texts, rest⟩, htexts, h⟩ := bind_ok.1 h
  dsimp only at h
  split at h
  · rename_i hrest
    cases h
    subst hrest
    obtain ⟨hlen, hbuf⟩ := readLens_ok hlens
    dsimp only at htexts
    obtain ⟨bodies, hbodies, rfl, hbuf', hsize⟩ := readTexts_ok htexts
    rw [List.append_nil] at hbuf'
    rw [List.length_map] at hlen
    have hcolumn : column.length = count := hbodies.length_eq.trans hlen
    have hslab : slab = toLeBytes 8 column.length ++ bodies.flatMap (fun body => toLeBytes 8 body.length) ++
        bodies.flatten := by
      rw [readU64_ok hcount, hbuf, hbuf', hcolumn, List.flatMap_map, List.append_assoc]
    refine ⟨hcolumn, ?_⟩
    unfold encodeTextSlab
    rw [mapM_ok.2 hbodies]
    refine allocate_ok.2 ⟨hslab.symm, ?_⟩
    rw [← hslab]
    cases bodies with
    | nil =>
      rw [hslab]
      simp
    | cons body bodies => simpa using hsize (by simp)
  · cases h

/-! ## Any column -/

/-- The lanes' leaf bytes, each `stride` long. -/
def Encoded (spec : SpaceSpec B) (stride : Nat) (value : SpaceValue) (leaf : Bytes) : Prop :=
  encodeLeaf spec value = .ok leaf ∧ leaf.length = stride

theorem encodeStride_ok {entry : SpaceValue × Nat} {leaf : Bytes} :
    encodeStride spec stride entry = .ok leaf ↔ Encoded spec stride entry.1 leaf := by
  unfold encodeStride Encoded
  split
  · rename_i e he
    simp [he]
  · rename_i found hfound
    rw [hfound]
    split
    · rename_i hne
      simp only [reduceCtorEq, Except.ok.injEq, false_iff, not_and]
      rintro rfl
      exact hne
    · rename_i heq
      simp only [Except.ok.injEq]
      exact ⟨fun h => ⟨h, h ▸ not_not.1 heq⟩, fun h => h.1⟩

theorem leafStride_ok (h : leafStride spec = .ok stride) :
    ∃ count, numel spec = .ok count ∧ stride = count * perElem spec := by
  unfold leafStride checkedMul at h
  split at h
  · cases h
  · rename_i count hcount
    split at h
    · rename_i found hfound
      split at hfound
      · cases hfound
        cases h
        exact ⟨count, hcount, rfl⟩
      · cases hfound
    · cases h

theorem length_encodeIntSequence (h : encodeIntSequence values dtype = .ok bytes) :
    bytes.length = values.length * dtypeSize dtype := by
  unfold encodeIntSequence at h
  split at h
  · cases h
    induction values with
    | nil => simp
    | cons value rest ih =>
      rw [List.flatMap_cons, List.length_append, ih, length_encodeOne, List.length_cons, Nat.succ_mul, Nat.add_comm]
  · cases h

theorem leafSized_of_encoded (hi : CategoriesIntegral spec) (hstride : leafStride spec = .ok stride) {leaf : Bytes}
    (h : Encoded spec stride value leaf) : LeafSized spec value := by
  obtain ⟨count, hcount, rfl⟩ := leafStride_ok hstride
  obtain ⟨hencode, hlen⟩ := h
  cases spec with
  | multiBinary shape dtype =>
    cases value with
    | multiBinary flags =>
      rw [encodeLeaf] at hencode
      cases hencode
      rw [List.length_map, perElem, Nat.mul_one] at hlen
      rw [LeafSized, hlen]
      unfold numel at hcount
      dsimp only at hcount
      split at hcount
      · cases hcount; assumption
      · cases hcount
    | _ => trivial
  | multiDiscrete shape dtype nvec =>
    cases value with
    | multiDiscrete values =>
      rw [encodeLeaf] at hencode
      obtain ⟨oks, -, hencode⟩ := bind_ok.1 hencode
      cases hcount
      rw [length_encodeIntSequence hencode, perElem] at hlen
      exact Nat.eq_of_mul_eq_mul_right (dtypeSize_pos (by rw [Carried, hi, Bool.true_or])) hlen
    | _ => trivial
  | _ => trivial

theorem decoded_of_encoded (hi : CategoriesIntegral spec) (hstride : leafStride spec = .ok stride)
    {leaves : List Bytes} (h : List.Forall₂ (Encoded spec stride) column leaves) :
    List.Forall₂ (fun leaf value => decodeLeaf leaf spec = .ok value) leaves column := by
  induction h with
  | nil => exact .nil
  | cons hvalue _ ih => exact .cons (decodeLeaf_encodeLeaf (leafSized_of_encoded hi hstride hvalue) hvalue.1) ih

theorem encoded_of_decoded (hi : CategoriesIntegral spec) {leaves : List Bytes}
    (hf : ∀ value ∈ column, LeafFits spec value) (hl : ∀ leaf ∈ leaves, leaf.length = stride ∧ PlainFlags spec leaf)
    (h : List.Forall₂ (fun leaf value => decodeLeaf leaf spec = .ok value) leaves column) :
    List.Forall₂ (Encoded spec stride) column leaves := by
  induction h with
  | nil => exact .nil
  | cons hvalue _ ih =>
    obtain ⟨hlen, hflags⟩ := hl _ List.mem_cons_self
    exact .cons ⟨encodeLeaf_decodeLeaf hi (hf _ List.mem_cons_self) hflags hvalue, hlen⟩
      (ih (fun other hother => hf other (List.mem_cons_of_mem _ hother))
        (fun other hother => hl other (List.mem_cons_of_mem _ hother)))

theorem forall₂_zipIdx {α β : Type} {R : α → β → Prop} {xs : List α} {ys : List β} {i : Nat} :
    List.Forall₂ (fun entry y => R entry.1 y) (xs.zipIdx i) ys ↔ List.Forall₂ R xs ys := by
  rw [← List.forall₂_map_left_iff (f := Prod.fst) (R := R), List.zipIdx_map_fst]

theorem decodeLeafColumn_encodeColumn (hi : CategoriesIntegral spec) (h : encodeColumn spec column = .ok slab) :
    decodeLeafColumn slab spec column.length = .ok column := by
  unfold encodeColumn at h
  unfold decodeLeafColumn
  split at h
  · rename_i htext
    rw [if_pos htext]
    exact decodeTextSlab_encodeTextSlab h
  · rename_i htext
    obtain ⟨stride, hstride, h⟩ := bind_ok.1 h
    obtain ⟨leaves, hleaves, h⟩ := bind_ok.1 h
    obtain ⟨rfl, hsize⟩ := allocate_ok.1 h
    have hlanes : List.Forall₂ (Encoded spec stride) column leaves := by
      refine forall₂_zipIdx.1 ((mapM_ok.1 hleaves).imp (fun entry leaf hentry => ?_))
      exact encodeStride_ok.1 hentry
    have hpieces : ∀ piece ∈ leaves, piece.length = stride := by
      intro piece hpiece
      obtain ⟨value, -, hvalue⟩ := forall₂_mem_right hlanes hpiece
      exact hvalue.2
    have hlen := length_flatten_of_pieces hpieces
    have hmul : checkedMul stride column.length = some (stride * column.length) := by
      rw [checkedMul, hlanes.length_eq, ← hlen, if_pos hsize]
    rw [if_neg htext, hstride]
    simp only [bind, Except.bind, hmul]
    rw [hlen, hlanes.length_eq, if_neg (not_not.2 rfl), chunks_flatten hpieces]
    exact mapM_ok.2 (decoded_of_encoded hi hstride hlanes)

theorem encodeColumn_decodeLeafColumn (hi : CategoriesIntegral spec) (hf : ∀ value ∈ column, LeafFits spec value)
    (hp : PlainFlags spec slab) (h : decodeLeafColumn slab spec n = .ok column) :
    encodeColumn spec column = .ok slab := by
  unfold decodeLeafColumn at h
  unfold encodeColumn
  split at h
  · rename_i htext
    rw [if_pos htext]
    exact (encodeTextSlab_decodeTextSlab h).2
  · rename_i htext
    obtain ⟨stride, hstride, h⟩ := bind_ok.1 h
    split at h
    · cases h
    · rename_i want hwant
      unfold checkedMul at hwant
      split at hwant
      · rename_i hsize
        cases hwant
        split at h
        · cases h
        · rename_i hlen
          rw [not_not] at hlen
          have hpieces := mapM_ok.1 h
          have hmem : ∀ piece ∈ chunks stride n slab, piece.length = stride ∧ PlainFlags spec piece := by
            intro piece hpiece
            refine ⟨length_of_mem_chunks hlen hpiece, ?_⟩
            unfold PlainFlags at hp ⊢
            split
            · intro b hb
              refine hp b ?_
              rw [← flatten_chunks hlen]
              exact List.mem_flatten.2 ⟨piece, hpiece, hb⟩
            · trivial
          have hleaves := encoded_of_decoded hi hf hmem hpieces
          rw [if_neg htext, hstride]
          change (column.zipIdx.mapM (encodeStride spec stride) >>= fun leaves => allocate leaves.flatten) = _
          have hstrides : column.zipIdx.mapM (encodeStride spec stride) = .ok (chunks stride n slab) := by
            refine mapM_ok.2 ((forall₂_zipIdx.2 hleaves).imp (fun entry leaf hentry => ?_))
            exact encodeStride_ok.2 hentry
          rw [hstrides]
          refine allocate_ok.2 ⟨flatten_chunks hlen, ?_⟩
          rw [flatten_chunks hlen, hlen]
          exact hsize
      · cases hwant

theorem length_decodeLeafColumn (h : decodeLeafColumn slab spec n = .ok column) : column.length = n := by
  unfold decodeLeafColumn at h
  split at h
  · exact (encodeTextSlab_decodeTextSlab h).1
  · obtain ⟨stride, hstride, h⟩ := bind_ok.1 h
    split at h
    · cases h
    · split at h
      · cases h
      · rw [← (mapM_ok.1 h).length_eq, length_chunks]

/-! ## The batch -/

theorem forall₂_zip_iff {α β γ : Type} {R : α → β → γ → Prop} {xs : List α} {ys : List β} {zs : List γ}
    (hy : xs.length = ys.length) (hz : zs.length = xs.length) :
    List.Forall₂ (fun entry z => R entry.1 entry.2 z) (xs.zip ys) zs ↔
      List.Forall₂ (fun entry y => R entry.2 y entry.1) (zs.zip xs) ys := by
  induction xs generalizing ys zs with
  | nil =>
    cases List.length_eq_zero_iff.1 hy.symm
    cases List.length_eq_zero_iff.1 hz
    simp
  | cons x xs ih =>
    cases ys with
    | nil => cases hy
    | cons y ys =>
      cases zs with
      | nil => cases hz
      | cons z zs =>
        simp only [List.zip_cons_cons, List.forall₂_cons]
        rw [ih (Nat.succ.inj hy) (Nat.succ.inj hz)]

section Batch

variable [BoxBounds B]

variable {spec : SpaceSpec B} {values : List SpaceValue} {leaves : Leaves}

theorem rows_fit (hw : WellFormed spec) (hv : ∀ value ∈ values, (conform spec value).Admitted)
    {rows : List (List SpaceValue)}
    (h : List.Forall₂ (fun value row => flattenLeaves spec value = .ok row) values rows) :
    ∀ row ∈ rows, List.Forall₂ LeafFits (leafSpecs spec) row := by
  intro row hrow
  obtain ⟨value, hvalue, hflat⟩ := forall₂_mem_right h hrow
  obtain ⟨-, leaves, hleaves, hfits⟩ := admitsShaped hw.keyed value ⟨_, hv value hvalue⟩
  rw [hflat] at hleaves
  cases hleaves
  exact hfits

/-- A batch's slab decodes to the rows of leaves its values flattened to, reassembled. -/
theorem decodeLeafSlab_rows (hw : WellFormed spec) (h : encodeLeafSlab values spec = .ok leaves) :
    ∃ rows, List.Forall₂ (fun value row => flattenLeaves spec value = .ok row) values rows ∧
      decodeLeafSlab leaves spec values.length =
        rows.mapM (fun row => (assembleValue spec row).mapError (fun e => .decodeError e.toString)) := by
  unfold encodeLeafSlab at h
  obtain ⟨rows, hrows, h⟩ := bind_ok.1 h
  have hflat : List.Forall₂ (fun value row => flattenLeaves spec value = .ok row) values rows :=
    (mapM_ok.1 hrows).imp (fun value row hrow => mapError_ok.1 hrow)
  have hwidth : ∀ row ∈ rows, row.length = (leafSpecs spec).length := by
    intro row hrow
    obtain ⟨value, -, hvalue⟩ := forall₂_mem_right hflat hrow
    exact length_flattenLeaves hw.keyed hvalue
  have hslabs := mapM_ok.1 h
  have hlen : leaves.length = (leafSpecs spec).length := by
    rw [← hslabs.length_eq, List.length_zip, length_transpose, Nat.min_self]
  have hback := transpose_transpose hwidth
  rw [← hflat.length_eq] at hback
  -- Each column decodes to the leaves it was encoded from.
  have hdecoded : List.Forall₂ (fun entry slab => decodeLeafColumn slab entry.1 values.length = .ok entry.2)
      ((leafSpecs spec).zip (transpose (leafSpecs spec).length rows)) leaves := by
    refine forall₂_imp_mem (fun entry hentry slab _ hslab => ?_) hslabs
    have hcolumn := length_of_mem_transpose hwidth (List.of_mem_zip hentry).2
    rw [hflat.length_eq, ← hcolumn]
    exact decodeLeafColumn_encodeColumn (hw.integral _ (List.of_mem_zip hentry).1) hslab
  have hcolumns := mapM_ok.2 ((forall₂_zip_iff (R := fun leaf column slab =>
    decodeLeafColumn slab leaf values.length = .ok column) (length_transpose _ rows).symm hlen).1 hdecoded)
  refine ⟨rows, hflat, ?_⟩
  rw [decodeLeafSlab, if_neg (not_not.2 hlen), hcolumns]
  change (transpose values.length _).mapM _ = _
  rw [hback]

theorem decodeLeafSlab_encodeLeafSlab (hw : WellFormed spec)
    (hv : ∀ value ∈ values, (conform spec value).Admitted ∧ value.Ordered)
    (h : encodeLeafSlab values spec = .ok leaves) : decodeLeafSlab leaves spec values.length = .ok values := by
  obtain ⟨rows, hflat, hdecode⟩ := decodeLeafSlab_rows hw h
  rw [hdecode]
  refine mapM_ok.2 (forall₂_imp_mem (fun value hvalue row _ hrow => ?_) hflat).flip
  obtain ⟨hadmitted, hordered⟩ := hv value hvalue
  exact mapError_ok.2 (assembleValue_flattenLeaves hw.keyed (admitsShaped hw.keyed value ⟨_, hadmitted⟩).1 hordered hrow)

theorem encodeLeafSlab_decodeLeafSlab (hw : WellFormed spec) {n : Nat}
    (hv : ∀ value ∈ values, (conform spec value).Admitted)
    (hp : ∀ entry ∈ leaves.zip (leafSpecs spec), PlainFlags entry.2 entry.1)
    (h : decodeLeafSlab leaves spec n = .ok values) :
    values.length = n ∧ encodeLeafSlab values spec = .ok leaves := by
  unfold decodeLeafSlab at h
  split at h
  · cases h
  rename_i hlen
  rw [not_not] at hlen
  obtain ⟨columns, hcolumns, h⟩ := bind_ok.1 h
  have hrows : List.Forall₂ (fun row value => assembleValue spec row = .ok value) (transpose n columns) values :=
    (mapM_ok.1 h).imp (fun row value hrow => mapError_ok.1 hrow)
  have hcount : values.length = n := by rw [← hrows.length_eq, length_transpose]
  have hflat : List.Forall₂ (fun value row => flattenLeaves spec value = .ok row) values (transpose n columns) :=
    (hrows.imp (fun row value hrow => (flattenLeaves_assembleValue hw.keyed hrow).2)).flip
  have hfits := rows_fit hw hv hflat
  have hdecoded := mapM_ok.1 hcolumns
  have hcolumnCount : columns.length = (leafSpecs spec).length := by
    rw [← hdecoded.length_eq, List.length_zip, hlen, Nat.min_self]
  have hlanes : ∀ column ∈ columns, column.length = n := by
    intro column hcolumn
    obtain ⟨entry, -, hentry⟩ := forall₂_mem_right hdecoded hcolumn
    exact length_decodeLeafColumn hentry
  have hback := transpose_transpose hlanes
  rw [hcolumnCount] at hback
  have hcolfits := forall₂_transpose hfits
  rw [hback] at hcolfits
  refine ⟨hcount, ?_⟩
  unfold encodeLeafSlab
  rw [mapM_ok.2 (hflat.imp (fun value row hrow => mapError_ok.2 hrow))]
  change ((leafSpecs spec).zip (transpose _ (transpose n columns))).mapM _ = _
  rw [hback]
  -- Each column encodes back to the slab it was decoded from.
  have hpairs := (forall₂_zip_iff (R := fun leaf column slab =>
    decodeLeafColumn slab leaf n = .ok column ∧ PlainFlags leaf slab) hcolumnCount.symm hlen).2
      (forall₂_imp_mem (fun entry hentry _ _ hcolumn => ⟨hcolumn, hp entry hentry⟩) hdecoded)
  refine mapM_ok.2 (forall₂_imp_mem (fun entry hentry slab _ hslab => ?_) hpairs)
  have hleaf := (List.of_mem_zip hentry).1
  have hleaves := (List.forall₂_iff_zip.1 hcolfits).2 hentry
  exact encodeColumn_decodeLeafColumn (hw.integral _ hleaf) hleaves hslab.2 hslab.1

end Batch

end Rlmesh.Wire
