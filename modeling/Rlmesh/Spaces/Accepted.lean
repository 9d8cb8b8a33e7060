import Rlmesh.Spaces.Space
/-!
# What the leaf checks accept

Each leaf check of `validateSpaceAt`, as the facts it establishes. None of them
depends on where the leaf stands.
-/

namespace Rlmesh.Spaces

structure ValidDiscrete (shape : List Int) (dtype : DType) (n start : Int) : Prop where
  unshaped : shape = []
  category : dtype = .int64 ∨ dtype = .int32 ∨ dtype = .uint8
  positive : 0 < n
  last : start + (n - 1) ≤ 9223372036854775807
  fits : ∀ bound ∈ [start, start + (n - 1)], (checkIntInDtypeRange bound dtype).toBool = true

variable {shape : List Int} {dtype : DType} {path : String}

theorem validateDiscreteAt_ok {n start : Int} :
    validateDiscreteAt shape dtype n start path = .ok () ↔ ValidDiscrete shape dtype n start := by
  unfold validateDiscreteAt
  constructor
  · intro h
    split_ifs at h with hshape hdtype hcategory hpositive hlast
    split at h
    · cases h
    · rename_i hfind
      refine ⟨by simpa using hshape, hcategory, by omega, by omega, fun bound hb => ?_⟩
      simpa using List.find?_eq_none.1 hfind bound hb
  · intro h
    have hdtype : dtype ≠ .unspecified := by rcases h.category with rfl | rfl | rfl <;> decide
    have hpositive := h.positive
    have hlast := h.last
    have hfind : [start, start + (n - 1)].find? (fun bound => !(checkIntInDtypeRange bound dtype).toBool) = none :=
      List.find?_eq_none.2 (fun bound hb => by simp [h.fits bound hb])
    rw [if_neg (by simp [h.unshaped]), if_neg hdtype, if_neg (not_not.2 h.category), if_neg (by omega),
      if_neg (by omega), hfind]

structure ValidMultiBinary (shape : List Int) (dtype : DType) : Prop where
  ranked : shape ≠ []
  singleByte : dtypeSize dtype = 1
  positive : ∀ dim ∈ shape, 0 < dim

theorem findIdx?_nonpositive : shape.findIdx? (· ≤ 0) = none ↔ ∀ dim ∈ shape, 0 < dim := by
  simp [List.findIdx?_eq_none_iff]

theorem validateMultibinaryAt_ok :
    validateMultibinaryAt shape dtype path = .ok () ↔ ValidMultiBinary shape dtype := by
  unfold validateMultibinaryAt
  constructor
  · intro h
    split_ifs at h with hshape hdtype hsize
    split at h
    · cases h
    · rename_i hfind
      exact ⟨fun hnil => hshape (List.isEmpty_iff.2 hnil), not_not.1 hsize, findIdx?_nonpositive.1 hfind⟩
  · intro h
    have hdtype : dtype ≠ .unspecified := by
      rintro rfl
      cases h.singleByte
    rw [if_neg (fun hempty => h.ranked (List.isEmpty_iff.1 hempty)), if_neg hdtype, if_neg (not_not.2 h.singleByte),
      findIdx?_nonpositive.2 h.positive]

structure ValidMultiDiscrete (shape : List Int) (dtype : DType) (nvec : List Int) : Prop where
  ranked : shape ≠ []
  integer : dtype.isInteger = true
  counted : ∀ path, multidiscreteNumel path 0 1 shape = .ok nvec.length
  nonEmpty : nvec ≠ []
  categories : ∀ n ∈ nvec, 0 < n ∧ (checkIntInDtypeRange (n - 1) dtype).toBool = true

theorem multidiscreteNumel_path (path' : String) {i : Nat} {numel total : Int}
    (h : multidiscreteNumel path i numel shape = .ok total) : multidiscreteNumel path' i numel shape = .ok total := by
  induction shape generalizing i numel with
  | nil => exact h
  | cons d rest ih =>
    rw [multidiscreteNumel] at h ⊢
    split_ifs at h ⊢
    exact ih h

theorem validateNvec_ok {i : Nat} {nvec : List Int} :
    validateNvec path dtype i nvec = .ok () ↔
      ∀ n ∈ nvec, 0 < n ∧ (checkIntInDtypeRange (n - 1) dtype).toBool = true := by
  induction nvec generalizing i with
  | nil => simp [validateNvec]
  | cons n rest ih =>
    rw [validateNvec, List.forall_mem_cons, ← ih (i := i + 1)]
    split_ifs with hpositive
    · simp only [false_iff]
      omega
    · cases hcheck : checkIntInDtypeRange (n - 1) dtype with
      | error e => simp [Except.toBool]
      | ok _ => simp [Except.toBool, Int.not_le.1 hpositive]

theorem validateMultidiscreteAt_ok {nvec : List Int} :
    validateMultidiscreteAt shape dtype nvec path = .ok () ↔ ValidMultiDiscrete shape dtype nvec := by
  unfold validateMultidiscreteAt
  constructor
  · intro h
    split_ifs at h with hshape hdtype hinteger hempty
    · split at h <;> cases h
    · split at h
      · cases h
      · rename_i numel hnumel
        split at h
        · cases h
        · rename_i hnvec
          split_ifs at h with hcount
          have hcounted : ∀ path, multidiscreteNumel path 0 1 shape = .ok nvec.length := fun path' => by
            rw [multidiscreteNumel_path path' hnumel, not_not.1 hcount]
          exact ⟨fun hnil => hshape (List.isEmpty_iff.2 hnil), by simpa using hinteger, hcounted,
            fun hnil => hempty (List.isEmpty_iff.2 hnil), validateNvec_ok.1 hnvec⟩
  · intro h
    have hdtype : dtype ≠ .unspecified := by
      rintro rfl
      cases h.integer
    rw [if_neg (fun hempty => h.ranked (List.isEmpty_iff.1 hempty)), if_neg hdtype, if_neg (by simp [h.integer]),
      h.counted path]
    dsimp only
    rw [if_neg (fun hempty => h.nonEmpty (List.isEmpty_iff.1 hempty)), validateNvec_ok.2 h.categories]
    dsimp only
    rw [if_neg (not_not.2 rfl)]

structure ValidText (shape : List Int) (dtype : DType) (minLength maxLength : Int) : Prop where
  unshaped : shape = []
  bytes : dtype = .uint8
  nonneg : 0 ≤ minLength
  ordered : minLength ≤ maxLength

theorem validateTextAt_ok {minLength maxLength : Int} :
    validateTextAt shape dtype minLength maxLength path = .ok () ↔ ValidText shape dtype minLength maxLength := by
  unfold validateTextAt
  constructor
  · intro h
    split_ifs at h with hshape hdtype hmin hmax hordered
    exact ⟨by simpa using hshape, not_not.1 hdtype, by omega, by omega⟩
  · intro h
    have hnonneg := h.nonneg
    have hordered := h.ordered
    rw [if_neg (by simp [h.unshaped]), if_neg (not_not.2 h.bytes), if_neg (by omega), if_neg (by omega),
      if_neg (by omega)]

end Rlmesh.Spaces
