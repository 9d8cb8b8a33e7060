import Mathlib
/-!
# Byte buffers

Words as little-endian bytes, integers as words in two's complement, a buffer
cut into pieces of one length, and a table read by columns.
-/

namespace Rlmesh.Lib

/-! ## Little-endian words -/

/-- The `w` little-endian bytes of `n`; what does not fit is dropped. -/
def toLeBytes : Nat → Nat → List UInt8
  | 0, _ => []
  | w + 1, n => UInt8.ofNat n :: toLeBytes w (n / 256)

def ofLeBytes : List UInt8 → Nat
  | [] => 0
  | b :: rest => b.toNat + 256 * ofLeBytes rest

@[simp] theorem length_toLeBytes (w n : Nat) : (toLeBytes w n).length = w := by
  induction w generalizing n with
  | zero => rfl
  | succ w ih => simp [toLeBytes, ih]

theorem ofLeBytes_lt (bytes : List UInt8) : ofLeBytes bytes < 256 ^ bytes.length := by
  induction bytes with
  | nil => simp [ofLeBytes]
  | cons b rest ih =>
    have hb : b.toNat < 256 := b.toNat_lt
    rw [ofLeBytes, List.length_cons, pow_succ]
    omega

theorem ofLeBytes_toLeBytes (w n : Nat) : ofLeBytes (toLeBytes w n) = n % 256 ^ w := by
  induction w generalizing n with
  | zero => simp [toLeBytes, ofLeBytes, Nat.mod_one]
  | succ w ih =>
    have hlow : (UInt8.ofNat n).toNat = n % 256 := UInt8.toNat_ofNat'
    rw [toLeBytes, ofLeBytes, ih, hlow, pow_succ', Nat.mod_mul]

theorem toLeBytes_ofLeBytes (bytes : List UInt8) : toLeBytes bytes.length (ofLeBytes bytes) = bytes := by
  induction bytes with
  | nil => rfl
  | cons b rest ih =>
    have hb : b.toNat < 256 := b.toNat_lt
    have hlow : UInt8.ofNat (b.toNat + 256 * ofLeBytes rest) = b := by
      apply UInt8.toNat_inj.1
      rw [UInt8.toNat_ofNat']
      omega
    have hhigh : (b.toNat + 256 * ofLeBytes rest) / 256 = ofLeBytes rest := by omega
    rw [List.length_cons, ofLeBytes, toLeBytes, hlow, hhigh, ih]

/-! ## Integers in two's complement -/

/-- The low `w` bytes of an integer. -/
def intToLeBytes (w : Nat) (value : Int) : List UInt8 :=
  toLeBytes w (value % ((256 ^ w : Nat) : Int)).toNat

/-- The unsigned reading of a word. -/
def uintOfLeBytes (bytes : List UInt8) : Int := ofLeBytes bytes

/-- The signed reading of a word. -/
def sintOfLeBytes (bytes : List UInt8) : Int := (ofLeBytes bytes : Int).bmod (256 ^ bytes.length)

@[simp] theorem length_intToLeBytes (w : Nat) (value : Int) : (intToLeBytes w value).length = w :=
  length_toLeBytes w _

theorem ofLeBytes_intToLeBytes (w : Nat) (value : Int) :
    (ofLeBytes (intToLeBytes w value) : Int) = value % ((256 ^ w : Nat) : Int) := by
  have hpos : ((256 ^ w : Nat) : Int) ≠ 0 := by positivity
  have hnonneg := Int.emod_nonneg value hpos
  have hlt : value % ((256 ^ w : Nat) : Int) < ((256 ^ w : Nat) : Int) := Int.emod_lt_of_pos value (by positivity)
  rw [intToLeBytes, ofLeBytes_toLeBytes, Nat.mod_eq_of_lt (by omega), Int.toNat_of_nonneg hnonneg]

variable {w stride n k : Nat} {value : Int} {bytes : List UInt8}

theorem uintOfLeBytes_intToLeBytes (hlow : 0 ≤ value) (hhigh : value < ((256 ^ w : Nat) : Int)) :
    uintOfLeBytes (intToLeBytes w value) = value := by
  rw [uintOfLeBytes, ofLeBytes_intToLeBytes, Int.emod_eq_of_lt hlow hhigh]

theorem sintOfLeBytes_intToLeBytes (hlow : -((256 ^ w : Nat) : Int) ≤ 2 * value)
    (hhigh : 2 * value < ((256 ^ w : Nat) : Int)) : sintOfLeBytes (intToLeBytes w value) = value := by
  rw [sintOfLeBytes, ofLeBytes_intToLeBytes, length_intToLeBytes, Int.emod_bmod]
  exact Int.bmod_eq_of_le (by omega) (by omega)

theorem intToLeBytes_of_emod (hlen : bytes.length = w)
    (h : value % ((256 ^ w : Nat) : Int) = (ofLeBytes bytes : Int) % ((256 ^ w : Nat) : Int)) :
    intToLeBytes w value = bytes := by
  subst hlen
  have hlt : (ofLeBytes bytes : Int) < ((256 ^ bytes.length : Nat) : Int) := Int.ofNat_lt.2 (ofLeBytes_lt bytes)
  rw [intToLeBytes, h, Int.emod_eq_of_lt (by omega) hlt, Int.toNat_natCast, toLeBytes_ofLeBytes]

theorem intToLeBytes_uintOfLeBytes (hlen : bytes.length = w) :
    intToLeBytes w (uintOfLeBytes bytes) = bytes := intToLeBytes_of_emod hlen rfl

theorem intToLeBytes_sintOfLeBytes (hlen : bytes.length = w) : intToLeBytes w (sintOfLeBytes bytes) = bytes := by
  refine intToLeBytes_of_emod hlen ?_
  rw [sintOfLeBytes, hlen, Int.bmod_emod]

theorem uintOfLeBytes_range (bytes : List UInt8) :
    0 ≤ uintOfLeBytes bytes ∧ uintOfLeBytes bytes < ((256 ^ bytes.length : Nat) : Int) :=
  ⟨Int.natCast_nonneg _, Int.ofNat_lt.2 (ofLeBytes_lt bytes)⟩

theorem sintOfLeBytes_range (bytes : List UInt8) :
    -((256 ^ bytes.length : Nat) : Int) ≤ 2 * sintOfLeBytes bytes ∧
      2 * sintOfLeBytes bytes < ((256 ^ bytes.length : Nat) : Int) := by
  have hpos : 0 < 256 ^ bytes.length := by positivity
  have hlow := Int.le_bmod (x := (ofLeBytes bytes : Int)) hpos
  have hhigh := Int.bmod_lt (x := (ofLeBytes bytes : Int)) hpos
  unfold sintOfLeBytes
  omega

/-! ## Pieces of one length -/

variable {α : Type}

/-- The first `n` pieces of length `stride`. -/
def chunks (stride : Nat) : Nat → List α → List (List α)
  | 0, _ => []
  | n + 1, xs => xs.take stride :: chunks stride n (xs.drop stride)

@[simp] theorem length_chunks (stride n : Nat) (xs : List α) : (chunks stride n xs).length = n := by
  induction n generalizing xs with
  | zero => rfl
  | succ n ih => simp [chunks, ih]

variable {xs : List α} {rows : List (List α)}

theorem length_of_mem_chunks_of_le {piece : List α} (hlen : stride * n ≤ xs.length) (h : piece ∈ chunks stride n xs) :
    piece.length = stride := by
  induction n generalizing xs with
  | zero => cases h
  | succ n ih =>
    rw [Nat.mul_succ] at hlen
    rcases List.mem_cons.1 h with rfl | h
    · rw [List.length_take]
      omega
    · refine ih ?_ h
      rw [List.length_drop]
      omega

theorem length_of_mem_chunks {piece : List α} (hlen : xs.length = stride * n) (h : piece ∈ chunks stride n xs) :
    piece.length = stride :=
  length_of_mem_chunks_of_le hlen.ge h

theorem flatten_chunks (hlen : xs.length = stride * n) : (chunks stride n xs).flatten = xs := by
  induction n generalizing xs with
  | zero =>
    rw [Nat.mul_zero, List.length_eq_zero_iff] at hlen
    rw [hlen]
    rfl
  | succ n ih =>
    have hrest : (xs.drop stride).length = stride * n := by
      rw [List.length_drop, hlen, Nat.mul_succ]
      omega
    rw [chunks, List.flatten_cons, ih hrest, List.take_append_drop]

theorem chunks_flatten {pieces : List (List α)} (h : ∀ piece ∈ pieces, piece.length = stride) :
    chunks stride pieces.length pieces.flatten = pieces := by
  induction pieces with
  | nil => rfl
  | cons piece rest ih =>
    have hpiece : piece.length = stride := h piece List.mem_cons_self
    have hrest := ih (fun other hother => h other (List.mem_cons_of_mem _ hother))
    rw [List.length_cons, List.flatten_cons, chunks, List.take_left' hpiece, List.drop_left' hpiece, hrest]

theorem length_flatten_of_pieces {pieces : List (List α)} (h : ∀ piece ∈ pieces, piece.length = stride) :
    pieces.flatten.length = stride * pieces.length := by
  induction pieces with
  | nil => rfl
  | cons piece rest ih =>
    have hrest := ih (fun other hother => h other (List.mem_cons_of_mem _ hother))
    rw [List.flatten_cons, List.length_append, h piece List.mem_cons_self, hrest, List.length_cons, Nat.mul_succ,
      Nat.add_comm]

/-! ## Rows and columns -/

/-- The first `k` columns of a table given by its rows. -/
def transpose (k : Nat) (rows : List (List α)) : List (List α) :=
  (List.range k).map (fun p => rows.filterMap (fun row => row[p]?))

@[simp] theorem length_transpose (k : Nat) (rows : List (List α)) : (transpose k rows).length = k := by
  simp [transpose]

theorem getElem?_column {p : Nat} (h : ∀ row ∈ rows, p < row.length) (i : Nat) :
    (rows.filterMap (fun row => row[p]?))[i]? = rows[i]?.bind (fun row => row[p]?) := by
  induction rows generalizing i with
  | nil => rfl
  | cons row rest ih =>
    obtain ⟨a, hrow⟩ : ∃ a, row[p]? = some a := ⟨_, List.getElem?_eq_getElem (h row List.mem_cons_self)⟩
    rw [List.filterMap_cons, hrow]
    cases i with
    | zero => simp [hrow]
    | succ i =>
      rw [List.getElem?_cons_succ, List.getElem?_cons_succ]
      exact ih (fun other hother => h other (List.mem_cons_of_mem _ hother)) i

theorem filterMap_range_getElem? (row : List α) : (List.range row.length).filterMap (fun p => row[p]?) = row := by
  induction row with
  | nil => rfl
  | cons a rest ih =>
    rw [List.length_cons, List.range_succ_eq_map, List.filterMap_cons, List.getElem?_cons_zero,
      List.filterMap_map]
    exact congrArg _ ih

/-- A column of a table with rows of one length has one entry per row. -/
theorem length_of_mem_transpose (h : ∀ row ∈ rows, row.length = k) {column : List α} (hc : column ∈ transpose k rows) :
    column.length = rows.length := by
  obtain ⟨p, hp, rfl⟩ := List.mem_map.1 hc
  rw [List.mem_range] at hp
  induction rows with
  | nil => rfl
  | cons row rest ih =>
    have hrow : p < row.length := by rw [h row List.mem_cons_self]; exact hp
    have hrest : ∀ other ∈ rest, other.length = k := fun other hother => h other (List.mem_cons_of_mem _ hother)
    rw [List.filterMap_cons, List.getElem?_eq_getElem hrow, List.length_cons, List.length_cons,
      ih hrest (List.mem_map.2 ⟨p, List.mem_range.2 hp, rfl⟩)]

theorem mem_transpose {p : Nat} (hp : p < k) {row : List α} (hrow : row ∈ rows) {a : α} (ha : row[p]? = some a) :
    ∃ column, (transpose k rows)[p]? = some column ∧ a ∈ column := by
  refine ⟨rows.filterMap (fun row => row[p]?), ?_, List.mem_filterMap.2 ⟨row, hrow, ha⟩⟩
  rw [transpose, List.getElem?_map, List.getElem?_range hp]
  rfl

theorem transpose_transpose (h : ∀ row ∈ rows, row.length = k) : transpose rows.length (transpose k rows) = rows := by
  refine List.ext_getElem (by simp) (fun i _ hi => ?_)
  have hentry : ∀ p ∈ List.range k, (rows.filterMap (fun row => row[p]?))[i]? = rows[i][p]? := by
    intro p hp
    have hcol : ∀ row ∈ rows, p < row.length := fun row hrow => by rw [h row hrow]; exact List.mem_range.1 hp
    rw [getElem?_column hcol, List.getElem?_eq_getElem hi]
    rfl
  have hlen : rows[i].length = k := h _ (List.getElem_mem hi)
  simp only [transpose, List.getElem_map, List.getElem_range, List.filterMap_map]
  refine (List.filterMap_congr hentry).trans ?_
  rw [← hlen]
  exact filterMap_range_getElem? rows[i]

/-- What holds of every row, place by place, holds of every column. -/
theorem forall₂_transpose {β : Type} {R : β → α → Prop} {xs : List β} (h : ∀ row ∈ rows, List.Forall₂ R xs row) :
    List.Forall₂ (fun x column => ∀ a ∈ column, R x a) xs (transpose xs.length rows) := by
  refine List.forall₂_iff_get.2 ⟨by simp, fun i hx _ => ?_⟩
  intro a ha
  simp only [transpose, List.get_eq_getElem, List.getElem_map, List.getElem_range, List.mem_filterMap] at ha
  obtain ⟨row, hrow, ha⟩ := ha
  obtain ⟨hi, rfl⟩ := List.getElem?_eq_some_iff.1 ha
  exact (List.forall₂_iff_get.1 (h row hrow)).2 i hx hi

end Rlmesh.Lib
