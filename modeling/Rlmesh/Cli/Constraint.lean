import Mathlib
/-!
# Version constraints

`caps_below` and `admits_below` look at one clause at a time, and a floor counts
the same whether its clause is strict or not. They decide which side of a
two-part version the solutions lie on all the same: every version below `x.y`
has a three-part version between it and `x.y`.
-/

namespace Rlmesh.Cli

inductive Comparator
  | ge | gt | le | lt | eq
  deriving DecidableEq, Repr

/-- One clause of a version constraint. -/
structure Clause where
  comparator : Comparator
  /-- Dotted numeric parts, a missing one read as 0. -/
  version : List Nat

def compare (left right : List Nat) : Ordering :=
  let len := max left.length right.length
  (((List.range len).map (fun i => Ord.compare (left.getD i 0) (right.getD i 0))).find? (·.isNe)).getD .eq

/-- `Iterator::max_by`: the last of the greatest entries. -/
def maxBy {α : Type} (compare : α → α → Ordering) : List α → Option α
  | [] => none
  | first :: rest => some (rest.foldl (fun best next => if (compare best next).isGT then best else next) first)

/-- The versions of the clauses that bound from below. -/
def lowerVersions (clauses : List Clause) : List (List Nat) :=
  (clauses.filter (fun clause => clause.comparator ≠ .lt && clause.comparator ≠ .le)).map (·.version)

def constraintFloor (clauses : List Clause) : Option (List Nat) := maxBy compare (lowerVersions clauses)

def capsBelow (clauses : List Clause) (version : List Nat) : Bool :=
  clauses.any fun clause => match clause.comparator with
    | .lt => (compare clause.version version).isLE
    | .le | .eq => (compare clause.version version).isLT
    | _ => false

def admitsBelow (clauses : List Clause) (version : List Nat) : Bool :=
  (constraintFloor clauses).all fun floor => (compare floor version).isLT

/-- The version meets the clause. -/
def Clause.satisfiedBy (clause : Clause) (version : List Nat) : Bool :=
  match clause.comparator with
  | .ge => (compare version clause.version).isGE
  | .gt => (compare version clause.version).isGT
  | .le => (compare version clause.version).isLE
  | .lt => (compare version clause.version).isLT
  | .eq => (compare version clause.version).isEq

/-- The version meets every clause. -/
def satisfies (clauses : List Clause) (version : List Nat) : Bool := clauses.all (·.satisfiedBy version)

/-! ## The order of versions -/

/-- Versions padded with zeros, in lexicographic order. -/
def Padded : Type := Lex (Nat → Nat)

noncomputable instance : LinearOrder Padded := inferInstanceAs (LinearOrder (Lex (Nat → Nat)))

def order (version : List Nat) : Padded := toLex (fun i => version.getD i 0)

variable {left right v w : List Nat} {clauses : List Clause} {clause : Clause}

theorem order_lt_of (i : Nat) (hsame : ∀ j < i, left.getD j 0 = right.getD j 0) (hlt : left.getD i 0 < right.getD i 0) :
    order left < order right := ⟨i, hsame, hlt⟩

/-- `compare` compares in that order. -/
theorem compare_cases (left right : List Nat) :
    (compare left right = .lt ∧ order left < order right) ∨ (compare left right = .eq ∧ order left = order right) ∨
      (compare left right = .gt ∧ order right < order left) := by
  rw [compare, List.find?_map]
  cases hfind : (List.range (max left.length right.length)).find?
      ((·.isNe) ∘ fun i => Ord.compare (left.getD i 0) (right.getD i 0)) with
  | none =>
    -- No part differs, and past both lengths every part is 0.
    refine .inr (.inl ⟨rfl, congrArg toLex (funext fun i => ?_)⟩)
    rw [List.find?_eq_none] at hfind
    by_cases hi : i < max left.length right.length
    · have hsame := hfind i (List.mem_range.2 hi)
      simpa using hsame
    · have hlong : left.length ≤ i ∧ right.length ≤ i := by omega
      simp [hlong]
  | some i =>
    obtain ⟨hne, -, hbefore⟩ := List.find?_range_eq_some.1 hfind
    have hsame : ∀ j < i, left.getD j 0 = right.getD j 0 := by
      intro j hj
      simpa using hbefore j hj
    rcases Nat.lt_trichotomy (left.getD i 0) (right.getD i 0) with hlt | heq | hgt
    · exact .inl ⟨Nat.compare_eq_lt.2 hlt, order_lt_of i hsame hlt⟩
    · exact absurd heq (by simpa using hne)
    · exact .inr (.inr ⟨Nat.compare_eq_gt.2 hgt, order_lt_of i (fun j hj => (hsame j hj).symm) hgt⟩)

@[simp] theorem compare_eq_lt : compare left right = .lt ↔ order left < order right := by
  rcases compare_cases left right with ⟨h, hord⟩ | ⟨h, hord⟩ | ⟨h, hord⟩ <;> simp [h, hord, le_of_lt]

@[simp] theorem compare_isLE : (compare left right).isLE = true ↔ order left ≤ order right := by
  rcases compare_cases left right with ⟨h, hord⟩ | ⟨h, hord⟩ | ⟨h, hord⟩ <;> simp [h, hord, le_of_lt]

@[simp] theorem compare_eq_eq : compare left right = .eq ↔ order left = order right := by
  rcases compare_cases left right with ⟨h, hord⟩ | ⟨h, hord⟩ | ⟨h, hord⟩ <;> simp [h, hord, ne_of_lt, ne_of_gt]

@[simp] theorem compare_isGE : (compare left right).isGE = true ↔ order right ≤ order left := by
  rcases compare_cases left right with ⟨h, hord⟩ | ⟨h, hord⟩ | ⟨h, hord⟩ <;> simp [h, hord, le_of_lt]

@[simp] theorem compare_eq_gt : compare left right = .gt ↔ order right < order left := by
  rcases compare_cases left right with ⟨h, hord⟩ | ⟨h, hord⟩ | ⟨h, hord⟩ <;> simp [h, hord, le_of_lt]

/-! ## The floor -/

theorem maxBy_foldl (rest : List (List Nat)) (first : List Nat) :
    rest.foldl (fun best next => if (compare best next).isGT then best else next) first ∈ first :: rest ∧
      ∀ v ∈ first :: rest,
        order v ≤ order (rest.foldl (fun best next => if (compare best next).isGT then best else next) first) := by
  induction rest generalizing first with
  | nil => simp
  | cons next rest ih =>
    rw [List.foldl_cons]
    obtain ⟨hmem, hmax⟩ := ih (if (compare first next).isGT then first else next)
    have hkept := hmax _ List.mem_cons_self
    have hboth : order first ≤ order (if (compare first next).isGT then first else next) ∧
        order next ≤ order (if (compare first next).isGT then first else next) := by
      by_cases hgt : order next < order first
      · simp [hgt, le_of_lt]
      · simp [hgt, le_of_not_gt hgt]
    refine ⟨by grind, fun v hv => ?_⟩
    rcases List.mem_cons.1 hv with rfl | hv
    · exact le_trans hboth.1 hkept
    rcases List.mem_cons.1 hv with rfl | hv
    · exact le_trans hboth.2 hkept
    · exact hmax v (List.mem_cons_of_mem _ hv)

/-- The floor is the highest version a clause bounds from below with. -/
theorem constraintFloor_some {floor : List Nat} (h : constraintFloor clauses = some floor) :
    floor ∈ lowerVersions clauses ∧ ∀ v ∈ lowerVersions clauses, order v ≤ order floor := by
  unfold constraintFloor maxBy at h
  split at h
  · cases h
  · rename_i first rest heq
    rw [← Option.some.inj h, heq]
    exact maxBy_foldl rest first

theorem constraintFloor_none (h : constraintFloor clauses = none) : lowerVersions clauses = [] := by
  unfold constraintFloor maxBy at h
  split at h
  · assumption
  · cases h

theorem mem_lowerVersions (hmem : clause ∈ clauses) (hlt : clause.comparator ≠ .lt) (hle : clause.comparator ≠ .le) :
    clause.version ∈ lowerVersions clauses :=
  List.mem_map_of_mem (List.mem_filter.2 ⟨hmem, by simp [hlt, hle]⟩)

/-! ## Solutions -/

/-- What a clause asks, in the order of versions. -/
theorem Clause.satisfiedBy_iff : clause.satisfiedBy w = true ↔ match clause.comparator with
    | .ge => order clause.version ≤ order w
    | .gt => order clause.version < order w
    | .le => order w ≤ order clause.version
    | .lt => order w < order clause.version
    | .eq => order w = order clause.version := by
  unfold Clause.satisfiedBy
  cases clause.comparator <;> simp

/-- No upper bound excludes `v`. -/
theorem capsBelow_eq_false : capsBelow clauses v = false ↔ ∀ clause ∈ clauses, match clause.comparator with
    | .lt => order v < order clause.version
    | .le | .eq => order v ≤ order clause.version
    | _ => True := by
  simp only [capsBelow, List.any_eq_false]
  refine forall₂_congr fun clause _ => ?_
  cases clause.comparator <;> simp

/-- A version below `v` that meets the lower bounds meets every clause, unless an upper bound excludes `v`. -/
theorem satisfies_below (hcaps : capsBelow clauses v = false) (hw : order w < order v)
    (hge : ∀ clause ∈ clauses, clause.comparator = .ge → order clause.version ≤ order w)
    (hgt : ∀ clause ∈ clauses, clause.comparator = .gt → order clause.version < order w)
    (heq : ∀ clause ∈ clauses, clause.comparator ≠ .eq) : satisfies clauses w = true := by
  rw [satisfies, List.all_eq_true]
  intro clause hmem
  have hcap := capsBelow_eq_false.1 hcaps clause hmem
  rw [Clause.satisfiedBy_iff]
  cases hc : clause.comparator with
  | ge => exact hge clause hmem hc
  | gt => exact hgt clause hmem hc
  | le =>
    rw [hc] at hcap
    exact le_trans (le_of_lt hw) hcap
  | lt =>
    rw [hc] at hcap
    exact lt_trans hw hcap
  | eq => exact absurd hc (heq clause hmem)

/-- Between a version below `x.y` and `x.y` lies a version of three parts. -/
theorem exists_between {x y : Nat} (h : order v < order [x, y]) :
    ∃ w, w.length ≤ 3 ∧ order v < order w ∧ order w < order [x, y] := by
  refine ⟨[v.getD 0 0, v.getD 1 0, v.getD 2 0 + 1], Nat.le_refl 3, ?_, ?_⟩
  · refine order_lt_of 2 (fun j hj => ?_) ?_
    · match j, hj with
      | 0, _ | 1, _ => rfl
    · exact Nat.lt_succ_self _
  · obtain ⟨i, hsame, hlt⟩ := h
    change v.getD i 0 < [x, y].getD i 0 at hlt
    -- The two differ in a part that `x.y` has.
    have hi : i < 2 := by
      by_contra hi
      have hnone : [x, y].getD i 0 = 0 := by
        rw [List.getD_eq_getElem?_getD, List.getElem?_eq_none (not_lt.1 hi), Option.getD_none]
      exact absurd hlt (by rw [hnone]; exact Nat.not_lt_zero _)
    refine order_lt_of i (fun j hj => ?_) ?_
    · have := hsame j hj
      change v.getD j 0 = [x, y].getD j 0 at this
      match j, hj with
      | 0, _ => exact this
      | j + 1, hj => omega
    · match i, hi with
      | 0, _ | 1, _ => exact hlt

/-- The checks decide the solutions. For every constraint that some version satisfies and every two-part version above
0.0: the constraint caps below it exactly when no version from it on satisfies all clauses; and when it does not, it
admits below it exactly when some version below does. -/
theorem constraint_checks_exact {clauses : List Clause} (hsat : ∃ w, w.length ≤ 3 ∧ satisfies clauses w = true)
    {x y : Nat} (hv : (compare [0, 0] [x, y]).isLT = true) :
    (capsBelow clauses [x, y] = true ↔
      ¬ ∃ w, w.length ≤ 3 ∧ (compare w [x, y]).isGE = true ∧ satisfies clauses w = true) ∧
    (capsBelow clauses [x, y] = false → (admitsBelow clauses [x, y] = true ↔
      ∃ w, w.length ≤ 3 ∧ (compare w [x, y]).isLT = true ∧ satisfies clauses w = true)) := by
  obtain ⟨s, hshort, hs⟩ := hsat
  have hzero : order [0, 0] < order [x, y] := by simpa using hv
  have hsolves := List.all_eq_true.1 hs
  refine ⟨⟨fun hcaps ⟨w, _, hge, hw⟩ => ?_, fun hnone => ?_⟩, fun hcaps => ⟨fun hadmits => ?_, fun ⟨w, _, hlt, hw⟩ => ?_⟩⟩
  · -- A clause that caps below `x.y` fails from `x.y` on.
    obtain ⟨clause, hmem, hcap⟩ := List.any_eq_true.1 hcaps
    have hclause := Clause.satisfiedBy_iff.1 (List.all_eq_true.1 hw clause hmem)
    have hge : order [x, y] ≤ order w := by simpa using hge
    cases hc : clause.comparator with
    | ge | gt => simp [hc] at hcap
    | le | lt | eq =>
      simp only [hc] at hclause hcap
      simp at hcap
      order
  · -- Otherwise a solution below `x.y` shows that `x.y` is one itself.
    by_contra hcaps
    have hcaps := Bool.eq_false_iff.2 hcaps
    have hbelow : order s < order [x, y] := by
      by_contra hle
      exact hnone ⟨s, hshort, by simpa using hle, hs⟩
    refine hnone ⟨[x, y], by simp, by simp, List.all_eq_true.2 fun clause hmem => ?_⟩
    have hclause := Clause.satisfiedBy_iff.1 (hsolves clause hmem)
    have hcap := capsBelow_eq_false.1 hcaps clause hmem
    rw [Clause.satisfiedBy_iff]
    cases hc : clause.comparator <;> simp only [hc] at hclause hcap ⊢ <;> order
  · -- A version just above the floor, or the lowest one of all.
    obtain ⟨w, hw, hlt, habove⟩ : ∃ w, w.length ≤ 3 ∧ order w < order [x, y] ∧
        ∀ v ∈ lowerVersions clauses, order v < order w := by
      cases hfloor : constraintFloor clauses with
      | none => exact ⟨[0, 0], by simp, hzero, by simp [constraintFloor_none hfloor]⟩
      | some floor =>
        have hbelow : order floor < order [x, y] := by simpa [admitsBelow, hfloor] using hadmits
        obtain ⟨w, hw, hfloorw, hlt⟩ := exists_between hbelow
        exact ⟨w, hw, hlt, fun v hv => lt_of_le_of_lt ((constraintFloor_some hfloor).2 v hv) hfloorw⟩
    have hlower : ∀ clause ∈ clauses, clause.comparator ≠ .lt → clause.comparator ≠ .le →
        order clause.version < order w := fun clause hmem hlt hle => habove _ (mem_lowerVersions hmem hlt hle)
    refine ⟨w, hw, by simpa using hlt, satisfies_below hcaps hlt (fun clause hmem hc => ?_) (fun clause hmem hc => ?_)
      (fun clause hmem hc => ?_)⟩
    · exact le_of_lt (hlower clause hmem (by simp [hc]) (by simp [hc]))
    · exact hlower clause hmem (by simp [hc]) (by simp [hc])
    · have hcap := capsBelow_eq_false.1 hcaps clause hmem
      have := hlower clause hmem (by simp [hc]) (by simp [hc])
      simp only [hc] at hcap
      order
  · -- A solution below is no lower than the floor.
    have hlt : order w < order [x, y] := by simpa using hlt
    rw [admitsBelow, Option.all_eq_true]
    intro floor hfloor
    obtain ⟨clause, hclause, rfl⟩ := List.mem_map.1 (constraintFloor_some hfloor).1
    obtain ⟨hmem, hlower⟩ := List.mem_filter.1 hclause
    have hmeets := Clause.satisfiedBy_iff.1 (List.all_eq_true.1 hw clause hmem)
    suffices order clause.version < order [x, y] by simpa using this
    cases hc : clause.comparator with
    | lt | le => simp [hc] at hlower
    | ge | gt | eq =>
      simp only [hc] at hmeets
      order

/-- CUDA 12.4 and a constraint on drivers from 12.2 on: it admits drivers below 12.4, and caps nothing. -/
theorem constraint_checks_cuda :
    (capsBelow [⟨.ge, [12, 2]⟩, ⟨.lt, [13]⟩] [12, 4] = false) ∧
    ∃ w, w.length ≤ 3 ∧ (compare w [12, 4]).isLT = true ∧
      satisfies [⟨.ge, [12, 2]⟩, ⟨.lt, [13]⟩] w = true :=
  have hsat : ∃ w, w.length ≤ 3 ∧ satisfies [⟨.ge, [12, 2]⟩, ⟨.lt, [13]⟩] w = true := ⟨[12, 2], by decide, by decide⟩
  have h := constraint_checks_exact hsat (x := 12) (y := 4) (by decide)
  ⟨by decide, (h.2 (by decide)).1 (by decide)⟩

end Rlmesh.Cli
