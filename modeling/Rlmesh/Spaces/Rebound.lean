import Rlmesh.Spaces.Members
/-!
# Replacing bounds

A spec whose Box leaves get other bounds is accepted if every leaf is, and admits
the same values if every leaf does. Everything else about it stays.
-/

namespace Rlmesh.Spaces

variable {A B : Type}

mutual
/-- The spec with the bounds of its Box leaves replaced. -/
def SpaceSpec.mapBounds (f : DType → A → B) : SpaceSpec A → SpaceSpec B
  | .box shape dtype bounds => .box shape dtype (f dtype bounds)
  | .discrete shape dtype n start => .discrete shape dtype n start
  | .multiBinary shape dtype => .multiBinary shape dtype
  | .multiDiscrete shape dtype nvec => .multiDiscrete shape dtype nvec
  | .text shape dtype minLength maxLength charset => .text shape dtype minLength maxLength charset
  | .dict shape dtype keys spaces => .dict shape dtype keys (mapBoundsAll f spaces)
  | .tuple shape dtype spaces => .tuple shape dtype (mapBoundsAll f spaces)
  | .unspecified shape dtype => .unspecified shape dtype

def mapBoundsAll (f : DType → A → B) : List (SpaceSpec A) → List (SpaceSpec B)
  | [] => []
  | spec :: rest => spec.mapBounds f :: mapBoundsAll f rest
end

theorem length_mapBoundsAll (f : DType → A → B) (spaces : List (SpaceSpec A)) :
    (mapBoundsAll f spaces).length = spaces.length := by
  induction spaces with
  | nil => rfl
  | cons spec rest ih => rw [mapBoundsAll, List.length_cons, List.length_cons, ih]

theorem leafSpecs_of_child {child : SpaceSpec A} {spaces : List (SpaceSpec A)} (h : child ∈ spaces) {leaf : SpaceSpec A}
    (hleaf : leaf ∈ leafSpecs child) : leaf ∈ leafSpecsAll spaces := by
  induction spaces with
  | nil => cases h
  | cons first rest ih =>
    rw [leafSpecsAll]
    rcases List.mem_cons.1 h with rfl | h
    · exact List.mem_append_left _ hleaf
    · exact List.mem_append_right _ (ih h)

/-- What holds of the dtype and bounds of every Box leaf. -/
def BoxLeaves (P : DType → A → Prop) (spec : SpaceSpec A) : Prop :=
  ∀ shape dtype bounds, .box shape dtype bounds ∈ leafSpecs spec → P dtype bounds

theorem BoxLeaves.child {P : DType → A → Prop} {spaces : List (SpaceSpec A)}
    (h : ∀ shape dtype bounds, .box shape dtype bounds ∈ leafSpecsAll spaces → P dtype bounds) :
    ∀ child ∈ spaces, BoxLeaves P child :=
  fun _ hc shape dtype bounds hb => h shape dtype bounds (leafSpecs_of_child hc hb)

/-- Bounds forgotten; two specs with one skeleton differ in bounds at most. -/
def SpaceSpec.skeleton (spec : SpaceSpec A) : SpaceSpec Unit := spec.mapBounds (fun _ _ => ())

theorem skeleton_mapBounds (f : DType → A → B) (spec : SpaceSpec A) : (spec.mapBounds f).skeleton = spec.skeleton := by
  have hall : ∀ spaces : List (SpaceSpec A), (∀ child ∈ spaces, (child.mapBounds f).skeleton = child.skeleton) →
      mapBoundsAll (fun _ _ => ()) (mapBoundsAll f spaces) = mapBoundsAll (fun _ _ => ()) spaces := by
    intro spaces hc
    induction spaces with
    | nil => rfl
    | cons child rest ih =>
      rw [mapBoundsAll, mapBoundsAll, mapBoundsAll, ih (fun other hother => hc other (List.mem_cons_of_mem _ hother))]
      exact congrArg (· :: _) (hc child List.mem_cons_self)
  induction spec using SpaceSpec.tree_induction with
  | leaf spec hleaf => cases spec <;> first | rfl | cases hleaf
  | dict shape dtype keys spaces ih => exact congrArg (SpaceSpec.dict shape dtype keys) (hall spaces ih)
  | tuple shape dtype spaces ih => exact congrArg (SpaceSpec.tuple shape dtype) (hall spaces ih)

section

variable [BoxBounds A] [BoxBounds B]

/-! ## Acceptance -/

variable {shape : List Int} {dtype : DType} {path : String} {f : DType → A → B} {spec : SpaceSpec A}
  {spaces : List (SpaceSpec A)} {keys : List String} {i : Nat} {entries : List (String × SpaceValue)}
  {items : List SpaceValue}

theorem validateCompositeAt_path {name : String} (path' : String)
    (h : validateCompositeAt name shape dtype path = .ok ()) : validateCompositeAt name shape dtype path' = .ok () := by
  revert h
  unfold validateCompositeAt
  split_ifs <;> simp

theorem validateLeaf_path (hleaf : spec.isLeaf = true) (hbox : ∀ shape dtype bounds, spec ≠ .box shape dtype bounds)
    (path' : String) (h : validateSpaceAt path spec = .ok ()) : validateSpaceAt path' (spec.mapBounds f) = .ok () := by
  cases spec with
  | box shape dtype bounds => exact absurd rfl (hbox shape dtype bounds)
  | discrete shape dtype n start =>
    rw [validateSpaceAt, validateDiscreteAt_ok] at h
    rwa [SpaceSpec.mapBounds, validateSpaceAt, validateDiscreteAt_ok]
  | multiBinary shape dtype =>
    rw [validateSpaceAt, validateMultibinaryAt_ok] at h
    rwa [SpaceSpec.mapBounds, validateSpaceAt, validateMultibinaryAt_ok]
  | multiDiscrete shape dtype nvec =>
    rw [validateSpaceAt, validateMultidiscreteAt_ok] at h
    rwa [SpaceSpec.mapBounds, validateSpaceAt, validateMultidiscreteAt_ok]
  | text shape dtype minLength maxLength charset =>
    rw [validateSpaceAt, validateTextAt_ok] at h
    rwa [SpaceSpec.mapBounds, validateSpaceAt, validateTextAt_ok]
  | dict shape dtype keys spaces => cases hleaf
  | tuple shape dtype spaces => cases hleaf
  | unspecified shape dtype => cases h

theorem validateFields_mapBounds
    (hchild : ∀ child ∈ spaces, ∀ path path', validateSpaceAt path child = .ok () → validateSpaceAt path' (child.mapBounds f) = .ok ())
    (path' : String) {seen : List String} (h : validateFields path seen keys spaces = .ok ()) :
    validateFields path' seen keys (mapBoundsAll f spaces) = .ok () := by
  induction spaces generalizing seen keys with
  | nil => cases keys <;> rfl
  | cons child rest ih =>
    cases keys with
    | nil => rfl
    | cons key keys =>
      rw [validateFields] at h
      rw [mapBoundsAll, validateFields]
      split_ifs at h ⊢
      split at h
      · cases h
      · rename_i hvalid
        rw [hchild child List.mem_cons_self _ _ hvalid]
        exact ih (fun other hother => hchild other (List.mem_cons_of_mem _ hother)) h

theorem validateItems_mapBounds
    (hchild : ∀ child ∈ spaces, ∀ path path', validateSpaceAt path child = .ok () → validateSpaceAt path' (child.mapBounds f) = .ok ())
    (path' : String) (h : validateItems path i spaces = .ok ()) :
    validateItems path' i (mapBoundsAll f spaces) = .ok () := by
  induction spaces generalizing i with
  | nil => rfl
  | cons child rest ih =>
    rw [validateItems] at h
    rw [mapBoundsAll, validateItems]
    split at h
    · cases h
    · rename_i hvalid
      rw [hchild child List.mem_cons_self _ _ hvalid]
      exact ih (fun other hother => hchild other (List.mem_cons_of_mem _ hother)) h

theorem validateSpaceAt_mapBounds
    (hbox : ∀ shape dtype bounds, .box shape dtype bounds ∈ leafSpecs spec → ∀ path path', validateBoxAt shape dtype bounds path = .ok () → validateBoxAt shape dtype (f dtype bounds) path' = .ok ())
    (path' : String) (h : validateSpaceAt path spec = .ok ()) :
    validateSpaceAt path' (spec.mapBounds f) = .ok () := by
  induction spec using SpaceSpec.tree_induction generalizing path path' with
  | leaf spec hleaf =>
    by_cases hb : ∃ shape dtype bounds, spec = .box shape dtype bounds
    · obtain ⟨shape, dtype, bounds, rfl⟩ := hb
      rw [validateSpaceAt] at h
      rw [SpaceSpec.mapBounds, validateSpaceAt]
      exact hbox shape dtype bounds List.mem_cons_self path path' h
    · exact validateLeaf_path hleaf (fun shape dtype bounds heq => hb ⟨shape, dtype, bounds, heq⟩) path' h
  | dict shape dtype keys spaces ih =>
    rw [validateSpaceAt] at h
    rw [SpaceSpec.mapBounds, validateSpaceAt]
    cases hcomp : validateCompositeAt "Dict" shape dtype path with
    | error e => rw [hcomp] at h; cases h
    | ok _ =>
      rw [hcomp] at h
      rw [validateCompositeAt_path path' hcomp]
      dsimp only at h ⊢
      rw [length_mapBoundsAll]
      split_ifs at h ⊢
      have hchild : ∀ child ∈ spaces, ∀ path path', validateSpaceAt path child = .ok () →
          validateSpaceAt path' (child.mapBounds f) = .ok () := fun child hc path path' h =>
        ih child hc (fun shape dtype bounds hb => hbox shape dtype bounds (leafSpecs_of_child hc hb)) path' h
      exact validateFields_mapBounds hchild path' h
  | tuple shape dtype spaces ih =>
    rw [validateSpaceAt] at h
    rw [SpaceSpec.mapBounds, validateSpaceAt]
    cases hcomp : validateCompositeAt "Tuple" shape dtype path with
    | error e => rw [hcomp] at h; cases h
    | ok _ =>
      rw [hcomp] at h
      rw [validateCompositeAt_path path' hcomp]
      have hchild : ∀ child ∈ spaces, ∀ path path', validateSpaceAt path child = .ok () →
          validateSpaceAt path' (child.mapBounds f) = .ok () := fun child hc path path' h =>
        ih child hc (fun shape dtype bounds hb => hbox shape dtype bounds (leafSpecs_of_child hc hb)) path' h
      exact validateItems_mapBounds hchild path' h

/-! ## Admission -/

theorem keepFirst_some (e : SpaceError) (verdict : Conformance) : keepFirst (some e) verdict = some e := by
  cases verdict <;> rfl

theorem conformFields_deviates {e : SpaceError} : conformFields path entries (some e) keys spaces ≠ .ok none := by
  induction spaces generalizing keys with
  | nil => cases keys <;> simp [conformFields]
  | cons child rest ih =>
    cases keys with
    | nil => simp [conformFields]
    | cons key keys =>
      rw [conformFields]
      split
      · simp
      · split
        · simp
        · rw [keepFirst_some]
          exact ih

theorem conformItems_deviates {e : SpaceError} : conformItems path i (some e) spaces items ≠ .ok none := by
  induction spaces generalizing i items with
  | nil => cases items <;> simp [conformItems]
  | cons child rest ih =>
    cases items with
    | nil => simp [conformItems]
    | cons value items =>
      rw [conformItems]
      split
      · simp
      · rw [keepFirst_some]
        exact ih

/-- The fields of a Dict are all in place exactly when the first is and the others are. -/
theorem conformFields_cons {key : String} {child : SpaceSpec A} :
    conformFields path entries none (key :: keys) (child :: spaces) = .ok none ↔
      (∃ value, entries.lookup key = some value ∧ conformAt s!"{path}.{key}" child value = .ok) ∧
        conformFields path entries none keys spaces = .ok none := by
  rw [conformFields]
  cases hvalue : entries.lookup key with
  | none => simp
  | some value =>
    cases hverdict : conformAt s!"{path}.{key}" child value with
    | ok => simp [hverdict, keepFirst]
    | structural e => simp [hverdict]
    | range e => simpa [hverdict, keepFirst] using conformFields_deviates

theorem conformItems_cons {child : SpaceSpec A} {value : SpaceValue} :
    conformItems path i none (child :: spaces) (value :: items) = .ok none ↔
      conformAt s!"{path}[{i}]" child value = .ok ∧ conformItems path (i + 1) none spaces items = .ok none := by
  rw [conformItems]
  cases hverdict : conformAt s!"{path}[{i}]" child value with
  | ok => simp [keepFirst]
  | structural e => simp
  | range e => simpa [keepFirst] using conformItems_deviates

theorem conformFields_mapBounds
    (hchild : ∀ child ∈ spaces, ∀ path value, conformAt path (child.mapBounds f) value = .ok ↔ conformAt path child value = .ok) :
    conformFields path entries none keys (mapBoundsAll f spaces) = .ok none ↔
      conformFields path entries none keys spaces = .ok none := by
  induction spaces generalizing keys with
  | nil => cases keys <;> rfl
  | cons child rest ih =>
    cases keys with
    | nil => rfl
    | cons key keys =>
      rw [mapBoundsAll, conformFields_cons, conformFields_cons,
        ih (fun other hother => hchild other (List.mem_cons_of_mem _ hother))]
      simp only [hchild child List.mem_cons_self]

theorem conformItems_mapBounds
    (hchild : ∀ child ∈ spaces, ∀ path value, conformAt path (child.mapBounds f) value = .ok ↔ conformAt path child value = .ok) :
    conformItems path i none (mapBoundsAll f spaces) items = .ok none ↔
      conformItems path i none spaces items = .ok none := by
  induction spaces generalizing i items with
  | nil => cases items <;> rfl
  | cons child rest ih =>
    cases items with
    | nil => rfl
    | cons value items =>
      rw [mapBoundsAll, conformItems_cons, conformItems_cons,
        ih (fun other hother => hchild other (List.mem_cons_of_mem _ hother)), hchild child List.mem_cons_self]

theorem composite_ok {range : Option SpaceError} : composite range = .ok ↔ range = none := by
  cases range <;> simp [composite]

theorem conformAt_dict :
    conformAt path (.dict shape dtype keys spaces) (.dict entries) = .ok ↔
      conformFields path entries none keys spaces = .ok none ∧
        entries.find? (fun entry => !keys.contains entry.1) = none := by
  rw [conformAt]
  cases hfields : conformFields path entries none keys spaces with
  | error e => simp
  | ok range =>
    cases hfind : entries.find? (fun entry => !keys.contains entry.1) with
    | some entry => simp only [reduceCtorEq, and_false]
    | none => simp only [composite_ok, Except.ok.injEq, and_true]

theorem conformAt_tuple :
    conformAt path (.tuple shape dtype spaces) (.tuple items) = .ok ↔
      items.length = spaces.length ∧ conformItems path 0 none spaces items = .ok none := by
  rw [conformAt]
  split_ifs with hlen
  · simp [hlen]
  · cases hitems : conformItems path 0 none spaces items with
    | error e => simp
    | ok range => simp [composite_ok, not_not.1 hlen]

theorem conformAt_mapBounds
    (hbox : ∀ shape dtype bounds, .box shape dtype bounds ∈ leafSpecs spec → ∀ path value, conformBox shape dtype (f dtype bounds) path value = .ok ↔ conformBox shape dtype bounds path value = .ok)
    {value : SpaceValue} : conformAt path (spec.mapBounds f) value = .ok ↔ conformAt path spec value = .ok := by
  induction spec using SpaceSpec.tree_induction generalizing path value with
  | leaf spec hleaf =>
    cases spec with
    | box shape dtype bounds =>
      rw [SpaceSpec.mapBounds, conformAt, conformAt]
      exact hbox shape dtype bounds List.mem_cons_self path value
    | dict | tuple => cases hleaf
    | discrete | multiBinary | multiDiscrete | text | unspecified => simp only [SpaceSpec.mapBounds, conformAt]
  | dict shape dtype keys spaces ih =>
    have hchild : ∀ child ∈ spaces, ∀ path value,
        conformAt path (child.mapBounds f) value = .ok ↔ conformAt path child value = .ok := fun child hc path value =>
      ih child hc (fun shape dtype bounds hb => hbox shape dtype bounds (leafSpecs_of_child hc hb))
    rw [SpaceSpec.mapBounds]
    cases value with
    | dict entries => rw [conformAt_dict, conformAt_dict, conformFields_mapBounds hchild]
    | _ => simp [conformAt]
  | tuple shape dtype spaces ih =>
    have hchild : ∀ child ∈ spaces, ∀ path value,
        conformAt path (child.mapBounds f) value = .ok ↔ conformAt path child value = .ok := fun child hc path value =>
      ih child hc (fun shape dtype bounds hb => hbox shape dtype bounds (leafSpecs_of_child hc hb))
    rw [SpaceSpec.mapBounds]
    cases value with
    | tuple items => rw [conformAt_tuple, conformAt_tuple, length_mapBoundsAll, conformItems_mapBounds hchild]
    | _ => simp [conformAt]

end

end Rlmesh.Spaces
