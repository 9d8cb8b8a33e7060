import Rlmesh.Spaces.Accepted
import Rlmesh.Spaces.Walk
/-!
# What validation and conformance guarantee

A spec `validateSpace` accepts has well-keyed composites and integer categories;
a value `conform` does not reject outright has the spec's structure, and each of
its leaves fits the leaf spec at its place. These are the two facts the wire
codec rests on.
-/

namespace Rlmesh.Spaces

variable {B : Type} [BoxBounds B]

/-! ## Admitted values -/

/-- The value is a leaf value of the leaf spec's kind, shape and domain. -/
def LeafFits : SpaceSpec B → SpaceValue → Prop
  | .box shape dtype _, .box tensor => tensor.shape = shape ∧ tensor.dtype = dtype
  | .discrete _ _ n start, .discrete val => start ≤ val ∧ val - start < n
  | .multiBinary shape _, .multiBinary vals => shapeNumel shape = some vals.length
  | .multiDiscrete _ _ nvec, .multiDiscrete vals => List.Forall₂ (fun val n => 0 ≤ val ∧ val < n) vals nvec
  | .text .., .text _ => True
  | _, _ => False

/-- The verdict lets the value through under some policy. -/
def Conformance.Admitted (verdict : Conformance) : Prop := ∀ e, verdict ≠ .structural e

variable {i : Nat} {spec : SpaceSpec B} {path : String} {spaces : List (SpaceSpec B)}

theorem forall₂_of_badCategory {vals nvec : List Int} (hlen : vals.length = nvec.length)
    (h : badCategory i vals nvec = none) : List.Forall₂ (fun val n => 0 ≤ val ∧ val < n) vals nvec := by
  induction vals generalizing nvec i with
  | nil =>
    cases nvec with
    | nil => exact .nil
    | cons n nvec => cases hlen
  | cons val vals ih =>
    cases nvec with
    | nil => cases hlen
    | cons n nvec =>
      unfold badCategory at h
      split at h
      · cases h
      · exact .cons (by omega) (ih (Nat.succ.inj hlen) h)

theorem leafFits_of_admitted (hleaf : spec.isLeaf = true) {value : SpaceValue}
    (h : (conformAt path spec value).Admitted) : LeafFits spec value := by
  cases spec with
  | box shape dtype bounds =>
    rw [conformAt] at h
    cases value with
    | box tensor =>
      rw [conformBox] at h
      split at h
      · exact absurd rfl (h _)
      split at h
      · exact absurd rfl (h _)
      · exact ⟨by tauto, by tauto⟩
    | _ => exact absurd rfl (h _)
  | discrete shape dtype n start =>
    rw [conformAt] at h
    cases value with
    | discrete val =>
      rw [containsDiscrete] at h
      split at h
      · assumption
      · exact absurd rfl (h _)
    | _ => exact absurd rfl (h _)
  | multiBinary shape dtype =>
    rw [conformAt] at h
    cases value with
    | multiBinary vals =>
      rw [containsMultibinary] at h
      split at h
      · exact absurd rfl (h _)
      · rename_i expected hnumel
        split at h
        · exact absurd rfl (h _)
        · rename_i hlen
          rw [LeafFits, hnumel, not_not.1 hlen]
    | _ => exact absurd rfl (h _)
  | multiDiscrete shape dtype nvec =>
    rw [conformAt] at h
    cases value with
    | multiDiscrete vals =>
      rw [containsMultidiscrete] at h
      split at h
      · exact absurd rfl (h _)
      · rename_i hlen
        split at h
        · exact absurd rfl (h _)
        · exact forall₂_of_badCategory (not_not.1 hlen) (by assumption)
    | _ => exact absurd rfl (h _)
  | text shape dtype minLength maxLength charset =>
    rw [conformAt] at h
    cases value with
    | text value => trivial
    | _ => exact absurd rfl (h _)
  | dict shape dtype keys spaces => cases hleaf
  | tuple shape dtype spaces => cases hleaf
  | unspecified shape dtype => exact absurd rfl (h _)

/-- Some reading of the child admits its value. -/
def ChildAdmitted (child : SpaceSpec B) (value : SpaceValue) : Prop := ∃ path, (conformAt path child value).Admitted

theorem admitted_of_conformFields {entries : List (String × SpaceValue)} {keys : List String}
    (hlen : keys.length = spaces.length) {range verdict : Option SpaceError}
    (h : conformFields path entries range keys spaces = .ok verdict) :
    ∃ values, List.Forall₂ (fun key value => entries.lookup key = some value) keys values ∧
      List.Forall₂ ChildAdmitted spaces values := by
  induction keys generalizing spaces range with
  | nil =>
    cases spaces with
    | nil => exact ⟨[], .nil, .nil⟩
    | cons child spaces => cases hlen
  | cons key keys ih =>
    cases spaces with
    | nil => cases hlen
    | cons child spaces =>
      unfold conformFields at h
      split at h
      · cases h
      · rename_i value hkey
        split at h
        · cases h
        · rename_i hverdict
          obtain ⟨values, hkeys, hvalues⟩ := ih (Nat.succ.inj hlen) h
          exact ⟨value :: values, .cons hkey hkeys, .cons ⟨_, hverdict⟩ hvalues⟩

theorem admitted_of_conformItems {items : List SpaceValue} (hlen : items.length = spaces.length)
    {range verdict : Option SpaceError} (h : conformItems path i range spaces items = .ok verdict) :
    List.Forall₂ ChildAdmitted spaces items := by
  induction spaces generalizing items range i with
  | nil =>
    cases items with
    | nil => exact .nil
    | cons value items => cases hlen
  | cons child spaces ih =>
    cases items with
    | nil => cases hlen
    | cons value items =>
      unfold conformItems at h
      split at h
      · cases h
      · rename_i hverdict
        exact .cons ⟨_, hverdict⟩ (ih (Nat.succ.inj hlen) h)

/-- What a well-formed spec says of the values it admits. -/
def AdmitsShaped (spec : SpaceSpec B) : Prop :=
  ∀ value, ChildAdmitted spec value → Shaped spec value ∧
    ∃ leaves, flattenLeaves spec value = .ok leaves ∧ List.Forall₂ LeafFits (leafSpecs spec) leaves

theorem shaped_items (hc : ∀ child ∈ spaces, AdmitsShaped child) {values : List SpaceValue}
    (h : List.Forall₂ ChildAdmitted spaces values) :
    List.Forall₂ Shaped spaces values ∧
      ∃ leaves, flattenItems spaces values = .ok leaves ∧ List.Forall₂ LeafFits (leafSpecsAll spaces) leaves := by
  induction h with
  | nil => exact ⟨.nil, [], rfl, .nil⟩
  | cons hvalue _ ih =>
    obtain ⟨hshaped, leaves, hflat, hfits⟩ := hc _ List.mem_cons_self _ hvalue
    obtain ⟨hothers, more, hmore, hmorefits⟩ := ih (fun child hchild => hc child (List.mem_cons_of_mem _ hchild))
    refine ⟨.cons hshaped hothers, leaves ++ more, ?_, ?_⟩
    · rw [flattenItems, hflat]
      change (flattenItems _ _ >>= fun more => pure (leaves ++ more)) = _
      rw [hmore]
      rfl
    · rw [leafSpecsAll]
      exact List.rel_append hfits hmorefits

theorem admitsShaped (hw : WellKeyed spec) : AdmitsShaped spec := by
  induction spec using SpaceSpec.tree_induction with
  | leaf spec hleaf =>
    rintro value ⟨path, h⟩
    refine ⟨.leaf hleaf, [value], flattenLeaves_leaf hleaf value, ?_⟩
    rw [leafSpecs_leaf hleaf]
    exact .cons (leafFits_of_admitted hleaf h) .nil
  | dict shape dtype keys spaces ih =>
    rintro value ⟨path, h⟩
    cases hw with
    | leaf hleaf => cases hleaf
    | dict hlen hn hc =>
      cases value with
      | dict entries =>
        unfold conformAt at h
        split at h
        · exact absurd rfl (h _)
        · rename_i range hfields
          split at h
          · exact absurd rfl (h _)
          · rename_i hfind
            obtain ⟨values, hkeys, hvalues⟩ := admitted_of_conformFields hlen hfields
            obtain ⟨hshaped, leaves, hflat, hfits⟩ := shaped_items
              (fun child hchild => ih child hchild (hc child hchild)) hvalues
            refine ⟨.dict hkeys hshaped ?_, leaves, ?_, hfits⟩
            · intro entry hentry
              simpa using List.find?_eq_none.1 hfind entry hentry
            · rw [flattenLeaves, flattenFields_eq hkeys, hflat]
      | _ => exact absurd rfl (h _)
  | tuple shape dtype spaces ih =>
    rintro value ⟨path, h⟩
    cases hw with
    | leaf hleaf => cases hleaf
    | tuple hc =>
      cases value with
      | tuple items =>
        unfold conformAt at h
        split at h
        · exact absurd rfl (h _)
        · rename_i harity
          split at h
          · exact absurd rfl (h _)
          · rename_i range hitems
            obtain ⟨hshaped, leaves, hflat, hfits⟩ := shaped_items
              (fun child hchild => ih child hchild (hc child hchild))
              (admitted_of_conformItems (not_not.1 harity) hitems)
            refine ⟨.tuple hshaped, leaves, ?_, hfits⟩
            rw [flattenLeaves, if_neg harity, hflat]
      | _ => exact absurd rfl (h _)

/-! ## Accepted specs -/

/-- The categories of a leaf are carried in an integer dtype. -/
def CategoriesIntegral : SpaceSpec B → Prop
  | .discrete _ dtype _ _ => dtype.isInteger = true
  | .multiDiscrete _ dtype _ => dtype.isInteger = true
  | _ => True

/-- What the wire codec needs of a spec. -/
structure WellFormed (spec : SpaceSpec B) : Prop where
  keyed : WellKeyed spec
  integral : ∀ leaf ∈ leafSpecs spec, CategoriesIntegral leaf

theorem categoriesIntegral_of_valid (hleaf : spec.isLeaf = true) (h : validateSpaceAt path spec = .ok ()) :
    CategoriesIntegral spec := by
  cases spec with
  | discrete shape dtype n start =>
    rcases (validateDiscreteAt_ok.1 h).category with rfl | rfl | rfl <;> rfl
  | multiDiscrete shape dtype nvec => exact (validateMultidiscreteAt_ok.1 h).integer
  | dict shape dtype keys spaces => cases hleaf
  | tuple shape dtype spaces => cases hleaf
  | _ => trivial

/-- The spec is accepted at some path. -/
def Accepted (spec : SpaceSpec B) : Prop := ∃ path, validateSpaceAt path spec = .ok ()

theorem accepted_of_validateFields {seen keys : List String} (hlen : keys.length = spaces.length)
    (h : validateFields path seen keys spaces = .ok ()) :
    keys.Nodup ∧ (∀ key ∈ keys, key ∉ seen) ∧ ∀ child ∈ spaces, Accepted child := by
  induction keys generalizing seen spaces with
  | nil =>
    cases spaces with
    | nil => simp
    | cons child spaces => cases hlen
  | cons key keys ih =>
    cases spaces with
    | nil => cases hlen
    | cons child spaces =>
      rw [validateFields] at h
      split at h
      · cases h
      split at h
      · cases h
      rename_i hseen
      split at h
      · cases h
      · rename_i hchild
        obtain ⟨hn, hnew, hc⟩ := ih (Nat.succ.inj hlen) h
        have hkey : key ∉ keys := fun hmem => hnew key hmem List.mem_cons_self
        refine ⟨List.nodup_cons.2 ⟨hkey, hn⟩, ?_, ?_⟩
        · intro other hother
          rcases List.mem_cons.1 hother with rfl | hother
          · exact hseen
          · exact fun hmem => hnew other hother (List.mem_cons_of_mem _ hmem)
        · intro other hother
          rcases List.mem_cons.1 hother with rfl | hother
          · exact ⟨_, hchild⟩
          · exact hc other hother

theorem accepted_of_validateItems (h : validateItems path i spaces = .ok ()) : ∀ child ∈ spaces, Accepted child := by
  induction spaces generalizing i with
  | nil => exact fun _ hmem => absurd hmem List.not_mem_nil
  | cons child spaces ih =>
    rw [validateItems] at h
    split at h
    · cases h
    · rename_i hchild
      intro other hother
      rcases List.mem_cons.1 hother with rfl | hother
      · exact ⟨_, hchild⟩
      · exact ih h other hother

theorem accepted_leafSpecsAll (hc : ∀ child ∈ spaces, ∀ leaf ∈ leafSpecs child, leaf.isLeaf = true ∧ Accepted leaf) :
    ∀ leaf ∈ leafSpecsAll spaces, leaf.isLeaf = true ∧ Accepted leaf := by
  induction spaces with
  | nil => exact fun _ hmem => absurd hmem List.not_mem_nil
  | cons child spaces ih =>
    intro leaf hleaf
    rw [leafSpecsAll] at hleaf
    rcases List.mem_append.1 hleaf with hleaf | hleaf
    · exact hc child List.mem_cons_self leaf hleaf
    · exact ih (fun other hother => hc other (List.mem_cons_of_mem _ hother)) leaf hleaf

theorem accepted_children (h : validateSpaceAt path spec = .ok ()) :
    match spec with
    | .dict _ _ keys spaces => keys.length = spaces.length ∧ keys.Nodup ∧ ∀ child ∈ spaces, Accepted child
    | .tuple _ _ spaces => ∀ child ∈ spaces, Accepted child
    | _ => True := by
  cases spec with
  | dict shape dtype keys spaces =>
    rw [validateSpaceAt] at h
    split at h
    · cases h
    split at h
    · cases h
    · rename_i hlen
      obtain ⟨hn, -, hc⟩ := accepted_of_validateFields (not_not.1 hlen) h
      exact ⟨not_not.1 hlen, hn, hc⟩
  | tuple shape dtype spaces =>
    rw [validateSpaceAt] at h
    split at h
    · cases h
    · exact accepted_of_validateItems h
  | _ => trivial

theorem accepted_leaf (h : Accepted spec) : ∀ leaf ∈ leafSpecs spec, leaf.isLeaf = true ∧ Accepted leaf := by
  induction spec using SpaceSpec.tree_induction with
  | leaf spec hleaf =>
    intro leaf hmem
    rw [leafSpecs_leaf hleaf, List.mem_singleton] at hmem
    exact hmem ▸ ⟨hleaf, h⟩
  | dict shape dtype keys spaces ih =>
    obtain ⟨path, h⟩ := h
    exact accepted_leafSpecsAll (fun child hchild => ih child hchild ((accepted_children h).2.2 child hchild))
  | tuple shape dtype spaces ih =>
    obtain ⟨path, h⟩ := h
    exact accepted_leafSpecsAll (fun child hchild => ih child hchild (accepted_children h child hchild))

theorem wellKeyed_of_accepted (h : Accepted spec) : WellKeyed spec := by
  induction spec using SpaceSpec.tree_induction with
  | leaf spec hleaf => exact .leaf hleaf
  | dict shape dtype keys spaces ih =>
    obtain ⟨path, h⟩ := h
    obtain ⟨hlen, hn, hc⟩ := accepted_children h
    exact .dict hlen hn (fun child hchild => ih child hchild (hc child hchild))
  | tuple shape dtype spaces ih =>
    obtain ⟨path, h⟩ := h
    exact .tuple (fun child hchild => ih child hchild (accepted_children h child hchild))

theorem wellFormed_of_accepted (h : Accepted spec) : WellFormed spec := by
  refine ⟨wellKeyed_of_accepted h, fun leaf hmem => ?_⟩
  obtain ⟨hleaf, path, haccepted⟩ := accepted_leaf h leaf hmem
  exact categoriesIntegral_of_valid hleaf haccepted

end Rlmesh.Spaces
