import Rlmesh.Adapters.Images
import Rlmesh.Lib.Results
/-!
# The resize guards and the region that is sampled

The guards of `resolveFit` measure the box `cropCut` rounds to whole pixels. A
slice is cut at that box, but a zoom samples the exact one. Where the exact box
is whole the two are the same, and the guards say of the sampled region what they
check of the box.
-/
open Rlmesh.Lib

namespace Rlmesh.Adapters

/-- The region of the camera that is resized. -/
def sampledRegion (camera : EnvImage) (crop : Option CropPlan) : ℚ × ℚ :=
  match crop with
  | none => (camera.height, camera.width)
  | some crop =>
    if crop.slice then (cropCut camera.height crop.fraction, cropCut camera.width crop.fraction)
    else (camera.height * crop.fraction.value, camera.width * crop.fraction.value)

/-- The box of a zoom has no partial pixel. -/
def CropPlan.Whole (camera : EnvImage) (crop : CropPlan) : Prop :=
  crop.slice = false → (∃ height : Nat, camera.height * crop.fraction.value = height) ∧
    ∃ width : Nat, camera.width * crop.fraction.value = width

/-- A fit that invents no detail of a region. -/
def WithinRegion (mode : FitMode) (region : ℚ × ℚ) (target : Nat × Nat) : Prop :=
  match mode with
  | .pad => min (target.1 / region.1) (target.2 / region.2) ≤ (1 : ℚ)
  | mode => ((fittedSize mode region target).1 : ℚ) ≤ region.1 ∧ ((fittedSize mode region target).2 : ℚ) ≤ region.2

/-! ## Rounding -/

theorem roundHalfUp_natCast (n : Nat) : roundHalfUp n = n := by
  have hfloor : ⌊(n : ℚ) + 1 / 2⌋ = n := by
    rw [Int.floor_eq_iff]
    constructor <;> norm_num
  rw [roundHalfUp, hfloor, Int.toNat_natCast]

theorem roundHalfUp_mono {x y : ℚ} (h : x ≤ y) : roundHalfUp x ≤ roundHalfUp y :=
  Int.toNat_le_toNat (Int.floor_le_floor (by linarith))

theorem cropCut_whole {src n : Nat} (hsrc : src ≠ 0) {fraction : Fraction} (h : src * fraction.value = n) :
    cropCut src fraction = n := by
  have hsrc' : (0 : ℚ) < src := by exact_mod_cast Nat.pos_of_ne_zero hsrc
  have hpos : (0 : ℚ) < n := h ▸ mul_pos hsrc' fraction.pos
  have hle : (n : ℚ) ≤ src := by
    rw [← h]
    exact mul_le_of_le_one_right hsrc'.le fraction.le_one
  have hpos' : 0 < n := by exact_mod_cast hpos
  have hle' : n ≤ src := by exact_mod_cast hle
  rw [cropCut, h, roundHalfUp_natCast]
  omega

theorem cropCut_pos (src : Nat) (fraction : Fraction) : 0 < cropCut src fraction := by
  unfold cropCut
  omega

section

variable {camera : EnvImage} {crop : Option CropPlan} {box target : Nat × Nat}

theorem guardedBox_pos (hknown : camera.knownSize = true) (crop : Option CropPlan) :
    0 < (guardedBox camera crop).1 ∧ 0 < (guardedBox camera crop).2 := by
  cases crop with
  | some crop => exact ⟨cropCut_pos _ _, cropCut_pos _ _⟩
  | none =>
    simp only [EnvImage.knownSize, Bool.and_eq_true, decide_eq_true_eq] at hknown
    exact ⟨Nat.pos_of_ne_zero hknown.1, Nat.pos_of_ne_zero hknown.2⟩

theorem sampledRegion_eq (hknown : camera.knownSize = true) (hwhole : ∀ plan, crop = some plan → plan.Whole camera) :
    sampledRegion camera crop = (((guardedBox camera crop).1 : ℚ), ((guardedBox camera crop).2 : ℚ)) := by
  cases crop with
  | none => rfl
  | some plan =>
    simp only [EnvImage.knownSize, Bool.and_eq_true, decide_eq_true_eq] at hknown
    unfold sampledRegion guardedBox
    dsimp only
    cases hslice : plan.slice with
    | true => rfl
    | false =>
      obtain ⟨⟨height, hheight⟩, width, hwidth⟩ := hwhole plan rfl hslice
      rw [if_neg (by simp), hheight, hwidth, cropCut_whole hknown.1 hheight, cropCut_whole hknown.2 hwidth]

/-! ## The guards -/

theorem covered_le {side other : Nat} {scale : ℚ} (hscale : scale ≤ 1) (h : other ≤ side) :
    max (roundHalfUp (side * scale)) other ≤ side := by
  have hside' : (0 : ℚ) ≤ side := Nat.cast_nonneg side
  have hround : roundHalfUp (side * scale) ≤ roundHalfUp side := roundHalfUp_mono (mul_le_of_le_one_right hside' hscale)
  rw [roundHalfUp_natCast] at hround
  exact max_le hround h

theorem within_of_not_upscales (hbox : 0 < box.1 ∧ 0 < box.2) {mode : FitMode} (h : upscales box target mode = false) :
    WithinRegion mode (box.1, box.2) target := by
  have hbox₁ : (0 : ℚ) < box.1 := by exact_mod_cast hbox.1
  have hbox₂ : (0 : ℚ) < box.2 := by exact_mod_cast hbox.2
  have hratio : ∀ {t b : Nat}, 0 < b → t ≤ b → (t : ℚ) / b ≤ 1 := by
    intro t b hb ht
    rw [div_le_one (by exact_mod_cast hb)]
    exact_mod_cast ht
  unfold upscales at h
  rw [if_pos ⟨hbox.1.ne', hbox.2.ne'⟩] at h
  cases mode with
  | stretch =>
    simp only [gt_iff_lt, decide_eq_false_iff_not, not_or, not_lt] at h
    exact ⟨Nat.cast_le.2 h.1, Nat.cast_le.2 h.2⟩
  | crop =>
    simp only [gt_iff_lt, decide_eq_false_iff_not, not_or, not_lt] at h
    have hscale : max ((target.1 : ℚ) / box.1) (target.2 / box.2) ≤ 1 :=
      max_le (hratio hbox.1 h.1) (hratio hbox.2 h.2)
    exact ⟨Nat.cast_le.2 (covered_le hscale h.1), Nat.cast_le.2 (covered_le hscale h.2)⟩
  | pad =>
    simp only [gt_iff_lt, decide_eq_false_iff_not, not_and_or, not_lt] at h
    rcases h with h | h
    · exact (min_le_left _ _).trans (hratio hbox.1 h)
    · exact (min_le_right _ _).trans (hratio hbox.2 h)

theorem upscales_same_aspect (hbox : 0 < box.1 ∧ 0 < box.2) (haspect : box.1 * target.2 = box.2 * target.1)
    (mode mode' : FitMode) : upscales box target mode = upscales box target mode' := by
  have hboth : box.1 < target.1 ↔ box.2 < target.2 := by
    constructor <;> intro h
    · by_contra hle
      nlinarith [Nat.mul_le_mul_left box.1 (not_lt.1 hle), Nat.mul_lt_mul_of_pos_left h hbox.2]
    · by_contra hle
      nlinarith [Nat.mul_le_mul_left box.2 (not_lt.1 hle), Nat.mul_lt_mul_of_pos_left h hbox.1]
  have hstretch : ∀ mode, upscales box target mode = decide (box.1 < target.1) := by
    intro mode
    unfold upscales
    rw [if_pos ⟨hbox.1.ne', hbox.2.ne'⟩]
    cases mode <;> simp [hboth]
  rw [hstretch, hstretch]

theorem resolveFit_ok (hknown : camera.knownSize = true) {model : Image} {location : String} {mode : FitMode}
    (h : resolveFit model location camera (some target) crop = .ok mode) :
    (model.allowUpscale = false → upscales (guardedBox camera crop) target mode = false) ∧
      (model.fit = none → (guardedBox camera crop).1 * target.2 = (guardedBox camera crop).2 * target.1) := by
  have hbox := guardedBox_pos hknown crop
  unfold resolveFit at h
  dsimp only at h
  split at h
  · -- the aspect changes: a permitted mode was found
    split at h
    · rename_i found hfound
      cases h
      refine ⟨fun hforbids => ?_, fun hnone => ?_⟩
      · simpa [hforbids] using List.find?_some hfound
      · rw [hnone] at hfound
        cases hfound
    · split at h
      · cases h
      · split at h <;> cases h
  · rename_i hsame
    have haspect : (guardedBox camera crop).1 * target.2 = (guardedBox camera crop).2 * target.1 := by
      by_contra hne
      exact hsame ⟨⟨hbox.1.ne', hbox.2.ne'⟩, hne⟩
    refine ⟨fun hforbids => ?_, fun _ => haspect⟩
    split at h
    · cases h
    · split at h
      · cases h
      · rename_i hdown
        rw [upscales_same_aspect hbox haspect mode (((model.fit.map (·.known)).getD []).headD .stretch)]
        simpa [hforbids] using hdown

/-- At the box's own aspect ratio no fit is needed: what is accepted with one is accepted without. -/
theorem resolveFit_without (hknown : camera.knownSize = true) {model : Image} {location : String} {mode : FitMode}
    (haspect : (guardedBox camera crop).1 * target.2 = (guardedBox camera crop).2 * target.1)
    (h : resolveFit model location camera (some target) crop = .ok mode) :
    ∃ mode', resolveFit { model with fit := none } location camera (some target) crop = .ok mode' := by
  have hbox := guardedBox_pos hknown crop
  obtain ⟨hup, -⟩ := resolveFit_ok hknown h
  unfold resolveFit
  dsimp only
  rw [if_neg (fun hne => hne.2 haspect), if_neg (by simp), if_neg ?_]
  · exact ⟨_, rfl⟩
  · rw [upscales_same_aspect hbox haspect _ mode]
    cases hmay : model.allowUpscale with
    | true => simp
    | false => simp [hup hmay]

end

/-! ## Plans -/

section

variable (sqrt : Fraction → Fraction) {model : Image} {location : String} {camera : EnvImage}

theorem planImage_ok {plan : ImagePlan} (h : planImage sqrt model location camera = .ok plan) :
    cropPlan sqrt model location camera = .ok plan.crop ∧ plan.size = targetSize model camera ∧
      resolveFit model location camera (targetSize model camera) plan.crop = .ok plan.fit ∧
      stackWindow model location = .ok plan.offsets ∧ plan.stack = model.stack ∧ plan.stackPad = model.stackPad := by
  unfold planImage at h
  obtain ⟨_, -, h⟩ := bind_ok.1 h
  obtain ⟨crop, hcrop, h⟩ := bind_ok.1 h
  obtain ⟨fit, hfit, h⟩ := bind_ok.1 h
  obtain ⟨offsets, hoffsets, h⟩ := bind_ok.1 h
  cases h
  exact ⟨hcrop, rfl, hfit, hoffsets, rfl, rfl⟩

theorem cropPlan_slice (hzoom : model.cropMode = "zoom") {crop : CropPlan}
    (h : cropPlan sqrt model location camera = .ok (some crop)) : crop.slice = false := by
  unfold cropPlan at h
  split at h
  · cases h
  · split at h
    · cases h
    · cases h
      simp [hzoom]

/-- A zoom of the model, if it has one, samples whole pixels of the camera. -/
def ZoomsWhole (model : Image) (location : String) (camera : EnvImage) : Prop :=
  ∀ crop, cropPlan sqrt model location camera = .ok (some crop) → crop.Whole camera

theorem planImage_without {plan : ImagePlan} (h : planImage sqrt model location camera = .ok plan) {mode : FitMode}
    (hfit : resolveFit { model with fit := none } location camera (targetSize model camera) plan.crop = .ok mode) :
    ∃ plan', planImage sqrt { model with fit := none } location camera = .ok plan' := by
  unfold planImage at h
  obtain ⟨_, hoptions, h⟩ := bind_ok.1 h
  obtain ⟨crop, hcrop, h⟩ := bind_ok.1 h
  obtain ⟨_, -, h⟩ := bind_ok.1 h
  obtain ⟨_, hoffsets, h⟩ := bind_ok.1 h
  cases h
  refine ⟨_, bind_ok.2 ⟨_, hoptions, bind_ok.2 ⟨_, hcrop, bind_ok.2 ⟨_, hfit, bind_ok.2 ⟨_, hoffsets, rfl⟩⟩⟩⟩⟩

end

/-- A zoom of a camera to a target, nothing else declared. -/
def zooming (fraction : Fraction) (target : Nat × Nat) (allowUpscale : Bool) (fit : Option (AcceptSet FitMode)) : Image :=
  { height := some target.1, width := some target.2, channels := none, dtype := "uint8", resample := "bilinear"
    allowUpscale, fit, optional := false, fill := none, stack := 1, crop := some fraction, cropArea := none
    cropMode := "zoom", jpegQuality := none, channelOrder := "rgb", render := none, offsets := none, stackPad := .first }

def rgbCamera (height width : Nat) : EnvImage := { role := "image/primary", height, width, channels := 3 }

def half : Fraction := { value := 1 / 2, text := "0.5", pos := by norm_num, le_one := by norm_num }

def most : Fraction := { value := 24 / 25, text := "0.96", pos := by norm_num, le_one := by norm_num }

/-- What a plan of a zoom samples, and how it fits it. -/
def zoomed (camera : EnvImage) (plan : ImagePlan) : FitMode × ℚ × ℚ := (plan.fit, sampledRegion camera plan.crop)

end Rlmesh.Adapters
