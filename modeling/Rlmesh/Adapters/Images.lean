import Rlmesh.Adapters.Specs
import Rlmesh.Adapters.Stateful
import Rlmesh.Spaces.Space
/-!
# Image inputs (`resolver/image.rs`, `apply/image.rs`, `plans.rs`)

`planImage` pairs a model's image input with the camera it was bound to. It
checks the declared options, works out the crop, chooses a fit for the resize and
validates the frame window. `fittedSize` is the size the apply side scales the
sampled box to.

Fractions are exact rationals. Of a declared area only its square root is used
in a computation; it is a fraction again, as the processor rounds it.
-/
open Rlmesh.Spaces

namespace Rlmesh.Adapters

/-- A declared fraction in `(0, 1]`, and how it is printed. -/
structure Fraction where
  value : ℚ
  text : String
  pos : 0 < value
  le_one : value ≤ 1

inductive FitMode where
  | stretch
  | crop
  | pad
  deriving DecidableEq

def FitMode.asStr : FitMode → String
  | stretch => "stretch"
  | crop => "crop"
  | pad => "pad"

/-- An image input of a model, by the fields that are resolved here. -/
structure Image where
  height : Option Nat
  width : Option Nat
  channels : Option Nat
  dtype : String
  resample : String
  allowUpscale : Bool
  fit : Option (AcceptSet FitMode)
  «optional» : Bool
  fill : Option Nat
  stack : Nat
  crop : Option Fraction
  cropArea : Option Fraction
  cropMode : String
  jpegQuality : Option Nat
  channelOrder : String
  render : Option (Nat × Nat)
  offsets : Option (List Int)
  stackPad : StackPad
  /-- Offsets are `i32`s. -/
  offsetsFit : ∀ list ∈ offsets, ∀ offset ∈ list, -2 ^ 31 ≤ offset ∧ offset < 2 ^ 31 := by simp

/-- A camera of the env; a dimension is `0` where the space does not tell it. -/
structure EnvImage where
  role : String
  height : Nat
  width : Nat
  channels : Nat

def EnvImage.knownSize (camera : EnvImage) : Bool := camera.height ≠ 0 && camera.width ≠ 0

structure CropPlan where
  fraction : Fraction
  area : Option Fraction
  slice : Bool
  /-- The integer box of a slice, where the camera's size is known. -/
  cut : Option (Nat × Nat)

structure ImagePlan where
  size : Option (Nat × Nat)
  fit : FitMode
  crop : Option CropPlan
  stack : Nat
  offsets : Option (List Int)
  stackPad : StackPad
  frameBytes : Nat

/-! ## Crops -/

/-- `f64::round` of a number that is not negative. -/
def roundHalfUp (x : ℚ) : Nat := ⌊x + 1 / 2⌋.toNat

/-- The length a centre cut keeps of an axis. -/
def cropCut (src : Nat) (fraction : Fraction) : Nat :=
  min (max (roundHalfUp (src * fraction.value)) 1) (max src 1)

def cropPlan (sqrt : Fraction → Fraction) (model : Image) (location : String) (camera : EnvImage) :
    Resolves (Option CropPlan) :=
  if model.crop.isSome && model.cropArea.isSome then
    unsupported s!"model input {location}: pass crop (a side fraction) or crop_area (an area fraction), not both"
  else
    match model.crop.or (model.cropArea.map sqrt) with
    | none => .ok none
    | some fraction =>
      let slice := model.cropMode = "slice"
      .ok (some
        { fraction, area := model.cropArea, slice
          cut := if slice ∧ camera.height ≠ 0 ∧ camera.width ≠ 0 then
              some (cropCut camera.height fraction, cropCut camera.width fraction)
            else none })

/-! ## Fits -/

/-- The box the guards measure. -/
def guardedBox (camera : EnvImage) (crop : Option CropPlan) : Nat × Nat :=
  match crop with
  | some crop => (cropCut camera.height crop.fraction, cropCut camera.width crop.fraction)
  | none => (camera.height, camera.width)

/-- Whether a mode scales a box of known size up. -/
def upscales (box target : Nat × Nat) (mode : FitMode) : Bool :=
  if box.1 ≠ 0 ∧ box.2 ≠ 0 then
    match mode with
    | .stretch | .crop => decide (target.1 > box.1 ∨ target.2 > box.2)
    | .pad => decide (target.1 > box.1 ∧ target.2 > box.2)
  else false

def upscaleSource (camera : EnvImage) (crop : Option CropPlan) (box : Nat × Nat) : String :=
  let whole := s!"the env's {camera.height}x{camera.width} camera"
  match crop with
  | none => whole
  | some crop =>
    let declared := match crop.area with
      | some area => s!"crop_area={area.text}"
      | none => s!"crop={crop.fraction.text}"
    s!"the {box.1}x{box.2} crop box the model's {declared} cuts from {whole}"

def upscaleRemedy (crop : Option CropPlan) : String :=
  let cropLess := if crop.isSome then ", or crop less" else ""
  s!"set allow_upscale on the model's Image input (`adapt.Image(..., allow_upscale=True)`, JSON `\"allow_upscale\": true`) to interpolate detail that is not there, or have the env publish a larger camera{cropLess}"

/-- `resolve_fit`: the first permitted mode that needs no upscale the model forbids. -/
def resolveFit (model : Image) (location : String) (camera : EnvImage) (size : Option (Nat × Nat))
    (crop : Option CropPlan) : Resolves FitMode :=
  match size with
  | none => .ok .stretch
  | some target =>
    let box := guardedBox camera crop
    let known := box.1 ≠ 0 ∧ box.2 ≠ 0
    let permitted := (model.fit.map (·.known)).getD []
    let unrecognized (set : AcceptSet FitMode) := debugList ((set.wireNames FitMode.asStr).map quoted)
    if known ∧ box.1 * target.2 ≠ box.2 * target.1 then
      match permitted.find? (fun mode => model.allowUpscale || !upscales box target mode) with
      | some mode => .ok mode
      | none =>
        match model.fit with
        | none => unsupported s!"model input {location}: target {target.1}x{target.2} changes the env's {box.1}x{box.2} aspect ratio; set fit to 'stretch', 'crop', or 'pad'"
        | some set =>
          if permitted.isEmpty then
            let declared := unrecognized set
            unsupported s!"model input {location}: target {target.1}x{target.2} changes the env's {box.1}x{box.2} aspect ratio and the declared fit {declared} names no mode this build recognizes; expected 'stretch', 'crop', or 'pad'"
          else
            let source := upscaleSource camera crop box
            let remedy := upscaleRemedy crop
            unsupported s!"model input {location}: every declared fit would upscale {source} to {target.1}x{target.2}; declare a fit that downscales (e.g. 'pad'), or {remedy}"
    else if model.fit.isSome ∧ permitted.isEmpty then
      let declared := (model.fit.map unrecognized).getD ""
      unsupported s!"model input {location}: the declared fit {declared} names no mode this build recognizes; expected 'stretch', 'crop', or 'pad'"
    else
      let mode := permitted.headD .stretch
      if !model.allowUpscale && upscales box target mode then
        let source := upscaleSource camera crop box
        let remedy := upscaleRemedy crop
        unsupported s!"model input {location}: target {target.1}x{target.2} upscales {source}; {remedy}"
      else .ok (if known then .stretch else mode)

/-- The size `fit_resize` scales a sampled box to, before it crops or pads. -/
def fittedSize (mode : FitMode) (box : ℚ × ℚ) (target : Nat × Nat) : Nat × Nat :=
  match mode with
  | .stretch => target
  | .crop =>
    let scale := max (target.1 / box.1) (target.2 / box.2)
    (max (roundHalfUp (box.1 * scale)) target.1, max (roundHalfUp (box.2 * scale)) target.2)
  | .pad =>
    let scale := min (target.1 / box.1) (target.2 / box.2)
    (min (max (roundHalfUp (box.1 * scale)) 1) target.1, min (max (roundHalfUp (box.2 * scale)) 1) target.2)

/-! ## Frame windows -/

def maxStackSpan : Int := 128

/-- Each offset above the one before it. -/
def ordered : List Int → Bool
  | first :: second :: rest => decide (first < second) && ordered (second :: rest)
  | _ => true

/-- A number wrapped into an `i32`. -/
def wrapI32 (x : Int) : Int := x.bmod (2 ^ 32)

/-- `stack_window`: the offsets of a declared window, held to their law. -/
def stackWindow (model : Image) (location : String) : Resolves (Option (List Int)) :=
  if model.stackPad ≠ .first ∧ model.stack ≤ 1 then
    unsupported s!"model input {location}: stack_pad only applies to a stacked image; set stack > 1 or drop stack_pad"
  else
    match model.offsets with
    | none => .ok none
    | some offsets =>
      let shown := debugList (offsets.map toString)
      if offsets.isEmpty || !ordered offsets || offsets.getLast? ≠ some 0 || decide (0 < offsets.headD 0) then
        unsupported s!"model input {location}: offsets must be non-positive and strictly increasing, ending at 0 (the current frame), got {shown}"
      else if offsets.length ≠ model.stack then
        unsupported s!"model input {location}: stack={model.stack} disagrees with {offsets.length} offset(s) {shown}; a frame window declares both and they are never inferred from each other"
      else
        let span := wrapI32 (1 - offsets.headD 0)
        if maxStackSpan < span then
          unsupported s!"model input {location}: stack={model.stack} over offsets {shown} spans {span} consecutive frames, more than the {maxStackSpan} a window may hold"
        else .ok (some offsets)

/-- The stacked placement of an image plan, for a plan that stacks. -/
def ImagePlan.stackedPlacement {V : Values} (plan : ImagePlan) (key : String)
    (blackFrame : V.Tensor → Except ApplyError V.Tensor) : Option (StackedPlacement V) :=
  if 1 < plan.stack then some
    { key
      depth := plan.stack
      span := (plan.offsets.bind (·.head?)).elim plan.stack (fun oldest => ((1 - oldest) % 2 ^ 32).toNat)
      offsets := plan.offsets
      stackPad := plan.stackPad
      blackFrame
      frameBytes := plan.frameBytes }
  else none

/-! ## Plans -/

def resamples : List String := ["bilinear", "bilinear_aa", "bicubic_aa", "lanczos3_aa", "area"]

def cropModes : List String := ["zoom", "slice"]

def channelOrders : List String := ["rgb", "bgr"]

/-- `DType::from_name`. -/
def dtypeFromName (name : String) : Option DType :=
  [DType.bool, .uint8, .int32, .int64, .float16, .float32, .float64, .int8, .int16, .uint16, .uint32, .uint64].find?
    (fun dtype => dtype.name = name)

/-- Bytes of one processed frame, `0` where its shape is not known. -/
def frameBytes (dtype : String) (size : Option (Nat × Nat)) (channels : Option Nat) : Nat :=
  match size, channels, dtypeFromName dtype with
  | some size, some channels, some dtype => (size.1 * size.2 * channels * dtypeSize dtype) % 2 ^ 64
  | _, _, _ => 0

/-- A field whose value is one of a vocabulary. -/
def checkVocabulary (location field value : String) (vocabulary : List String) : Resolves Unit :=
  if value ∈ vocabulary then .ok ()
  else
    let shown := quoted value
    let expected := debugList (vocabulary.map quoted)
    unsupported s!"model input {location}: unsupported {field} {shown}; expected one of {expected}"

/-- The operations that need three channels. -/
def checkThreeChannels (model : Image) (location : String) (channels : Option Nat) : Resolves Unit :=
  match channels with
  | none => .ok ()
  | some channels =>
    if channels = 3 then .ok ()
    else if model.channelOrder = "bgr" then
      unsupported s!"model input {location}: channel_order \"bgr\" needs a 3-channel image, got {channels} channel(s)"
    else if model.jpegQuality.isSome then
      unsupported s!"model input {location}: jpeg_quality needs a 3-channel image, got {channels} channel(s)"
    else .ok ()

def checkChannels (model : Image) (location : String) (camera : EnvImage) : Resolves Unit :=
  match model.channels with
  | none => .ok ()
  | some expected =>
    if camera.channels ≠ 0 ∧ camera.channels ≠ expected then
      unsupported s!"model input {location}: expects {expected} channel(s) but the env image has {camera.channels}; the adapter does not convert between channel counts (e.g. RGB vs grayscale)"
    else .ok ()

def checkRender (model : Image) (location : String) (camera : EnvImage) : Resolves Unit :=
  match model.render.filter (fun _ => camera.knownSize) with
  | none => .ok ()
  | some render =>
    if (camera.height, camera.width) ≠ render then
      let role := quoted camera.role
      .error ⟨.renderMismatch, s!"model input {location}: declares render {render.1}x{render.2} but the bound camera {role} renders {camera.height}x{camera.width}"⟩
    else .ok ()

/-- The declared target; an axis left open is the camera's. -/
def targetSize (model : Image) (camera : EnvImage) : Option (Nat × Nat) :=
  match model.height, model.width with
  | some height, some width => some (height, width)
  | some height, none => some (height, camera.width)
  | none, some width => some (camera.height, width)
  | none, none => none

/-- The checks of `plan_image` that compute nothing. -/
def checkOptions (model : Image) (location : String) (camera : EnvImage) : Resolves Unit := do
  if model.fill.isSome && !model.optional then
    unsupported s!"model input {location}: fill only applies to an optional camera; set optional or drop fill"
  checkVocabulary location "resample" model.resample resamples
  checkVocabulary location "crop_mode" model.cropMode cropModes
  checkVocabulary location "channel_order" model.channelOrder channelOrders
  if dtypeFromName model.dtype = none then
    let shown := quoted model.dtype
    unsupported s!"model input {location}: unknown dtype {shown}"
  checkChannels model location camera
  checkRender model location camera
  checkThreeChannels model location ((model.channels.or (some camera.channels)).filter (· ≠ 0))

/-- `plan_image`, for a model input that was bound to a camera. -/
def planImage (sqrt : Fraction → Fraction) (model : Image) (location : String) (camera : EnvImage) :
    Resolves ImagePlan := do
  checkOptions model location camera
  let crop ← cropPlan sqrt model location camera
  let fit ← resolveFit model location camera (targetSize model camera) crop
  let offsets ← stackWindow model location
  -- the frame the model gets: its target, the box of a slice, or the camera's own size
  let processed := (targetSize model camera).or ((crop.bind (·.cut)).or
    (if camera.knownSize then some (camera.height, camera.width) else none))
  let channels := (model.channels.or (some camera.channels)).filter (· ≠ 0)
  return { size := targetSize model camera, fit, crop, stack := model.stack, offsets, stackPad := model.stackPad
           frameBytes := frameBytes model.dtype processed channels }

end Rlmesh.Adapters
