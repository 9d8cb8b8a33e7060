import Rlmesh.Wire.Messages
/-!
# The runtime session spec (`rlmesh-runtime/src/spec.rs`)

What one route needs to run, the checks `validate` makes before the driver
starts, and the values the session's edition fixes. The spaces and the edition
are only tested for presence here; the time cap is the comparison the driver
makes with it.
-/
open Rlmesh.Wire

namespace Rlmesh.Runtime

/-- Key under which an env declares the reserved reset options it wants. -/
def envResetOptionsKey : String := "rlmesh.env.v1.reset_options"

/-- The edition's row of defaults. -/
structure EditionDefaults where
  defaultMaxEpisodeSteps : Int
  trialIndexOptionKey : String
  driverOwnedResetModes : List AutoresetMode
  successInfoKeys : List String

/-- `DEFAULTS_2026_06`, the only edition there is. -/
def editionDefaults : EditionDefaults where
  defaultMaxEpisodeSteps := 100000
  trialIndexOptionKey := "trial_index"
  driverOwnedResetModes := [.disabled, .unspecified]
  successInfoKeys := ["is_success", "success", "task_success"]

/-- `max_episode_seconds`: whether it is positive, and whether an episode that
has run for so many nanoseconds reaches it. -/
structure TimeCap where
  positive : Bool
  reached : Int → Bool

/-- Unicode `White_Space`, what `str::trim` strips. -/
def isWhiteSpace (c : Char) : Bool :=
  (9 ≤ c.toNat && c.toNat ≤ 13) || (0x2000 ≤ c.toNat && c.toNat ≤ 0x200a) ||
    c.toNat ∈ [0x20, 0x85, 0xa0, 0x1680, 0x2028, 0x2029, 0x202f, 0x205f, 0x3000]

/-- Nothing is left after trimming. -/
def isBlank (text : String) : Bool := text.toList.all isWhiteSpace

structure RuntimeSessionSpec (R : Type) where
  sessionId : String
  envId : String
  envComponentId : String
  modelComponentId : String
  /-- `parse_retained_edition` accepts the session's edition, or says why not. -/
  retainedEdition : Except String Unit
  hasObservationSpace : Bool
  hasActionSpace : Bool
  /-- The contract's mode, as the wire value. -/
  autoresetMode : Int
  /-- The contract's metadata. -/
  metadata : Option (MetaMap R)
  numEnvs : Nat
  baseSeed : Option Int
  episodeSeeds : List Int
  maxEpisodes : Option Nat
  trialIndexBase : Option Nat
  maxEpisodeSteps : Option Int
  maxEpisodeSeconds : Option TimeCap
  envResetTimeoutMs : Nat
  envStepTimeoutMs : Nat
  subsetStep : Bool

namespace RuntimeSessionSpec

variable {R : Type} (spec : RuntimeSessionSpec R)

/-- The first trial ordinal this route walks. -/
def trialBase : Nat := spec.trialIndexBase.getD 0

/-- The contract's mode, an undecodable one falling back to DISABLED. -/
def mode : AutoresetMode := (AutoresetMode.ofWire spec.autoresetMode).getD .disabled

/-- The runtime issues the resets, rather than the env rolling its own lanes. -/
def driverOwnsResets : Bool := decide (spec.mode ∈ editionDefaults.driverOwnedResetModes)

/-- The checks that only apply when the env owns its lanes' resets. -/
def validateEnvOwned : Except String Unit :=
  if !spec.episodeSeeds.isEmpty then
    .error "episode_seeds requires an env with autoreset disabled: under NEXT_STEP autoreset the env seeds its own episode rolls, so explicit per-episode seeds cannot apply"
  else if spec.trialBase != 0 then
    .error "trial_index_base requires an env with autoreset disabled: under NEXT_STEP autoreset the env restarts its own lanes, so the runtime has no reset on which to deliver a trial ordinal"
  else if spec.maxEpisodeSteps.isSome || spec.maxEpisodeSeconds.isSome then
    .error "max_episode_steps / max_episode_seconds require an env with autoreset disabled: under NEXT_STEP autoreset the env owns lane resets, so the runtime cannot truncate an episode"
  else .ok ()

/-- The mode is known, driven by the runtime, and fits the endpoint's lanes. -/
def validateMode : Except String Unit :=
  match AutoresetMode.ofWire spec.autoresetMode with
  | none =>
    .error s!"unknown autoreset mode {spec.autoresetMode} on the wire; this build supports UNSPECIFIED, NEXT_STEP, SAME_STEP, DISABLED only"
  | some mode =>
    if mode = .sameStep then
      .error "SAME_STEP autoreset is reserved but not yet supported by the runtime; construct the env with NEXT_STEP or DISABLED autoreset"
    else if spec.numEnvs > 1 && !spec.subsetStep && mode != .nextStep then
      .error "vectorized runtime sessions (num_envs > 1) require NEXT_STEP autoreset unless the env steps lanes individually (the `subset_step` capability); DISABLED autoreset needs per-lane reset, which a stock gymnasium vector env cannot do. Use NEXT_STEP autoreset, serve lanes, or run with num_envs == 1."
    else .ok ()

/-- The gate a spec passes before the driver runs it. -/
def validate : Except String Unit :=
  if isBlank spec.sessionId then .error "runtime session_id must not be empty"
  else if isBlank spec.envId then .error "runtime env_id must not be empty"
  else if isBlank spec.envComponentId then .error "runtime env_component_id must not be empty"
  else if isBlank spec.modelComponentId then .error "runtime model_component_id must not be empty"
  else if spec.numEnvs = 0 then .error "runtime num_envs must be greater than zero"
  else if !spec.hasObservationSpace then .error "runtime env_contract is missing observation_space"
  else if !spec.hasActionSpace then .error "runtime env_contract is missing action_space"
  else if spec.maxEpisodes = some 0 then .error "runtime max_episodes must be greater than zero when set"
  else if spec.maxEpisodeSteps.any (· ≤ 0) then
    .error "runtime max_episode_steps must be greater than zero when set"
  else if spec.maxEpisodeSeconds.any (!·.positive) then
    .error "runtime max_episode_seconds must be greater than zero when set"
  else
    -- An undecodable mode is not driver-owned here, unlike in `mode`.
    match (if (AutoresetMode.ofWire spec.autoresetMode).any (· ∈ editionDefaults.driverOwnedResetModes) then .ok ()
      else spec.validateEnvOwned) with
    | .error message => .error message
    | .ok () =>
      match spec.retainedEdition with
      | .error message => .error message
      | .ok () => spec.validateMode

/-! ## Groups -/

/-- One slot per lane, at least one. -/
def width : Nat := max spec.numEnvs 1

/-- A lane endpoint, driven with one group per lane. -/
def laneGroup : Bool := spec.subsetStep && decide (spec.width > 1)

def groupCount : Nat := if spec.laneGroup then spec.width else 1

/-- The lanes of a group, which are also their slot positions. -/
def lanes (gid : Nat) : List Nat := if spec.laneGroup then [gid] else List.range spec.width

/-- A request's `env_indices`: the whole vector is named by none. -/
def envIndices (gid : Nat) : List Nat := if spec.laneGroup then spec.lanes gid else []

/-! ## Reset options and seeds -/

/-- Whether the contract's metadata names `key` under `envResetOptionsKey`. -/
def declaresResetOption (key : String) : Bool :=
  match spec.metadata.bind (fun entries => entries.lookup envResetOptionsKey) with
  | some (.list items) => items.any (fun item => match item with
    | .text declared => declared = key
    | _ => false)
  | some (.text declared) => declared = key
  | _ => false

/-- The `ResetRequest.options` delivering `trials`, to an env that declared the key. -/
def resetOptionsFor (optionKey : String) (trials : List Nat) : Option (MetaMap R) :=
  if trials.isEmpty || !spec.declaresResetOption optionKey then none
  else match trials with
    | [trial] => some [(optionKey, .integer (Int.bmod trial (2 ^ 64)))]
    | _ => some [(optionKey, .list (trials.map (fun trial => .integer (Int.bmod trial (2 ^ 64)))))]

end RuntimeSessionSpec

/-- The eight bytes of a `u64`, least significant first. -/
def leBytes (n : Nat) : List UInt8 := (List.range 8).map (fun k => UInt8.ofNat (n / 256 ^ k))

/-- One FNV-1a round per byte. -/
def fnvUpdate (hash : UInt64) (bytes : List UInt8) : UInt64 :=
  bytes.foldl (fun hash byte => (hash ^^^ byte.toUInt64) * 0x100000001b3) hash

/-- The reset seed of a lane: a hash of the base seed, the session id, the reset
generation (or route-global slot) and the lane. -/
def deterministicResetSeed (baseSeed : Int) (sessionId : String) (resetGeneration envIndex : Nat) : Int :=
  let hash := fnvUpdate 0xcbf29ce484222325 (leBytes (baseSeed % 2 ^ 64).toNat)
  let hash := fnvUpdate hash [0xff]
  let hash := fnvUpdate hash sessionId.toUTF8.toList
  let hash := fnvUpdate hash [0xfd]
  let hash := fnvUpdate hash (leBytes resetGeneration)
  let hash := fnvUpdate hash [0xfc]
  let hash := fnvUpdate hash (leBytes envIndex)
  ((hash &&& 0x7fffffffffffffff).toNat : Int)

/-! ## What `validate` gives -/

variable {R : Type} {spec : RuntimeSessionSpec R}

/-- A valid spec's mode is known and is one of the three the runtime drives; a
vector without lanes is driven under NEXT_STEP, and caps need driver-owned resets. -/
structure Valid (spec : RuntimeSessionSpec R) : Prop where
  numEnvs : 0 < spec.numEnvs
  maxEpisodes : spec.maxEpisodes ≠ some 0
  known : AutoresetMode.ofWire spec.autoresetMode = some spec.mode
  driven : spec.mode ≠ .sameStep
  vector : spec.mode = .nextStep ∨ spec.numEnvs = 1 ∨ spec.subsetStep = true
  uncapped : spec.driverOwnsResets = false → spec.maxEpisodeSteps = none ∧ spec.maxEpisodeSeconds = none
  unseeded : spec.driverOwnsResets = false → spec.episodeSeeds = []

theorem check_ok {c : Prop} [Decidable c] {message : String} {rest : Except String Unit}
    (h : (if c then .error message else rest) = .ok ()) : ¬c ∧ rest = .ok () := by
  split at h
  · cases h
  · exact ⟨by assumption, h⟩

theorem validateMode_ok (h : spec.validateMode = .ok ()) :
    AutoresetMode.ofWire spec.autoresetMode = some spec.mode ∧ spec.mode ≠ .sameStep ∧
      (spec.mode = .nextStep ∨ spec.numEnvs ≤ 1 ∨ spec.subsetStep = true) := by
  unfold RuntimeSessionSpec.validateMode at h
  unfold RuntimeSessionSpec.mode
  cases hm : AutoresetMode.ofWire spec.autoresetMode with
  | none => rw [hm] at h; cases h
  | some mode =>
    rw [hm] at h
    obtain ⟨hsame, h⟩ := check_ok h
    obtain ⟨hvector, -⟩ := check_ok h
    refine ⟨rfl, hsame, ?_⟩
    simp only [Option.getD_some]
    by_contra hc
    simp only [not_or, Bool.not_eq_true] at hc
    obtain ⟨hmode, hnum, hsubset⟩ := hc
    apply hvector
    simp only [hsubset, Bool.not_false, Bool.and_true, Bool.and_eq_true, decide_eq_true_eq, bne_iff_ne]
    exact ⟨by omega, hmode⟩

theorem validateEnvOwned_ok (h : spec.validateEnvOwned = .ok ()) :
    spec.maxEpisodeSteps = none ∧ spec.maxEpisodeSeconds = none ∧ spec.episodeSeeds = [] := by
  unfold RuntimeSessionSpec.validateEnvOwned at h
  obtain ⟨hseeds, h⟩ := check_ok h
  obtain ⟨-, h⟩ := check_ok h
  obtain ⟨hcaps, -⟩ := check_ok h
  simp only [Bool.or_eq_true, not_or, Option.not_isSome_iff_eq_none] at hcaps
  simp only [Bool.not_eq_eq_eq_not, Bool.not_true, List.isEmpty_eq_false_iff, ne_eq, not_not] at hseeds
  exact ⟨hcaps.1, hcaps.2, hseeds⟩

theorem validate_ok (h : spec.validate = .ok ()) : Valid spec := by
  unfold RuntimeSessionSpec.validate at h
  obtain ⟨-, h⟩ := check_ok h
  obtain ⟨-, h⟩ := check_ok h
  obtain ⟨-, h⟩ := check_ok h
  obtain ⟨-, h⟩ := check_ok h
  obtain ⟨hnum, h⟩ := check_ok h
  obtain ⟨-, h⟩ := check_ok h
  obtain ⟨-, h⟩ := check_ok h
  obtain ⟨hmax, h⟩ := check_ok h
  obtain ⟨-, h⟩ := check_ok h
  obtain ⟨-, h⟩ := check_ok h
  split at h
  · cases h
  rename_i howned
  split at h
  · cases h
  obtain ⟨hknown, hsame, hvector⟩ := validateMode_ok h
  have henvOwned : spec.driverOwnsResets = false → spec.validateEnvOwned = .ok () := by
    intro hdriver
    rw [if_neg] at howned
    · exact howned
    · rw [hknown]
      simpa [RuntimeSessionSpec.driverOwnsResets] using hdriver
  refine ⟨by omega, hmax, hknown, hsame, ?_, ?_, ?_⟩
  · rcases hvector with h1 | h1 | h1
    · exact .inl h1
    · exact .inr (.inl (by omega))
    · exact .inr (.inr h1)
  · intro hdriver
    have hcaps := validateEnvOwned_ok (henvOwned hdriver)
    exact ⟨hcaps.1, hcaps.2.1⟩
  · intro hdriver
    exact (validateEnvOwned_ok (henvOwned hdriver)).2.2

namespace RuntimeSessionSpec

theorem lanes_singleton (hv : Valid spec) (h : spec.driverOwnsResets = true) (gid : Nat) :
    ∃ lane, spec.lanes gid = [lane] := by
  have hmode : spec.mode ≠ .nextStep := by
    intro hm
    rw [driverOwnsResets, hm] at h
    cases h
  unfold lanes
  by_cases hl : spec.laneGroup = true
  · exact ⟨gid, by rw [if_pos hl]⟩
  · refine ⟨0, ?_⟩
    have hwidth : spec.width = 1 := by
      rcases hv.vector with h1 | h1 | h1
      · exact absurd h1 hmode
      · unfold width; omega
      · unfold laneGroup at hl
        rw [h1] at hl
        simp only [Bool.true_and, decide_eq_true_eq] at hl
        unfold width at hl ⊢
        omega
    rw [if_neg hl, hwidth]
    rfl

theorem lanes_nodup (gid : Nat) : (spec.lanes gid).Nodup := by
  unfold lanes
  split
  · simp
  · exact List.nodup_range

theorem lane_lt {gid lane : Nat} (hg : gid < spec.groupCount) (h : lane ∈ spec.lanes gid) : lane < spec.width := by
  unfold lanes at h
  unfold groupCount at hg
  split at h
  · rename_i hl
    rw [if_pos hl] at hg
    rw [List.mem_singleton] at h
    omega
  · exact List.mem_range.1 h

theorem exists_group {lane : Nat} (h : lane < spec.width) : ∃ gid, gid < spec.groupCount ∧ lane ∈ spec.lanes gid := by
  unfold groupCount lanes
  by_cases hl : spec.laneGroup = true
  · exact ⟨lane, by rwa [if_pos hl], by rw [if_pos hl]; exact List.mem_singleton_self _⟩
  · exact ⟨0, by rw [if_neg hl]; exact Nat.one_pos, by rw [if_neg hl]; exact List.mem_range.mpr h⟩

theorem lanes_disjoint {gid gid' lane : Nat} (hg : gid < spec.groupCount) (hg' : gid' < spec.groupCount)
    (h : lane ∈ spec.lanes gid) (h' : lane ∈ spec.lanes gid') : gid = gid' := by
  unfold lanes at h h'
  unfold groupCount at hg hg'
  split at h
  · rename_i hl
    rw [if_pos hl, List.mem_singleton] at h'
    rw [List.mem_singleton] at h
    omega
  · rename_i hl
    rw [if_neg hl] at hg hg'
    omega

end RuntimeSessionSpec

end Rlmesh.Runtime
