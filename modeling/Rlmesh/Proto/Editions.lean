import Rlmesh.Lib.Select
/-!
# Workflow editions

The participants of a session (env, model and runtime) each offer the editions
they can operate under (CAN) and at most one they declare (WANT). The session
runs at the highest edition in every CAN set that every declared WANT admits.
-/

open Rlmesh.Lib

namespace Rlmesh.Proto

/-! ## The order of editions -/

/-- What an edition is ordered by: `(base, cohort?, suffix)`, compared in that order. -/
abbrev EditionKey := Text ×ₗ Bool ×ₗ Text

/-- An edition is split at its first dash; a cohort outranks the bare base it belongs to. -/
def editionSortKey (edition : Text) : EditionKey :=
  match splitOnce '-' edition with
  | some (base, suffix) => toLex (base, toLex (true, suffix))
  | none => toLex (edition, toLex (false, []))

/-- The part of an edition before its first dash. -/
def editionBase (edition : Text) : Text :=
  (ofLex (editionSortKey edition)).1

/-- Whether an edition names a cohort. -/
def hasCohort (edition : Text) : Bool :=
  (ofLex (ofLex (editionSortKey edition)).2).1

/-- Distinct editions have distinct keys, so any set of them has one maximum at most. -/
theorem editionSortKey_injective : Function.Injective editionSortKey := by
  intro a b h
  rcases ha : splitOnce '-' a with _ | ⟨base, suffix⟩ <;> rcases hb : splitOnce '-' b with _ | ⟨base', suffix'⟩
  · simpa [editionSortKey, ha, hb] using h
  · simp [editionSortKey, ha, hb] at h
  · simp [editionSortKey, ha, hb] at h
  · obtain ⟨hbase, hsuffix⟩ : base = base' ∧ suffix = suffix' := by simpa [editionSortKey, ha, hb] using h
    rw [splitOnce_some ha, splitOnce_some hb, hbase, hsuffix]

/-- Whether a declared WANT admits `edition`: a bare base is a ceiling on the base, a cohort one on the
whole key. -/
def wantAdmits (want edition : Text) : Bool :=
  if hasCohort want then
    decide (editionSortKey edition ≤ editionSortKey want)
  else
    decide (editionBase edition ≤ editionBase want)

theorem editionBase_mono {a b : Text} (h : editionSortKey a ≤ editionSortKey b) :
    editionBase a ≤ editionBase b := by
  rcases Prod.Lex.le_iff.1 h with hlt | ⟨heq, -⟩
  · exact hlt.le
  · exact heq.le

theorem wantAdmits_of_le {want edition : Text} (h : editionSortKey edition ≤ editionSortKey want) :
    wantAdmits want edition = true := by
  unfold wantAdmits
  split
  · exact decide_eq_true h
  · exact decide_eq_true (editionBase_mono h)

/-! ## Offers -/

/-- One participant's offer: the editions it can operate under and the one it declares. -/
structure SessionOffer where
  editions : List Text
  preferred : Option Text
deriving DecidableEq, Repr

namespace SessionOffer

/-- The CAN set, trimmed, without empty entries. -/
def can (offer : SessionOffer) : List Text :=
  (offer.editions.map trim).filter (fun edition => !edition.isEmpty)

/-- The declared WANT, trimmed; `none` when undeclared. -/
def want (offer : SessionOffer) : Option Text :=
  (offer.preferred.map trim).filter (fun want => !want.isEmpty)

/-- An offer without its declaration. -/
def undeclared (offer : SessionOffer) : SessionOffer :=
  { editions := offer.editions, preferred := none }

theorem mem_can {offer : SessionOffer} {e : Text} :
    e ∈ offer.can ↔ e ≠ [] ∧ ∃ raw ∈ offer.editions, trim raw = e := by
  simp [can, and_comm]

@[simp] theorem undeclared_can (offer : SessionOffer) : offer.undeclared.can = offer.can := rfl

@[simp] theorem undeclared_want (offer : SessionOffer) : offer.undeclared.want = none := rfl

/-- The editions a participant accepts: those it can operate under and its WANT, if any, admits. -/
def Accepts (offer : SessionOffer) (e : Text) : Prop :=
  e ∈ offer.can ∧ ∀ want, offer.want = some want → wantAdmits want e = true

instance (offer : SessionOffer) (e : Text) : Decidable (offer.Accepts e) :=
  inferInstanceAs (Decidable (e ∈ offer.can ∧ _))

theorem undeclared_accepts {offer : SessionOffer} {e : Text} :
    offer.undeclared.Accepts e ↔ e ∈ offer.can := by
  simp [Accepts]

end SessionOffer

/-! ## Selection -/

/-- One tier's position in a refused negotiation. -/
structure TierOffer where
  tier : String
  can : List Text
  want : Option Text
deriving DecidableEq, Repr

/-- No edition satisfies every participant. -/
structure EditionRefusal where
  tiers : List TierOffer
deriving DecidableEq, Repr

def EditionRefusal.of (tiers : List (String × SessionOffer)) : EditionRefusal :=
  { tiers := tiers.map fun (tier, offer) => { tier, can := offer.editions, want := offer.want } }

/-- The editions of the first participant that are in every CAN set and that every declared WANT admits. -/
def candidates (tiers : List (String × SessionOffer)) (first : SessionOffer) : List Text :=
  (first.can.filter fun edition => tiers.all fun tier => tier.2.can.any (· == edition)).filter
    fun edition => tiers.all fun tier => tier.2.want.all (fun want => wantAdmits want edition)

/-- Select the one edition a session of these participants runs at. -/
def selectWorkflowEdition (tiers : List (String × SessionOffer)) : Except EditionRefusal Text :=
  match tiers.head? with
  | none => .error (.of tiers)
  | some (_, first) =>
    match maxByKey editionSortKey (candidates tiers first) with
    | some edition => .ok edition
    | none => .error (.of tiers)

/-- The editions every one of these participants accepts. -/
def Mutual (offers : List SessionOffer) : Set Text :=
  {e | ∀ offer ∈ offers, offer.Accepts e}

/-- The member of a set of editions that no other member exceeds. -/
def Highest (editions : Set Text) (e : Text) : Prop :=
  e ∈ editions ∧ ∀ e' ∈ editions, editionSortKey e' ≤ editionSortKey e

theorem Highest.unique {editions : Set Text} {a b : Text} (ha : Highest editions a) (hb : Highest editions b) :
    a = b :=
  editionSortKey_injective (le_antisymm (hb.2 a ha.1) (ha.2 b hb.1))

theorem Highest.mono {small large : Set Text} (hsub : small ⊆ large) {a b : Text} (ha : Highest small a)
    (hb : Highest large b) : editionSortKey a ≤ editionSortKey b :=
  hb.2 a (hsub ha.1)

variable {tiers : List (String × SessionOffer)} {e : Text} {env model runtime offer : SessionOffer}

theorem mem_candidates {first : String × SessionOffer} (hfirst : first ∈ tiers) :
    e ∈ candidates tiers first.2 ↔ e ∈ Mutual (tiers.map (·.2)) := by
  simp only [candidates, List.mem_filter, List.all_eq_true, List.any_eq_true, beq_iff_eq, Option.all_eq_true,
    Mutual, Set.mem_ofPred_eq, List.forall_mem_map]
  constructor
  · rintro ⟨⟨-, hcan⟩, hwant⟩ tier htier
    obtain ⟨e', he', rfl⟩ := hcan tier htier
    exact ⟨he', hwant tier htier⟩
  · intro h
    refine ⟨⟨(h first hfirst).1, fun tier htier => ?_⟩, fun tier htier => (h tier htier).2⟩
    exact ⟨e, (h tier htier).1, rfl⟩

theorem select_cons (first : String × SessionOffer) (rest : List (String × SessionOffer)) :
    (selectWorkflowEdition (first :: rest)).toOption =
      maxByKey editionSortKey (candidates (first :: rest) first.2) := by
  simp only [selectWorkflowEdition, List.head?_cons]
  cases maxByKey editionSortKey (candidates (first :: rest) first.2) <;> rfl

/-- The selection succeeds exactly with the highest mutual edition. -/
theorem select_eq_some (hne : tiers ≠ []) :
    (selectWorkflowEdition tiers).toOption = some e ↔ Highest (Mutual (tiers.map (·.2))) e := by
  obtain ⟨first, rest, rfl⟩ := List.exists_cons_of_ne_nil hne
  rw [select_cons, maxByKey_eq_some editionSortKey_injective]
  simp only [mem_candidates List.mem_cons_self, Highest]

theorem select_eq_none (hne : tiers ≠ []) :
    (selectWorkflowEdition tiers).toOption = none ↔ Mutual (tiers.map (·.2)) = ∅ := by
  obtain ⟨first, rest, rfl⟩ := List.exists_cons_of_ne_nil hne
  rw [select_cons, maxByKey_eq_none, List.eq_nil_iff_forall_not_mem, Set.eq_empty_iff_forall_notMem]
  simp only [mem_candidates List.mem_cons_self]

theorem select_of_mutual (hne : tiers ≠ []) (he : e ∈ Mutual (tiers.map (·.2))) :
    ∃ e', (selectWorkflowEdition tiers).toOption = some e' := by
  apply Option.ne_none_iff_exists'.1
  intro hnone
  rw [select_eq_none hne] at hnone
  exact Set.eq_empty_iff_forall_notMem.1 hnone e he

theorem select_congr {tiers' : List (String × SessionOffer)} (hne : tiers ≠ []) (hne' : tiers' ≠ [])
    (h : Mutual (tiers.map (·.2)) = Mutual (tiers'.map (·.2))) :
    (selectWorkflowEdition tiers).toOption = (selectWorkflowEdition tiers').toOption := by
  refine Option.ext fun e => ?_
  rw [select_eq_some hne, select_eq_some hne', h]

/-! ## The session floor -/

/-- Why the runtime capped a session below what its peers would have run at. -/
inductive RuntimeCap where
  | capability
  | declaration
deriving DecidableEq, Repr

/-- The reconciled edition of a session. -/
structure SessionFloor where
  selectedWorkflowEdition : Text
  desiredWorkflowEdition : Text
  runtimeCap : Option RuntimeCap
deriving DecidableEq, Repr

/-- Reconcile the session's edition across env, model and runtime. -/
def negotiateSessionFloor (env model runtime : SessionOffer) : Except EditionRefusal SessionFloor := do
  let selected ← selectWorkflowEdition [("env", env), ("model", model), ("runtime", runtime)]
  let desired := (selectWorkflowEdition [("env", env), ("model", model)]).toOption.getD selected
  let capable :=
    (selectWorkflowEdition [("env", env), ("model", model), ("runtime", runtime.undeclared)]).toOption.getD selected
  let runtimeCap :=
    if desired ≠ selected then
      -- the declaration is what caps the session only where dropping it would lift the session
      some (if editionSortKey selected < editionSortKey capable then .declaration else .capability)
    else
      none
  return { selectedWorkflowEdition := selected, desiredWorkflowEdition := desired, runtimeCap }

/-- The floor as a function of the three selections it is computed from. -/
def SessionFloor.of (selected : Text) (desired capable : Option Text) : SessionFloor :=
  { selectedWorkflowEdition := selected
    desiredWorkflowEdition := desired.getD selected
    runtimeCap :=
      if desired.getD selected ≠ selected then
        some (if editionSortKey selected < editionSortKey (capable.getD selected) then .declaration else .capability)
      else
        none }

theorem negotiate_toOption (env model runtime : SessionOffer) :
    (negotiateSessionFloor env model runtime).toOption =
      (selectWorkflowEdition [("env", env), ("model", model), ("runtime", runtime)]).toOption.map fun selected =>
        SessionFloor.of selected (selectWorkflowEdition [("env", env), ("model", model)]).toOption
          (selectWorkflowEdition [("env", env), ("model", model), ("runtime", runtime.undeclared)]).toOption := by
  unfold negotiateSessionFloor
  cases selectWorkflowEdition [("env", env), ("model", model), ("runtime", runtime)] <;> rfl

theorem negotiate_ok {floor : SessionFloor} :
    negotiateSessionFloor env model runtime = .ok floor ↔
      (negotiateSessionFloor env model runtime).toOption = some floor := by
  cases negotiateSessionFloor env model runtime <;> simp [Except.toOption]

theorem negotiate_of_highest {selected : Text} (h : Highest (Mutual [env, model, runtime]) selected) :
    ∃ floor, negotiateSessionFloor env model runtime = .ok floor ∧ floor.selectedWorkflowEdition = selected := by
  have hselect : (selectWorkflowEdition [("env", env), ("model", model), ("runtime", runtime)]).toOption =
      some selected :=
    (select_eq_some (by simp)).2 h
  have hfloor := negotiate_toOption env model runtime
  rw [hselect] at hfloor
  exact ⟨_, negotiate_ok.2 hfloor, rfl⟩

theorem mutual_runtime_subset (env model runtime : SessionOffer) :
    Mutual [env, model, runtime] ⊆ Mutual [env, model] :=
  fun _ he offer hoffer => he offer (by simp_all; tauto)

theorem mutual_undeclared_subset (env model runtime : SessionOffer) :
    Mutual [env, model, runtime] ⊆ Mutual [env, model, runtime.undeclared] := by
  intro e he
  simp only [Mutual, List.forall_mem_cons, Set.mem_ofPred_eq, SessionOffer.undeclared_accepts] at he ⊢
  exact ⟨he.1, he.2.1, he.2.2.1.1, he.2.2.2⟩

/-- What a successful negotiation selected: each of the three selections is the highest of its own set. -/
theorem negotiate_selections {floor : SessionFloor} (h : negotiateSessionFloor env model runtime = .ok floor) :
    ∃ selected desired capable, floor = SessionFloor.of selected (some desired) (some capable) ∧
      Highest (Mutual [env, model, runtime]) selected ∧ Highest (Mutual [env, model]) desired ∧
      Highest (Mutual [env, model, runtime.undeclared]) capable := by
  rw [negotiate_ok, negotiate_toOption, Option.map_eq_some_iff] at h
  obtain ⟨selected, hselected, rfl⟩ := h
  rw [select_eq_some (by simp)] at hselected
  -- whatever all three accept, env and model accept, and the runtime without its declaration too
  obtain ⟨desired, hdesired⟩ : ∃ e, (selectWorkflowEdition [("env", env), ("model", model)]).toOption = some e :=
    select_of_mutual (by simp) (mutual_runtime_subset env model runtime hselected.1)
  obtain ⟨capable, hcapable⟩ : ∃ e, (selectWorkflowEdition
      [("env", env), ("model", model), ("runtime", runtime.undeclared)]).toOption = some e :=
    select_of_mutual (by simp) (mutual_undeclared_subset env model runtime hselected.1)
  rw [hdesired, hcapable]
  exact ⟨selected, desired, capable, rfl, hselected, (select_eq_some (by simp)).1 hdesired,
    (select_eq_some (by simp)).1 hcapable⟩

/-! ## Offers that read alike -/

/-- Two spellings of one offer: the same entries in another order or number, or an undeclared WANT replaced by
the highest edition the participant can operate under. -/
inductive SessionOffer.Alike (offer : SessionOffer) : SessionOffer → Prop
  | listed (editions : List Text) (h : ∀ e, e ∈ editions ↔ e ∈ offer.editions) :
    Alike offer { editions, preferred := offer.preferred }
  | declared (hwant : offer.want = none) (e : Text) (h : Highest {e | e ∈ offer.can} e) :
    Alike offer { offer with preferred := some e }

theorem SessionOffer.want_of_mem_can (h : e ∈ offer.can) :
    SessionOffer.want { offer with preferred := some e } = some e := by
  obtain ⟨hne, raw, -, rfl⟩ := mem_can.1 h
  simp [want, trim_trim, Option.filter, hne]

theorem SessionOffer.Alike.can_iff {offer' : SessionOffer} (h : offer.Alike offer') (e : Text) :
    e ∈ offer'.can ↔ e ∈ offer.can := by
  cases h with
  | listed editions h => simp only [mem_can, h]
  | declared hwant e' h => rfl

theorem SessionOffer.Alike.accepts_iff {offer' : SessionOffer} (h : offer.Alike offer') (e : Text) :
    offer'.Accepts e ↔ offer.Accepts e := by
  have hcan := h.can_iff e
  cases h with
  | listed editions h => exact and_congr hcan Iff.rfl
  | declared hwant top h =>
    have hdeclared := want_of_mem_can h.1
    constructor
    · rintro ⟨he, -⟩
      exact ⟨hcan.1 he, by simp [hwant]⟩
    · rintro ⟨he, -⟩
      refine ⟨he, fun want hw => ?_⟩
      obtain rfl : top = want := by simpa [hdeclared] using hw
      exact wantAdmits_of_le (h.2 e he)

theorem negotiate_alike {env' model' runtime' : SessionOffer} (henv : env.Alike env') (hmodel : model.Alike model')
    (hruntime : runtime.Alike runtime') :
    (negotiateSessionFloor env' model' runtime').toOption = (negotiateSessionFloor env model runtime).toOption := by
  have hundeclared : ∀ e, runtime'.undeclared.Accepts e ↔ runtime.undeclared.Accepts e := fun e => by
    simp only [SessionOffer.undeclared_accepts, hruntime.can_iff e]
  have hpeers : Mutual [env', model'] = Mutual [env, model] := by
    ext e
    simp [Mutual, henv.accepts_iff e, hmodel.accepts_iff e]
  have hall : Mutual [env', model', runtime'] = Mutual [env, model, runtime] := by
    ext e
    simp [Mutual, henv.accepts_iff e, hmodel.accepts_iff e, hruntime.accepts_iff e]
  have hfreed : Mutual [env', model', runtime'.undeclared] = Mutual [env, model, runtime.undeclared] := by
    ext e
    simp [Mutual, henv.accepts_iff e, hmodel.accepts_iff e, hundeclared e]
  have hselected : (selectWorkflowEdition [("env", env'), ("model", model'), ("runtime", runtime')]).toOption =
      (selectWorkflowEdition [("env", env), ("model", model), ("runtime", runtime)]).toOption :=
    select_congr (by simp) (by simp) hall
  have hdesired : (selectWorkflowEdition [("env", env'), ("model", model')]).toOption =
      (selectWorkflowEdition [("env", env), ("model", model)]).toOption :=
    select_congr (by simp) (by simp) hpeers
  have hcapable :
      (selectWorkflowEdition [("env", env'), ("model", model'), ("runtime", runtime'.undeclared)]).toOption =
        (selectWorkflowEdition [("env", env), ("model", model), ("runtime", runtime.undeclared)]).toOption :=
    select_congr (by simp) (by simp) hfreed
  rw [negotiate_toOption, negotiate_toOption, hselected, hdesired, hcapable]

/-- Dropping the runtime's declaration would raise the selected edition. -/
def DeclarationCaps (env model runtime : SessionOffer) (selected : Text) : Prop :=
  ∃ raised, negotiateSessionFloor env model runtime.undeclared = .ok raised ∧
    editionSortKey selected < editionSortKey raised.selectedWorkflowEdition

theorem declarationCaps_iff {selected capable : Text} (h : Highest (Mutual [env, model, runtime.undeclared]) capable) :
    DeclarationCaps env model runtime selected ↔ editionSortKey selected < editionSortKey capable := by
  constructor
  · rintro ⟨raised, hraised, hlt⟩
    obtain ⟨top, _, _, rfl, htop, -, -⟩ := negotiate_selections hraised
    rw [← htop.unique h]
    exact hlt
  · intro hlt
    obtain ⟨raised, hraised, rfl⟩ := negotiate_of_highest h
    exact ⟨raised, hraised, hlt⟩

/-- Edition negotiation computes the floor: it succeeds exactly when some edition is in every CAN set and admitted
by every declared WANT, selects the one highest such edition, reads offers that are spelled differently alike, and
attributes a cap to the runtime's declaration exactly when dropping it would raise the session. -/
theorem session_floor_negotiated (env model runtime : SessionOffer) :
    ((∃ floor, negotiateSessionFloor env model runtime = .ok floor) ↔
      ∃ e, ∀ offer ∈ [env, model, runtime],
        e ∈ offer.can ∧ ∀ want, offer.want = some want → wantAdmits want e = true) ∧
    (∀ floor, negotiateSessionFloor env model runtime = .ok floor →
      (∀ e, Highest (Mutual [env, model, runtime]) e ↔ e = floor.selectedWorkflowEdition) ∧
      editionSortKey floor.selectedWorkflowEdition ≤ editionSortKey floor.desiredWorkflowEdition ∧
      (floor.runtimeCap = none ↔ floor.desiredWorkflowEdition = floor.selectedWorkflowEdition) ∧
      (floor.runtimeCap = some .declaration ↔
        DeclarationCaps env model runtime floor.selectedWorkflowEdition) ∧
      (floor.runtimeCap = some .capability ↔
        floor.desiredWorkflowEdition ≠ floor.selectedWorkflowEdition ∧
          ¬ DeclarationCaps env model runtime floor.selectedWorkflowEdition)) ∧
    (∀ env' model' runtime', env.Alike env' → model.Alike model' → runtime.Alike runtime' →
      (negotiateSessionFloor env' model' runtime').toOption =
        (negotiateSessionFloor env model runtime).toOption) := by
  refine ⟨⟨?_, ?_⟩, ?_, fun _ _ _ => negotiate_alike⟩
  · rintro ⟨floor, hfloor⟩
    obtain ⟨selected, _, _, -, hselected, -, -⟩ := negotiate_selections hfloor
    exact ⟨selected, hselected.1⟩
  · rintro ⟨e, he⟩
    obtain ⟨selected, hselected⟩ : ∃ e, (selectWorkflowEdition
        [("env", env), ("model", model), ("runtime", runtime)]).toOption = some e :=
      select_of_mutual (by simp) he
    obtain ⟨floor, hfloor, -⟩ := negotiate_of_highest ((select_eq_some (by simp)).1 hselected)
    exact ⟨floor, hfloor⟩
  · intro floor hfloor
    obtain ⟨selected, desired, capable, rfl, hselected, hdesired, hcapable⟩ := negotiate_selections hfloor
    have hle : editionSortKey selected ≤ editionSortKey desired :=
      hselected.mono (mutual_runtime_subset env model runtime) hdesired
    -- even undeclared, the runtime lifts the session no higher than env and model alone would go
    have hreach : editionSortKey capable ≤ editionSortKey desired :=
      hcapable.mono (mutual_runtime_subset env model runtime.undeclared) hdesired
    have hcap : DeclarationCaps env model runtime selected ↔ _ := declarationCaps_iff hcapable
    refine ⟨fun e => ⟨fun he => he.unique hselected, fun he => he ▸ hselected⟩, hle, ?_, ?_, ?_⟩
    · simp [SessionFloor.of]
    · have hne : editionSortKey selected < editionSortKey capable → desired ≠ selected := by
        rintro hlt rfl
        exact absurd hreach (not_le.2 hlt)
      simp only [SessionFloor.of, Option.getD_some, hcap]
      grind
    · simp only [SessionFloor.of, Option.getD_some, hcap]
      grind

/-- A runtime that can reach its peers' edition and declares an older one: the declaration is what caps. -/
example :
    negotiateSessionFloor ⟨[" 2026.06".toList, "2026.08".toList], none⟩ ⟨["2026.08".toList, "2026.06".toList], none⟩
        ⟨["2026.06".toList, "2026.08".toList], some "2026.06".toList⟩ =
      .ok { selectedWorkflowEdition := "2026.06".toList, desiredWorkflowEdition := "2026.08".toList,
            runtimeCap := some .declaration } := by
  decide +kernel

end Rlmesh.Proto
