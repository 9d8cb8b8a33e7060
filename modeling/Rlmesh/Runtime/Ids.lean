import Rlmesh.Runtime.Simulation
/-!
# Episode ids

The ids a group's lanes hold, and those staged for its next reset or roll, are
ids the driver drew for that group, each for one lane. A staged id has not been
seen yet: it is in no slot and in no observation.
-/
open Rlmesh.Wire

set_option linter.unusedSectionVars false

namespace Rlmesh.Runtime

variable {Id R : Type} [DecidableEq Id] [Inhabited Id] [Zero R] [Add R] [BEq R]

/-! ## Drawn ids -/

/-- The id was drawn for the group. -/
def Drawn (minter : Minter Id) (gid : Nat) (mintedFor : List Nat) (id : Id) : Prop :=
  ∃ n, mintedFor[n]? = some gid ∧ minter.id n = id

variable {minter : Minter Id} {cfg : DriverConfig Id R} {gid g : Nat} {C : Station Id R → Bool → Prop}
  {s s' : Station Id R} {ids : List Id} {id : Id} {lanes mintedFor minted : List Nat} {pendingRoll : List (Nat × Id)}

theorem Drawn.mono (h : Drawn minter gid mintedFor id) (more : List Nat) : Drawn minter gid (mintedFor ++ more) id := by
  obtain ⟨n, hn, rfl⟩ := h
  refine ⟨n, ?_, rfl⟩
  rw [List.getElem?_append_left (List.getElem?_eq_some_iff.mp hn).1]
  exact hn

theorem Drawn.ne_default (h : Drawn minter gid mintedFor id) : id ≠ default := by
  obtain ⟨n, -, rfl⟩ := h
  exact minter.nonempty n

theorem Drawn.owner (h : Drawn minter gid mintedFor id) (h' : Drawn minter g mintedFor id) : gid = g := by
  obtain ⟨n, hn, rfl⟩ := h
  obtain ⟨m, hm, he⟩ := h'
  obtain rfl := minter.injective he
  exact Option.some.inj (hn.symm.trans hm)

theorem Mints.fresh (h : Mints minter gid mintedFor ids minted) (hid : id ∈ ids) :
    Drawn minter gid (mintedFor ++ minted) id ∧ ∀ g, ¬ Drawn minter g mintedFor id := by
  rw [h.drawn, List.mem_map] at hid
  obtain ⟨n, hn, rfl⟩ := hid
  rw [List.mem_range'_1] at hn
  constructor
  · refine ⟨n, ?_, rfl⟩
    rw [List.getElem?_append_right hn.1, h.owner, List.getElem?_replicate, if_pos]
    omega
  · rintro g ⟨m, hm, he⟩
    have hlt := (List.getElem?_eq_some_iff.mp hm).1
    have := minter.injective he
    omega

theorem Mints.nodup (h : Mints minter gid mintedFor ids minted) : ids.Nodup := by
  rw [h.drawn]
  exact List.Nodup.map minter.injective (List.nodup_range' 1)

/-! ## The ids of a group -/

/-- No two lanes hold the same id. -/
def Distinct (ids : List Id) : Prop :=
  ∀ (i j : Nat) (id : Id), ids[i]? = some id → ids[j]? = some id → id ≠ default → i = j

/-- The id is in a slot of the group, or was in one when something was observed. -/
def Seen (s : Station Id R) (id : Id) : Prop :=
  id ∈ s.ids ∨ ∃ request ∈ s.group.observed, id ∈ names request.episodeInfo

/-- Ids waiting for their lanes. -/
structure Staged (minter : Minter Id) (gid : Nat) (s : Station Id R) (ids : List Id) : Prop where
  nodup : ids.Nodup
  drawn : ∀ id ∈ ids, Drawn minter gid s.mintedFor id
  unseen : ∀ id ∈ ids, ¬ Seen s id

structure IdsFit (cfg : DriverConfig Id R) (gid : Nat) (s : Station Id R) : Prop where
  length : s.ids.length = (cfg.spec.lanes gid).length
  distinct : Distinct s.ids
  seen : ∀ id, Seen s id → id = default ∨ Drawn cfg.minter gid s.mintedFor id
  running : s.alive = true → s.group.phase.running = true → ∀ id ∈ s.ids, id ≠ default
  rolls : s.alive = true → s.group.phase.running = true → Staged cfg.minter gid s (s.group.pendingRoll.map Prod.snd)
  starts : s.alive = true → s.group.phase = .resetting →
    ∀ ids slots, s.group.pendingStart = some (ids, slots) → Staged cfg.minter gid s ids

/-! ## Rolls -/

theorem Distinct.set (h : Distinct ids) {position : Nat} (hid : id ∉ ids) : Distinct (ids.set position id) := by
  intro i j id' hi hj hne
  rw [List.getElem?_set] at hi hj
  have hlt : ∀ k, (if k < ids.length then some id else none) = some id' → id' = id := by
    intro k hk
    split at hk
    · exact (Option.some.inj hk).symm
    · cases hk
  split at hi
  · split at hj
    · rename_i h1 h2
      exact h1.symm.trans h2
    · rw [hlt _ hi] at hj
      exact absurd (List.mem_of_getElem? hj) hid
  · split at hj
    · rw [hlt _ hj] at hi
      exact absurd (List.mem_of_getElem? hi) hid
    · exact h i j id' hi hj hne

theorem roll_ids (lanes : List Nat) (hdistinct : Distinct ids) (hnodup : (pendingRoll.map Prod.snd).Nodup)
    (hnew : ∀ id ∈ pendingRoll.map Prod.snd, id ∉ ids) :
    Distinct (episodeIdsWithRoll ids lanes pendingRoll) ∧
      ∀ id ∈ episodeIdsWithRoll ids lanes pendingRoll, id ∈ ids ∨ id ∈ pendingRoll.map Prod.snd := by
  unfold episodeIdsWithRoll
  induction pendingRoll generalizing ids with
  | nil => exact ⟨hdistinct, fun id h => .inl h⟩
  | cons entry rest ih =>
    rw [List.map_cons, List.nodup_cons] at hnodup
    have hentry : entry.2 ∉ ids := hnew entry.2 (by simp)
    rw [List.foldl_cons]
    cases hp : lanes.idxOf? entry.1 with
    | none =>
      obtain ⟨hd, hm⟩ := ih hdistinct hnodup.2 (fun id h => hnew id (List.mem_cons_of_mem _ h))
      refine ⟨hd, fun id h => ?_⟩
      rcases hm id h with h | h
      · exact .inl h
      · exact .inr (List.mem_cons_of_mem _ h)
    | some position =>
      have hrest : ∀ id ∈ rest.map Prod.snd, id ∉ ids.set position entry.2 := by
        intro id hid hmem
        rcases List.mem_or_eq_of_mem_set hmem with h | h
        · exact hnew id (List.mem_cons_of_mem _ hid) h
        · subst h
          exact hnodup.1 hid
      obtain ⟨hd, hm⟩ := ih (hdistinct.set hentry) hnodup.2 hrest
      refine ⟨hd, fun id h => ?_⟩
      rcases hm id h with h | h
      · rcases List.mem_or_eq_of_mem_set h with h | rfl
        · exact .inl h
        · exact .inr (by simp)
      · exact .inr (List.mem_cons_of_mem _ h)

/-- What a lane holds after a roll: the id it was given, or the one it had. -/
theorem roll_getElem? (hn : lanes.Nodup) (hkeys : (pendingRoll.map Prod.fst).Nodup) (hlen : ids.length = lanes.length)
    {position lane : Nat} (hl : lanes[position]? = some lane) :
    (∃ id, (lane, id) ∈ pendingRoll ∧ (episodeIdsWithRoll ids lanes pendingRoll)[position]? = some id) ∨
    (lane ∉ pendingRoll.map Prod.fst ∧ (episodeIdsWithRoll ids lanes pendingRoll)[position]? = ids[position]?) := by
  have hlt := (List.getElem?_eq_some_iff.mp hl).1
  induction pendingRoll generalizing ids with
  | nil => exact .inr ⟨List.not_mem_nil, rfl⟩
  | cons entry rest ih =>
    rw [List.map_cons, List.nodup_cons] at hkeys
    rw [show episodeIdsWithRoll ids lanes (entry :: rest) =
      episodeIdsWithRoll (episodeIdsWithRoll ids lanes [entry]) lanes rest from rfl]
    -- The entry's own lane, if it is one of the group's, takes the entry's id.
    obtain ⟨hlen', hget'⟩ : (episodeIdsWithRoll ids lanes [entry]).length = lanes.length ∧
        (episodeIdsWithRoll ids lanes [entry])[position]? = if lane = entry.1 then some entry.2 else ids[position]? := by
      rw [episodeIdsWithRoll, List.foldl_cons, List.foldl_nil]
      cases hp : lanes.idxOf? entry.1 with
      | none =>
        refine ⟨hlen, ?_⟩
        rw [if_neg]
        rintro rfl
        exact List.idxOf?_eq_none_iff.mp hp (List.mem_of_getElem? hl)
      | some at' =>
        obtain ⟨hat, hget, -⟩ := List.idxOf?_eq_some_iff.mp hp
        refine ⟨by rw [List.length_set, hlen], ?_⟩
        rw [List.getElem?_set]
        have hiff : at' = position ↔ lane = entry.1 := by
          rw [← hget]
          constructor
          · rintro rfl
            exact (List.getElem?_eq_some_iff.mp hl).2.symm
          · rintro rfl
            exact (List.getElem?_inj hat hn).mp ((List.getElem?_eq_getElem hat).trans hl.symm)
        by_cases heq : lane = entry.1
        · rw [if_pos (hiff.mpr heq), if_pos heq, if_pos (by omega)]
        · rw [if_neg (fun h => heq (hiff.mp h)), if_neg heq]
    rcases ih hkeys.2 hlen' with ⟨id, hmem, hid⟩ | ⟨hmem, hid⟩
    · exact .inl ⟨id, List.mem_cons_of_mem _ hmem, hid⟩
    · by_cases heq : lane = entry.1
      · refine .inl ⟨entry.2, ?_, ?_⟩
        · rw [heq]
          exact List.mem_cons_self
        · exact hid.trans (hget'.trans (if_pos heq))
      · refine .inr ⟨?_, ?_⟩
        · rw [List.map_cons, List.mem_cons, not_or]
          exact ⟨heq, hmem⟩
        · exact hid.trans (hget'.trans (if_neg heq))

/-! ## Every move keeps the ids in order -/

theorem Staged.nil : Staged minter gid s [] := ⟨List.nodup_nil, nofun, nofun⟩

/-- Staged ids are still staged once more ids are drawn, as long as no more are seen. -/
theorem Staged.mono (h : Staged minter gid s ids) (hminted : ∃ more, s'.mintedFor = s.mintedFor ++ more)
    (hseen : ∀ id ∈ ids, Seen s' id → Seen s id) : Staged minter gid s' ids := by
  obtain ⟨more, hm⟩ := hminted
  refine ⟨h.nodup, fun id hid => ?_, fun id hid hs => h.unseen id hid (hseen id hid hs)⟩
  rw [hm]
  exact (h.drawn id hid).mono more

theorem Staged.of_mints (h : Mints minter gid mintedFor ids minted) (hminted : s.mintedFor = mintedFor ++ minted)
    (hseen : ∀ id, Seen s id → id = default ∨ Drawn minter gid mintedFor id) : Staged minter gid s ids := by
  refine ⟨h.nodup, fun id hid => ?_, fun id hid hs => ?_⟩
  · rw [hminted]
    exact (h.fresh hid).1
  · rcases hseen id hs with rfl | hd
    · exact (h.fresh hid).1.ne_default rfl
    · exact (h.fresh hid).2 gid hd

theorem IdsFit.of_same (h : IdsFit cfg gid s) (hids : s'.ids = s.ids) (hobs : s'.group.observed = s.group.observed)
    (hminted : ∃ more, s'.mintedFor = s.mintedFor ++ more)
    (hrun : s'.alive = true → s'.group.phase.running = true →
      s.alive = true ∧ s.group.phase.running = true ∧ s'.group.pendingRoll = s.group.pendingRoll)
    (hreset : s'.alive = true → s'.group.phase = .resetting →
      s.alive = true ∧ s.group.phase = .resetting ∧ s'.group.pendingStart = s.group.pendingStart) : IdsFit cfg gid s' := by
  have hseen : ∀ id, Seen s' id → Seen s id := by
    intro id hs
    unfold Seen at hs ⊢
    rwa [hids, hobs] at hs
  refine ⟨by rw [hids]; exact h.length, by rw [hids]; exact h.distinct, fun id hs => ?_, fun hl hp => ?_, fun hl hp => ?_,
    fun hl hp ids slots hs => ?_⟩
  · obtain ⟨more, hm⟩ := hminted
    rw [hm]
    exact (h.seen id (hseen id hs)).imp_right (fun hd => hd.mono more)
  · obtain ⟨hl', hp', -⟩ := hrun hl hp
    rw [hids]
    exact h.running hl' hp'
  · obtain ⟨hl', hp', hroll⟩ := hrun hl hp
    rw [hroll]
    exact (h.rolls hl' hp').mono hminted (fun id _ => hseen id)
  · obtain ⟨hl', hp', hstart⟩ := hreset hl hp
    rw [hstart] at hs
    exact (h.starts hl' hp' ids slots hs).mono hminted (fun id _ => hseen id)

theorem IdsFit.next (h : IdsFit cfg gid s) (hl : Live cfg gid s) (halive : s.alive = true)
    (hn : Next (cfg.spec.lanes gid) s ids) :
    ids.length = (cfg.spec.lanes gid).length ∧ Distinct ids ∧
      ∀ id ∈ ids, id ∈ s.ids ∨ Drawn cfg.minter gid s.mintedFor id := by
  rcases hn with rfl | ⟨slots, hphase, hstart⟩ | ⟨hphase, rfl⟩
  · exact ⟨h.length, h.distinct, fun id hid => .inl hid⟩
  · have hstaged := h.starts halive hphase ids slots hstart
    refine ⟨?_, fun i j id hi hj _ => ?_, fun id hid => .inr (hstaged.drawn id hid)⟩
    · have hop := (hl halive).op
      unfold OpFits at hop
      rw [hphase] at hop
      obtain ⟨_, _, ids', slots', -, hstart', hlen⟩ := hop
      rw [hstart] at hstart'
      cases hstart'
      exact hlen
    · exact (List.getElem?_inj (List.getElem?_eq_some_iff.mp hi).1 hstaged.nodup).mp (hi.trans hj.symm)
  · have hrun : s.group.phase.running = true := by rw [hphase]; rfl
    have hstaged := h.rolls halive hrun
    obtain ⟨hd, hm⟩ := roll_ids (cfg.spec.lanes gid) h.distinct hstaged.nodup
      (fun id hid hmem => hstaged.unseen id hid (.inl hmem))
    refine ⟨?_, hd, fun id hid => (hm id hid).imp_right (hstaged.drawn id)⟩
    rw [length_episodeIdsWithRoll]
    exact h.length

theorem IdsFit.seen_next (h : IdsFit cfg gid s) (hl : Live cfg gid s) (halive : s.alive = true)
    (hn : Next (cfg.spec.lanes gid) s s'.ids)
    (hobs : ∀ r ∈ s'.group.observed, r ∈ s.group.observed ∨ names r.episodeInfo = s'.ids) (hs : Seen s' id) :
    id = default ∨ Drawn cfg.minter gid s.mintedFor id := by
  have hids : id ∈ s'.ids → id = default ∨ Drawn cfg.minter gid s.mintedFor id := by
    intro hid
    rcases (h.next hl halive hn).2.2 id hid with hid | hd
    · exact h.seen id (.inl hid)
    · exact .inr hd
  rcases hs with hid | ⟨r, hr, hid⟩
  · exact hids hid
  · rcases hobs r hr with hr | hnames
    · exact h.seen id (.inr ⟨r, hr, hid⟩)
    · rw [hnames] at hid
      exact hids hid

theorem IdsFit.of_next (h : IdsFit cfg gid s) (hl : Live cfg gid s) (halive : s.alive = true)
    (hn : Next (cfg.spec.lanes gid) s s'.ids)
    (hobs : ∀ r ∈ s'.group.observed, r ∈ s.group.observed ∨ names r.episodeInfo = s'.ids)
    (hminted : ∃ more, s'.mintedFor = s.mintedFor ++ more)
    (hrun : s'.alive = true → s'.group.phase.running = true →
      (∀ id, Seen s' id → id = default ∨ Drawn cfg.minter gid s.mintedFor id) →
      (∀ id ∈ s'.ids, id ≠ default) ∧ Staged cfg.minter gid s' (s'.group.pendingRoll.map Prod.snd))
    (hreset : s'.alive = true → s'.group.phase = .resetting →
      (∀ id, Seen s' id → id = default ∨ Drawn cfg.minter gid s.mintedFor id) →
      ∀ ids slots, s'.group.pendingStart = some (ids, slots) → Staged cfg.minter gid s' ids) : IdsFit cfg gid s' := by
  obtain ⟨hlen, hdistinct, -⟩ := h.next hl halive hn
  have hseen : ∀ id, Seen s' id → id = default ∨ Drawn cfg.minter gid s.mintedFor id :=
    fun id hs => h.seen_next hl halive hn hobs hs
  refine ⟨hlen, hdistinct, fun id hs => ?_, fun hl hp => (hrun hl hp hseen).1, fun hl hp => (hrun hl hp hseen).2,
    fun hl hp => hreset hl hp hseen⟩
  obtain ⟨more, hm⟩ := hminted
  rw [hm]
  exact (hseen id hs).imp_right (fun hd => hd.mono more)

theorem Launched.idsFit (h : Launched cfg gid s) : IdsFit cfg gid s := by
  have hdefault : ∀ id ∈ (cfg.spec.lanes gid).map (fun _ => (default : Id)), id = default := by
    intro id hid
    obtain ⟨_, -, rfl⟩ := List.mem_map.mp hid
    rfl
  have hseen : ∀ (mintedFor : List Nat) (id : Id),
      Seen (Station.initial (cfg.spec.lanes gid) mintedFor true : Station Id R) id → id = default := by
    rintro mintedFor id (hid | ⟨_, hr, -⟩)
    · exact hdefault id hid
    · cases hr
  have hdistinct : Distinct ((cfg.spec.lanes gid).map (fun _ => (default : Id))) := fun i j id hi _ hne =>
    absurd (hdefault id (List.mem_of_getElem? hi)) hne
  cases h with
  | retired mintedFor =>
    exact ⟨by simp [Station.initial], hdistinct, fun id hs => .inl (hseen mintedFor id hs), fun _ h => (by cases h),
      fun _ h => (by cases h), fun _ h => (by cases h)⟩
  | reset before request ids slots minted more hlen hmints =>
    refine ⟨by simp [Station.initial, Station.restart], hdistinct,
      fun id hs => .inl (hseen before id hs), fun _ h => (by cases h), fun _ h => (by cases h),
      fun _ _ ids' slots' hs => ?_⟩
    cases hs
    refine Staged.mono (s := { (Station.initial (cfg.spec.lanes gid) before true).restart true request ids slots 0 minted
      with mintedFor := before ++ minted }) (Staged.of_mints hmints rfl (fun id hs => ?_)) ⟨more, rfl⟩ (fun _ _ hs => hs)
    exact .inl (hseen before id hs)
  | dead mintedFor =>
    exact ⟨by simp [Station.initial], hdistinct, fun id hs => .inl (hseen mintedFor id hs), fun h => (by cases h),
      fun h => (by cases h), fun h => (by cases h)⟩

theorem observed_stamp {group : Group Id R} {deliver : Bool} {msg : PredictRequest Id}
    (hmsg : names msg.episodeInfo = ids) :
    ∀ r ∈ group.observed ++ [group.stamp deliver msg], r ∈ group.observed ∨ names r.episodeInfo = ids := by
  intro r hr
  rcases List.mem_append.mp hr with hr | hr
  · exact .inl hr
  · obtain rfl := List.mem_singleton.mp hr
    refine .inr ?_
    unfold Group.stamp
    split <;> exact hmsg

theorem Move.idsFit (hm : Move cfg gid C s s') (hl : Live cfg gid s) (h : IdsFit cfg gid s) : IdsFit cfg gid s' := by
  cases hm with
  | minted more => exact h.of_same rfl rfl ⟨more, rfl⟩ (fun hl hp => ⟨hl, hp, rfl⟩) (fun hl hp => ⟨hl, hp, rfl⟩)
  | skipped group halive hready ht =>
    have hsame := s.group.takeFrame_none _ _ ht (fun hp => (hl halive).chunk [] hp rfl)
    rw [hsame.1]
    exact h
  | dispatched frame group request halive hready ht =>
    obtain ⟨_, _, _, rfl, -⟩ := s.group.takeFrame_some _ _ ht
    exact h.of_same rfl rfl ⟨[], (List.append_nil _).symm⟩ (fun _ _ => ⟨halive, by rw [hready]; rfl, rfl⟩)
      (fun _ hp => (by cases hp))
  | sent msg halive hw =>
    exact h.of_same rfl rfl ⟨[], (List.append_nil _).symm⟩ (fun hl hp => ⟨hl, hp, rfl⟩) (fun hl hp => ⟨hl, hp, rfl⟩)
  | landed request frames halive hfly _ hfrom =>
    rcases s.group.landed_cases cfg.deliverHistory frames with ⟨-, _, -, -, -, he⟩ | ⟨-, -, he⟩ | ⟨-, -, he⟩ |
      ⟨-, -, he⟩ | ⟨-, he⟩ <;> rw [he] <;>
    exact h.of_same rfl rfl ⟨[], (List.append_nil _).symm⟩ (fun hl hp => ⟨hl, hp, rfl⟩) (fun hl hp => ⟨hl, hp, rfl⟩)
  | started initial request ids slots msg group halive hop hpending hfresh hobs =>
    have hphase := (hl halive).op.resetting hop
    have hcleared := (hl halive).cleared hphase
    have hstaged := h.starts halive hphase ids slots hpending
    obtain ⟨own, predict, history, rfl, -⟩ := Group.observe_some _ _ hobs
    refine h.of_next hl halive (.inr (.inl ⟨slots, hphase, hpending⟩)) ?_ ⟨[], (List.append_nil _).symm⟩
      (fun _ _ _ => ⟨fun id hid => (hstaged.drawn id hid).ne_default, ?_⟩) (fun _ hp => (by cases hp))
    · exact observed_stamp hfresh.named
    · rw [show s.group.pendingRoll = [] from hcleared.2.2.1]
      exact Staged.nil
  | stopped frame request completes rolls events minted halive hop =>
    have hphase := (hl halive).op.stepping hop
    refine h.of_next hl halive (.inr (.inr ⟨hphase, rfl⟩)) (fun r hr => .inl ?_) ⟨minted, rfl⟩
      (fun _ hp => (by cases hp)) (fun _ hp => (by cases hp))
    rw [← (settle_op s (cfg.spec.lanes gid) completes rolls events minted).2]
    exact hr
  | restarted frame request rolls events minted initial resetRequest ids slots generation minted' halive hop _ hlen hmints =>
    have hphase := (hl halive).op.stepping hop
    refine h.of_next hl halive (.inr (.inr ⟨hphase, rfl⟩)) (fun r hr => .inl hr)
      ⟨minted ++ minted', List.append_assoc _ _ _⟩ (fun _ hp => (by cases hp)) (fun _ _ hseen ids' slots' hs => ?_)
    cases hs
    exact Staged.of_mints hmints rfl (fun id hs => (hseen id hs).imp_right (fun hd => hd.mono minted))
  | observed frame request completes rolls events minted msg group halive hop hbare _ hrolls hmints hfresh hobs =>
    have hphase := (hl halive).op.stepping hop
    have hrunning : s.group.phase.running = true := by rw [hphase]; rfl
    have hsettle := (settle_op s (cfg.spec.lanes gid) completes rolls events minted).2
    have hrolled : (s.settle (cfg.spec.lanes gid) completes rolls events minted).group.pendingRoll = rolls := by
      cases completes <;> rfl
    obtain ⟨own, predict, history, rfl, -⟩ := Group.observe_some _ _ hobs
    refine h.of_next hl halive (.inr (.inr ⟨hphase, rfl⟩)) (fun r hr => ?_) ⟨minted, rfl⟩
      (fun _ _ hseen => ⟨fun id hid => ?_, ?_⟩) (fun _ hp => (by cases hp))
    · rw [← hsettle]
      exact observed_stamp hfresh.named r hr
    · rcases (h.next hl halive (.inr (.inr ⟨hphase, rfl⟩))).2.2 id hid with hid | hd
      · exact h.running halive hrunning id hid
      · exact hd.ne_default
    · show Staged cfg.minter gid _ ((s.settle (cfg.spec.lanes gid) completes rolls events minted).group.pendingRoll.map
        Prod.snd)
      rw [hrolled]
      exact Staged.of_mints hmints rfl hseen
  | failed group ids flying more halive hop hobs hnext =>
    refine h.of_next hl halive hnext (fun r hr => .inl ?_) ⟨more, rfl⟩ (fun hl => (by cases hl)) (fun hl => (by cases hl))
    rw [← hobs]
    exact hr
  | killed =>
    exact h.of_same rfl rfl ⟨[], (List.append_nil _).symm⟩ (fun hl => (by cases hl)) (fun hl => (by cases hl))
  | drained flying hdead =>
    exact h.of_same rfl rfl ⟨[], (List.append_nil _).symm⟩ (fun hl hp => ⟨hl, hp, rfl⟩) (fun hl hp => ⟨hl, hp, rfl⟩)

theorem reach_idsFit {s : Session Id R} (h : cfg.runs.Reach (fun _ _ => True) s) (hg : gid < cfg.spec.groupCount) :
    IdsFit cfg gid (cfg.stationOf gid s) :=
  (reach_station (IdsFit cfg) (fun _ _ h => h.idsFit) (fun _ _ _ hl h hm => hm.idsFit hl h) (reach_meets h) hg).2

end Rlmesh.Runtime
