import Rlmesh.Join.Streams
/-!
# No caller waits on an ended stream

`Attended` is kept by everything callers and pumps do: a call that still waits
has its reply, or its sender is still at the desk or in the pump's hands. A
pump that has ended holds no sender, so what is left is that none is at the desk
either. The env client closes the desk. The model client does not: a call that
comes after the drain is registered, and it waits for ever unless the stream's queue
refuses its request.
-/
open Rlmesh.Lib

namespace Rlmesh.Join

variable {Pump Body : Type} {s s' : Stream Pump Body}

/-! ## What calls and pumps keep -/

/-- The call still goes on. -/
def Phase.pending : Phase Body → Prop
  | .sending _ | .waiting _ => True
  | _ => False

structure Stream.Attended (s : Stream Pump Body) : Prop where
  sound : s.pending.Sound
  fresh : ∀ c, s.callers c = .idle → c ∉ s.pending.senders ∧ s.pending.channels c = .empty
  named : ∀ entry ∈ s.pending.entries, (s.callers entry.2).requestId = some entry.1
  own : ∀ c response, s.pending.channels c = .sent (.ok response) → (s.callers c).requestId = some response.requestId
  live : ∀ c, (s.callers c).pending → s.pending.channels c = .empty → c ∈ s.pending.senders
  answered : ∀ c requestId response, s.callers c = .done requestId (.ok response) → response.requestId = requestId

/-- Results stay, of a channel and of a call, and so do request ids. -/
structure Stream.Settles (s s' : Stream Pump Body) : Prop where
  channels : ∀ c, s.pending.channels c ≠ .empty → s'.pending.channels c = s.pending.channels c
  callers : ∀ c requestId result, s.callers c = .done requestId result → s'.callers c = .done requestId result
  ids : ∀ c requestId, (s.callers c).requestId = some requestId → (s'.callers c).requestId = some requestId

namespace Stream

theorem Settles.refl (s : Stream Pump Body) : s.Settles s :=
  ⟨fun _ _ => rfl, fun _ _ _ h => h, fun _ _ h => h⟩

theorem Settles.trans {s'' : Stream Pump Body} (h : s.Settles s') (h' : s'.Settles s'') : s.Settles s'' where
  channels c hc := by
    have hsame := h.channels c hc
    rw [h'.channels c (by rwa [hsame]), hsame]
  callers c requestId result hdone := h'.callers c requestId result (h.callers c requestId result hdone)
  ids c requestId hid := h'.ids c requestId (h.ids c requestId hid)

theorem callers_putCaller (s : Stream Pump Body) (c : Nat) (phase : Phase Body) (other : Nat) :
    (s.putCaller c phase).callers other = if other = c then phase else s.callers other :=
  Function.update_apply s.callers c phase other

/-- The call of `requestId` has not returned: it has yet to start, or still goes on. -/
def Open (s : Stream Pump Body) (c : Nat) (requestId : String) : Prop :=
  s.callers c = .idle ∨ s.callers c = .sending requestId ∨ s.callers c = .waiting requestId

variable {c : Nat} {requestId : String} {d : Desk String (Reply Body)}

theorem Open.id {other : String} (h : s.Open c requestId) (hid : (s.callers c).requestId = some other) :
    other = requestId := by
  rcases h with h | h | h <;> rw [h] at hid <;> cases hid <;> rfl

theorem Open.not_done {other : String} {result : Except CallError (Response Body)} (h : s.Open c requestId) :
    s.callers c ≠ .done other result := by
  intro hdone
  rcases h with h | h | h <;> rw [h] at hdone <;> cases hdone

theorem Attended.putCaller (h : s.Attended) (hopen : s.Open c requestId) (phase : Phase Body)
    (hphase : phase.requestId = some requestId)
    (hlive : phase.pending → s.pending.channels c = .empty → c ∈ s.pending.senders)
    (hanswer : ∀ response, phase = .done requestId (.ok response) → response.requestId = requestId) :
    (s.putCaller c phase).Attended ∧ s.Settles (s.putCaller c phase) := by
  refine ⟨⟨h.sound, fun other hidle => ?_, fun entry hentry => ?_, fun other response hsent => ?_,
    fun other hpending hempty => ?_, fun other requestId' response hdone => ?_⟩, fun _ _ => rfl,
    fun other requestId' result hdone => ?_, fun other requestId' hother => ?_⟩
  · rw [callers_putCaller] at hidle
    split at hidle
    · rw [hidle] at hphase
      cases hphase
    · exact h.fresh other hidle
  · have hnamed := h.named entry hentry
    rw [callers_putCaller]
    split
    · rename_i heq
      rw [heq] at hnamed
      rw [hphase, hopen.id hnamed]
    · exact hnamed
  · have hown := h.own other response hsent
    rw [callers_putCaller]
    split
    · rename_i heq
      rw [heq] at hown
      rw [hphase, hopen.id hown]
    · exact hown
  · rw [callers_putCaller] at hpending
    split at hpending
    · rename_i heq
      rw [heq] at hempty ⊢
      exact hlive hpending hempty
    · exact h.live other hpending hempty
  · rw [callers_putCaller] at hdone
    split at hdone
    · rw [hdone] at hphase
      cases hphase
      exact hanswer response hdone
    · exact h.answered other requestId' response hdone
  · rw [callers_putCaller, if_neg]
    · exact hdone
    · rintro rfl
      exact hopen.not_done hdone
  · rw [callers_putCaller]
    split
    · rename_i heq
      rw [heq] at hother
      rw [hphase, hopen.id hother]
    · exact hother

theorem Attended.fail (h : s.Attended) (hopen : s.Open c requestId) (e : CallError) :
    (s.putCaller c (.done requestId (.error e))).Attended ∧ s.Settles (s.putCaller c (.done requestId (.error e))) :=
  h.putCaller hopen _ rfl (fun hno => hno.elim) (fun _ hdone => by cases hdone)

/-- Senders are used or dropped; a reply is sent to the call that carries its request id. -/
theorem Attended.serve (h : s.Attended) {pump : Pump} (hsound : d.Sound) (hfollows : s.pending.Follows d)
    (hreply : ∀ c response, d.channels c = .sent (.ok response) → s.pending.channels c = .sent (.ok response) ∨ (s.callers c).requestId = some response.requestId) :
    Attended { s with pending := d, pump := pump } where
  sound := hsound
  fresh c hidle := by
    obtain ⟨hnot, hempty⟩ := h.fresh c hidle
    exact ⟨fun hmem => hnot (hfollows.senders hmem), (hfollows.other c hnot).trans hempty⟩
  named entry hentry := h.named entry (hfollows.entries hentry)
  own c response hsent := (hreply c response hsent).elim (h.own c response) id
  live c hpending hempty := by
    by_cases hmem : c ∈ s.pending.senders
    · exact hfollows.kept c hmem hempty
    · rw [hfollows.other c hmem] at hempty
      exact absurd (h.live c hpending hempty) hmem
  answered := h.answered

theorem Attended.settles_serve (h : s.Attended) {pump : Pump} (hfollows : s.pending.Follows d) :
    s.Settles { s with pending := d, pump := pump } :=
  ⟨fun _ hc => hfollows.stays h.sound hc, fun _ _ _ hdone => hdone, fun _ _ hid => hid⟩

/-! ## Calls -/

theorem Attended.removed (h : s.Attended) (requestId : String) :
    Attended { s with pending := s.pending.remove requestId } ∧
      s.Settles { s with pending := s.pending.remove requestId } := by
  have hfollows := Desk.follows_remove h.sound requestId
  refine ⟨h.serve (h.sound.remove requestId) hfollows fun c response hsent => ?_, h.settles_serve hfollows⟩
  rcases Desk.channels_remove s.pending requestId c with hsame | hclosed
  · exact .inl (hsame ▸ hsent)
  · rw [hclosed] at hsent
    cases hsent

theorem Attended.unsent (h : s.Attended) (hopen : s.Open c requestId) :
    (s.unsent c requestId).Attended ∧ s.Settles (s.unsent c requestId) := by
  obtain ⟨hremoved, hsettles⟩ := h.removed requestId
  obtain ⟨hattended, hput⟩ := hremoved.fail hopen .streamGone
  exact ⟨hattended, hsettles.trans hput⟩

theorem Attended.inserted (h : s.Attended) (hidle : s.callers c = .idle) (requestId : String) :
    let entered := { s with pending := s.pending.insert requestId c }.putCaller c (.waiting requestId)
    entered.Attended ∧ s.Settles entered := by
  obtain ⟨hnot, hempty⟩ := h.fresh c hidle
  obtain ⟨hremoved, hsettles⟩ := h.removed requestId
  have hsound := h.sound.insert requestId hnot hempty
  have hcallers : ∀ other, ({ s with pending := s.pending.insert requestId c }.putCaller c (.waiting requestId)).callers other =
      if other = c then .waiting requestId else s.callers other := fun other => Function.update_apply s.callers c _ other
  refine ⟨⟨hsound, fun other hother => ?_, fun entry hentry => ?_, fun other response hsent => ?_,
    fun other hpending hchannel => ?_, fun other requestId' response hdone => ?_⟩, ?_⟩
  · rw [hcallers] at hother
    split at hother
    · cases hother
    · rename_i hne
      obtain ⟨hother', hchannel⟩ := hremoved.fresh other hother
      refine ⟨fun hmem => ?_, hchannel⟩
      rcases List.mem_cons.1 hmem with heq | hmem
      · exact hne heq
      · exact hother' hmem
  · rw [hcallers]
    rcases List.mem_cons.1 hentry with rfl | hentry
    · rw [if_pos rfl]
      rfl
    · have hold := hremoved.named entry hentry
      split
      · rename_i heq
        rw [heq, hidle] at hold
        cases hold
      · exact hold
  · have hown := hremoved.own other response hsent
    rw [hcallers]
    split
    · rename_i heq
      rw [heq, hidle] at hown
      cases hown
    · exact hown
  · rw [hcallers] at hpending
    split at hpending
    · rename_i heq
      exact List.mem_cons.2 (.inl heq)
    · exact List.mem_cons_of_mem _ (hremoved.live other hpending hchannel)
  · rw [hcallers] at hdone
    split at hdone
    · cases hdone
    · exact h.answered other requestId' response hdone
  · refine ⟨hsettles.channels, fun other requestId' result hdone => ?_, fun other requestId' hid => ?_⟩ <;>
    · rw [hcallers, if_neg]
      · assumption
      · rintro rfl
        simp [hidle, Phase.requestId] at *

theorem Attended.register (h : s.Attended) (hidle : s.callers c = .idle) (requestId : String) (queue : Queue) :
    (s.register c requestId queue).Attended ∧ s.Settles (s.register c requestId queue) := by
  obtain ⟨hentered, hsettles⟩ := h.inserted hidle requestId
  -- the last phase put is the one that counts, so every outcome may go through the waiting call
  have hlast : ∀ (t : Stream Pump Body) (phase phase' : Phase Body), (t.putCaller c phase).putCaller c phase' = t.putCaller c phase' :=
    fun t phase phase' => by simp only [Stream.putCaller, Function.update_idem]
  have hself : ({ s with pending := s.pending.insert requestId c }.putCaller c (.waiting requestId)).callers c = .waiting requestId :=
    Function.update_self c _ s.callers
  have hopen : ({ s with pending := s.pending.insert requestId c }.putCaller c (.waiting requestId)).Open c requestId :=
    .inr (.inr hself)
  cases queue with
  | accepts => exact ⟨hentered, hsettles⟩
  | full =>
    rw [show s.register c requestId .full = _ from (hlast _ (.waiting requestId) _).symm]
    obtain ⟨hattended, hput⟩ := hentered.putCaller hopen (.sending requestId) rfl
      (fun _ => hentered.live c (by rw [hself]; trivial)) (fun _ hdone => by cases hdone)
    exact ⟨hattended, hsettles.trans hput⟩
  | refuses =>
    have hsame : s.register c requestId .refuses =
        ({ s with pending := s.pending.insert requestId c }.putCaller c (.waiting requestId)).unsent c requestId :=
      (hlast { s with pending := (s.pending.insert requestId c).remove requestId } (.waiting requestId) _).symm
    rw [hsame]
    obtain ⟨hattended, hunsent⟩ := hentered.unsent hopen
    exact ⟨hattended, hsettles.trans hunsent⟩

theorem received_ok {channel : Oneshot (Reply Body)} {response : Response Body} (h : received channel = some (.ok response)) :
    channel = .sent (.ok response) := by
  match channel, h with
  | .sent (.ok _), h => cases h; rfl

/-- A call goes on: what is registered is left alone, but for its own waiter. -/
structure GoesOn (s s' : Stream Pump Body) : Prop where
  attended : s'.Attended
  settles : s.Settles s'
  held : s'.pending.held = s.pending.held
  entries : s'.pending.entries ⊆ s.pending.entries
  pump : s'.pump = s.pump

theorem GoesOn.putCaller (h : s.Attended) (hopen : s.Open c requestId) (phase : Phase Body)
    (hphase : phase.requestId = some requestId)
    (hlive : phase.pending → s.pending.channels c = .empty → c ∈ s.pending.senders)
    (hanswer : ∀ response, phase = .done requestId (.ok response) → response.requestId = requestId) :
    s.GoesOn (s.putCaller c phase) :=
  have hput := h.putCaller hopen phase hphase hlive hanswer
  ⟨hput.1, hput.2, rfl, fun _ hentry => hentry, rfl⟩

theorem GoesOn.fail (h : s.Attended) (hopen : s.Open c requestId) (e : CallError) :
    s.GoesOn (s.putCaller c (.done requestId (.error e))) :=
  .putCaller h hopen _ rfl (fun hno => hno.elim) (fun _ hdone => by cases hdone)

theorem GoesOn.put (h : s.Attended) {accepted : Bool} (hput : s.put c accepted = some s') : s.GoesOn s' := by
  unfold Stream.put at hput
  split at hput
  · rename_i requestId hcaller
    have hopen : s.Open c requestId := .inr (.inl hcaller)
    cases hput
    split
    · exact .putCaller h hopen _ rfl (fun _ => h.live c (by rw [hcaller]; trivial)) (fun _ hdone => by cases hdone)
    · obtain ⟨hattended, hsettles⟩ := h.unsent hopen
      exact ⟨hattended, hsettles, Desk.held_remove _ _, (Desk.follows_remove h.sound requestId).entries, rfl⟩
  · cases hput

theorem GoesOn.resume (h : s.Attended) (hresume : s.resume c = some s') : s.GoesOn s' := by
  unfold Stream.resume at hresume
  split at hresume
  · rename_i requestId hcaller
    obtain ⟨result, hresult, rfl⟩ := Option.map_eq_some_iff.1 hresume
    have hopen : s.Open c requestId := .inr (.inr hcaller)
    refine .putCaller h hopen _ rfl (fun hno => hno.elim) (fun response hdone => ?_)
    cases hdone
    exact hopen.id (h.own c response (received_ok hresult))
  · cases hresume

theorem GoesOn.drop (h : s.Attended) (hdrop : s.drop c = some s') : s.GoesOn s' := by
  unfold Stream.drop at hdrop
  split at hdrop
  · rename_i requestId hcaller
    cases hdrop
    exact .putCaller h (.inr (.inl hcaller)) _ rfl (fun hno => hno.elim) (fun _ hdone => by cases hdone)
  · rename_i requestId hcaller
    cases hdrop
    exact .putCaller h (.inr (.inr hcaller)) _ rfl (fun hno => hno.elim) (fun _ hdone => by cases hdone)
  · cases hdrop

theorem held_register (s : Stream Pump Body) (c : Nat) (requestId : String) (queue : Queue) :
    (s.register c requestId queue).pending.held = s.pending.held ∧ (s.register c requestId queue).pump = s.pump := by
  have hinsert : (s.pending.insert requestId c).held = s.pending.held := Desk.held_remove _ _
  cases queue with
  | accepts | full => exact ⟨hinsert, rfl⟩
  | refuses => exact ⟨(Desk.held_remove _ _).trans hinsert, rfl⟩

theorem entries_register_refuses (h : s.Attended) (hidle : s.callers c = .idle) (requestId : String) :
    (s.register c requestId .refuses).pending.entries ⊆ s.pending.entries := by
  obtain ⟨hnot, hempty⟩ := h.fresh c hidle
  have hinserted := h.sound.insert requestId hnot hempty
  intro entry hentry
  rcases List.mem_cons.1 ((Desk.follows_remove hinserted requestId).entries hentry) with rfl | hold
  · exact absurd (List.mem_map_of_mem hentry) (Desk.remove_key _ requestId)
  · exact (Desk.follows_remove h.sound requestId).entries hold

/-! ## Pumps -/

theorem Attended.told (h : s.Attended) (pump : Pump) (outcome : Oneshot (Reply Body)) (hsound : d.Sound)
    (hfollows : s.pending.Follows d)
    (hchannels : ∀ c, d.channels c = s.pending.channels c ∨ d.channels c = outcome ∧ ∀ response, outcome = .sent (.ok response) → (s.callers c).requestId = some response.requestId) :
    Attended { s with pending := d, pump := pump } ∧ s.Settles { s with pending := d, pump := pump } := by
  refine ⟨h.serve hsound hfollows fun c response hsent => ?_, h.settles_serve hfollows⟩
  rcases hchannels c with hsame | ⟨houtcome, hnamed⟩
  · exact .inl (hsame ▸ hsent)
  · exact .inr (hnamed response (houtcome ▸ hsent))

end Stream

namespace EnvStream

variable {s s' : Stream EnvPump Body}

/-- Between two events the env client's pump holds no sender, and the desk is empty once it has ended. -/
structure Inv (s : Stream EnvPump Body) : Prop where
  attended : s.Attended
  held : s.pending.held = []
  closed : s.pump = .ended → s.pending.entries = []

theorem Inv.goesOn (h : Inv s) (hgoes : s.GoesOn s') : Inv s' ∧ s.Settles s' := by
  refine ⟨⟨hgoes.attended, hgoes.held.trans h.held, fun hended => ?_⟩, hgoes.settles⟩
  have hentries := hgoes.entries
  rw [h.closed (hgoes.pump ▸ hended)] at hentries
  exact List.subset_nil.1 hentries

theorem Inv.call (h : Inv s) {c : Nat} (hidle : s.callers c = .idle) (requestId : String) (queue : Queue) :
    Inv (call s c requestId queue) ∧ s.Settles (call s c requestId queue) := by
  unfold EnvStream.call
  split
  · exact h.goesOn (.fail h.attended (.inl hidle) .streamGone)
  · rename_i hreading
    obtain ⟨hattended, hsettles⟩ := h.attended.register hidle requestId queue
    obtain ⟨hheld, hpump⟩ := s.held_register c requestId queue
    refine ⟨⟨hattended, hheld.trans h.held, fun hended => ?_⟩, hsettles⟩
    rw [hpump, hreading] at hended
    cases hended

theorem Inv.dispatchReply (h : Inv s) (hreading : s.pump = .reading) (response : Response Body) :
    Inv (dispatchReply s response) ∧ s.Settles (dispatchReply s response) := by
  have hsound := h.attended.sound
  obtain ⟨htold, hfollows, hheld, hchannels⟩ :=
    Desk.useAll_spec (hsound.take response.requestId) (.sent (.ok response)) (nomatch ·)
  have hserved := h.attended.told s.pump (.sent (.ok response)) htold ((Desk.follows_take hsound _).trans hfollows) fun c => ?_
  · refine ⟨⟨hserved.1, hheld, fun hended => ?_⟩, hserved.2⟩
    rw [show s.pump = _ from hended] at hreading
    cases hreading
  · rw [hchannels c]
    split
    · rename_i hc
      refine .inr ⟨rfl, fun answer hanswer => ?_⟩
      cases hanswer
      -- the only sender taken out is the one under the response's request id
      simp only [Desk.take, h.held, List.append_nil, Option.mem_toList] at hc
      exact h.attended.named _ (mem_of_lookup hc)
    · exact .inl rfl

theorem Inv.dispatchEnd (h : Inv s) {outcome : Oneshot (Reply Body)} (houtcome : outcome ≠ .empty)
    (herror : ∀ response, outcome ≠ .sent (.ok response)) : Inv (dispatchEnd s outcome) ∧ s.Settles (dispatchEnd s outcome) := by
  have hsound := h.attended.sound
  obtain ⟨htold, hfollows, hheld, hchannels⟩ := Desk.useAll_spec hsound.drain outcome houtcome
  have hserved := h.attended.told .ended outcome htold ((Desk.follows_drain _).trans hfollows) fun c => ?_
  · exact ⟨⟨hserved.1, hheld, fun _ => List.subset_nil.1 hfollows.entries⟩, hserved.2⟩
  · rw [hchannels c]
    split
    · exact .inr ⟨rfl, fun answer hanswer => absurd hanswer (herror answer)⟩
    · exact .inl rfl

theorem Inv.step (h : Inv s) {e : Event Body} (hs : step s e = some s') : Inv s' ∧ s.Settles s' := by
  cases e with
  | call c requestId queue =>
    simp only [EnvStream.step] at hs
    split at hs
    · rename_i hidle
      cases hs
      exact h.call hidle requestId queue
    · cases hs
  | put c accepted => exact h.goesOn (.put h.attended hs)
  | resume c => exact h.goesOn (.resume h.attended hs)
  | drop c => exact h.goesOn (.drop h.attended hs)
  | reply response =>
    simp only [EnvStream.step] at hs
    split at hs
    · rename_i hreading
      cases hs
      exact h.dispatchReply hreading response
    · cases hs
  | finish =>
    simp only [EnvStream.step] at hs
    split at hs
    · cases hs
      exact h.dispatchEnd (nomatch ·) (fun _ => (nomatch ·))
    · cases hs
  | fail status =>
    simp only [EnvStream.step] at hs
    split at hs
    · cases hs
      exact h.dispatchEnd (nomatch ·) (fun _ heq => by cases heq)
    · cases hs
  | tell => cases hs

end EnvStream

namespace ModelStream

variable {s s' : Stream (ModelPump Body) Body} {refused : Prop}

/-- The pump has drained the waiters, or is done. -/
def Drained (s : Stream (ModelPump Body) Body) : Prop := (∃ status, s.pump = .failing status) ∨ s.pump = .ended

/-- Once the waiters were drained, the stream's queue refuses every request. -/
def RefusesDrained (s : Stream (ModelPump Body) Body) : Event Body → Prop
  | .call _ _ queue => Drained s → queue = .refuses
  | _ => True

/-- What the model client's pump holds; its desk stays empty once it was drained, if late requests are `refused`. -/
structure Inv (refused : Prop) (s : Stream (ModelPump Body) Body) : Prop where
  attended : s.Attended
  reading : s.pump = .reading → s.pending.held = []
  delivering : ∀ response, s.pump = .delivering response →
    ∃ c, s.pending.held = [c] ∧ (s.callers c).requestId = some response.requestId
  ended : s.pump = .ended → s.pending.held = []
  closed : refused → Drained s → s.pending.entries = []

theorem Inv.calls (h : Inv refused s) (hheld : s'.pending.held = s.pending.held) (hpump : s'.pump = s.pump)
    (hattended : s'.Attended) (hsettles : s.Settles s')
    (hclosed : refused → Drained s → s'.pending.entries ⊆ s.pending.entries) : Inv refused s' where
  attended := hattended
  reading hreading := hheld.trans (h.reading (hpump ▸ hreading))
  delivering response hdelivering := by
    obtain ⟨c, hc, hid⟩ := h.delivering response (hpump ▸ hdelivering)
    exact ⟨c, hheld.trans hc, hsettles.ids c _ hid⟩
  ended hended := hheld.trans (h.ended (hpump ▸ hended))
  closed hr hdrained := by
    have hbefore : Drained s := by
      unfold Drained at *
      rwa [hpump] at hdrained
    have hentries := hclosed hr hbefore
    rw [h.closed hr hbefore] at hentries
    exact List.subset_nil.1 hentries

theorem Inv.goesOn (h : Inv refused s) (hgoes : s.GoesOn s') : Inv refused s' ∧ s.Settles s' :=
  ⟨h.calls hgoes.held hgoes.pump hgoes.attended hgoes.settles (fun _ _ => hgoes.entries), hgoes.settles⟩

theorem Inv.call (h : Inv refused s) {c : Nat} (hidle : s.callers c = .idle) (requestId : String) (queue : Queue)
    (hlate : refused → Drained s → queue = .refuses) :
    Inv refused (call s c requestId queue) ∧ s.Settles (call s c requestId queue) := by
  unfold ModelStream.call
  split
  · exact h.goesOn (.fail h.attended (.inl hidle) _)
  · obtain ⟨hattended, hsettles⟩ := h.attended.register hidle requestId queue
    obtain ⟨hheld, hpump⟩ := s.held_register c requestId queue
    refine ⟨h.calls hheld hpump hattended hsettles (fun hr hdrained => ?_), hsettles⟩
    obtain rfl := hlate hr hdrained
    exact Stream.entries_register_refuses h.attended hidle requestId

theorem Inv.readReply (h : Inv refused s) (hreading : s.pump = .reading) (response : Response Body) :
    Inv refused (readReply s response) ∧ s.Settles (readReply s response) := by
  unfold ModelStream.readReply
  split
  · rename_i c hlookup
    have hsound := h.attended.sound
    obtain ⟨hattended, hsettles⟩ := h.attended.told (.delivering response) .empty (hsound.take response.requestId)
      (Desk.follows_take hsound _) fun _ => .inl rfl
    refine ⟨⟨hattended, (nomatch ·), fun answer hanswer => ?_, (nomatch ·), fun _ hdrained => ?_⟩, hsettles⟩
    · cases hanswer
      exact ⟨c, by simp [Desk.take, hlookup, h.reading hreading], h.attended.named _ (mem_of_lookup hlookup)⟩
    · rcases hdrained with ⟨_, hfailing⟩ | hended
      · cases hfailing
      · cases hended
  · exact ⟨h, .refl s⟩

theorem Inv.failAllPending (h : Inv refused s) (status : Status) :
    Inv refused (failAllPending s status) ∧ s.Settles (failAllPending s status) := by
  obtain ⟨hattended, hsettles⟩ := h.attended.told (.failing status) .empty h.attended.sound.drain (Desk.follows_drain _)
    fun _ => .inl rfl
  exact ⟨⟨hattended, (nomatch ·), fun _ => (nomatch ·), (nomatch ·), fun _ _ => rfl⟩, hsettles⟩

theorem used (h : Inv refused s) (pump : ModelPump Body) {c : Nat} (hc : c ∈ s.pending.held) (outcome : Oneshot (Reply Body))
    (houtcome : outcome ≠ .empty)
    (hnamed : ∀ response, outcome = .sent (.ok response) → (s.callers c).requestId = some response.requestId) :
    Stream.Attended { s with pending := s.pending.use c outcome, pump := pump } ∧
      s.Settles { s with pending := s.pending.use c outcome, pump := pump } := by
  have hsound := h.attended.sound
  refine h.attended.told pump outcome (hsound.use hc outcome) (Desk.follows_use hsound hc houtcome) fun other => ?_
  rw [Desk.channels_use]
  split
  · rename_i heq
    exact .inr ⟨rfl, heq ▸ hnamed⟩
  · exact .inl rfl

theorem Inv.tell (h : Inv refused s) (htell : tell s = some s') : Inv refused s' ∧ s.Settles s' := by
  unfold ModelStream.tell at htell
  split at htell
  · rename_i response c rest hpump hheld
    obtain ⟨c', hc', hid⟩ := h.delivering response hpump
    obtain ⟨rfl, rfl⟩ := List.cons.inj (hheld.symm.trans hc')
    cases htell
    obtain ⟨hattended, hsettles⟩ := used h .reading (hheld ▸ List.mem_cons_self) (.sent (.ok response)) (fun h => by cases h)
      (fun answer hanswer => by cases hanswer; exact hid)
    refine ⟨⟨hattended, fun _ => by simp [Desk.use, hheld], fun _ => (fun h => by cases h), (fun h => by cases h), fun _ hdrained => ?_⟩, hsettles⟩
    rcases hdrained with ⟨_, hfailing⟩ | hended
    · cases hfailing
    · cases hended
  · rename_i status c rest hpump hheld
    cases htell
    obtain ⟨hattended, hsettles⟩ := used h s.pump (hheld ▸ List.mem_cons_self) (.sent (.error status)) (fun h => by cases h)
      (fun answer hanswer => by cases hanswer)
    refine ⟨⟨hattended, fun hreading => ?_, fun answer hanswer => ?_, fun hended => ?_,
      fun hr _ => h.closed hr (.inl ⟨status, hpump⟩)⟩, hsettles⟩
    · rw [hpump] at hreading
      cases hreading
    · rw [hpump] at hanswer
      cases hanswer
    · rw [hpump] at hended
      cases hended
  · rename_i status hpump hheld
    cases htell
    obtain ⟨hattended, hsettles⟩ := h.attended.told .ended .empty h.attended.sound (.refl _) fun _ => .inl rfl
    exact ⟨⟨hattended, (fun h => by cases h), fun _ => (fun h => by cases h), fun _ => hheld,
      fun hr _ => h.closed hr (.inl ⟨status, hpump⟩)⟩, hsettles⟩
  · cases htell

theorem Inv.step (h : Inv refused s) {e : Event Body} (he : refused → RefusesDrained s e) (hs : step s e = some s') :
    Inv refused s' ∧ s.Settles s' := by
  cases e with
  | call c requestId queue =>
    simp only [ModelStream.step] at hs
    split at hs
    · rename_i hidle
      cases hs
      exact h.call hidle requestId queue he
    · cases hs
  | put c accepted => exact h.goesOn (.put h.attended hs)
  | resume c => exact h.goesOn (.resume h.attended hs)
  | drop c => exact h.goesOn (.drop h.attended hs)
  | reply response =>
    simp only [ModelStream.step] at hs
    split at hs
    · rename_i hreading
      cases hs
      exact h.readReply hreading response
    · cases hs
  | finish =>
    simp only [ModelStream.step] at hs
    split at hs
    · cases hs
      exact h.failAllPending _
    · cases hs
  | fail status =>
    simp only [ModelStream.step] at hs
    split at hs
    · cases hs
      exact h.failAllPending status
    · cases hs
  | tell => exact h.tell hs

end ModelStream

/-! ## Ended streams -/

/-- What the callers of an ended stream find: every call that goes on has its result, and a call that
comes now returns at once, with an error. -/
structure Stream.Deserted (step : Stream Pump Body → Event Body → Option (Stream Pump Body)) (C : Stream Pump Body → Event Body → Prop)
    (s : Stream Pump Body) : Prop where
  unregistered : s.pending.entries = []
  resolved : ∀ c, (s.callers c).pending → s.pending.channels c ≠ .empty
  returns : ∀ c requestId, s.callers c = .waiting requestId → (step s (.resume c)).isSome = true
  late : ∀ c requestId queue s', C s (.call c requestId queue) → step s (.call c requestId queue) = some s' →
    ∃ e, s'.callers c = .done requestId (.error e)

/-- What every caller finds: results are final, and a response carries the request id of its call. -/
structure Stream.Resolves (sys : System (Stream Pump Body) (Event Body)) (s : Stream Pump Body) : Prop where
  final : ∀ es s', sys.runFrom s es = some s' → s.Settles s'
  own : ∀ c requestId response, s.callers c = .done requestId (.ok response) → response.requestId = requestId

theorem settles_run {sys : System (Stream Pump Body) (Event Body)} {I : Stream Pump Body → Prop}
    (hstep : ∀ {s s' e}, I s → sys.step s e = some s' → I s' ∧ s.Settles s') (h : I s) {es : List (Event Body)}
    (hrun : sys.runFrom s es = some s') : s.Settles s' := by
  induction es generalizing s with
  | nil =>
    cases hrun
    exact .refl _
  | cons e es ih =>
    obtain ⟨next, hs, hrest⟩ := Option.bind_eq_some_iff.1 hrun
    obtain ⟨hnext, hsettles⟩ := hstep h hs
    exact hsettles.trans (ih hnext hrest)

theorem Stream.Attended.resolved (h : s.Attended) (hentries : s.pending.entries = []) (hheld : s.pending.held = []) :
    (∀ c, (s.callers c).pending → s.pending.channels c ≠ .empty) ∧
      ∀ c requestId, s.callers c = .waiting requestId → (s.resume c).isSome = true := by
  have hresolved : ∀ c, (s.callers c).pending → s.pending.channels c ≠ .empty := by
    intro c hpending hempty
    have hmem := h.live c hpending hempty
    rw [Desk.senders, hentries, hheld] at hmem
    cases hmem
  refine ⟨hresolved, fun c requestId hcaller => ?_⟩
  have hsome := hresolved c (by rw [hcaller]; trivial)
  unfold Stream.resume
  rw [hcaller]
  match hchannel : s.pending.channels c with
  | .empty => exact absurd hchannel hsome
  | .sent (.ok _) | .sent (.error _) | .closed => rfl

theorem attended_new (pump : Pump) : ({ pending := .new, callers := fun _ => .idle, pump } : Stream Pump Body).Attended where
  sound := Desk.sound_new
  fresh _ _ := ⟨List.not_mem_nil, rfl⟩
  named _ hentry := absurd hentry List.not_mem_nil
  own _ _ hsent := by cases hsent
  live _ hpending := hpending.elim
  answered _ _ _ hdone := by cases hdone

theorem EnvStream.reach_inv {s : Stream EnvPump Body} (h : (envStream Body).Reach (fun _ _ => True) s) : EnvStream.Inv s :=
  h.inv EnvStream.Inv ⟨attended_new EnvPump.reading, rfl, fun _ => rfl⟩ fun _ _ _ hi _ hs => (hi.step hs).1

theorem ModelStream.reach_inv {s : Stream (ModelPump Body) Body} (h : (modelStream Body).Reach ModelStream.RefusesDrained s) :
    ModelStream.Inv True s :=
  h.inv (ModelStream.Inv True)
    ⟨attended_new ModelPump.reading, fun _ => rfl, (fun _ hpump => by cases hpump), fun _ => rfl, fun _ _ => rfl⟩
    fun _ _ _ hi hc hs => (hi.step (fun _ => hc) hs).1

theorem EnvStream.deserted {s : Stream EnvPump Body} (h : EnvStream.Inv s) (hended : s.pump = .ended) :
    s.Deserted EnvStream.step (fun _ _ => True) := by
  have hentries := h.closed hended
  obtain ⟨hresolved, hreturns⟩ := h.attended.resolved hentries h.held
  refine ⟨hentries, hresolved, hreturns, fun c requestId queue s' _ hs => ?_⟩
  simp only [EnvStream.step] at hs
  split at hs
  · cases hs
    unfold EnvStream.call
    rw [hended]
    exact ⟨.streamGone, Function.update_self c _ s.callers⟩
  · cases hs

theorem ModelStream.deserted {s : Stream (ModelPump Body) Body} (h : ModelStream.Inv True s) (hended : s.pump = .ended) :
    s.Deserted ModelStream.step ModelStream.RefusesDrained := by
  have hentries := h.closed trivial (.inr hended)
  obtain ⟨hresolved, hreturns⟩ := h.attended.resolved hentries (h.ended hended)
  refine ⟨hentries, hresolved, hreturns, fun c requestId queue s' hc hs => ?_⟩
  obtain rfl := hc (.inr hended)
  simp only [ModelStream.step] at hs
  split at hs
  · cases hs
    unfold ModelStream.call
    rw [hentries]
    exact ⟨.streamGone, Function.update_self c _ s.callers⟩
  · cases hs

/-- No caller waits on an ended stream: in every run of an env client, and in every run of a model client
whose queue refuses what is put on it once the pump has drained the waiters, an ended pump leaves no waiter
registered and none without a result, and a call that comes after it fails at once. Results are final, and
a response is returned to the call whose request id it carries. -/
theorem no_caller_waits_on_ended_stream (Body : Type) :
    (∀ s, (envStream Body).Reach (fun _ _ => True) s → s.Resolves (envStream Body) ∧
      (s.pump = .ended → s.Deserted EnvStream.step (fun _ _ => True))) ∧
    ∀ s, (modelStream Body).Reach ModelStream.RefusesDrained s → s.Resolves (modelStream Body) ∧
      (s.pump = .ended → s.Deserted ModelStream.step ModelStream.RefusesDrained) := by
  refine ⟨fun s h => ?_, fun s h => ?_⟩
  · have hinv := EnvStream.reach_inv h
    exact ⟨⟨fun _ _ => settles_run (I := EnvStream.Inv) (fun hi hs => hi.step hs) hinv, hinv.attended.answered⟩,
      EnvStream.deserted hinv⟩
  · have hinv := ModelStream.reach_inv h
    -- what follows may be any run: the desk need not stay empty for results to be final
    have hany : ModelStream.Inv False s := ⟨hinv.attended, hinv.reading, hinv.delivering, hinv.ended, nofun⟩
    exact ⟨⟨fun _ _ => settles_run (I := ModelStream.Inv False) (fun hi hs => hi.step nofun hs) hany,
      hinv.attended.answered⟩, ModelStream.deserted hinv⟩

/-- A caller is told that the stream ended, and one that comes later is refused. -/
def endedRun : List (Event Unit) := [.call 0 "first" .accepts, .finish, .tell, .tell, .resume 0, .call 1 "late" .refuses]

theorem ended_run_is_deserted : ∃ s, (modelStream Unit).Reach ModelStream.RefusesDrained s ∧ s.pump = .ended ∧
    s.Deserted ModelStream.step ModelStream.RefusesDrained := by
  obtain ⟨s, hreach, hp⟩ := (modelStream Unit).exists_reach_of_runFrom ModelStream.RefusesDrained
    (fun s => match s.pump with | .ended => true | _ => false) endedRun
    ⟨fun hdrained => (nomatch hdrained), trivial, trivial, trivial, trivial, fun _ => rfl, trivial⟩ rfl
  have hended : s.pump = .ended := by
    match hpump : s.pump with
    | .ended => rfl
    | .reading | .delivering _ | .failing _ =>
      rw [hpump] at hp
      cases hp
  exact ⟨s, hreach, hended, ((no_caller_waits_on_ended_stream Unit).2 s hreach).2 hended⟩

/-- The pump has drained the waiters and ended; the queue still takes a request, and its caller waits for ever. -/
theorem late_caller_hangs : ∃ s, (modelStream Unit).Reach (fun _ _ => True) s ∧ s.pump = .ended ∧
    s.callers 0 = .waiting "late" ∧ s.pending.entries = [("late", 0)] ∧ s.pending.channels 0 = .empty ∧ s.resume 0 = none := by
  have hinit : (modelStream Unit).Reach (fun _ _ => True) (modelStream Unit).init := .init
  have hreach := hinit.runFrom
    [.finish, .tell, .call 0 "late" .accepts] ⟨trivial, trivial, trivial, trivial⟩ rfl
  exact ⟨_, hreach, rfl, rfl, rfl, rfl, rfl⟩

end Rlmesh.Join
