import Rlmesh.Model.Join
/-!
# Per-env order without deadlock

What holds in every run of a served model's Join: handler sections on one env
run one after the other in arrival order, Close comes after everything on an
env, the earliest unfinished request can always go on, and every request whose
handler does not panic is answered once.
-/

open Rlmesh.Lib

namespace Rlmesh.Model

variable {β : Type}

/-- A request that must come after an earlier one: they name an env in common, or it is Close and the earlier one
names an env. -/
def Ticket.Follows (later earlier : Ticket) : Prop :=
  (∃ key ∈ earlier.request.names, key ∈ later.request.names) ∨
    (later.request.isClose = true ∧ earlier.request.names ≠ [])

namespace Join

/-- A signal whose sender one of the requests holds. -/
def Held (jobs : List Ticket) (signal : Signal) : Prop :=
  ∃ ticket, jobs[signal.job]? = some ticket ∧ signal ∈ ticket.dones

variable {signal : Signal} {admitted i : Nat} {resolved : List Signal} {ticket : Ticket}

theorem Held.snoc {jobs : List Ticket} (h : Held jobs signal) (new : Ticket) : Held (jobs ++ [new]) signal := by
  obtain ⟨ticket, hticket, hdone⟩ := h
  exact ⟨ticket, getElem?_snoc hticket new, hdone⟩

/-! ## Signals and who holds them -/

/-- A request holds its own signals, and waits only on signals that earlier requests hold. -/
structure Wired (jobs : List Ticket) (routeTails : RouteTails) : Prop where
  dones_job : ∀ {i : Nat} {ticket : Ticket}, jobs[i]? = some ticket → ∀ signal ∈ ticket.dones, signal.job = i
  gate_before : ∀ {j : Nat} {ticket : Ticket}, jobs[j]? = some ticket → ∀ signal ∈ ticket.gate.signals,
    signal.job < j ∧ Held jobs signal
  tails_held : ∀ tail ∈ routeTails.tails, Held jobs tail.2

theorem Held.lt {jobs : List Ticket} (h : Held jobs signal) : signal.job < jobs.length := by
  obtain ⟨_, hticket, -⟩ := h
  exact (List.getElem?_eq_some_iff.1 hticket).1

theorem wired_dispatch {s : Join β} (h : Wired s.jobs s.routeTails) (request : JoinRequest) :
    Wired (s.dispatch request).jobs (s.dispatch request).routeTails := by
  -- Close waits on all tails and leaves none; any other request waits on the tails of the envs it names
  obtain ⟨hgate, hdones, htails⟩ :
      (∀ signal ∈ (s.gated request).1.signals, Held s.jobs signal) ∧
      (∀ signal ∈ (s.gated request).2.1, signal.job = s.jobs.length) ∧
      (∀ tail ∈ (s.gated request).2.2.tails,
        Held s.jobs tail.2 ∨ tail.2 ∈ (s.gated request).2.1) := by
    by_cases hclose : request.isClose = true
    · rw [gated, RouteTails.gate, if_pos hclose]
      refine ⟨fun signal hs => ?_, fun _ hs => (by cases hs), fun _ ht => (by cases ht)⟩
      obtain ⟨tail, htail, rfl⟩ := List.mem_map.1 hs
      exact h.tails_held tail htail
    · obtain ⟨keys, chained, -, hchained, hafter⟩ :=
        s.routeTails.gate_chained s.resolved s.jobs.length request (by simpa using hclose)
      refine ⟨fun signal hs => ?_, hchained.dones_job, fun tail htail => ?_⟩
      · obtain ⟨key, hkey⟩ := hchained.gate_mem signal hs
        exact h.tails_held _ hkey
      · rw [gated, hafter] at htail
        rcases hchained.tails_mem tail (RouteTails.mem_reap htail) with htail | ⟨-, hdone⟩
        · exact .inl (h.tails_held tail htail)
        · exact .inr hdone
  constructor
  · intro i ticket hticket signal hs
    rcases snoc_cases hticket with hticket | ⟨rfl, rfl⟩
    · exact h.dones_job hticket signal hs
    · exact hdones signal hs
  · intro j ticket hticket signal hs
    rcases snoc_cases hticket with hticket | ⟨rfl, rfl⟩
    · exact ⟨(h.gate_before hticket signal hs).1, (h.gate_before hticket signal hs).2.snoc _⟩
    · exact ⟨(hgate signal hs).lt, (hgate signal hs).snoc _⟩
  · intro tail htail
    rcases htails tail htail with hheld | hdone
    · exact hheld.snoc _
    · refine ⟨s.ticket request, ?_, hdone⟩
      rw [hdones _ hdone]
      exact List.getElem?_concat_length

/-! ## Phases and the signals fired -/

/-- Which signals have fired, given where the tasks stand: a task past its gate has seen all of it, and one past its
handler section fires its own signals and no other's. -/
structure Phased (jobs : List Ticket) (admitted : Nat) (phase : Nat → Phase β) (resolved : List Signal) : Prop where
  admitted_le : admitted ≤ jobs.length
  unspawned : ∀ i, admitted ≤ i → phase i = .waiting
  resolved_ended : ∀ signal ∈ resolved, (phase signal.job).ended = true
  gate_open : ∀ {j : Nat} {ticket : Ticket}, jobs[j]? = some ticket → (phase j).started = true →
    ∀ signal ∈ ticket.gate.signals, signal ∈ resolved
  left_job : ∀ i, ∀ signal ∈ (phase i).left, signal.job = i
  released : ∀ {i : Nat} {ticket : Ticket}, jobs[i]? = some ticket → (phase i).ended = true →
    ∀ signal ∈ ticket.dones, signal ∈ resolved ∨ signal ∈ (phase i).left

theorem Phased.lt_admitted {jobs : List Ticket} {phase : Nat → Phase β} (h : Phased jobs admitted phase resolved)
    (hi : phase i ≠ .waiting) : i < admitted := by
  by_contra hge
  exact hi (h.unspawned i (by omega))

/-- One task moves to phase `p`, firing at most signals of its own. -/
theorem Phased.update {jobs : List Ticket} {phase : Nat → Phase β} {fired : List Signal}
    (h : Phased jobs admitted phase resolved) {p : Phase β} (hticket : jobs[i]? = some ticket) (hi : i < admitted)
    (hended : (phase i).ended = true → p.ended = true) (hfired : ∀ signal ∈ fired, signal.job = i ∧ p.ended = true)
    (hopen : ∀ signal ∈ ticket.gate.signals, signal ∈ resolved) (hleft : ∀ signal ∈ p.left, signal.job = i)
    (hreleased : p.ended = true → ∀ signal ∈ ticket.dones, signal ∈ fired ++ resolved ∨ signal ∈ p.left) :
    Phased jobs admitted (Function.update phase i p) (fired ++ resolved) := by
  constructor
  · exact h.admitted_le
  · intro j hj
    rw [Function.update_of_ne (by omega)]
    exact h.unspawned j hj
  · intro signal hs
    by_cases hjob : signal.job = i
    · rw [hjob, Function.update_self]
      rcases List.mem_append.1 hs with hs | hs
      · exact (hfired signal hs).2
      · exact hended (hjob ▸ h.resolved_ended signal hs)
    · rw [Function.update_of_ne hjob]
      rcases List.mem_append.1 hs with hs | hs
      · exact absurd (hfired signal hs).1 hjob
      · exact h.resolved_ended signal hs
  · intro j other hother hstarted signal hs
    apply List.mem_append_right
    by_cases hj : j = i
    · subst hj
      obtain rfl : other = ticket := by simpa [hticket] using hother.symm
      exact hopen signal hs
    · rw [Function.update_of_ne hj] at hstarted
      exact h.gate_open hother hstarted signal hs
  · intro j signal hs
    by_cases hj : j = i
    · subst hj
      rw [Function.update_self] at hs
      exact hleft signal hs
    · rw [Function.update_of_ne hj] at hs
      exact h.left_job j signal hs
  · intro j other hother hend signal hs
    by_cases hj : j = i
    · subst hj
      obtain rfl : other = ticket := by simpa [hticket] using hother.symm
      rw [Function.update_self] at hend ⊢
      exact hreleased hend signal hs
    · rw [Function.update_of_ne hj] at hend ⊢
      rcases h.released hother hend signal hs with hres | hl
      · exact .inl (List.mem_append_right _ hres)
      · exact .inr hl

/-! ## Gates and what they cover -/

/-- Every earlier request a later one must follow has ended or is reached through the later one's gate; while the
loop reads on, the tail of an env reaches every unended request on it. -/
structure Linked (jobs : List Ticket) (phase : Nat → Phase β) (routeTails : RouteTails) (reading : Bool) : Prop where
  covered : ∀ {i j : Nat} {earlier later : Ticket}, i < j → jobs[i]? = some earlier → jobs[j]? = some later →
    later.Follows earlier → (phase i).ended = true ∨ ∃ signal ∈ later.gate.signals,
      signal.job = i ∨ i < signal.job ∧ ∃ ticket, jobs[signal.job]? = some ticket ∧ ticket.Follows earlier
  tailed : reading = true → ∀ {i : Nat} {earlier : Ticket}, jobs[i]? = some earlier → ∀ key ∈ earlier.request.names,
    (phase i).ended = true ∨ ∃ signal, routeTails.tails.lookup key = some signal ∧
      (signal.job = i ∨ i < signal.job ∧ ∃ ticket, jobs[signal.job]? = some ticket ∧ key ∈ ticket.request.names)

/-- Sections that have ended stay ended, so what was covered stays covered. -/
theorem Linked.mono {jobs : List Ticket} {phase phase' : Nat → Phase β} {routeTails : RouteTails}
    {reading reading' : Bool} (h : Linked jobs phase routeTails reading)
    (hended : ∀ i, (phase i).ended = true → (phase' i).ended = true) (hreading : reading' = true → reading = true) :
    Linked jobs phase' routeTails reading' where
  covered hij hi hj hf := (h.covered hij hi hj hf).imp_left (hended _)
  tailed hr _ _ hi key hkey := (h.tailed (hreading hr) hi key hkey).imp_left (hended _)

theorem gates_of {jobs : List Ticket} {phase : Nat → Phase β} {routeTails : RouteTails} {reading : Bool}
    (hw : Wired jobs routeTails) (hp : Phased jobs admitted phase resolved)
    (hl : Linked jobs phase routeTails reading) :
    Gates (fun i => (phase i).started = true) (fun i => (phase i).ended = true)
      (fun j i => ∃ later earlier, jobs[j]? = some later ∧ jobs[i]? = some earlier ∧ later.Follows earlier)
      (fun j m => ∃ later, jobs[j]? = some later ∧ ∃ signal ∈ later.gate.signals, signal.job = m) where
  started_of_ended _ := Phase.started_of_ended
  ended_of_started := by
    rintro j m hstarted ⟨later, hj, signal, hs, rfl⟩
    exact hp.resolved_ended signal (hp.gate_open hj hstarted signal hs)
  covered := by
    rintro i j hij ⟨later, earlier, hj, hi, hf⟩
    rcases hl.covered hij hi hj hf with hended | ⟨signal, hs, hsignal⟩
    · exact .inl hended
    · refine .inr ⟨signal.job, (hw.gate_before hj signal hs).1, ⟨later, hj, signal, hs, rfl⟩, ?_⟩
      rcases hsignal with hjob | ⟨hlt, ticket, hticket, hf⟩
      · exact .inl hjob
      · exact .inr ⟨hlt, ticket, earlier, hticket, hi, hf⟩

/-- A request whose env's tail has fired has ended, and so has every earlier one on that env. -/
theorem ended_of_tail {s : Join β} (hw : Wired s.jobs s.routeTails) (hp : Phased s.jobs s.admitted s.phase s.resolved)
    (hl : Linked s.jobs s.phase s.routeTails s.reading) {earlier : Ticket} (hi : s.jobs[i]? = some earlier)
    {key : String} (hkey : key ∈ earlier.request.names) (hresolved : signal ∈ s.resolved)
    (hsignal : signal.job = i ∨ i < signal.job ∧ ∃ ticket, s.jobs[signal.job]? = some ticket ∧ key ∈ ticket.request.names) :
    (s.phase i).ended = true := by
  have hended := hp.resolved_ended signal hresolved
  rcases hsignal with rfl | ⟨hlt, ticket, hticket, hnames⟩
  · exact hended
  · refine (gates_of hw hp hl).serial (Phase.started_of_ended hended) hlt ?_
    exact ⟨ticket, earlier, hticket, hi, .inl ⟨key, hkey, hnames⟩⟩

theorem Phased.fresh {jobs : List Ticket} {phase : Nat → Phase β} (h : Phased jobs admitted phase resolved)
    (hs : admitted ≤ signal.job) : signal ∉ resolved := by
  intro hmem
  have hended := h.resolved_ended signal hmem
  rw [h.unspawned _ hs] at hended
  cases hended

theorem linked_dispatch {s : Join β} (hw : Wired s.jobs s.routeTails)
    (hp : Phased s.jobs s.admitted s.phase s.resolved) (hl : Linked s.jobs s.phase s.routeTails s.reading)
    (hreading : s.reading = true) (hall : s.admitted = s.jobs.length) (request : JoinRequest) :
    Linked (s.dispatch request).jobs (s.dispatch request).phase (s.dispatch request).routeTails
      (s.dispatch request).reading := by
  -- the new request's gate holds the tail of every env it must come after
  have hgate {earlier : Ticket} (hf : (s.ticket request).Follows earlier) : ∃ key ∈ earlier.request.names,
      ∀ signal, s.routeTails.tails.lookup key = some signal → signal ∈ (s.ticket request).gate.signals := by
    by_cases hclose : request.isClose = true
    · obtain ⟨key, hkey⟩ : ∃ key, key ∈ earlier.request.names := by
        apply List.exists_mem_of_ne_nil
        rcases hf with ⟨key, hkey, -⟩ | ⟨-, hne⟩
        · exact List.ne_nil_of_mem hkey
        · exact hne
      refine ⟨key, hkey, fun signal hlookup => ?_⟩
      rw [ticket, gated, RouteTails.gate, if_pos hclose]
      exact List.mem_map.2 ⟨_, mem_of_lookup hlookup, rfl⟩
    · obtain ⟨keys, chained, hkeys, hchained, -⟩ :=
        s.routeTails.gate_chained s.resolved s.jobs.length request (by simpa using hclose)
      obtain ⟨key, hkey, hnames⟩ | ⟨hclose', -⟩ := hf
      · exact ⟨key, hkey, hchained.gate_of_tail key ((hkeys key).2 hnames)⟩
      · exact absurd hclose' hclose
  constructor
  · intro i j earlier later hij hi hj hf
    obtain hj | ⟨rfl, rfl⟩ := snoc_cases hj
    · have hjlt := (List.getElem?_eq_some_iff.1 hj).1
      obtain hi | ⟨rfl, -⟩ := snoc_cases hi
      · refine (hl.covered hij hi hj hf).imp_right ?_
        rintro ⟨signal, hs, hjob | ⟨hlt, ticket, hticket, hf⟩⟩
        · exact ⟨signal, hs, .inl hjob⟩
        · exact ⟨signal, hs, .inr ⟨hlt, ticket, getElem?_snoc hticket _, hf⟩⟩
      · omega
    · obtain hi | ⟨rfl, -⟩ := snoc_cases hi
      · obtain ⟨key, hkey, hgate⟩ := hgate hf
        refine (hl.tailed hreading hi key hkey).imp_right ?_
        rintro ⟨signal, hlookup, hjob | ⟨hlt, ticket, hticket, hnames⟩⟩
        · exact ⟨signal, hgate signal hlookup, .inl hjob⟩
        · exact ⟨signal, hgate signal hlookup, .inr ⟨hlt, ticket, getElem?_snoc hticket _, .inl ⟨key, hkey, hnames⟩⟩⟩
      · omega
  · intro hopen i earlier hi key hkey
    have hclose : request.isClose = false := by simpa [dispatch] using hopen
    obtain ⟨keys, chained, hkeys, hchained, hafter⟩ :=
      s.routeTails.gate_chained s.resolved s.jobs.length request hclose
    have hreaped {signal : Signal} (hlookup : chained.tails.lookup key = some signal) (hs : signal ∉ s.resolved) :
        (s.dispatch request).routeTails.tails.lookup key = some signal := by
      have hlookup := RouteTails.lookup_reap hlookup hs
      rw [← hafter] at hlookup
      exact hlookup
    by_cases hnames : key ∈ request.names
    · -- the new request is on this env: it is the env's tail now
      obtain ⟨signal, hdone, hlookup⟩ := hchained.own_tail key ((hkeys key).2 hnames)
      have hjob := hchained.dones_job signal hdone
      have hfresh : signal ∉ s.resolved := hp.fresh (by omega)
      refine .inr ⟨signal, hreaped hlookup hfresh, ?_⟩
      obtain hi | ⟨rfl, -⟩ := snoc_cases hi
      · have hilt := (List.getElem?_eq_some_iff.1 hi).1
        refine .inr ⟨by omega, s.ticket request, ?_, hnames⟩
        rw [hjob]
        exact List.getElem?_concat_length
      · exact .inl hjob
    · obtain hi | ⟨rfl, rfl⟩ := snoc_cases hi
      · obtain hended | ⟨signal, hlookup, hsignal⟩ := hl.tailed hreading hi key hkey
        · exact .inl hended
        · by_cases hresolved : signal ∈ s.resolved
          · exact .inl (ended_of_tail (s := s) hw hp hl hi hkey hresolved hsignal)
          · have hother := hchained.other_tail key (fun h => hnames ((hkeys key).1 h))
            refine .inr ⟨signal, hreaped (hother.trans hlookup) hresolved, hsignal.imp_right ?_⟩
            rintro ⟨hlt, ticket, hticket, hn⟩
            exact ⟨hlt, ticket, getElem?_snoc hticket _, hn⟩
      · exact absurd hkey hnames

/-! ## The invariant of a run -/

/-- What holds of a stream in every run, of its gates and of the tasks behind them. -/
structure Gating (s : Join β) : Prop where
  wired : Wired s.jobs s.routeTails
  phased : Phased s.jobs s.admitted s.phase s.resolved
  linked : Linked s.jobs s.phase s.routeTails s.reading

theorem gating_init (permits : Nat) : Gating (init permits : Join β) where
  wired := ⟨nofun, nofun, nofun⟩
  phased := ⟨le_rfl, fun _ _ => rfl, nofun, nofun, nofun, nofun⟩
  linked := ⟨nofun, nofun⟩

theorem phased_dispatch {s : Join β} (h : Phased s.jobs s.admitted s.phase s.resolved)
    (hall : s.admitted = s.jobs.length) (request : JoinRequest) :
    Phased (s.dispatch request).jobs s.admitted s.phase s.resolved := by
  -- the new request's task has not been spawned: it stands at its gate
  have hnew : s.phase s.jobs.length = .waiting := h.unspawned _ hall.le
  refine ⟨?_, h.unspawned, h.resolved_ended, ?_, h.left_job, ?_⟩
  · simp [dispatch, hall]
  · intro j ticket hticket hstarted
    obtain hticket | ⟨rfl, -⟩ := snoc_cases hticket
    · exact h.gate_open hticket hstarted
    · rw [hnew] at hstarted
      cases hstarted
  · intro i ticket hticket hended
    obtain hticket | ⟨rfl, -⟩ := snoc_cases hticket
    · exact h.released hticket hended
    · rw [hnew] at hended
      cases hended

theorem Gating.setPhase {s : Join β} (h : Gating s) (p : Phase β) (fired : List Signal)
    (hticket : s.jobs[i]? = some ticket) (hi : i < s.admitted) (hended : (s.phase i).ended = true → p.ended = true)
    (hfired : ∀ signal ∈ fired, signal.job = i ∧ p.ended = true)
    (hopen : ∀ signal ∈ ticket.gate.signals, signal ∈ s.resolved) (hleft : ∀ signal ∈ p.left, signal.job = i)
    (hreleased : p.ended = true → ∀ signal ∈ ticket.dones, signal ∈ fired ++ s.resolved ∨ signal ∈ p.left) :
    Phased s.jobs s.admitted (Function.update s.phase i p) (fired ++ s.resolved) ∧
      Linked s.jobs (Function.update s.phase i p) s.routeTails s.reading := by
  refine ⟨h.phased.update hticket hi hended hfired hopen hleft hreleased, h.linked.mono (fun j hj => ?_) id⟩
  by_cases hji : j = i
  · subst hji
    rw [Function.update_self]
    exact hended hj
  · rwa [Function.update_of_ne hji]

theorem Gating.ticket_of_started {s : Join β} (h : Gating s) (hi : (s.phase i).started = true) :
    i < s.admitted ∧ ∃ ticket, s.jobs[i]? = some ticket := by
  have hlt : i < s.admitted := by
    apply h.phased.lt_admitted
    intro hwait
    rw [hwait] at hi
    cases hi
  exact ⟨hlt, _, List.getElem?_eq_getElem (hlt.trans_le h.phased.admitted_le)⟩

theorem Gating.open_of_started {s : Join β} (h : Gating s) (hticket : s.jobs[i]? = some ticket)
    (hi : (s.phase i).started = true) : ∀ signal ∈ ticket.gate.signals, signal ∈ s.resolved :=
  h.phased.gate_open hticket hi

/-- The handler section ends, by a result or by a panic: all signals are still to fire. -/
theorem Gating.end_section {s : Join β} (h : Gating s) (hphase : s.phase i = .handling)
    (hticket : s.jobs[i]? = some ticket) (response : Option (JoinResponse β)) :
    Gating (s.setPhase i (.releasing ticket.dones response)) := by
  have hstarted : (s.phase i).started = true := by rw [hphase]; rfl
  obtain ⟨hi, -⟩ := h.ticket_of_started hstarted
  obtain ⟨hp, hl⟩ := h.setPhase (.releasing ticket.dones response) [] hticket hi (fun _ => rfl) nofun
    (h.open_of_started hticket hstarted) (h.wired.dones_job hticket) (fun _ _ hs => .inr hs)
  exact ⟨h.wired, hp, hl⟩

theorem Gating.fire_signal {s : Join β} (h : Gating s) {left : List Signal} {response : Option (JoinResponse β)}
    (hphase : s.phase i = .releasing (signal :: left) response) :
    Gating { s.setPhase i (.releasing left response) with resolved := signal :: s.resolved } := by
  have hstarted : (s.phase i).started = true := by rw [hphase]; rfl
  obtain ⟨hi, ticket, hticket⟩ := h.ticket_of_started hstarted
  have hown : ∀ other ∈ signal :: left, other.job = i := by
    have := h.phased.left_job i
    rwa [hphase] at this
  have hreleased := h.phased.released hticket (by rw [hphase]; rfl)
  rw [hphase] at hreleased
  obtain ⟨hp, hl⟩ := h.setPhase (.releasing left response) [signal] hticket hi (fun _ => rfl)
    (by simpa [Phase.ended] using hown signal List.mem_cons_self) (h.open_of_started hticket hstarted)
    (fun other hother => hown other (List.mem_cons_of_mem _ hother))
    (fun _ other hother => by
      rcases hreleased other hother with hres | hleft
      · exact .inl (List.mem_cons_of_mem _ hres)
      · rcases List.mem_cons.1 hleft with rfl | hleft
        · exact .inl List.mem_cons_self
        · exact .inr hleft)
  exact ⟨h.wired, hp, hl⟩

theorem Gating.end_task {s : Join β} (h : Gating s) {response : Option (JoinResponse β)}
    (hphase : s.phase i = .releasing [] response) (panicked : Bool) : Gating (s.setPhase i (.done panicked)) := by
  have hstarted : (s.phase i).started = true := by rw [hphase]; rfl
  obtain ⟨hi, ticket, hticket⟩ := h.ticket_of_started hstarted
  have hreleased := h.phased.released hticket (by rw [hphase]; rfl)
  rw [hphase] at hreleased
  obtain ⟨hp, hl⟩ := h.setPhase (.done panicked) [] hticket hi (fun _ => rfl) nofun
    (h.open_of_started hticket hstarted) nofun
    (fun _ signal hs => (hreleased signal hs).imp_right (by simp [Phase.left]))
  exact ⟨h.wired, hp, hl⟩

theorem Gating.moves {s s' : Join β} {e : JoinEvent β} (h : Gating s) (hm : Moves s e s') : Gating s' := by
  cases hm with
  | request request hreading hall =>
    exact ⟨wired_dispatch h.wired request, phased_dispatch h.phased hall request,
      linked_dispatch h.wired h.phased h.linked hreading hall request⟩
  | streamEnd => exact ⟨h.wired, h.phased, h.linked.mono (fun _ => id) nofun⟩
  | admits hgated hfree =>
    refine ⟨h.wired, { h.phased with admitted_le := hgated, unspawned := fun i hi => ?_ }, h.linked⟩
    exact h.phased.unspawned i (Nat.le_of_succ_le hi)
  | enter hphase hticket hjob hopen =>
    obtain ⟨hp, hl⟩ := h.setPhase .handling [] hticket hjob (by simp [hphase, Phase.ended]) nofun hopen nofun nofun
    exact ⟨h.wired, hp, hl⟩
  | finish kind hphase hticket => exact h.end_section hphase hticket _
  | panic hphase hticket => exact h.end_section hphase hticket none
  | fire hphase => exact h.fire_signal hphase
  | unwind hphase => exact ⟨h.wired, (h.end_task hphase true).phased, (h.end_task hphase true).linked⟩
  | send hphase hreceiving hroom =>
    exact ⟨h.wired, (h.end_task hphase false).phased, (h.end_task hphase false).linked⟩
  | giveUp hphase hgone => exact ⟨h.wired, (h.end_task hphase false).phased, (h.end_task hphase false).linked⟩
  | take => exact ⟨h.wired, h.phased, h.linked⟩
  | hangUp => exact ⟨h.wired, h.phased, h.linked⟩

/-! ## Responses -/

/-- The responses sent so far: one at most for a request, under its own id, and one for every request whose task
ended without a panic while the client was there. -/
structure Answers (jobs : List Ticket) (phase : Nat → Phase β) (sent : List (Nat × JoinResponse β))
    (receiving : Bool) : Prop where
  carried : ∀ i left response, phase i = .releasing left (some response) →
    ∃ ticket, jobs[i]? = some ticket ∧ response.requestId = ticket.request.requestId
  own : ∀ i response, (i, response) ∈ sent → (phase i).finished = true ∧
    ∃ ticket, jobs[i]? = some ticket ∧ response.requestId = ticket.request.requestId
  once : (sent.map Prod.fst).Nodup
  answered : receiving = true → ∀ i, phase i = .done false → ∃ response, (i, response) ∈ sent

section

variable {jobs : List Ticket} {phase : Nat → Phase β} {sent : List (Nat × JoinResponse β)} {receiving : Bool}

theorem Answers.snoc (h : Answers jobs phase sent receiving) (new : Ticket) :
    Answers (jobs ++ [new]) phase sent receiving where
  carried i left response hphase := by
    obtain ⟨ticket, hticket, hid⟩ := h.carried i left response hphase
    exact ⟨ticket, getElem?_snoc hticket new, hid⟩
  own i response hmem := by
    obtain ⟨hfinished, ticket, hticket, hid⟩ := h.own i response hmem
    exact ⟨hfinished, ticket, getElem?_snoc hticket new, hid⟩
  once := h.once
  answered := h.answered

theorem Answers.update (h : Answers jobs phase sent receiving) {i : Nat} {p : Phase β}
    (hi : (phase i).finished = false)
    (hcarried : ∀ left response, p = .releasing left (some response) →
      ∃ ticket, jobs[i]? = some ticket ∧ response.requestId = ticket.request.requestId)
    (hsent : p = .done false → receiving = false) :
    Answers jobs (Function.update phase i p) sent receiving where
  carried j left response hphase := by
    by_cases hj : j = i
    · subst hj
      rw [Function.update_self] at hphase
      exact hcarried left response hphase
    · rw [Function.update_of_ne hj] at hphase
      exact h.carried j left response hphase
  own j response hmem := by
    obtain ⟨hfinished, hticket⟩ := h.own j response hmem
    have hj : j ≠ i := by
      rintro rfl
      rw [hi] at hfinished
      cases hfinished
    rw [Function.update_of_ne hj]
    exact ⟨hfinished, hticket⟩
  once := h.once
  answered hreceiving j hphase := by
    by_cases hj : j = i
    · subst hj
      rw [Function.update_self] at hphase
      rw [hsent hphase] at hreceiving
      cases hreceiving
    · rw [Function.update_of_ne hj] at hphase
      exact h.answered hreceiving j hphase

theorem Answers.send (h : Answers jobs phase sent receiving) {i : Nat} {response : JoinResponse β}
    (hphase : phase i = .releasing [] (some response)) :
    Answers jobs (Function.update phase i (.done false)) (sent ++ [(i, response)]) receiving where
  carried j left other hother := by
    by_cases hj : j = i
    · subst hj
      rw [Function.update_self] at hother
      cases hother
    · rw [Function.update_of_ne hj] at hother
      exact h.carried j left other hother
  own j other hmem := by
    by_cases hj : j = i
    · subst hj
      refine ⟨by rw [Function.update_self]; rfl, ?_⟩
      rcases List.mem_append.1 hmem with hmem | hmem
      · exact (h.own j other hmem).2
      · obtain rfl : other = response := by simpa using hmem
        exact h.carried j [] other hphase
    · rw [Function.update_of_ne hj]
      exact h.own j other (by simpa [hj] using hmem)
  once := by
    -- an unfinished task has sent nothing yet
    have hnew : i ∉ sent.map Prod.fst := by
      intro hmem
      obtain ⟨⟨_, other⟩, hother, rfl⟩ := List.mem_map.1 hmem
      have hfinished := (h.own _ other hother).1
      rw [hphase] at hfinished
      cases hfinished
    rw [List.map_append]
    exact List.Nodup.append h.once (List.nodup_singleton _) (by simpa using hnew)
  answered hreceiving j hdone := by
    by_cases hj : j = i
    · subst hj
      exact ⟨response, by simp⟩
    · rw [Function.update_of_ne hj] at hdone
      obtain ⟨other, hother⟩ := h.answered hreceiving j hdone
      exact ⟨other, List.mem_append_left _ hother⟩

end

theorem answers_init (permits : Nat) :
    Answers (init permits : Join β).jobs (init permits : Join β).phase (init permits : Join β).sent
      (init permits : Join β).receiving where
  carried := nofun
  own := nofun
  once := List.nodup_nil
  answered := nofun

variable {s' : Join β} {e : JoinEvent β} {i : Nat} {p : Phase β}

theorem Answers.moves {s : Join β} (h : Answers s.jobs s.phase s.sent s.receiving) (hm : Moves s e s') :
    Answers s'.jobs s'.phase s'.sent s'.receiving := by
  cases hm with
  | request request hreading hall => exact h.snoc _
  | streamEnd => exact h
  | admits hgated hfree => exact h
  | enter hphase hticket hjob hopen => exact h.update (by rw [hphase]; rfl) nofun nofun
  | finish kind hphase hticket =>
    refine h.update (by rw [hphase]; rfl) ?_ nofun
    rintro left response ⟨⟩
    exact ⟨_, hticket, rfl⟩
  | panic hphase hticket => exact h.update (by rw [hphase]; rfl) nofun nofun
  | fire hphase =>
    refine h.update (by rw [hphase]; rfl) ?_ nofun
    rintro left response ⟨⟩
    exact h.carried _ _ _ hphase
  | unwind hphase => exact h.update (by rw [hphase]; rfl) nofun nofun
  | send hphase hreceiving hroom => exact h.send hphase
  | giveUp hphase hgone => exact h.update (by rw [hphase]; rfl) nofun (fun _ => hgone)
  | take => exact h
  | hangUp => exact { h with answered := nofun }

/-! ## Permits -/

/-- The tasks that hold a permit. -/
def busy (s : Join β) : Finset Nat :=
  (Finset.range s.admitted).filter (fun i => (s.phase i).finished = false)

theorem mem_busy {s : Join β} : i ∈ s.busy ↔ i < s.admitted ∧ (s.phase i).finished = false := by
  simp [busy]

theorem busy_setPhase {s : Join β} (hi : (s.phase i).finished = false) (hp : p.finished = false) :
    (s.setPhase i p).busy = s.busy := by
  ext j
  rw [mem_busy, mem_busy]
  by_cases hj : j = i
  · subst hj
    simp [Join.setPhase, hi, hp]
  · simp [Join.setPhase, Function.update_of_ne hj]

theorem busy_end {s : Join β} (hp : p.finished = true) : (s.setPhase i p).busy = s.busy.erase i := by
  ext j
  rw [Finset.mem_erase, mem_busy, mem_busy]
  by_cases hj : j = i
  · subst hj
    simp [Join.setPhase, hp]
  · simp [Join.setPhase, hj]

theorem permits_end {s : Join β} (h : Gating s) {permits : Nat} (hc : s.permits + s.busy.card = permits)
    {response : Option (JoinResponse β)} (hphase : s.phase i = .releasing [] response) (panicked : Bool) :
    s.permits + 1 + (s.setPhase i (.done panicked)).busy.card = permits := by
  have hi : i ∈ s.busy := by
    refine mem_busy.2 ⟨(h.ticket_of_started ?_).1, ?_⟩ <;> rw [hphase] <;> rfl
  have hpos : 0 < s.busy.card := Finset.card_pos.2 ⟨i, hi⟩
  rw [busy_end rfl, Finset.card_erase_of_mem hi]
  omega

theorem permits_moves {s : Join β} (h : Gating s) {permits : Nat} (hc : s.permits + s.busy.card = permits)
    (hm : Moves s e s') : s'.permits + s'.busy.card = permits := by
  cases hm with
  | request request hreading hall => exact hc
  | streamEnd => exact hc
  | admits hgated hfree =>
    have hnew : (s.phase s.admitted).finished = false := by
      rw [h.phased.unspawned _ le_rfl]
      rfl
    have hbusy : busy { s with admitted := s.admitted + 1, permits := s.permits - 1 } = insert s.admitted s.busy := by
      simp only [busy, Finset.range_add_one, Finset.filter_insert, hnew, if_true]
    have hfresh : s.admitted ∉ s.busy := by simp [mem_busy]
    rw [hbusy, Finset.card_insert_of_notMem hfresh]
    simp only
    omega
  | enter hphase hticket hjob hopen => rwa [busy_setPhase (by rw [hphase]; rfl) rfl]
  | finish kind hphase hticket => rwa [busy_setPhase (by rw [hphase]; rfl) rfl]
  | panic hphase hticket => rwa [busy_setPhase (by rw [hphase]; rfl) rfl]
  | @fire i _ left response hphase =>
    have hbusy : (s.setPhase i (.releasing left response)).busy = s.busy :=
      busy_setPhase (by rw [hphase]; rfl) rfl
    rw [← hc, ← hbusy]
    rfl
  | unwind hphase => exact permits_end h hc hphase true
  | send hphase hreceiving hroom => exact permits_end h hc hphase false
  | giveUp hphase hgone => exact permits_end h hc hphase false
  | take => exact hc
  | hangUp => exact hc

/-! ## Progress -/

/-- The steps the task of a request has still to take. -/
def workOf (s : Join β) (i : Nat) : Nat :=
  (s.phase i).work ((s.jobs[i]?.map (·.dones.length)).getD 0)

/-- The steps the spawned tasks have still to take. -/
def work (s : Join β) : Nat :=
  ∑ i ∈ Finset.range s.admitted, s.workOf i

theorem work_lt {s : Join β} {ticket : Ticket} (hi : i < s.admitted) (hticket : s.jobs[i]? = some ticket)
    (hjobs : s'.jobs = s.jobs) (hadmitted : s'.admitted = s.admitted)
    (hphase : s'.phase = Function.update s.phase i p)
    (hlt : p.work ticket.dones.length < (s.phase i).work ticket.dones.length) : s'.work < s.work := by
  have hother : ∀ j ≠ i, s'.workOf j = s.workOf j := fun j hj => by
    simp only [workOf, hphase, hjobs, Function.update_of_ne hj]
  have hself : s'.workOf i < s.workOf i := by
    simpa [workOf, hphase, hjobs, hticket] using hlt
  rw [work, work, hadmitted]
  refine Finset.sum_lt_sum (fun j _ => ?_) ⟨i, Finset.mem_range.2 hi, hself⟩
  by_cases hj : j = i
  · rw [hj]
    exact hself.le
  · exact (hother j hj).le

theorem work_released {s : Join β} (h : Gating s) {left : List Signal} {response : Option (JoinResponse β)}
    (hphase : s.phase i = .releasing left response) (hjobs : s'.jobs = s.jobs) (hadmitted : s'.admitted = s.admitted)
    (hp : s'.phase = Function.update s.phase i p) (hlt : ∀ n, p.work n < left.length + 1) : s'.work < s.work := by
  obtain ⟨hi, ticket, hticket⟩ := h.ticket_of_started (by rw [hphase]; rfl)
  exact work_lt hi hticket hjobs hadmitted hp (by rw [hphase]; exact hlt _)

theorem work_moves {s : Join β} (h : Gating s) (hm : Moves s e s') (he : e.task = some i) : s'.work < s.work := by
  cases hm with
  | request | streamEnd | admits | take | hangUp => cases he
  | enter hphase hticket hjob hopen => exact work_lt hjob hticket rfl rfl rfl (by simp [hphase, Phase.work])
  | finish kind hphase hticket =>
    exact work_lt (h.ticket_of_started (by rw [hphase]; rfl)).1 hticket rfl rfl rfl (by simp [hphase, Phase.work])
  | panic hphase hticket =>
    exact work_lt (h.ticket_of_started (by rw [hphase]; rfl)).1 hticket rfl rfl rfl (by simp [hphase, Phase.work])
  | fire hphase => exact work_released h hphase rfl rfl rfl (fun _ => by simp [Phase.work])
  | unwind hphase => exact work_released h hphase rfl rfl rfl (fun _ => by simp [Phase.work])
  | send hphase hreceiving hroom => exact work_released h hphase rfl rfl rfl (fun _ => by simp [Phase.work])
  | giveUp hphase hgone => exact work_released h hphase rfl rfl rfl (fun _ => by simp [Phase.work])

/-- All the gates of a request are open. -/
def GateOpen (s : Join β) (i : Nat) : Prop :=
  ∃ ticket, s.jobs[i]? = some ticket ∧ ∀ signal ∈ ticket.gate.signals, signal ∈ s.resolved

/-- The response channel has no room. -/
def ChannelFull (s : Join β) : Prop :=
  responseCapacity ≤ s.sent.length - s.taken

/-- A task can take its next step; one that is about to send may have to wait for the client to take a response. -/
def CanRun (s : Join β) (i : Nat) : Prop :=
  match s.phase i with
  | .waiting => (s.step (.enter i)).isSome
  | .handling => ∀ kind, (s.step (.finish i kind)).isSome
  | .releasing (_ :: _) _ => (s.step (.fire i)).isSome
  | .releasing [] _ => (s.step (.leave i)).isSome ∨ s.ChannelFull ∧ (s.step .take).isSome
  | .done _ => False

theorem leave_isSome {s : Join β} (i : Nat) (response : Option (JoinResponse β))
    (hroom : s.receiving = true → ¬ s.ChannelFull) : (s.leave i response).isSome = true := by
  cases response with
  | none => rfl
  | some response =>
    simp only [leave]
    split
    · rename_i hreceiving
      rw [if_pos (not_le.1 (hroom hreceiving))]
      rfl
    · rfl

theorem canRun_of_open {s : Join β} (hi : i < s.admitted) (hun : (s.phase i).finished = false) (hopen : s.GateOpen i) :
    s.CanRun i := by
  obtain ⟨ticket, hticket, hopen⟩ := hopen
  unfold CanRun
  cases hphase : s.phase i with
  | waiting =>
    simp only [step, hphase, hticket]
    rw [if_pos ⟨hi, hopen⟩]
    rfl
  | handling => simp [step, hphase, hticket]
  | releasing left response =>
    cases left with
    | cons signal left => simp [step, hphase]
    | nil =>
      by_cases hwait : s.receiving = true ∧ s.ChannelFull
      · refine .inr ⟨hwait.2, ?_⟩
        have hroom : s.taken < s.sent.length := by
          have := hwait.2
          simp only [ChannelFull, responseCapacity] at this
          omega
        simp [step, hwait.1, hroom]
      · refine .inl ?_
        simp only [step, hphase]
        exact leave_isSome i response (fun hreceiving hfull => hwait ⟨hreceiving, hfull⟩)
  | done panicked =>
    rw [hphase] at hun
    cases hun

theorem Gating.exists_open {s : Join β} (h : Gating s) (hex : ∃ i < s.admitted, ¬ (s.phase i).finished = true) :
    ∃ i < s.admitted, ¬ (s.phase i).finished = true ∧ s.GateOpen i := by
  have hbefore : ∀ j m, (∃ ticket : Ticket, s.jobs[j]? = some ticket ∧ ∃ signal ∈ ticket.gate.signals,
      signal.job = m) → m < j := by
    rintro j m ⟨ticket, hticket, signal, hs, rfl⟩
    exact (h.wired.gate_before hticket signal hs).1
  obtain ⟨i, hi, hun, hwaits⟩ := exists_ready hbefore hex
  refine ⟨i, hi, hun, _, List.getElem?_eq_getElem (hi.trans_le h.phased.admitted_le), fun signal hs => ?_⟩
  have hticket := List.getElem?_eq_getElem (hi.trans_le h.phased.admitted_le)
  have hfinished := hwaits signal.job ⟨_, hticket, signal, hs, rfl⟩
  -- the request it waits on has finished, so it has fired all its signals
  obtain ⟨owner, howner, hdone⟩ := (h.wired.gate_before hticket signal hs).2
  rcases h.phased.released howner (Phase.ended_of_finished hfinished) signal hdone with hres | hleft
  · exact hres
  · cases hphase : s.phase signal.job <;> rw [hphase] at hfinished hleft <;> cases hfinished
    cases hleft

end Join

/-! ## Every run -/

section

variable {predictConcurrency : Option Nat} {s : Join β}

theorem reach_gating (h : (joinSystem β predictConcurrency).Reach (fun _ _ => True) s) : s.Gating :=
  h.inv Join.Gating (Join.gating_init _) (fun _ _ _ hi _ he => hi.moves (Join.step_moves he))

theorem reach_answers (h : (joinSystem β predictConcurrency).Reach (fun _ _ => True) s) :
    Join.Answers s.jobs s.phase s.sent s.receiving :=
  h.inv (fun s => Join.Answers s.jobs s.phase s.sent s.receiving) (Join.answers_init _)
    (fun _ _ _ hi _ he => hi.moves (Join.step_moves he))

theorem reach_permits (h : (joinSystem β predictConcurrency).Reach (fun _ _ => True) s) :
    s.permits + s.busy.card = concurrency predictConcurrency :=
  h.inv_of Join.Gating (fun s => s.permits + s.busy.card = concurrency predictConcurrency) reach_gating rfl
    (fun _ _ _ hg _ hi _ he => Join.permits_moves hg hi (Join.step_moves he))

end

/-- The request at position `i` of the stream names the env `key`. -/
def Join.Names (s : Join β) (i : Nat) (key : String) : Prop :=
  ∃ ticket, s.jobs[i]? = some ticket ∧ key ∈ ticket.request.names

/-- The request at position `i` of the stream is Close. -/
def Join.IsClose (s : Join β) (i : Nat) : Prop :=
  ∃ ticket, s.jobs[i]? = some ticket ∧ ticket.request.isClose = true

/-- A served model keeps per-env order without deadlock. In every run, with every concurrency limit and handlers that
may panic: of two requests that name an env in common, the later one enters its handler section only after the earlier
one has left it; Close enters its own only after every earlier request that names an env; while an admitted request is
unfinished, one of them has all its gates open and can run, a request that waits for a permit either finds one or such
a task holds it, and every step of a task uses up some of the finite work left; and no request is answered twice,
while one whose handler did not panic ends answered exactly once, under its own request id. -/
theorem model_join_serial (predictConcurrency : Option Nat) {s : Join β}
    (h : (joinSystem β predictConcurrency).Reach (fun _ _ => True) s) :
    (∀ i j key, i < j → s.Names i key → s.Names j key → (s.phase j).started = true → (s.phase i).ended = true) ∧
    (∀ i j key, i < j → s.Names i key → s.IsClose j → (s.phase j).started = true → (s.phase i).ended = true) ∧
    ((∃ i < s.admitted, ¬ (s.phase i).finished = true) →
      ∃ i < s.admitted, ¬ (s.phase i).finished = true ∧ s.GateOpen i ∧ s.CanRun i) ∧
    (s.admitted < s.jobs.length →
      (s.step .admits).isSome = true ∨ ∃ i < s.admitted, ¬ (s.phase i).finished = true) ∧
    (∀ e i s', e.task = some i → s.step e = some s' → s'.work < s.work) ∧
    (∀ i, (s.sent.map Prod.fst).count i ≤ 1) ∧
    (s.receiving = true → ∀ i, s.phase i = .done false → ∃ response ticket, s.jobs[i]? = some ticket ∧
      s.sent.filter (fun entry => entry.1 == i) = [(i, response)] ∧ response.requestId = ticket.request.requestId) := by
  have hg := reach_gating h
  have ha := reach_answers h
  have hgates := Join.gates_of hg.wired hg.phased hg.linked
  refine ⟨?_, ?_, ?_, ?_, ?_, ?_, ?_⟩
  · rintro i j key hij ⟨earlier, hi, hkey⟩ ⟨later, hj, hkey'⟩ hstarted
    exact hgates.serial hstarted hij ⟨later, earlier, hj, hi, .inl ⟨key, hkey, hkey'⟩⟩
  · rintro i j key hij ⟨earlier, hi, hkey⟩ ⟨later, hj, hclose⟩ hstarted
    exact hgates.serial hstarted hij ⟨later, earlier, hj, hi, .inr ⟨hclose, List.ne_nil_of_mem hkey⟩⟩
  · intro hex
    obtain ⟨i, hi, hun, hopen⟩ := hg.exists_open hex
    exact ⟨i, hi, hun, hopen, Join.canRun_of_open hi (by simpa using hun) hopen⟩
  · intro hgated
    by_cases hfree : 0 < s.permits
    · exact .inl (by simp [Join.step, hgated, hfree])
    · -- no permit is free and there is at least one, so a task holds one
      have hpermits := reach_permits h
      have hpos : 0 < concurrency predictConcurrency := Nat.lt_of_lt_of_le Nat.one_pos (Nat.le_max_right _ _)
      obtain ⟨i, hi⟩ := Finset.card_pos.1 (show 0 < s.busy.card by omega)
      obtain ⟨hlt, hun⟩ := Join.mem_busy.1 hi
      exact .inr ⟨i, hlt, by simp [hun]⟩
  · intro e i s' he hstep
    exact Join.work_moves hg (Join.step_moves hstep) he
  · exact fun i => List.nodup_iff_count_le_one.1 ha.once i
  · intro hreceiving i hdone
    obtain ⟨response, hmem⟩ := ha.answered hreceiving i hdone
    obtain ⟨-, ticket, hticket, hid⟩ := ha.own i response hmem
    exact ⟨response, ticket, hticket, filter_key_of_nodup ha.once hmem, hid⟩

/-- Two predicts and a grouped one over both envs, one permit, the first handler panicking; then Close. -/
def panickingStream : List (JoinEvent Nat) :=
  [.request ⟨"1", some (.predict (some ⟨"a"⟩))⟩, .admits, .enter 0, .panic 0, .fire 0, .leave 0,
    .request ⟨"2", some (.groupedPredict [some ⟨"a"⟩, some ⟨"b"⟩, none, some ⟨"a"⟩])⟩, .admits, .enter 1, .finish 1 7,
    .request ⟨"3", some .close⟩, .fire 1, .fire 1, .leave 1, .admits, .enter 2, .finish 2 8, .leave 2]

theorem model_join_serial_after_panic :
    ∃ s : Join Nat, (joinSystem Nat (some 0)).Reach (fun _ _ => True) s ∧ s.sent = [(1, ⟨"2", 7⟩), (2, ⟨"3", 8⟩)] ∧
      ∀ i, (s.sent.map Prod.fst).count i ≤ 1 := by
  obtain ⟨s, hreach, hsent⟩ := System.exists_reach_of_runFrom (joinSystem Nat (some 0)) (fun _ _ => True)
    (fun s => decide (s.sent = [(1, ⟨"2", 7⟩), (2, ⟨"3", 8⟩)])) panickingStream (by decide +kernel) (by decide +kernel)
  exact ⟨s, hreach, of_decide_eq_true hsent, (model_join_serial (some 0) hreach).2.2.2.2.2.1⟩

end Rlmesh.Model
