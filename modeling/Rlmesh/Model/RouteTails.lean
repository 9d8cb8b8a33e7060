import Rlmesh.Lib.Gates
import Rlmesh.Lib.Keyed
/-!
# The gates of a model Join

Every request on a model Join stream that names an env is chained after the one
before it on that env: `RouteTails` keeps, for each env, the signal the latest
request on it fires when its handler section is over. A grouped predict is
chained on every env it names, and Close on whatever is outstanding.
-/

open Rlmesh.Lib

namespace Rlmesh.Model

/-! ## Requests -/

/-- The fields of an adapter context the Join reads. -/
structure AdapterContext where
  envId : String
deriving DecidableEq, Repr

/-- The request kinds, with the contexts they carry. -/
inductive JoinKind where
  | resolveAdapter (context : Option AdapterContext)
  | predict (context : Option AdapterContext)
  | groupedPredict (groups : List (Option AdapterContext))
  | resetAdapter (context : Option AdapterContext)
  | releaseAdapter (context : Option AdapterContext)
  | close
deriving DecidableEq, Repr

structure JoinRequest where
  requestId : String
  kind : Option JoinKind
deriving DecidableEq, Repr

def routeConfigKey (context : AdapterContext) : Option String :=
  if context.envId.isEmpty then none else some context.envId

/-- Route key for ordering a request; `none` for Close, for grouped predicts and for malformed requests. -/
def joinRequestRouteKey (request : JoinRequest) : Option String :=
  match request.kind with
  | some (.resolveAdapter context) => context.bind routeConfigKey
  | some (.predict context) => context.bind routeConfigKey
  | some (.resetAdapter context) => context.bind routeConfigKey
  | some (.releaseAdapter context) => context.bind routeConfigKey
  | some (.groupedPredict _) => none
  | some .close => none
  | none => none

/-- Add a group's key, unless it was seen before. A group without one reports its own error later. -/
def pushKey (keys : List String) (group : Option AdapterContext) : List String :=
  match group.bind routeConfigKey with
  | some key => if keys.contains key then keys else keys ++ [key]
  | none => keys

/-- The keys a grouped predict references, `none` for any other request. -/
def groupedPredictRouteKeys (request : JoinRequest) : Option (List String) :=
  match request.kind with
  | some (.groupedPredict groups) => some (groups.foldl pushKey [])
  | _ => none

def JoinRequest.isClose (request : JoinRequest) : Bool :=
  request.kind == some .close

/-- The env ids a request names: the one of its context, or those of its groups. -/
def JoinRequest.names (request : JoinRequest) : List String :=
  match request.kind with
  | some (.resolveAdapter context) | some (.predict context) | some (.resetAdapter context)
  | some (.releaseAdapter context) => (context.map (·.envId)).toList.filter (!·.isEmpty)
  | some (.groupedPredict groups) => (groups.filterMap fun group => group.map (·.envId)).filter (!·.isEmpty)
  | some .close => []
  | none => []

/-! ## Signals and gates -/

/-- A completion signal (a oneshot channel), named by the request that holds its
sender and by its place among that request's signals. -/
structure Signal where
  job : Nat
  channel : Nat
deriving DecidableEq, Repr

/-- The signals a request must see completed before it may enter its handler section. -/
inductive RequestGate where
  | prev (signal : Option Signal)
  | all (signals : List Signal)
deriving DecidableEq, Repr

def RequestGate.signals : RequestGate → List Signal
  | .prev signal => signal.toList
  | .all signals => signals

/-- Per-route tail of completion signals; `resolved` says which signals have fired or lost their sender. -/
structure RouteTails where
  tails : List (String × Signal)
deriving DecidableEq, Repr

namespace RouteTails

def new : RouteTails := { tails := [] }

/-- Take a route's tail out of the table. -/
def remove (self : RouteTails) (key : String) : Option Signal × RouteTails :=
  (self.tails.lookup key, { tails := self.tails.filter (·.1 != key) })

def insert (self : RouteTails) (key : String) (signal : Signal) : RouteTails :=
  { tails := (key, signal) :: self.tails.filter (·.1 != key) }

/-- Drop the tails whose signal has completed. -/
def reapCompleted (self : RouteTails) (resolved : List Signal) : RouteTails :=
  { tails := self.tails.filter (fun tail => !resolved.contains tail.2) }

/-- The gate of a keyed or malformed request, the signals it fires, and the table after it. -/
def nextKeyedGate (self : RouteTails) (resolved : List Signal) (job : Nat) (routeKey : Option String) :
    RequestGate × List Signal × RouteTails :=
  let done : Signal := { job, channel := 0 }
  match routeKey with
  | some key =>
    let (prev, rest) := self.remove key
    (.prev prev, [done], (rest.insert key done).reapCompleted resolved)
  | none => (.prev none, [done], self.reapCompleted resolved)

/-- One turn of the loop over a grouped predict's keys. -/
def chainKey (job : Nat) (acc : List Signal × List Signal × RouteTails) (key : String) :
    List Signal × List Signal × RouteTails :=
  let (prev, dones, self) := acc
  let (tail, rest) := self.remove key
  let done : Signal := { job, channel := dones.length }
  (prev ++ tail.toList, dones ++ [done], rest.insert key done)

/-- The gate of a grouped predict: the tails of all its routes, each replaced by a fresh one. -/
def nextMultiKeyedGate (self : RouteTails) (resolved : List Signal) (job : Nat) (keys : List String) :
    RequestGate × List Signal × RouteTails :=
  let (prev, dones, chained) := keys.foldl (chainKey job) ([], [], self)
  (.all prev, dones, chained.reapCompleted resolved)

/-- The gate of Close: every outstanding tail. It registers no tail of its own. -/
def closeAllGate (self : RouteTails) : RequestGate × List Signal × RouteTails :=
  (.all (self.tails.map (·.2)), [], new)

/-- The gate of the `job`-th request. -/
def gate (self : RouteTails) (resolved : List Signal) (job : Nat) (request : JoinRequest) :
    RequestGate × List Signal × RouteTails :=
  if request.isClose then
    self.closeAllGate
  else
    match groupedPredictRouteKeys request with
    | some keys => self.nextMultiKeyedGate resolved job keys
    | none => self.nextKeyedGate resolved job (joinRequestRouteKey request)

/-! ## What the table holds after an operation -/

@[simp] theorem lookup_insert_self (self : RouteTails) (key : String) (signal : Signal) :
    (self.insert key signal).tails.lookup key = some signal := by
  simp [insert]

variable {key : String} {self : RouteTails} {tail : String × Signal}

theorem lookup_insert_of_ne (self : RouteTails) {key' : String} (signal : Signal) (h : key' ≠ key) :
    (self.insert key signal).tails.lookup key' = self.tails.lookup key' := by
  simp [insert, List.lookup_cons, beq_false_of_ne h, lookup_filter_ne h]

theorem lookup_remove_of_ne (self : RouteTails) {key' : String} (h : key' ≠ key) :
    (self.remove key).2.tails.lookup key' = self.tails.lookup key' :=
  lookup_filter_ne h

theorem lookup_reap {resolved : List Signal} {signal : Signal} (h : self.tails.lookup key = some signal)
    (hopen : signal ∉ resolved) : (self.reapCompleted resolved).tails.lookup key = some signal :=
  lookup_filter_of_pos h (by simpa using hopen)

theorem mem_reap {resolved : List Signal} (h : tail ∈ (self.reapCompleted resolved).tails) : tail ∈ self.tails :=
  (List.mem_filter.1 h).1

theorem mem_insert {signal : Signal} (h : tail ∈ (self.insert key signal).tails) :
    tail = (key, signal) ∨ tail ∈ self.tails := by
  rcases List.mem_cons.1 h with rfl | hmem
  · exact .inl rfl
  · exact .inr (List.mem_filter.1 hmem).1

theorem mem_remove (h : tail ∈ (self.remove key).2.tails) : tail ∈ self.tails :=
  (List.mem_filter.1 h).1

/-- What gating the `job`-th request on the routes `keys` gives: its gate is made of the tails it found on them,
and it leaves its own signals there. -/
structure Chained (before : RouteTails) (job : Nat) (keys : List String) (gate dones : List Signal)
    (after : RouteTails) : Prop where
  gate_mem : ∀ signal ∈ gate, ∃ key, (key, signal) ∈ before.tails
  gate_of_tail : ∀ key ∈ keys, ∀ signal, before.tails.lookup key = some signal → signal ∈ gate
  dones_job : ∀ signal ∈ dones, signal.job = job
  tails_mem : ∀ tail ∈ after.tails, tail ∈ before.tails ∨ tail.1 ∈ keys ∧ tail.2 ∈ dones
  own_tail : ∀ key ∈ keys, ∃ signal ∈ dones, after.tails.lookup key = some signal
  other_tail : ∀ key ∉ keys, after.tails.lookup key = before.tails.lookup key

/-- A key chained after others: the loop's turns add up where the keys are distinct. -/
theorem Chained.snoc {job : Nat} {keys : List String} {gate dones : List Signal} {after : RouteTails}
    (h : self.Chained job keys gate dones after) (hkey : key ∉ keys) :
    let turn := chainKey job (gate, dones, after) key
    self.Chained job (keys ++ [key]) turn.1 turn.2.1 turn.2.2 := by
  have htail : after.tails.lookup key = self.tails.lookup key := h.other_tail key hkey
  constructor
  · intro signal hs
    rcases List.mem_append.1 hs with hs | hs
    · exact h.gate_mem signal hs
    · exact ⟨key, mem_of_lookup (htail ▸ Option.mem_toList.1 hs)⟩
  · intro key' hkey' signal hs
    rcases List.mem_append.1 hkey' with hk | hk
    · exact List.mem_append_left _ (h.gate_of_tail key' hk signal hs)
    · obtain rfl : key' = key := by simpa using hk
      exact List.mem_append_right _ (Option.mem_toList.2 (htail.trans hs))
  · intro signal hs
    rcases List.mem_append.1 hs with hs | hs
    · exact h.dones_job signal hs
    · obtain rfl : signal = _ := List.mem_singleton.1 hs
      rfl
  · intro tail ht
    rcases mem_insert ht with rfl | ht
    · exact .inr ⟨by simp, by simp [chainKey]⟩
    · rcases h.tails_mem tail (mem_remove ht) with ht | ⟨hk, hd⟩
      · exact .inl ht
      · exact .inr ⟨List.mem_append_left _ hk, List.mem_append_left _ hd⟩
  · intro key' hkey'
    by_cases hk : key' = key
    · subst hk
      exact ⟨_, List.mem_append_right _ (List.mem_singleton.2 rfl), lookup_insert_self _ _ _⟩
    · obtain ⟨signal, hs, hl⟩ := h.own_tail key' (by simpa [hk] using hkey')
      refine ⟨signal, List.mem_append_left _ hs, ?_⟩
      exact (lookup_insert_of_ne _ _ hk).trans ((lookup_remove_of_ne _ hk).trans hl)
  · intro key' hkey'
    obtain ⟨hin, hk⟩ : key' ∉ keys ∧ key' ≠ key := by simpa using hkey'
    exact (lookup_insert_of_ne _ _ hk).trans ((lookup_remove_of_ne _ hk).trans (h.other_tail key' hin))

theorem chained_nil (self : RouteTails) {job : Nat} {dones : List Signal} (h : ∀ signal ∈ dones, signal.job = job) :
    self.Chained job [] [] dones self where
  gate_mem := nofun
  gate_of_tail := nofun
  dones_job := h
  tails_mem _ h := .inl h
  own_tail := nofun
  other_tail _ _ := rfl

theorem chained_foldl (self : RouteTails) (job : Nat) (keys : List String) (hn : keys.Nodup) :
    let loop := keys.foldl (chainKey job) ([], [], self)
    self.Chained job keys loop.1 loop.2.1 loop.2.2 := by
  induction keys using List.reverseRecOn with
  | nil => exact chained_nil self nofun
  | append_singleton keys key ih =>
    obtain ⟨hn, hkey⟩ : keys.Nodup ∧ key ∉ keys := by
      rw [List.nodup_append] at hn
      exact ⟨hn.1, fun h => hn.2.2 key h key (by simp) rfl⟩
    simp only [List.foldl_append, List.foldl_cons, List.foldl_nil]
    exact (ih hn).snoc hkey

end RouteTails

/-! ## The routes of a request -/

theorem bind_routeConfigKey {context : Option AdapterContext} {key : String} :
    context.bind routeConfigKey = some key ↔ context.map (·.envId) = some key ∧ key.isEmpty = false := by
  cases context with
  | none => simp
  | some context =>
    simp only [Option.bind_some, Option.map_some, routeConfigKey]
    split <;> grind

variable {keys : List String}

theorem pushKey_nodup (hn : keys.Nodup) (group : Option AdapterContext) : (pushKey keys group).Nodup := by
  unfold pushKey
  split
  · split
    · exact hn
    · rename_i hseen
      exact List.Nodup.append hn (List.nodup_singleton _) (by simpa using hseen)
  · exact hn

theorem mem_pushKey {group : Option AdapterContext} {key : String} :
    key ∈ pushKey keys group ↔ key ∈ keys ∨ group.bind routeConfigKey = some key := by
  unfold pushKey
  cases group.bind routeConfigKey with
  | none => simp
  | some key' =>
    dsimp only
    split <;> grind

theorem pushKey_foldl (groups : List (Option AdapterContext)) (hn : keys.Nodup) :
    (groups.foldl pushKey keys).Nodup ∧
      ∀ key, key ∈ groups.foldl pushKey keys ↔ key ∈ keys ∨ ∃ group ∈ groups, group.bind routeConfigKey = some key := by
  induction groups generalizing keys with
  | nil => simp [hn]
  | cons group rest ih =>
    obtain ⟨hnodup, hmem⟩ := ih (pushKey_nodup hn group)
    refine ⟨hnodup, fun key => ?_⟩
    simp only [List.foldl_cons, hmem, mem_pushKey, List.exists_mem_cons_iff, or_assoc]

theorem RouteTails.nextKeyedGate_chained (self : RouteTails) (resolved : List Signal) (job : Nat)
    (routeKey : Option String) :
    ∃ chained,
      self.Chained job routeKey.toList (self.nextKeyedGate resolved job routeKey).1.signals
        (self.nextKeyedGate resolved job routeKey).2.1 chained ∧
      (self.nextKeyedGate resolved job routeKey).2.2 = chained.reapCompleted resolved := by
  cases routeKey with
  | some key =>
    have hnone : self.Chained job [] [] [] self := chained_nil self nofun
    exact ⟨_, hnone.snoc List.not_mem_nil, rfl⟩
  | none => exact ⟨self, chained_nil self (by simp [nextKeyedGate]), rfl⟩

theorem RouteTails.gate_chained (self : RouteTails) (resolved : List Signal) (job : Nat) (request : JoinRequest)
    (hclose : request.isClose = false) :
    ∃ keys chained, (∀ key, key ∈ keys ↔ key ∈ request.names) ∧
      self.Chained job keys (self.gate resolved job request).1.signals (self.gate resolved job request).2.1 chained ∧
      (self.gate resolved job request).2.2 = chained.reapCompleted resolved := by
  have hgate : self.gate resolved job request = match groupedPredictRouteKeys request with
      | some keys => self.nextMultiKeyedGate resolved job keys
      | none => self.nextKeyedGate resolved job (joinRequestRouteKey request) := by
    simp [gate, hclose]
  cases hgroup : groupedPredictRouteKeys request with
  | some keys =>
    rw [hgroup] at hgate
    obtain ⟨requestId, kind⟩ := request
    obtain ⟨groups, rfl, rfl⟩ : ∃ groups, kind = some (.groupedPredict groups) ∧ groups.foldl pushKey [] = keys := by
      simp only [groupedPredictRouteKeys] at hgroup
      split at hgroup <;> simp_all
    obtain ⟨hnodup, hmem⟩ := pushKey_foldl groups List.nodup_nil
    rw [hgate]
    refine ⟨groups.foldl pushKey [], _, fun key => ?_, chained_foldl self job _ hnodup, rfl⟩
    rw [hmem key]
    simp only [bind_routeConfigKey, JoinRequest.names]
    grind
  | none =>
    rw [hgroup] at hgate
    obtain ⟨chained, hchained, hafter⟩ := self.nextKeyedGate_chained resolved job (joinRequestRouteKey request)
    rw [hgate]
    refine ⟨_, chained, fun key => ?_, hchained, hafter⟩
    rw [Option.mem_toList]
    unfold joinRequestRouteKey JoinRequest.names
    unfold groupedPredictRouteKeys at hgroup
    split <;> simp_all [bind_routeConfigKey, and_comm]

end Rlmesh.Model
