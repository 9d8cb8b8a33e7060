import Mathlib
/-!
# Computations that may fail

A computation over a state that fails keeps the state it had reached. `Ensures`
is the triple for it, with one postcondition for success and one for failure;
the rules follow the combinators.
-/

namespace Rlmesh.Lib

/-- A computation over a state `σ` that may fail with an `ε`. -/
abbrev Fallible (σ ε : Type) := ExceptT ε (StateM σ)

namespace Fallible

variable {σ ω ε α β : Type}

/-- What the computation returns, and the state it leaves. -/
def exec (m : Fallible σ ε α) (s : σ) : Except ε α × σ :=
  (ExceptT.run m).run s

/-- A computation given by what it does. -/
def ofFun (f : σ → Except ε α × σ) : Fallible σ ε α :=
  ExceptT.mk (m := StateM σ) f

/-- A step that does not touch the state. -/
def ofResult (x : Except ε α) : Fallible σ ε α :=
  ofFun fun s => (x, s)

/-- Run a computation on a part of the state. -/
def zoom (view : σ → ω) (update : σ → ω → σ) (f : ω → Except ε α × ω) : Fallible σ ε α :=
  ofFun fun s => ((f (view s)).1, update s (f (view s)).2)

/-- The same computation under another error. -/
def mapError {ε' : Type} (f : ε → ε') (m : Fallible σ ε α) : Fallible σ ε' α :=
  ofFun fun s => ((exec m s).1.mapError f, (exec m s).2)

/-- Go on with what a computation returned, failed or not. -/
def attempt (m : Fallible σ ε α) : Fallible σ ε (Except ε α) :=
  ofFun fun s => (.ok (exec m s).1, (exec m s).2)

@[simp] theorem exec_ofFun (f : σ → Except ε α × σ) (s : σ) : exec (ofFun f) s = f s := rfl

@[simp] theorem exec_ofResult (x : Except ε α) (s : σ) : exec (ofResult x) s = (x, s) := rfl

@[simp] theorem exec_pure (a : α) (s : σ) : exec (pure a : Fallible σ ε α) s = (.ok a, s) := rfl

@[simp] theorem exec_throw (e : ε) (s : σ) : exec (throw e : Fallible σ ε α) s = (.error e, s) := rfl

@[simp] theorem exec_lift (r : Except ε α) (s : σ) : exec (ExceptT.mk (pure r) : Fallible σ ε α) s = (r, s) := rfl

@[simp] theorem exec_get (s : σ) : exec (get : Fallible σ ε σ) s = (.ok s, s) := rfl

@[simp] theorem exec_modify (f : σ → σ) (s : σ) : exec (modify f : Fallible σ ε Unit) s = (.ok (), f s) := rfl

@[simp] theorem exec_zoom (view : σ → ω) (update : σ → ω → σ) (f : ω → Except ε α × ω) (s : σ) :
    exec (zoom view update f) s = ((f (view s)).1, update s (f (view s)).2) := rfl

@[simp] theorem exec_attempt (m : Fallible σ ε α) (s : σ) :
    exec (attempt m) s = (.ok (exec m s).1, (exec m s).2) := rfl

theorem exec_mapError {ε' : Type} (f : ε → ε') (m : Fallible σ ε α) (s : σ) :
    exec (mapError f m) s = ((exec m s).1.mapError f, (exec m s).2) := rfl

variable {s s' : σ}

theorem exec_mapError_ok {ε' : Type} {f : ε → ε'} {m : Fallible σ ε α} {a : α} :
    exec (mapError f m) s = (.ok a, s') ↔ exec m s = (.ok a, s') := by
  rw [exec_mapError]
  rcases exec m s with ⟨e | a, s₁⟩
  · simp [Except.mapError]
  · simp [Except.mapError]

theorem exec_bind (m : Fallible σ ε α) (f : α → Fallible σ ε β) (s : σ) :
    exec (m >>= f) s = match exec m s with
      | (.ok a, s') => exec (f a) s'
      | (.error e, s') => (.error e, s') := by
  unfold exec
  rw [ExceptT.run_bind, StateT.run_bind]
  show (match (ExceptT.run m).run s with | (r, s') => _) = _
  rcases (ExceptT.run m).run s with ⟨_ | _, _⟩ <;> rfl

theorem exec_bind_ok {m : Fallible σ ε α} {f : α → Fallible σ ε β} {b : β} :
    exec (m >>= f) s = (.ok b, s') ↔ ∃ a s₁, exec m s = (.ok a, s₁) ∧ exec (f a) s₁ = (.ok b, s') := by
  rw [exec_bind]
  rcases exec m s with ⟨e | a, s₁⟩
  · simp
  · simp

theorem exec_ofResult_ok {x : Except ε α} {a : α} : exec (ofResult x) s = (.ok a, s') ↔ x = .ok a ∧ s' = s := by
  rw [exec_ofResult, Prod.mk.injEq, @eq_comm σ s]

theorem exec_ofResult_bind_ok {x : Except ε α} {f : α → Fallible σ ε β} {b : β} :
    exec (ofResult x >>= f) s = (.ok b, s') ↔ ∃ a, x = .ok a ∧ exec (f a) s = (.ok b, s') := by
  rw [exec_bind, exec_ofResult]
  cases x with
  | error e => simp
  | ok a => simp

theorem length_mapM {f : α → Fallible σ ε β} {xs : List α} {bs : List β} (h : exec (xs.mapM f) s = (.ok bs, s')) :
    bs.length = xs.length := by
  induction xs generalizing s bs with
  | nil =>
    cases h
    rfl
  | cons x rest ih =>
    rw [List.mapM_cons] at h
    obtain ⟨b, s₁, -, h⟩ := exec_bind_ok.1 h
    obtain ⟨bs', s₂, hbs, h⟩ := exec_bind_ok.1 h
    cases h
    rw [List.length_cons, List.length_cons, ih hbs]

/-- From a state in `P` the computation succeeds into `Q` or fails into `E`. -/
def Ensures (P : σ → Prop) (m : Fallible σ ε α) (Q : α → σ → Prop) (E : σ → Prop) : Prop :=
  ∀ s, P s → match exec m s with
    | (.ok a, s') => Q a s'
    | (.error _, s') => E s'

/-- An invariant of the computation, however it ends. -/
abbrev Keeps (I : σ → Prop) (m : Fallible σ ε α) : Prop :=
  Ensures I m (fun _ => I) I

section Rules

variable {P P' : σ → Prop} {Q Q' : α → σ → Prop} {R : β → σ → Prop} {E E' : σ → Prop} {m : Fallible σ ε α}
  {f : α → Fallible σ ε β}

theorem ensures_iff : Ensures P m Q E ↔ (∀ s a s', P s → exec m s = (.ok a, s') → Q a s') ∧
    ∀ s e s', P s → exec m s = (.error e, s') → E s' := by
  constructor
  · intro h
    refine ⟨fun s a s' hs hr => ?_, fun s e s' hs hr => ?_⟩
    · have := h s hs
      rwa [hr] at this
    · have := h s hs
      rwa [hr] at this
  · rintro ⟨hok, herror⟩ s hs
    split
    · exact hok _ _ _ hs ‹_›
    · exact herror _ _ _ hs ‹_›

variable {s : σ} {I : σ → Prop}

theorem Ensures.ok (h : Ensures P m Q E) {s' : σ} {a : α} (hs : P s) (hr : exec m s = (.ok a, s')) : Q a s' :=
  (ensures_iff.1 h).1 s a s' hs hr

theorem Ensures.mono (h : Ensures P m Q E) (hp : ∀ s, P' s → P s) (hq : ∀ a s, Q a s → Q' a s)
    (he : ∀ s, E s → E' s) : Ensures P' m Q' E' := by
  rw [ensures_iff] at h ⊢
  exact ⟨fun s a s' hs hr => hq a s' (h.1 s a s' (hp s hs) hr), fun s e s' hs hr => he s' (h.2 s e s' (hp s hs) hr)⟩

theorem Ensures.pre (h : Ensures P m Q E) (hp : ∀ s, P' s → P s) : Ensures P' m Q E :=
  h.mono hp (fun _ _ => id) (fun _ => id)

theorem Ensures.failing (h : Ensures P m Q E) (he : ∀ s, E s → E' s) : Ensures P m Q E' :=
  h.mono (fun _ => id) (fun _ _ => id) he

theorem Keeps.exec (h : Keeps I m) (hs : I s) : I (exec m s).2 := by
  have hleft := h s hs
  rcases hr : Fallible.exec m s with ⟨_ | _, s'⟩ <;> rwa [hr] at hleft

theorem ensures_pure (a : α) (h : ∀ s, P s → Q a s) : Ensures P (pure a : Fallible σ ε α) Q E := h

theorem ensures_throw (e : ε) (h : ∀ s, P s → E s) : Ensures P (throw e : Fallible σ ε α) Q E := h

theorem ensures_ofResult {x : Except ε α} (hok : ∀ a s, x = .ok a → P s → Q a s) (herror : ∀ s, P s → E s) :
    Ensures P (ofResult x) Q E := by
  intro s hs
  rw [exec_ofResult]
  cases x with
  | ok a => exact hok a s rfl hs
  | error e => exact herror s hs

theorem ensures_modify {Q : Unit → σ → Prop} (g : σ → σ) (h : ∀ s, P s → Q () (g s)) :
    Ensures P (modify g : Fallible σ ε Unit) Q E := h

theorem ensures_bind (hm : Ensures P m Q E) (hf : ∀ a, Ensures (Q a) (f a) R E) : Ensures P (m >>= f) R E := by
  intro s hs
  have hms := hm s hs
  rw [exec_bind]
  rcases hr : exec m s with ⟨e | a, s'⟩
  · rw [hr] at hms
    exact hms
  · rw [hr] at hms
    exact hf a s' hms

theorem ensures_get_bind {f : σ → Fallible σ ε β} (h : ∀ s, P s → Ensures (· = s) (f s) R E) :
    Ensures P (get >>= f) R E := fun s hs => h s hs s rfl

/-- A condition on the state that is left, however the computation ends. -/
theorem ensures_of_left (h : ∀ s, P s → I (exec m s).2) : Ensures P m (fun _ => I) I := by
  intro s hs
  have hleft := h s hs
  rcases hr : exec m s with ⟨_ | _, s'⟩ <;> rwa [hr] at hleft

/-- Whatever becomes of a part of the state leaves the invariant alone. -/
theorem keeps_zoom {view : σ → ω} {update : σ → ω → σ} (g : ω → Except ε α × ω) (h : ∀ s w, I s → I (update s w)) :
    Keeps I (zoom view update g) :=
  ensures_of_left fun s hs => h s _ hs

theorem keeps_pure (a : α) : Keeps I (pure a : Fallible σ ε α) := fun _ h => h

theorem keeps_throw (e : ε) : Keeps I (throw e : Fallible σ ε α) := fun _ h => h

theorem keeps_ofResult (x : Except ε α) : Keeps I (ofResult x : Fallible σ ε α) :=
  ensures_of_left fun _ h => h

theorem keeps_mapError {ε' : Type} {g : ε → ε'} (h : Keeps I m) : Keeps I (mapError g m) :=
  ensures_of_left fun _ hs => h.exec hs

theorem keeps_bind (hm : Keeps I m) (hf : ∀ a, Keeps I (f a)) : Keeps I (m >>= f) :=
  ensures_bind hm hf

/-- What holds after the first of two computations and is kept by the second holds after both. -/
theorem exec_bind_keeps (hm : I (exec m s).2) (hf : ∀ a, Keeps I (f a)) : I (exec (m >>= f) s).2 := by
  rw [exec_bind]
  rcases hrun : exec m s with ⟨e | a, s'⟩
  · rwa [hrun] at hm
  · rw [hrun] at hm
    exact (hf a).exec hm

theorem keeps_get : Keeps I (get : Fallible σ ε σ) := fun _ h => h

theorem keeps_ofResult_bind {x : Except ε α} (h : ∀ a, x = .ok a → Keeps I (f a)) : Keeps I (ofResult x >>= f) :=
  ensures_of_left fun s hs => by
    rw [exec_bind, exec_ofResult]
    cases x with
    | error e => exact hs
    | ok a => exact (h a rfl).exec hs

theorem keeps_mapM {xs : List α} (h : ∀ x ∈ xs, Keeps I (f x)) : Keeps I (xs.mapM f) := by
  induction xs with
  | nil => exact keeps_pure _
  | cons x rest ih =>
    rw [List.mapM_cons]
    refine keeps_bind (h x List.mem_cons_self) (fun b => ?_)
    exact keeps_bind (ih (fun y hy => h y (List.mem_cons_of_mem _ hy))) (fun bs => keeps_pure _)

/-- What each item's computation establishes and no other undoes holds of every item in the end. -/
theorem mapM_establishes {Q : α → σ → Prop} {xs : List α}
    (hq : ∀ x ∈ xs, ∀ s b s', exec (f x) s = (.ok b, s') → Q x s') (hk : ∀ x ∈ xs, ∀ y ∈ xs, Keeps (Q y) (f x))
    {s' : σ} {bs : List β} (hr : exec (xs.mapM f) s = (.ok bs, s')) : ∀ x ∈ xs, Q x s' := by
  induction xs generalizing s bs with
  | nil => exact fun x hx => nomatch hx
  | cons first rest ih =>
    rw [List.mapM_cons] at hr
    obtain ⟨b, s₁, hb, hr⟩ := exec_bind_ok.1 hr
    obtain ⟨bs', s₂, hbs, hr⟩ := exec_bind_ok.1 hr
    cases hr
    intro x hx
    rcases List.mem_cons.1 hx with rfl | hx
    · have hrest : Keeps (Q x) (rest.mapM f) :=
        keeps_mapM (fun y hy => hk y (List.mem_cons_of_mem _ hy) x List.mem_cons_self)
      exact hrest.ok (hq x List.mem_cons_self s b s₁ hb) hbs
    · refine ih (fun y hy => hq y (List.mem_cons_of_mem _ hy)) (fun y hy z hz => ?_) hbs x hx
      exact hk y (List.mem_cons_of_mem _ hy) z (List.mem_cons_of_mem _ hz)

theorem ensures_attempt {Q : Except ε α → σ → Prop}
    (h : Ensures P m (fun a => Q (.ok a)) (fun s => ∀ e, Q (.error e) s)) : Ensures P (attempt m) Q E := by
  intro s hs
  have hm := h s hs
  rw [exec_attempt]
  dsimp only
  split at hm
  · rename_i hr
    rw [hr]
    exact hm
  · rename_i hr
    rw [hr]
    exact hm _

end Rules

/-! ## Computations that always succeed -/

/-- From any state the computation succeeds, with a result in `P`. -/
def Yields (m : Fallible σ ε α) (P : α → Prop) : Prop := ∀ s, ∃ a s', exec m s = (.ok a, s') ∧ P a

theorem yields_pure {P : α → Prop} {a : α} (h : P a) : Yields (pure a : Fallible σ ε α) P := fun s => ⟨a, s, rfl, h⟩

theorem Yields.bind {m : Fallible σ ε α} {f : α → Fallible σ ε β} {P : α → Prop} {Q : β → Prop} (hm : Yields m P)
    (hf : ∀ a, P a → Yields (f a) Q) : Yields (m >>= f) Q := by
  intro s
  obtain ⟨a, s₁, ha, hpa⟩ := hm s
  obtain ⟨b, s₂, hb, hqb⟩ := hf a hpa s₁
  exact ⟨b, s₂, exec_bind_ok.2 ⟨a, s₁, ha, hb⟩, hqb⟩

theorem Yields.map {m : Fallible σ ε α} {f : α → β} {P : α → Prop} {Q : β → Prop} (hm : Yields m P)
    (hf : ∀ a, P a → Q (f a)) : Yields (do return f (← m)) Q := hm.bind (fun a ha => yields_pure (hf a ha))

theorem yields_mapM {f : α → Fallible σ ε β} {R : α → β → Prop} {xs : List α} (h : ∀ x ∈ xs, Yields (f x) (R x)) :
    Yields (xs.mapM f) (List.Forall₂ R xs) := by
  induction xs with
  | nil => exact yields_pure .nil
  | cons x rest ih =>
    rw [List.mapM_cons]
    refine (h x List.mem_cons_self).bind (fun b hb => ?_)
    exact (ih (fun y hy => h y (List.mem_cons_of_mem _ hy))).map (fun bs hbs => .cons hb hbs)

end Fallible

end Rlmesh.Lib
