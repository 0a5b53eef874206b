import Mathlib.Tactic.Common

/-!
# Computations that throw and keep their state

A computation of `EStateM` ends with a value or with an exception, and in both
cases with a state.  The rules below execute a program step by step.
-/

namespace Sponge.Lib.Throwing

universe u

variable {ε σ α β : Type u}

/-- The state that a computation leaves, whether or not it throws. -/
def finalState : EStateM.Result ε σ α → σ
  | .ok _ state => state
  | .error _ state => state

@[simp]
theorem finalState_ok (a : α) (state : σ) :
    finalState (.ok a state : EStateM.Result ε σ α) = state := rfl

/-- Does the computation return? -/
def returns : EStateM.Result ε σ α → Bool
  | .ok _ _ => true
  | .error _ _ => false

section Within

variable {ρ : Type u}

/-- Run a computation on a part of the state. -/
def within (part : σ → ρ) (update : σ → ρ → σ) (x : EStateM ε ρ α) : EStateM ε σ α := fun state =>
  match x (part state) with
  | .ok a next => .ok a (update state next)
  | .error e next => .error e (update state next)

theorem within_of_ok {part : σ → ρ} {update : σ → ρ → σ} {x : EStateM ε ρ α} {state : σ} {a : α}
    {next : ρ} (ran : x (part state) = .ok a next) :
    within part update x state = .ok a (update state next) := by
  rw [within, ran]

theorem finalState_within (part : σ → ρ) (update : σ → ρ → σ) (x : EStateM ε ρ α) (state : σ) :
    finalState (within part update x state) = update state (finalState (x (part state))) := by
  rw [within]
  cases x (part state) <;> rfl

theorem exists_of_within {part : σ → ρ} {update : σ → ρ → σ} {x : EStateM ε ρ α} {state next : σ}
    {a : α} (ran : within part update x state = .ok a next) :
    ∃ new, x (part state) = .ok a new ∧ next = update state new := by
  rw [within] at ran
  cases inner : x (part state) with
  | ok b new =>
      rw [inner] at ran
      cases ran
      exact ⟨new, rfl, rfl⟩
  | error e new =>
      rw [inner] at ran
      cases ran

end Within

theorem bind_of_ok {x : EStateM ε σ α} {f : α → EStateM ε σ β} {state state' : σ} {a : α}
    (returns : x state = .ok a state') : (x >>= f) state = f a state' := by
  show (match x state with | .ok a s => f a s | .error e s => .error e s) = _
  rw [returns]

theorem bind_of_error {x : EStateM ε σ α} {state state' : σ} {e : ε} (throws : x state = .error e state')
    (f : α → EStateM ε σ β) : (x >>= f) state = .error e state' := by
  show (match x state with | .ok a s => f a s | .error e s => .error e s) = _
  rw [throws]

theorem map_of_ok {x : EStateM ε σ α} {state state' : σ} {a : α} (returns : x state = .ok a state')
    (f : α → β) : (f <$> x) state = .ok (f a) state' := by
  rw [map_eq_pure_bind, bind_of_ok returns]
  rfl

/-- A computation that returns has returned from each of its steps. -/
theorem exists_of_bind {x : EStateM ε σ α} {f : α → EStateM ε σ β} {state next : σ} {b : β}
    (ran : (x >>= f) state = .ok b next) :
    ∃ a between, x state = .ok a between ∧ f a between = .ok b next := by
  cases first : x state with
  | ok a between =>
      rw [bind_of_ok first] at ran
      exact ⟨a, between, rfl, ran⟩
  | error e between =>
      rw [bind_of_error first] at ran
      cases ran

/-- What comes after a computation matters only if the computation returns. -/
theorem bind_congr_of_ok {x : EStateM ε σ α} {f g : α → EStateM ε σ β} {state : σ}
    (same : ∀ a state', x state = .ok a state' → f a state' = g a state') :
    (x >>= f) state = (x >>= g) state := by
  show (match x state with | .ok a s => f a s | .error e s => .error e s) =
    match x state with | .ok a s => g a s | .error e s => .error e s
  cases ran : x state with
  | ok a state' => exact same a state' ran
  | error e state' => rfl

@[simp]
theorem pure_run (a : α) (state : σ) : (pure a : EStateM ε σ α) state = .ok a state := rfl

@[simp]
theorem get_bind_run (f : σ → EStateM ε σ α) (state : σ) : (get >>= f) state = f state state := rfl

theorem branch_run (c : Prop) [Decidable c] (x y : EStateM ε σ α) (state : σ) :
    (if c then x else y) state = if c then x state else y state := by
  split_ifs <;> rfl

@[simp]
theorem modify_bind_run (g : σ → σ) (f : PUnit → EStateM ε σ α) (state : σ) :
    ((modify g : EStateM ε σ PUnit) >>= f) state = f ⟨⟩ (g state) := rfl

@[simp]
theorem modify_run (g : σ → σ) (state : σ) :
    (modify g : EStateM ε σ PUnit) state = .ok ⟨⟩ (g state) := rfl

@[simp]
theorem set_bind_run (new : σ) (f : PUnit → EStateM ε σ α) (state : σ) :
    ((set new : EStateM ε σ PUnit) >>= f) state = f ⟨⟩ new := rfl

@[simp]
theorem set_map_run (new : σ) (f : PUnit → α) (state : σ) :
    (f <$> (set new : EStateM ε σ PUnit)) state = .ok (f ⟨⟩) new := rfl

@[simp]
theorem ofExcept_ok_bind (a : α) (f : α → EStateM ε σ β) (state : σ) :
    ((MonadExcept.ofExcept (.ok a : Except ε α) : EStateM ε σ α) >>= f) state = f a state := rfl

@[simp]
theorem ofExcept_ok_map (a : α) (f : α → β) (state : σ) :
    (f <$> (MonadExcept.ofExcept (.ok a : Except ε α) : EStateM ε σ α)) state = .ok (f a) state := rfl

@[simp]
theorem ofExcept_error_bind (e : ε) (f : α → EStateM ε σ β) (state : σ) :
    ((MonadExcept.ofExcept (.error e : Except ε α) : EStateM ε σ α) >>= f) state =
      .error e state := rfl

@[simp]
theorem ofExcept_error_map (e : ε) (f : α → β) (state : σ) :
    (f <$> (MonadExcept.ofExcept (.error e : Except ε α) : EStateM ε σ α)) state =
      .error e state := rfl

theorem forM_map {γ δ : Type*} (list : List γ) (g : γ → δ) (f : δ → EStateM ε σ PUnit) :
    (list.map g).forM f = list.forM fun c => f (g c) :=
  List.forM_map

/-- A loop within a loop is a loop over all the pairs. -/
theorem forM_flatMap {γ δ : Type*} (list : List γ) (g : γ → List δ) (f : δ → EStateM ε σ PUnit) :
    (list.flatMap g).forM f = list.forM fun c => (g c).forM f := by
  induction list with
  | nil => rfl
  | cons c rest inductionHypothesis =>
      exact List.forM_append.trans (bind_congr fun _ => inductionHypothesis)

section Keeps

variable {γ : Type*} {view : σ → γ}

/-- A computation does not change what is seen of the state, even if it throws. -/
def Keeps (view : σ → γ) (x : EStateM ε σ α) : Prop :=
  ∀ state, view (finalState (x state)) = view state

theorem Keeps.of_ok {x : EStateM ε σ α} (keeps : Keeps view x) {state next : σ} {a : α}
    (ran : x state = .ok a next) : view next = view state := by
  have kept := keeps state
  rwa [ran] at kept

theorem keeps_pure (a : α) : Keeps view (pure a : EStateM ε σ α) := fun _ => rfl

theorem keeps_get : Keeps view (get : EStateM ε σ σ) := fun _ => rfl

theorem keeps_modify {g : σ → σ} (same : ∀ state, view (g state) = view state) :
    Keeps view (modify g : EStateM ε σ PUnit) := same

theorem keeps_throw (e : ε) : Keeps view (throw e : EStateM ε σ α) := fun _ => rfl

theorem keeps_within {ρ : Type u} {part : σ → ρ} {update : σ → ρ → σ}
    (same : ∀ state new, view (update state new) = view state) (x : EStateM ε ρ α) :
    Keeps view (within part update x) := by
  intro state
  rw [within]
  cases x (part state) <;> exact same state _

/-- A computation on a part of the state keeps what it keeps of the part. -/
theorem Keeps.within {ρ : Type u} {part : σ → ρ} {update : σ → ρ → σ} {view : ρ → γ}
    {x : EStateM ε ρ α} (keeps : Keeps view x)
    (lawful : ∀ state new, part (update state new) = new) :
    Keeps (fun state => view (part state)) (within part update x) := by
  intro state
  have kept := keeps (part state)
  rw [Throwing.within]
  cases ran : x (part state) with
  | ok a new =>
      rw [ran] at kept
      exact (congrArg view (lawful state new)).trans kept
  | error e new =>
      rw [ran] at kept
      exact (congrArg view (lawful state new)).trans kept

theorem keeps_ofExcept (result : Except ε α) :
    Keeps view (MonadExcept.ofExcept result : EStateM ε σ α) := by
  intro state
  cases result <;> rfl

theorem Keeps.bind {x : EStateM ε σ α} {f : α → EStateM ε σ β} (first : Keeps view x)
    (rest : ∀ a, Keeps view (f a)) : Keeps view (x >>= f) := by
  intro state
  have kept := first state
  show view (finalState (match x state with | .ok a s => f a s | .error e s => .error e s)) = _
  cases ran : x state with
  | ok a next =>
      rw [ran] at kept
      exact (rest a next).trans kept
  | error e next =>
      rw [ran] at kept
      exact kept

theorem Keeps.forM {δ : Type*} {f : δ → EStateM ε σ PUnit} (each : ∀ c, Keeps view (f c))
    (list : List δ) : Keeps view (list.forM f) := by
  induction list with
  | nil => exact keeps_pure _
  | cons c rest inductionHypothesis => exact (each c).bind fun _ => inductionHypothesis

theorem Keeps.mapM {δ : Type*} {f : δ → EStateM ε σ α} (each : ∀ c, Keeps view (f c))
    (list : List δ) : Keeps view (list.mapM f) := by
  induction list with
  | nil => exact keeps_pure _
  | cons c rest inductionHypothesis =>
      rw [List.mapM_cons]
      exact (each c).bind fun _ => inductionHypothesis.bind fun _ => keeps_pure _

theorem Keeps.branch {c : Prop} [Decidable c] {x y : EStateM ε σ α} (yes : Keeps view x)
    (no : Keeps view y) : Keeps view (if c then x else y) := by
  split
  · exact yes
  · exact no

end Keeps

section Relates

variable {related : σ → σ → Prop}

/-- A computation gets from every state to one that is related to it, even if it
throws. -/
def Relates (related : σ → σ → Prop) (x : EStateM ε σ α) : Prop :=
  ∀ state, related state (finalState (x state))

theorem relates_pure (refl : ∀ state, related state state) (a : α) :
    Relates related (pure a : EStateM ε σ α) := refl

theorem Relates.bind {x : EStateM ε σ α} {f : α → EStateM ε σ β} (first : Relates related x)
    (rest : ∀ a, Relates related (f a))
    (trans : ∀ a b c, related a b → related b c → related a c) : Relates related (x >>= f) := by
  intro state
  have before := first state
  cases ran : x state with
  | ok a next =>
      rw [ran] at before
      rw [bind_of_ok ran]
      exact trans _ _ _ before (rest a next)
  | error e next =>
      rw [ran] at before
      rw [bind_of_error ran]
      exact before

end Relates

section Triple

/-- What holds where a computation ends: `post` if it returns, `thrown` if it
throws. -/
def Ends (post : α → σ → Prop) (thrown : ε → σ → Prop) : EStateM.Result ε σ α → Prop
  | .ok a next => post a next
  | .error e next => thrown e next

theorem Ends.imp {post post' : α → σ → Prop} {thrown thrown' : ε → σ → Prop}
    {result : EStateM.Result ε σ α} (ends : Ends post thrown result)
    (returned : ∀ a state, post a state → post' a state)
    (threw : ∀ e state, thrown e state → thrown' e state) : Ends post' thrown' result := by
  cases result with
  | ok a state => exact returned a state ends
  | error e state => exact threw e state ends

/-- Started where `pre` holds, a computation ends where `post` holds if it
returns, and where `thrown` holds if it throws. -/
def Triple (pre : σ → Prop) (x : EStateM ε σ α) (post : α → σ → Prop) (thrown : ε → σ → Prop) : Prop :=
  ∀ state, pre state → Ends post thrown (x state)

theorem Ends.and_final {post : α → σ → Prop} {thrown : ε → σ → Prop}
    {result : EStateM.Result ε σ α} (ends : Ends post thrown result) (kept : σ → Prop)
    (final : kept (finalState result)) :
    Ends (fun a state => post a state ∧ kept state) (fun e state => thrown e state ∧ kept state)
      result := by
  cases result <;> exact ⟨ends, final⟩

/-- A computation on a part of the state ends where the part does. -/
theorem Ends.within {ρ : Type u} {part : σ → ρ} {update : σ → ρ → σ} {x : EStateM ε ρ α} {state : σ}
    {post : α → ρ → Prop} {thrown : ε → ρ → Prop} (ends : Ends post thrown (x (part state))) :
    Ends (fun a next => ∃ new, post a new ∧ next = update state new)
      (fun e next => ∃ new, thrown e new ∧ next = update state new)
      (within part update x state) := by
  rw [Throwing.within]
  cases ran : x (part state) with
  | ok a new =>
      rw [ran] at ends
      exact ⟨new, ends, rfl⟩
  | error e new =>
      rw [ran] at ends
      exact ⟨new, ends, rfl⟩

variable {pre : σ → Prop} {post : α → σ → Prop} {thrown : ε → σ → Prop}

theorem Triple.of_ok {x : EStateM ε σ α} (triple : Triple pre x post thrown) {state next : σ} {a : α}
    (holds : pre state) (ran : x state = .ok a next) : post a next := by
  have ends := triple state holds
  rwa [ran] at ends

theorem Triple.of_error {x : EStateM ε σ α} (triple : Triple pre x post thrown) {state next : σ} {e : ε}
    (holds : pre state) (threw : x state = .error e next) : thrown e next := by
  have ends := triple state holds
  rwa [threw] at ends

/-- A computation that never throws returns. -/
theorem Triple.returns {x : EStateM ε σ α} (triple : Triple pre x post fun _ _ => False) {state : σ}
    (holds : pre state) : ∃ a next, x state = .ok a next ∧ post a next := by
  cases ran : x state with
  | ok a next => exact ⟨a, next, rfl, triple.of_ok holds ran⟩
  | error e next => exact (triple.of_error holds ran).elim

theorem Triple.bind {x : EStateM ε σ α} {f : α → EStateM ε σ β} {after : β → σ → Prop}
    (first : Triple pre x post thrown) (rest : ∀ a, Triple (post a) (f a) after thrown) :
    Triple pre (x >>= f) after thrown := by
  intro state holds
  cases ran : x state with
  | ok a next =>
      rw [bind_of_ok ran]
      exact rest a next (first.of_ok holds ran)
  | error e next =>
      rw [bind_of_error ran]
      exact first.of_error holds ran

theorem Triple.bind_pure {x : EStateM ε σ α} (triple : Triple pre x post thrown) {f : α → β}
    {after : β → σ → Prop} (ends : ∀ a state, post a state → after (f a) state) :
    Triple pre (x >>= fun a => pure (f a)) after thrown :=
  triple.bind ends

/-- What a program reads of the state is that of the state it starts in. -/
theorem triple_get_bind {f : σ → EStateM ε σ α}
    (reads : ∀ state, pre state → Triple (fun now => now = state) (f state) post thrown) :
    Triple pre (get >>= f) post thrown :=
  fun state holds => reads state holds state rfl

/-- A step that only reads, and finds the same in every state. -/
theorem Triple.bind_read {x : EStateM ε σ α} {f : α → EStateM ε σ β} {after : β → σ → Prop} {a : α}
    (reads : ∀ state, pre state → x state = .ok a state) (rest : Triple pre (f a) after thrown) :
    Triple pre (x >>= f) after thrown := by
  intro state holds
  rw [bind_of_ok (reads state holds)]
  exact rest state holds

theorem Triple.weaken {x : EStateM ε σ α} (triple : Triple pre x post thrown) {before : σ → Prop}
    {after : α → σ → Prop} (weaker : ∀ state, before state → pre state)
    (stronger : ∀ a state, post a state → after a state) : Triple before x after thrown :=
  fun state holds => (triple state (weaker state holds)).imp stronger fun _ _ => id

theorem Triple.weaken_thrown {x : EStateM ε σ α} (triple : Triple pre x post thrown)
    {thrown' : ε → σ → Prop} (weaker : ∀ e state, thrown e state → thrown' e state) :
    Triple pre x post thrown' :=
  fun state holds => (triple state holds).imp (fun _ _ => id) weaker

/-- What else a computation keeps can be added to its triple. -/
theorem Triple.and_kept {kept : σ → Prop} {x : EStateM ε σ α} (triple : Triple pre x post thrown)
    (keeps : ∀ state, pre state → kept state → kept (finalState (x state))) :
    Triple (fun state => pre state ∧ kept state) x (fun a state => post a state ∧ kept state)
      thrown := by
  rintro state ⟨holds, before⟩
  have ends := triple state holds
  have still := keeps state holds before
  cases ran : x state with
  | ok a next =>
      rw [ran] at ends still
      exact ⟨ends, still⟩
  | error e next =>
      rw [ran] at ends
      exact ends

/-- A loop keeps an invariant that may depend on what has been done. -/
theorem Triple.forM {γ : Type*} (inv : List γ → σ → Prop) {f : γ → EStateM ε σ PUnit}
    {list : List γ} (step : ∀ done c rest, list = done ++ c :: rest →
      Triple (inv done) (f c) (fun _ => inv (done ++ [c])) thrown) :
    Triple (inv []) (list.forM f) (fun _ => inv list) thrown := by
  have loop (rest : List γ) : ∀ done, list = done ++ rest →
      Triple (inv done) (rest.forM f) (fun _ => inv list) thrown := by
    induction rest with
    | nil =>
        intro done whole state holds
        rw [List.append_nil] at whole
        exact whole ▸ holds
    | cons c rest inductionHypothesis =>
        intro done whole
        refine (step done c rest whole).bind fun _ => inductionHypothesis _ ?_
        rw [whole, List.append_assoc, List.singleton_append]
  exact loop list [] rfl

end Triple

section Simulates

variable {τ : Type u} {view : σ → τ}

/-- A computation returns from every state, and through a view of the state it
does what a computation that cannot throw does. -/
def Simulates (view : σ → τ) (x : EStateM ε σ α) (y : StateM τ α) : Prop :=
  ∀ state, ∃ next, x state = .ok (y (view state)).1 next ∧ view next = (y (view state)).2

theorem simulates_pure (a : α) : Simulates view (pure a : EStateM ε σ α) (pure a) :=
  fun state => ⟨state, rfl, rfl⟩

theorem Simulates.bind {x : EStateM ε σ α} {y : StateM τ α} {f : α → EStateM ε σ β}
    {g : α → StateM τ β} (first : Simulates view x y) (rest : ∀ a, Simulates view (f a) (g a)) :
    Simulates view (x >>= f) (y >>= g) := by
  intro state
  obtain ⟨between, ran, seen⟩ := first state
  obtain ⟨next, later, last⟩ := rest (y (view state)).1 between
  rw [seen] at later last
  exact ⟨next, (bind_of_ok ran).trans later, last⟩

theorem Simulates.map {x : EStateM ε σ α} {y : StateM τ α} (simulates : Simulates view x y)
    (f : α → β) : Simulates view (f <$> x) (f <$> y) := by
  intro state
  obtain ⟨next, ran, seen⟩ := simulates state
  exact ⟨next, map_of_ok ran f, seen⟩

theorem Simulates.mapM {γ : Type*} {f : γ → EStateM ε σ α} {g : γ → StateM τ α}
    (each : ∀ c, Simulates view (f c) (g c)) (list : List γ) :
    Simulates view (list.mapM f) (list.mapM g) := by
  induction list with
  | nil => exact simulates_pure []
  | cons c rest inductionHypothesis =>
      rw [List.mapM_cons, List.mapM_cons]
      exact (each c).bind fun first =>
        inductionHypothesis.bind fun results => simulates_pure (first :: results)

end Simulates

end Sponge.Lib.Throwing
