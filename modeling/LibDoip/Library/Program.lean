/-! Programs over an explicit state. A run emits a log, leaves a state and either returns a
value or stops in a fault; log and state of a faulting run are kept. A program cannot read
the log, so what it does never depends on what was logged before.
`Meets` carries a relation between start, log, end and fault through sequential composition. -/
namespace LibDoip.Library

structure Outcome (ε ω σ α : Type) where
  log : List ω
  state : σ
  result : Except ε α
  deriving Repr

def Program (ε ω σ α : Type) : Type := σ → Outcome ε ω σ α

namespace Outcome
variable {ε ω σ α β : Type}

def fault (o : Outcome ε ω σ α) : Option ε := match o.result with
  | .error e => some e
  | .ok _ => none

def prepend (l : List ω) (o : Outcome ε ω σ α) : Outcome ε ω σ α := ⟨l ++ o.log,o.state,o.result⟩

def andThen (o : Outcome ε ω σ α) (f : α → Program ε ω σ β) : Outcome ε ω σ β :=
  match o.result with
  | .error e => ⟨o.log,o.state,.error e⟩
  | .ok a => (f a o.state).prepend o.log

@[simp] theorem faultOk (l : List ω) (s : σ) (a : α) :
    (⟨l,s,.ok a⟩ : Outcome ε ω σ α).fault = none := (rfl)

@[simp] theorem faultError (l : List ω) (s : σ) (e : ε) :
    (⟨l,s,.error e⟩ : Outcome ε ω σ α).fault = some e := (rfl)

@[simp] theorem prependMk (l m : List ω) (s : σ) (r : Except ε α) :
    prepend l ⟨m,s,r⟩ = ⟨l ++ m,s,r⟩ := (rfl)

@[simp] theorem prependNil (o : Outcome ε ω σ α) : prepend [] o = o := (rfl)

@[simp] theorem prependLog (l : List ω) (o : Outcome ε ω σ α) : (prepend l o).log = l ++ o.log := (rfl)

@[simp] theorem prependState (l : List ω) (o : Outcome ε ω σ α) : (prepend l o).state = o.state := (rfl)

@[simp] theorem prependResult (l : List ω) (o : Outcome ε ω σ α) : (prepend l o).result = o.result := (rfl)

@[simp] theorem prependFault (l : List ω) (o : Outcome ε ω σ α) : (prepend l o).fault = o.fault := (rfl)

@[simp] theorem prependPrepend (l m : List ω) (o : Outcome ε ω σ α) :
    prepend l (prepend m o) = prepend (l ++ m) o := by simp [prepend]

@[simp] theorem andThenOk (l : List ω) (s : σ) (a : α) (f : α → Program ε ω σ β) :
    andThen ⟨l,s,.ok a⟩ f = (f a s).prepend l := (rfl)

@[simp] theorem andThenError (l : List ω) (s : σ) (e : ε) (f : α → Program ε ω σ β) :
    andThen ⟨l,s,.error e⟩ f = ⟨l,s,.error e⟩ := (rfl)

@[simp] theorem andThenPrepend (l : List ω) (o : Outcome ε ω σ α) (f : α → Program ε ω σ β) :
    andThen (prepend l o) f = prepend l (andThen o f) := by
  obtain ⟨m,s,r⟩ := o
  cases r <;> simp

theorem andThenAssoc {γ : Type} (o : Outcome ε ω σ α) (f : α → Program ε ω σ β) (g : β → Program ε ω σ γ) :
    (o.andThen f).andThen g = o.andThen (fun a s => (f a s).andThen g) := by
  obtain ⟨l,s,r⟩ := o
  cases r with
  | error e => rfl
  | ok a => exact andThenPrepend l (f a s) g

end Outcome

namespace Program
variable {ε ω σ α β : Type}

instance : Monad (Program ε ω σ) where
  pure a := fun s => ⟨[],s,.ok a⟩
  bind x f := fun s => (x s).andThen f

def get : Program ε ω σ σ := fun s => ⟨[],s,.ok s⟩
def modify (f : σ → σ) : Program ε ω σ Unit := fun s => ⟨[],f s,.ok ()⟩
def emit (e : ω) : Program ε ω σ Unit := fun s => ⟨[e],s,.ok ()⟩
def throw (e : ε) : Program ε ω σ α := fun s => ⟨[],s,.error e⟩
def lift (r : Except ε α) : Program ε ω σ α := fun s => ⟨[],s,r⟩
def when (c : Prop) [Decidable c] (x : Program ε ω σ Unit) : Program ε ω σ Unit :=
  if c then x else pure ()

def relabel {ω' : Type} (f : ω → ω') (x : Program ε ω σ α) : Program ε ω' σ α :=
  fun s => ⟨(x s).log.map f,(x s).state,(x s).result⟩

@[simp] theorem pureApply (a : α) (s : σ) : (pure a : Program ε ω σ α) s = ⟨[],s,.ok a⟩ := (rfl)
@[simp] theorem bindApply (x : Program ε ω σ α) (f : α → Program ε ω σ β) (s : σ) :
    (x >>= f) s = (x s).andThen f := (rfl)
@[simp] theorem getApply (s : σ) : (get : Program ε ω σ σ) s = ⟨[],s,.ok s⟩ := (rfl)
@[simp] theorem modifyApply (f : σ → σ) (s : σ) :
    (modify f : Program ε ω σ Unit) s = ⟨[],f s,.ok ()⟩ := (rfl)
@[simp] theorem emitApply (e : ω) (s : σ) : (emit e : Program ε ω σ Unit) s = ⟨[e],s,.ok ()⟩ := (rfl)
@[simp] theorem throwApply (e : ε) (s : σ) : (throw e : Program ε ω σ α) s = ⟨[],s,.error e⟩ := (rfl)
@[simp] theorem mapApply (f : α → β) (x : Program ε ω σ α) (s : σ) :
    (f <$> x) s = (x s).andThen (fun a => pure (f a)) := (rfl)
@[simp] theorem relabelApply {ω' : Type} (f : ω → ω') (x : Program ε ω σ α) (s : σ) :
    relabel f x s = ⟨(x s).log.map f,(x s).state,(x s).result⟩ := (rfl)
@[simp] theorem liftApply (r : Except ε α) (s : σ) : (lift r : Program ε ω σ α) s = ⟨[],s,r⟩ := (rfl)

instance : LawfulMonad (Program ε ω σ) := LawfulMonad.mk' (Program ε ω σ)
  (by
    intro α x
    funext s
    show (x s).andThen (fun a => (pure a : Program ε ω σ α)) = x s
    obtain ⟨l,t,r⟩ := x s
    cases r <;> simp)
  (by intro α β a f; funext s; simp)
  (by
    intro α β γ x f g
    funext s
    show ((x s).andThen f).andThen g = (x s).andThen (fun a => f a >>= g)
    obtain ⟨l,t,r⟩ := x s
    cases r <;> simp)

theorem liftOkBind (a : α) (f : α → Program ε ω σ β) : (lift (.ok a) >>= f) = f a := by
  funext s; simp

theorem liftErrorBind (e : ε) (f : α → Program ε ω σ β) : (lift (.error e) >>= f) = throw e := by
  funext s; simp

theorem whenTrue {c : Prop} [Decidable c] (h : c) (x : Program ε ω σ Unit) : when c x = x := if_pos h

theorem whenFalse {c : Prop} [Decidable c] (h : ¬c) (x : Program ε ω σ Unit) :
    when c x = pure () := if_neg h

theorem returnAfter {x : Program ε ω σ α} {s t : σ} {l : List ω} {a : α} (ran : x s = ⟨l,t,.ok a⟩) (f : α → β) :
    (x >>= fun a => pure (f a)) s = ⟨l,t,.ok (f a)⟩ := by
  rw [bindApply,ran,Outcome.andThenOk,pureApply,Outcome.prependMk,List.append_nil]

def sequence (f : α → Program ε ω σ Unit) : List α → Program ε ω σ Unit
  | [] => pure ()
  | a::rest => do
      f a
      sequence f rest

def iterate (f : α → β → Program ε ω σ β) : List α → β → Program ε ω σ β
  | [], b => pure b
  | a::rest, b => do
      let b ← f a b
      iterate f rest b

def Each (p : α → β → σ → Prop) (f : α → β → Program ε ω σ β) : List α → β → σ → Prop
  | [], _, _ => True
  | a::rest, b, s => p a b s ∧ ∀ b', (f a b s).result = .ok b' → Each p f rest b' (f a b s).state

section Rules
variable {R : σ → List ω → σ → Option ε → Prop}

structure Composable (R : σ → List ω → σ → Option ε → Prop) : Prop where
  refl : ∀ s, R s [] s none
  trans : ∀ {s l t m u f}, R s l t none → R t m u f → R s (l ++ m) u f

def At (R : σ → List ω → σ → Option ε → Prop) (x : Program ε ω σ α) (s : σ) : Prop :=
  R s (x s).log (x s).state (x s).fault

def Meets (R : σ → List ω → σ → Option ε → Prop) (x : Program ε ω σ α) : Prop := ∀ s, At R x s

theorem atBind (c : Composable R) {x : Program ε ω σ α} {f : α → Program ε ω σ β} {s : σ}
    (first : At R x s)
    (next : ∀ a, (x s).result = .ok a → At R (f a) (x s).state) : At R (x >>= f) s := by
  unfold At at first ⊢
  rw [bindApply]
  cases h : x s with
  | mk l t r =>
    rw [h] at first
    cases r with
    | error e => exact first
    | ok a =>
      have second : At R (f a) t := by simpa [h] using next a (by rw [h])
      exact c.trans first second

theorem meetsPure (c : Composable R) (a : α) : Meets R (pure a) := fun s => c.refl s

theorem meetsBind (c : Composable R) {x : Program ε ω σ α} {f : α → Program ε ω σ β}
    (first : Meets R x) (next : ∀ a, Meets R (f a)) : Meets R (x >>= f) :=
  fun s => atBind c (first s) (fun a _ => next a _)

theorem meetsGet (c : Composable R) : Meets R get := fun s => c.refl s

theorem meetsWhen (c : Composable R) {p : Prop} [Decidable p] {x : Program ε ω σ Unit}
    (h : p → Meets R x) : Meets R (when p x) := by
  by_cases hp : p
  · rw [whenTrue hp]; exact h hp
  · rw [whenFalse hp]; exact meetsPure c ()

theorem iterateAt (c : Composable R) {p : α → β → σ → Prop} {f : α → β → Program ε ω σ β}
    (h : ∀ a b s, p a b s → At R (f a b) s) {steps : List α} {b : β} {s : σ}
    (each : Each p f steps b s) : At R (iterate f steps b) s := by
  induction steps generalizing b s with
  | nil => exact meetsPure c b s
  | cons a rest ih => exact atBind c (h a b s each.1) (fun b' ok => ih (each.2 b' ok))

theorem iterateMeets (c : Composable R) {f : α → β → Program ε ω σ β} (h : ∀ a b, Meets R (f a b))
    (steps : List α) (b : β) : Meets R (iterate f steps b) := by
  induction steps generalizing b with
  | nil => exact meetsPure c b
  | cons a rest ih => exact meetsBind c (h a b) (fun b' => ih b')

end Rules

section Each
variable {f : α → β → Program ε ω σ β}

theorem eachOfInvariant {inv : β → σ → Prop} {p q : α → β → σ → Prop}
    (step : ∀ a b s, inv b s → p a b s →
      q a b s ∧ ∀ b', (f a b s).result = .ok b' → inv b' (f a b s).state)
    {steps : List α} {b : β} {s : σ} (start : inv b s) (each : Each p f steps b s) :
    Each q f steps b s := by
  induction steps generalizing b s with
  | nil => trivial
  | cons a rest ih =>
    obtain ⟨now,later⟩ := step a b s start each.1
    exact ⟨now,fun b' ok => ih (later b' ok) (each.2 b' ok)⟩

theorem eachIff {p q : α → β → σ → Prop} (same : ∀ a b s, p a b s ↔ q a b s) (steps : List α) (b : β) (s : σ) :
    Each p f steps b s ↔ Each q f steps b s := by
  induction steps generalizing b s with
  | nil => exact Iff.rfl
  | cons a rest ih => exact and_congr (same a b s) (forall_congr' (fun b' => forall_congr' (fun _ => ih b' _)))

theorem eachOfAll {p : α → β → σ → Prop} {steps : List α} (h : ∀ a ∈ steps, ∀ b s, p a b s) (b : β) (s : σ) :
    Each p f steps b s := by
  induction steps generalizing b s with
  | nil => trivial
  | cons a rest ih =>
    exact ⟨h a List.mem_cons_self b s,fun b' _ => ih (fun a later => h a (List.mem_cons_of_mem _ later)) b' _⟩

theorem eachAppend {p : α → β → σ → Prop} {first later : List α} {b : β} {s : σ} (before : Each p f first b s)
    (after : ∀ b', (iterate f first b s).result = .ok b' → Each p f later b' (iterate f first b s).state) :
    Each p f (first ++ later) b s := by
  induction first generalizing b s with
  | nil => exact after b rfl
  | cons a rest ih =>
    refine ⟨before.1,fun b' ok => ih (before.2 b' ok) ?_⟩
    simp only [iterate,bindApply] at after
    generalize f a b s = o at after ok
    obtain ⟨l,t,r⟩ := o
    cases ok
    exact after

theorem eachLast {p : α → β → σ → Prop} {steps : List α} {a : α} {b b' : β} {s t : σ} {l : List ω}
    (each : Each p f (steps ++ [a]) b s) (ran : iterate f steps b s = ⟨l,t,.ok b'⟩) : p a b' t := by
  induction steps generalizing b s l with
  | nil =>
    cases ran
    exact each.1
  | cons first rest ih =>
    simp only [iterate,bindApply] at ran
    have next := each.2
    generalize f first b s = o at ran next
    obtain ⟨m,u,r⟩ := o
    cases r with
    | error e => cases ran
    | ok v =>
      simp only [Outcome.andThenOk] at ran
      generalize later : iterate f rest v u = o at ran
      obtain ⟨m',u',r'⟩ := o
      cases ran
      exact ih (next v rfl) later

end Each

def Returns (p : α → Prop) (x : Program ε ω σ α) : Prop := ∀ s a, (x s).result = .ok a → p a

theorem returnsPure {p : α → Prop} {a : α} (h : p a) : Returns p (pure a : Program ε ω σ α) := by
  rintro s _ ⟨⟩
  exact h

theorem returnsBind {p : β → Prop} {x : Program ε ω σ α} {f : α → Program ε ω σ β} (h : ∀ a, Returns p (f a)) :
    Returns p (x >>= f) := by
  intro s b ok
  rw [bindApply] at ok
  generalize x s = o at ok
  obtain ⟨l,t,r⟩ := o
  cases r with
  | error e => cases ok
  | ok a => exact h a t b ok

end Program

/- A client of a program: it calls, looks at the answer and goes on, finitely often. -/
inductive Script (κ ρ α : Type) where
  | done (value : α)
  | call (request : κ) (next : ρ → Script κ ρ α)

namespace Script
variable {κ ρ α ε ω σ : Type}

def interpret (handle : κ → Program ε ω σ ρ) : Script κ ρ α → Program ε ω σ α
  | .done value => pure value
  | .call request next => do
      let answer ← handle request
      interpret handle (next answer)

def Calls (p : κ → Prop) : Script κ ρ α → Prop
  | .done _ => True
  | .call request next => p request ∧ ∀ answer, Calls p (next answer)

def Returns (q : α → Prop) : Script κ ρ α → Prop
  | .done value => q value
  | .call _ next => ∀ answer, Returns q (next answer)

theorem callsTrue (script : Script κ ρ α) : Calls (fun _ => True) script := by
  induction script with
  | done value => trivial
  | call request next ih => exact ⟨trivial,ih⟩

theorem interpretReturns {handle : κ → Program ε ω σ ρ} {q : α → Prop} {script : Script κ ρ α}
    (returns : Returns q script) {s : σ} {value : α}
    (ok : (interpret handle script s).result = .ok value) : q value := by
  induction script generalizing s with
  | done v =>
    cases Except.ok.inj ok
    exact returns
  | call request next ih =>
    simp only [interpret,Program.bindApply] at ok
    cases h : handle request s with
    | mk l t r =>
      cases r with
      | error e => simp [h] at ok
      | ok answer =>
        simp only [h,Outcome.andThenOk,Outcome.prependResult] at ok
        exact ih answer (returns answer) ok

open Program in
theorem interpretMeets {R : σ → List ω → σ → Option ε → Prop} (c : Composable R)
    {handle : κ → Program ε ω σ ρ} {p : κ → Prop} {script : Script κ ρ α}
    (calls : Calls p script) (each : ∀ request, p request → Meets R (handle request)) :
    Meets R (interpret handle script) := by
  induction script with
  | done value => exact meetsPure c value
  | call request next ih =>
    exact meetsBind c (each request calls.1) (fun answer => ih answer (calls.2 answer))

end Script
end LibDoip.Library
