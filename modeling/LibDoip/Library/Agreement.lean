import LibDoip.Library.Program

/-! Two programs side by side. They agree from related states when an observer, who is shown `see` of each
event, reads the same in both logs, and both return, in related results, or both stop in one fault.
Agreement is carried through sequential composition and through an application that makes the same calls. -/
namespace LibDoip.Library
variable {ε ω σ τ ν α β γ δ κ ρ : Type}

inductive Agrees (see : ω → Option ν) (post : α → β → σ → τ → Prop) :
    Outcome ε ω σ α → Outcome ε ω τ β → Prop where
  | returned {l m : List ω} {s : σ} {t : τ} {a : α} {b : β} (seen : l.filterMap see = m.filterMap see)
      (holds : post a b s t) : Agrees see post ⟨l,s,.ok a⟩ ⟨m,t,.ok b⟩
  | stopped {l m : List ω} {s : σ} {t : τ} {e : ε} (seen : l.filterMap see = m.filterMap see) :
      Agrees see post ⟨l,s,.error e⟩ ⟨m,t,.error e⟩

def Agree (see : ω → Option ν) (pre : σ → τ → Prop) (x : Program ε ω σ α) (y : Program ε ω τ β)
    (post : α → β → σ → τ → Prop) : Prop :=
  ∀ s t, pre s t → Agrees see post (x s) (y t)

namespace Agrees
variable {see : ω → Option ν} {post : α → β → σ → τ → Prop}

theorem seen {o : Outcome ε ω σ α} {p : Outcome ε ω τ β} (h : Agrees see post o p) :
    o.log.filterMap see = p.log.filterMap see := by
  cases h <;> assumption

theorem prepend {o : Outcome ε ω σ α} {p : Outcome ε ω τ β} {l m : List ω}
    (before : l.filterMap see = m.filterMap see) (h : Agrees see post o p) :
    Agrees see post (o.prepend l) (p.prepend m) := by
  cases h with
  | returned after holds =>
    exact .returned (by rw [List.filterMap_append,List.filterMap_append,before,after]) holds
  | stopped after => exact .stopped (by rw [List.filterMap_append,List.filterMap_append,before,after])

theorem weaken {post' : α → β → σ → τ → Prop} (weaker : ∀ a b s t, post a b s t → post' a b s t)
    {o : Outcome ε ω σ α} {p : Outcome ε ω τ β} (h : Agrees see post o p) : Agrees see post' o p := by
  cases h with
  | returned seen holds => exact .returned seen (weaker _ _ _ _ holds)
  | stopped seen => exact .stopped seen

end Agrees

namespace Agree
variable {see : ω → Option ν} {pre : σ → τ → Prop} {post : α → β → σ → τ → Prop}

theorem weaken {x : Program ε ω σ α} {y : Program ε ω τ β} {pre' : σ → τ → Prop}
    {post' : α → β → σ → τ → Prop} (stronger : ∀ s t, pre' s t → pre s t)
    (weaker : ∀ a b s t, post a b s t → post' a b s t) (h : Agree see pre x y post) :
    Agree see pre' x y post' := fun s t holds => (h s t (stronger s t holds)).weaken weaker

theorem done {a : α} {b : β} (holds : ∀ s t, pre s t → post a b s t) :
    Agree see pre (pure a : Program ε ω σ α) (pure b : Program ε ω τ β) post :=
  fun s t related => .returned rfl (holds s t related)

theorem bindAt {middle : α → β → σ → τ → Prop} {last : γ → δ → σ → τ → Prop} {x : Program ε ω σ α}
    {y : Program ε ω τ β} {f : α → Program ε ω σ γ} {g : β → Program ε ω τ δ} {s : σ} {t : τ}
    (first : Agrees see middle (x s) (y t)) (next : ∀ a b, Agree see (middle a b) (f a) (g b) last) :
    Agrees see last ((x >>= f) s) ((y >>= g) t) := by
  rw [Program.bindApply,Program.bindApply]
  generalize x s = o at first
  generalize y t = p at first
  cases first with
  | returned seen holds => exact (next _ _ _ _ holds).prepend seen
  | stopped seen => exact .stopped seen

theorem bind {middle : α → β → σ → τ → Prop} {last : γ → δ → σ → τ → Prop} {x : Program ε ω σ α}
    {y : Program ε ω τ β} {f : α → Program ε ω σ γ} {g : β → Program ε ω τ δ} (first : Agree see pre x y middle)
    (next : ∀ a b, Agree see (middle a b) (f a) (g b) last) : Agree see pre (x >>= f) (y >>= g) last :=
  fun s t related => bindAt (first s t related) next

theorem get : Agree see pre (Program.get : Program ε ω σ σ) (Program.get : Program ε ω τ τ)
    (fun a b s t => a = s ∧ b = t ∧ pre s t) := fun _ _ related => .returned rfl ⟨rfl,rfl,related⟩

theorem modify {f : σ → σ} {g : τ → τ} {post : Unit → Unit → σ → τ → Prop}
    (holds : ∀ s t, pre s t → post () () (f s) (g t)) :
    Agree see pre (Program.modify f : Program ε ω σ Unit) (Program.modify g : Program ε ω τ Unit) post :=
  fun s t related => .returned rfl (holds s t related)

theorem emit {e e' : ω} (same : see e = see e') :
    Agree see pre (Program.emit e : Program ε ω σ Unit) (Program.emit e' : Program ε ω τ Unit)
      (fun _ _ => pre) :=
  fun _ _ related => .returned (by simp only [List.filterMap_cons,same]) related

theorem lift {r : Except ε α} : Agree see pre (Program.lift r : Program ε ω σ α)
    (Program.lift r : Program ε ω τ α) (fun a b s t => a = b ∧ pre s t) := by
  intro s t related
  cases r with
  | error e => exact .stopped rfl
  | ok a => exact .returned rfl ⟨rfl,related⟩

theorem throw {e : ε} {post : α → β → σ → τ → Prop} : Agree see pre (Program.throw e : Program ε ω σ α)
    (Program.throw e : Program ε ω τ β) post := fun _ _ _ => .stopped rfl

theorem iterate {R : α → β → σ → τ → Prop} {p : κ → β → τ → Prop} {f : κ → α → Program ε ω σ α}
    {g : κ → β → Program ε ω τ β}
    (each : ∀ k a b s t, R a b s t → p k b t → Agrees see R (f k a s) (g k b t)) {steps : List κ} {a : α} {b : β}
    {s : σ} {t : τ} (related : R a b s t) (holds : Program.Each p g steps b t) :
    Agrees see R (Program.iterate f steps a s) (Program.iterate g steps b t) := by
  induction steps generalizing a b s t with
  | nil => exact .returned rfl related
  | cons k rest ih =>
    have first := each k a b s t related holds.1
    have later := holds.2
    simp only [Program.iterate,Program.bindApply]
    generalize f k a s = o at first
    generalize g k b t = p at first later
    cases first with
    | returned seen after => exact (ih after (later _ rfl)).prepend seen
    | stopped seen => exact .stopped seen

theorem fact {p : Prop} {x : Program ε ω σ α} {y : Program ε ω τ β} (h : p → Agree see pre x y post) :
    Agree see (fun s t => p ∧ pre s t) x y post := fun s t related => h related.1 s t related.2

end Agree

abbrev InStep (see : ω → Option ν) (R : σ → τ → Prop) (x : Program ε ω σ α) (y : Program ε ω τ α) : Prop :=
  Agree see R x y (fun a b s t => a = b ∧ R s t)

namespace InStep
variable {see : ω → Option ν} {R : σ → τ → Prop}

theorem done (a : α) : InStep see R (pure a : Program ε ω σ α) (pure a : Program ε ω τ α) :=
  Agree.done (fun _ _ related => ⟨rfl,related⟩)

theorem next {post : β → γ → σ → τ → Prop} {x : Program ε ω σ α} {y : Program ε ω τ α} {f : α → Program ε ω σ β}
    {g : α → Program ε ω τ γ} (first : InStep see R x y) (later : ∀ a, Agree see R (f a) (g a) post) :
    Agree see R (x >>= f) (y >>= g) post := by
  refine Agree.bind first (fun a b => Agree.fact ?_)
  rintro rfl
  exact later a

theorem read {post : α → β → σ → τ → Prop} {f : σ → Program ε ω σ α} {g : τ → Program ε ω τ β}
    (later : ∀ s t, R s t → Agree see R (f s) (g t) post) :
    Agree see R (Program.get >>= f) (Program.get >>= g) post := by
  refine Agree.bind Agree.get (fun s t => ?_)
  rintro s' t' ⟨rfl,rfl,related⟩
  exact later s t related s t related

theorem emit {e e' : ω} (same : see e = see e') :
    InStep see R (Program.emit e : Program ε ω σ Unit) (Program.emit e' : Program ε ω τ Unit) :=
  Agree.weaken (fun _ _ => id) (fun _ _ _ _ related => ⟨rfl,related⟩) (Agree.emit same)

theorem modify {f : σ → σ} {g : τ → τ} (kept : ∀ s t, R s t → R (f s) (g t)) :
    InStep see R (Program.modify f : Program ε ω σ Unit) (Program.modify g : Program ε ω τ Unit) :=
  Agree.modify (fun s t related => ⟨rfl,kept s t related⟩)

theorem lift (r : Except ε α) :
    InStep see R (Program.lift r : Program ε ω σ α) (Program.lift r : Program ε ω τ α) := Agree.lift

theorem whenBoth {c d : Prop} [Decidable c] [Decidable d] (same : c ↔ d) {x : Program ε ω σ Unit}
    {y : Program ε ω τ Unit} (h : c → d → InStep see R x y) : InStep see R (Program.when c x) (Program.when d y) := by
  by_cases holds : c
  · rw [Program.whenTrue holds,Program.whenTrue (same.mp holds)]
    exact h holds (same.mp holds)
  · rw [Program.whenFalse holds,Program.whenFalse (fun other => holds (same.mpr other))]
    exact done ()

theorem interpret {first : κ → Program ε ω σ ρ} {second : κ → Program ε ω τ ρ}
    (each : ∀ request, InStep see R (first request) (second request)) (script : Script κ ρ α) :
    InStep see R (script.interpret first) (script.interpret second) := by
  induction script with
  | done value => exact done value
  | call request later ih => exact next (each request) ih

end InStep
end LibDoip.Library
