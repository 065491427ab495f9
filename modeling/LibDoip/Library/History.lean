import LibDoip.Library.Program

/-! Safety over a growing log. `Always p past log` asks of every event of `log`, each taken with
everything logged before it, that `p` allows it. A contract joins an assumption about the events, what a
run keeps, and an invariant between the log so far and the state; what two programs keep of it,
their composition keeps. -/
namespace LibDoip.Library
variable {ω σ ε α : Type}

def Always (p : List ω → ω → Prop) : List ω → List ω → Prop
  | _, [] => True
  | past, e::rest => p past e ∧ Always p (past ++ [e]) rest

namespace Always
variable {p q : List ω → ω → Prop}

@[simp] theorem nil (past : List ω) : Always p past [] := trivial

@[simp] theorem cons (past : List ω) (e : ω) (rest : List ω) :
    Always p past (e::rest) ↔ p past e ∧ Always p (past ++ [e]) rest := Iff.rfl

theorem append (past l m : List ω) :
    Always p past (l ++ m) ↔ Always p past l ∧ Always p (past ++ l) m := by
  induction l generalizing past with
  | nil => simp
  | cons e rest ih => simp [ih,and_assoc]

theorem mono (h : ∀ past e, p past e → q past e) {past l : List ω} (always : Always p past l) :
    Always q past l := by
  induction l generalizing past with
  | nil => trivial
  | cons e rest ih => exact ⟨h past e always.1,ih always.2⟩

theorem ofForall {l : List ω} (h : ∀ past, ∀ e ∈ l, p past e) (past : List ω) : Always p past l := by
  induction l generalizing past with
  | nil => trivial
  | cons e rest ih =>
    exact ⟨h past e List.mem_cons_self,ih (fun past e mem => h past e (List.mem_cons_of_mem _ mem)) _⟩

theorem split {past l before after : List ω} {e : ω} (always : Always p past l)
    (found : l = before ++ e::after) : p (past ++ before) e := by
  subst found
  exact ((append past before (e::after)).mp always).2.1

theorem ofSplit {past l : List ω} (h : ∀ before e after, l = before ++ e::after → p (past ++ before) e) :
    Always p past l := by
  induction l generalizing past with
  | nil => trivial
  | cons e rest ih =>
    refine ⟨by simpa using h [] e rest rfl,ih ?_⟩
    intro before e' after found
    have := h (e::before) e' after (by rw [found]; rfl)
    simpa using this

end Always

def Leads (trigger : List ω → ω → Prop) (answer : List ω → ω → ω → Prop) : List ω → List ω → Prop
  | _, [] => True
  | past, e::rest => (trigger past e → ∃ e' after, rest = e'::after ∧ answer past e e') ∧
      Leads trigger answer (past ++ [e]) rest

namespace Leads
variable {trigger : List ω → ω → Prop} {answer : List ω → ω → ω → Prop}

theorem append {past l m : List ω} (first : Leads trigger answer past l)
    (second : Leads trigger answer (past ++ l) m) : Leads trigger answer past (l ++ m) := by
  induction l generalizing past with
  | nil => simpa using second
  | cons e rest ih =>
    refine ⟨?_,ih first.2 (by simpa using second)⟩
    intro fires
    obtain ⟨e',after,rfl,answered⟩ := first.1 fires
    exact ⟨e',after ++ m,rfl,answered⟩

theorem ofQuiet {l : List ω} (quiet : ∀ past, ∀ e ∈ l, ¬ trigger past e) (past : List ω) :
    Leads trigger answer past l := by
  induction l generalizing past with
  | nil => trivial
  | cons e rest ih =>
    refine ⟨fun fires => absurd fires (quiet past e List.mem_cons_self),?_⟩
    exact ih (fun past e member => quiet past e (List.mem_cons_of_mem _ member)) _

theorem split {past l before after : List ω} {e : ω} (leads : Leads trigger answer past l)
    (found : l = before ++ e::after) (fires : trigger (past ++ before) e) :
    ∃ e' rest, after = e'::rest ∧ answer (past ++ before) e e' := by
  subst found
  induction before generalizing past with
  | nil => simpa using leads.1 (by simpa using fires)
  | cons b before ih =>
    have later := @ih (past ++ [b]) (by simpa using fires) leads.2
    simpa using later

end Leads

/- `keeps` is asked of what a run adds to the log, and of the fault it ends in. -/
structure Contract (ε ω σ : Type) where
  assumes : List ω → ω → Prop
  keeps : List ω → List ω → Option ε → Prop
  invariant : List ω → σ → Prop
  nil : ∀ past, keeps past [] none
  append : ∀ {past l m f}, keeps past l none → keeps (past ++ l) m f → keeps past (l ++ m) f

namespace Contract
variable (c : Contract ε ω σ)

def relation (s : σ) (l : List ω) (t : σ) (f : Option ε) : Prop :=
  ∀ past, c.invariant past s → Always c.assumes past l → c.keeps past l f ∧ c.invariant (past ++ l) t

theorem composable : Program.Composable c.relation where
  refl := by
    intro s past holds _
    exact ⟨c.nil past,by simpa using holds⟩
  trans := by
    intro s l t m u f first second past holds assumed
    have both := (Always.append past l m).mp assumed
    obtain ⟨left,middle⟩ := first past holds both.1
    obtain ⟨right,last⟩ := second (past ++ l) middle both.2
    exact ⟨c.append left right,by simpa using last⟩

theorem iterateKeeps {β : Type} {fits : List ω → β → Prop} {f : α → β → Program ε ω σ β}
    (step : ∀ a b past s, fits past b → c.invariant past s →
      c.keeps past (f a b s).log (f a b s).fault ∧ c.invariant (past ++ (f a b s).log) (f a b s).state ∧
        ∀ b', (f a b s).result = .ok b' → fits (past ++ (f a b s).log) b')
    (steps : List α) {b : β} {past : List ω} {s : σ} (fit : fits past b) (holds : c.invariant past s) :
    c.keeps past (Program.iterate f steps b s).log (Program.iterate f steps b s).fault ∧
      c.invariant (past ++ (Program.iterate f steps b s).log) (Program.iterate f steps b s).state ∧
      ∀ b', (Program.iterate f steps b s).result = .ok b' → fits (past ++ (Program.iterate f steps b s).log) b' := by
  induction steps generalizing b past s with
  | nil =>
    refine ⟨c.nil past,by simpa [Program.iterate] using holds,?_⟩
    rintro _ ⟨⟩
    simpa [Program.iterate] using fit
  | cons a rest ih =>
    have stepped := step a b past s fit holds
    rw [Program.iterate,Program.bindApply]
    generalize f a b s = o at stepped
    obtain ⟨l,t,r⟩ := o
    cases r with
    | error e => exact stepped
    | ok b' =>
      obtain ⟨left,middle,handed⟩ := stepped
      obtain ⟨right,last,fits'⟩ := ih (handed b' rfl) middle
      rw [Outcome.andThenOk,Outcome.prependLog,Outcome.prependState,Outcome.prependFault,Outcome.prependResult,
        ← List.append_assoc]
      exact ⟨c.append left right,last,fits'⟩

end Contract
end LibDoip.Library
