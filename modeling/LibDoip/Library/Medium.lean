import Mathlib.Logic.Function.Basic
import Mathlib.Data.List.Infix

/-! Parties on a shared medium. A message that has been sent stays: a party may hear any of them, as often
as it likes, in any order, or never. So the medium loses, repeats and reorders, but makes nothing up. -/
namespace LibDoip.Library
variable {ι μ : Type} {σ κ : ι → Type}

structure Medium (σ : ι → Type) (μ : Type) where
  party : ∀ i, σ i
  sent : List μ

namespace Medium
variable [DecidableEq ι] (act : ∀ i, κ i → List μ → σ i → σ i × List μ)

def step (g : Medium σ μ) (m : Sigma κ) : Medium σ μ :=
  let after := act m.1 m.2 g.sent (g.party m.1)
  ⟨Function.update g.party m.1 after.1,g.sent ++ after.2⟩

def run (g : Medium σ μ) (moves : List (Sigma κ)) : Medium σ μ := moves.foldl (step act) g

theorem stepSame (g : Medium σ μ) (i : ι) (k : κ i) :
    (step act g ⟨i,k⟩).party i = (act i k g.sent (g.party i)).1 := Function.update_self i _ g.party

theorem stepOther (g : Medium σ μ) {i : ι} {m : Sigma κ} (other : i ≠ m.1) : (step act g m).party i = g.party i :=
  Function.update_of_ne other _ g.party

theorem runSent (g : Medium σ μ) (moves : List (Sigma κ)) : g.sent <+: (run act g moves).sent := by
  induction moves generalizing g with
  | nil => exact List.prefix_rfl
  | cons m moves ih => exact (List.prefix_append _ _).trans (ih (step act g m))

theorem runHeard (g : Medium σ μ) (moves : List (Sigma κ)) {n : Nat} {message : μ} (there : g.sent[n]? = some message) :
    (run act g moves).sent[n]? = some message := by
  obtain ⟨later,same⟩ := runSent act g moves
  rw [← same,List.getElem?_append_left (List.getElem?_eq_some_iff.mp there).1,there]

variable {act} {possible : ∀ i, κ i → Prop} {good now : ∀ i, σ i → Prop} {allowed : μ → Prop}

/- As long as a party hears only allowed messages it stays good and sends only allowed ones. What holds of the
parties at the time of their moves may be used for it. -/
structure Keeps (act : ∀ i, κ i → List μ → σ i → σ i × List μ) (possible : ∀ i, κ i → Prop) (now good : ∀ i, σ i → Prop)
    (allowed : μ → Prop) : Prop where
  stays : ∀ {i k heard s}, (∀ message ∈ heard, allowed message) → possible i k → now i s → good i s →
    good i (act i k heard s).1
  sends : ∀ {i k heard s}, (∀ message ∈ heard, allowed message) → possible i k → now i s → good i s →
    ∀ message ∈ (act i k heard s).2, allowed message

structure Sound (good : ∀ i, σ i → Prop) (allowed : μ → Prop) (g : Medium σ μ) : Prop where
  parties : ∀ i, good i (g.party i)
  messages : ∀ message ∈ g.sent, allowed message

theorem Keeps.step (keeps : Keeps act possible now good allowed) {g : Medium σ μ} {m : Sigma κ}
    (can : possible m.1 m.2) (current : now m.1 (g.party m.1)) (sound : Sound good allowed g) :
    Sound good allowed (step act g m) := by
  constructor
  · intro i
    by_cases own : i = m.1
    · subst own
      rw [stepSame]
      exact keeps.stays sound.messages can current (sound.parties _)
    · rw [stepOther act g own]
      exact sound.parties i
  · intro message member
    rcases List.mem_append.mp member with before | after
    · exact sound.messages message before
    · exact keeps.sends sound.messages can current (sound.parties _) message after

theorem Keeps.run (keeps : Keeps act possible now good allowed) {g : Medium σ μ} {moves : List (Sigma κ)}
    (can : ∀ m ∈ moves, possible m.1 m.2)
    (current : ∀ before, before <+: moves → ∀ i, now i ((run act g before).party i)) (sound : Sound good allowed g) :
    Sound good allowed (run act g moves) := by
  induction moves generalizing g with
  | nil => exact sound
  | cons m moves ih =>
    obtain ⟨first,later⟩ := List.forall_mem_cons.mp can
    have start := current [] List.nil_prefix m.1
    refine ih later (fun before shorter => ?_) (keeps.step first start sound)
    exact current (m::before) (List.cons_prefix_cons.mpr ⟨rfl,shorter⟩)

end Medium
end LibDoip.Library
