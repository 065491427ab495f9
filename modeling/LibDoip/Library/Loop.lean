import Mathlib.Logic.Relation

/-! A loop as a relation between what its variables hold at its head, before and after a pass. What
every pass keeps holds wherever the loop stands, and a loop whose passes shrink a number comes to
its end. -/
namespace LibDoip.Library
open Relation
variable {α : Type}

structure Terminates (pass : α → α → Prop) (ended : α → Prop) (kept : α → Prop) (variant : α → Nat) : Prop where
  goesOn : ∀ {a}, kept a → ¬ ended a → ∃ b, pass a b
  keeps : ∀ {a b}, kept a → pass a b → kept b
  shrinks : ∀ {a b}, kept a → pass a b → variant b < variant a

namespace Terminates
variable {pass : α → α → Prop} {ended kept : α → Prop} {variant : α → Nat}

theorem run (rule : Terminates pass ended kept variant) {a b : α} (start : kept a)
    (passes : ReflTransGen pass a b) : kept b := by
  induction passes with
  | refl => exact start
  | tail _ last ih => exact rule.keeps ih last

/- No run of passes goes on for ever. The induction is on the variant. -/
theorem finite (rule : Terminates pass ended kept variant) {a : α} (start : kept a) :
    Acc (fun b a => pass a b) a := by
  generalize size : variant a = n
  induction n using Nat.strongRecOn generalizing a with
  | ind n ih =>
    refine Acc.intro a (fun b next => ?_)
    have smaller := rule.shrinks start next
    exact ih (variant b) (by omega) (rule.keeps start next) rfl

theorem ends (rule : Terminates pass ended kept variant) {a : α} (start : kept a) :
    ∃ b, ReflTransGen pass a b ∧ ended b := by
  have finite := rule.finite start
  induction finite with
  | intro a _ ih =>
    by_cases stop : ended a
    · exact ⟨a,.refl,stop⟩
    · obtain ⟨b,next⟩ := rule.goesOn start stop
      obtain ⟨c,later,stopped⟩ := ih b next (rule.keeps start next)
      exact ⟨c,.head next later,stopped⟩

end Terminates
end LibDoip.Library
