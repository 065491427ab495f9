/-! A machine that reads one item after the other and answers each by a list of outputs. Its transcript
is all that it has put out; reading on only adds to it. -/
namespace LibDoip.Library

structure Transducer (ι ο σ : Type) where
  answer : σ → ι → List ο
  next : σ → ι → σ

namespace Transducer
variable {ι ο σ : Type} (m : Transducer ι ο σ)

def after (s : σ) (items : List ι) : σ := items.foldl m.next s

def transcript : σ → List ι → List ο
  | _, [] => []
  | s, item::rest => m.answer s item ++ transcript (m.next s item) rest

@[simp] theorem afterNil (s : σ) : m.after s [] = s := (rfl)

@[simp] theorem afterCons (s : σ) (item : ι) (rest : List ι) :
    m.after s (item::rest) = m.after (m.next s item) rest := (rfl)

@[simp] theorem transcriptNil (s : σ) : m.transcript s [] = [] := (rfl)

@[simp] theorem transcriptCons (s : σ) (item : ι) (rest : List ι) :
    m.transcript s (item::rest) = m.answer s item ++ m.transcript (m.next s item) rest := (rfl)

theorem afterAppend (s : σ) (items later : List ι) : m.after s (items ++ later) = m.after (m.after s items) later :=
  List.foldl_append

theorem transcriptAppend (s : σ) (items later : List ι) :
    m.transcript s (items ++ later) = m.transcript s items ++ m.transcript (m.after s items) later := by
  induction items generalizing s with
  | nil => rfl
  | cons item rest ih => simp only [List.cons_append,transcriptCons,afterCons,ih,List.append_assoc]

theorem transcriptPrefix (s : σ) {items all : List ι} (first : items <+: all) :
    m.transcript s items <+: m.transcript s all := by
  obtain ⟨later,rfl⟩ := first
  exact ⟨_,(m.transcriptAppend s items later).symm⟩

structure Ended (s : σ) : Prop where
  answers : ∀ item, m.answer s item = []
  stays : ∀ item, m.next s item = s

namespace Ended
variable {m} {s : σ}

theorem after (ended : m.Ended s) (items : List ι) : m.after s items = s := by
  induction items with
  | nil => rfl
  | cons item rest ih => rw [afterCons,ended.stays,ih]

theorem transcript (ended : m.Ended s) (items : List ι) : m.transcript s items = [] := by
  induction items with
  | nil => rfl
  | cons item rest ih => rw [transcriptCons,ended.answers,ended.stays,ih,List.append_nil]

end Ended
end Transducer
end LibDoip.Library
