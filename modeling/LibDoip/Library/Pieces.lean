/-! One stream cut into pieces in two ways. What the marked pieces say can be read off the stream where they
begin, so two cuts whose marked pieces begin at the same places say the same. -/
namespace LibDoip.Library
variable {α β γ κ : Type}

def starts (bytes : α → List κ) (value : α → Option γ) : (offset : Nat) → List α → List Nat
  | _, [] => []
  | offset, a::rest => match value a with
      | some _ => offset::starts bytes value (offset + (bytes a).length) rest
      | none => starts bytes value (offset + (bytes a).length) rest

def ReadsOff (bytes : α → List κ) (value : α → Option γ) (read : List κ → γ) (pieces : List α) : Prop :=
  ∀ a ∈ pieces, ∀ v, value a = some v → ∀ rest, read (bytes a ++ rest) = v

theorem valuesAtStarts {bytes : α → List κ} {value : α → Option γ} {read : List κ → γ} {pieces : List α}
    (reads : ReadsOff bytes value read pieces) (before : List κ) :
    pieces.filterMap value =
      (starts bytes value before.length pieces).map (fun offset => read ((before ++ pieces.flatMap bytes).drop offset)) := by
  induction pieces generalizing before with
  | nil => rfl
  | cons a rest ih =>
    have later := ih (fun b member => reads b (List.mem_cons_of_mem a member)) (before ++ bytes a)
    rw [List.length_append,List.append_assoc] at later
    rw [List.flatMap_cons,starts]
    cases known : value a with
    | none => rw [List.filterMap_cons_none known,later]
    | some v =>
      rw [List.filterMap_cons_some known,later,List.map_cons,List.drop_left,
        reads a List.mem_cons_self v known (rest.flatMap bytes)]

theorem sameValues {bytes : α → List κ} {value : α → Option γ} {bytes' : β → List κ} {value' : β → Option γ}
    {read : List κ → γ} {pieces : List α} {pieces' : List β} (reads : ReadsOff bytes value read pieces)
    (reads' : ReadsOff bytes' value' read pieces') (stream : pieces.flatMap bytes = pieces'.flatMap bytes')
    (same : starts bytes value 0 pieces = starts bytes' value' 0 pieces') :
    pieces.filterMap value = pieces'.filterMap value' := by
  have first := valuesAtStarts reads []
  have second := valuesAtStarts reads' []
  rw [List.length_nil,List.nil_append] at first second
  rw [first,second,stream,same]

end LibDoip.Library
