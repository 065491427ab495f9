/-! Byte buffers of a C++ program, with the accesses that are undefined made visible. A cell is
unassigned until it is stored to; a load or a store outside the buffer, a load of an unassigned
cell and an access through a null or indeterminate pointer are faults. -/
namespace LibDoip.Library

inductive Fault where
  | nullPointer
  | indeterminatePointer
  | outOfBounds
  | uninitialized
  | signedOverflow
  | emptyFunction
  deriving DecidableEq, Repr

theorem okBind {ε α β : Type} (a : α) (f : α → Except ε β) : (Except.ok a >>= f) = f a := (rfl)
theorem errorBind {ε α β : Type} (e : ε) (f : α → Except ε β) : (Except.error e >>= f) = .error e := (rfl)

theorem okOfBind {ε α β : Type} {x : Except ε α} {f : α → Except ε β} {b : β} (ok : (x >>= f) = .ok b) :
    ∃ a, x = .ok a ∧ f a = .ok b := by
  cases x with
  | error e => contradiction
  | ok a => exact ⟨a,rfl,ok⟩

abbrev Buffer := List (Option UInt8)

namespace Buffer

def alloc (size : Nat) : Buffer := List.replicate size none
def filled (bytes : List UInt8) : Buffer := bytes.map some

def load (b : Buffer) (i : Nat) : Except Fault UInt8 := match b[i]? with
  | none => .error .outOfBounds
  | some none => .error .uninitialized
  | some (some v) => .ok v

def store (b : Buffer) (i : Nat) (v : UInt8) : Except Fault Buffer :=
  if i < b.length then .ok (b.set i (some v)) else .error .outOfBounds

def storeAll (b : Buffer) (i : Nat) : List UInt8 → Except Fault Buffer
  | [] => .ok b
  | v::vs => do
      let b ← store b i v
      storeAll b (i+1) vs

def loadAll (b : Buffer) (i : Nat) : (count : Nat) → Except Fault (List UInt8)
  | 0 => .ok []
  | count+1 => do
      let v ← load b i
      let vs ← loadAll b (i+1) count
      .ok (v::vs)

/- The first `size` bytes, as a system call that is handed the buffer reads them. -/
def contents : Buffer → (size : Nat) → Except Fault (List UInt8)
  | _, 0 => .ok []
  | [], _+1 => .error .outOfBounds
  | none::_, _+1 => .error .uninitialized
  | some v::rest, n+1 => do
      let vs ← contents rest n
      .ok (v::vs)

def loadFrom (p : Option Buffer) (i : Nat) : Except Fault UInt8 := match p with
  | none => .error .nullPointer
  | some b => load b i

@[simp] theorem allocLength (n : Nat) : (alloc n).length = n := by simp [alloc]
@[simp] theorem filledLength (bytes : List UInt8) : (filled bytes).length = bytes.length := by
  simp [filled]
@[simp] theorem filledNil : filled [] = [] := rfl
@[simp] theorem allocZero : alloc 0 = [] := rfl
theorem filledCons (v : UInt8) (bytes : List UInt8) : filled (v::bytes) = some v::filled bytes := rfl
theorem filledAppend (a b : List UInt8) : filled (a ++ b) = filled a ++ filled b := by simp [filled]
theorem allocSucc (n : Nat) : alloc (n+1) = none::alloc n := by simp [alloc,List.replicate_succ]

theorem loadFilled {bytes : List UInt8} {i : Nat} (bound : i < bytes.length) (rest : Buffer) :
    load (filled bytes ++ rest) i = .ok bytes[i] := by
  have found : (filled bytes ++ rest)[i]? = some (some bytes[i]) := by
    rw [List.getElem?_append_left (by simpa using bound)]
    simp [filled,bound]
  simp [load,found]

theorem loadFilledOnly {bytes : List UInt8} {i : Nat} (bound : i < bytes.length) :
    load (filled bytes) i = .ok bytes[i] := by
  simpa using loadFilled bound []

theorem loadAllFilled {bytes : List UInt8} {i count : Nat} (bound : i + count ≤ bytes.length) :
    loadAll (filled bytes) i count = .ok ((bytes.drop i).take count) := by
  induction count generalizing i with
  | zero => rfl
  | succ count ih =>
    have inside : i < bytes.length := by omega
    have later := @ih (i+1) (by omega)
    simp only [loadAll,loadFilledOnly inside,later,okBind,List.drop_eq_getElem_cons inside,List.take_succ_cons]

theorem loadUnassigned {n i : Nat} (bound : i < n) : load (alloc n) i = .error .uninitialized := by
  simp [load,alloc,bound]

theorem filledInjective {a b : List UInt8} (same : filled a = filled b) : a = b :=
  (List.map_inj_right (fun _ _ => Option.some.inj)).mp same

theorem allocNotFilled {n : Nat} (some : 0 < n) (bytes : List UInt8) : alloc n ≠ filled bytes := by
  obtain ⟨n,rfl⟩ := Nat.exists_eq_succ_of_ne_zero (Nat.ne_of_gt some)
  cases bytes <;> simp [allocSucc,filledCons]

theorem storeOver (pre : List UInt8) (cell : Option UInt8) (rest : Buffer) (v : UInt8) :
    store (filled pre ++ cell::rest) pre.length v = .ok (filled (pre ++ [v]) ++ rest) := by
  have bound : pre.length < (filled pre ++ cell::rest).length := by simp
  rw [store,if_pos bound,List.set_append_right _ _ (by simp)]
  simp [filledAppend,filledCons]

theorem storeNext (pre : List UInt8) (n : Nat) (v : UInt8) :
    store (filled pre ++ alloc (n+1)) pre.length v = .ok (filled (pre ++ [v]) ++ alloc n) := by
  rw [allocSucc]
  exact storeOver pre none (alloc n) v

theorem storeAllOver {pre vs : List UInt8} {rest : Buffer} {i : Nat} (position : i = pre.length)
    (fits : vs.length ≤ rest.length) :
    storeAll (filled pre ++ rest) i vs = .ok (filled (pre ++ vs) ++ rest.drop vs.length) := by
  subst position
  induction vs generalizing pre rest with
  | nil => simp [storeAll]
  | cons v vs ih =>
    cases rest with
    | nil => simp at fits
    | cons cell rest =>
      have later := @ih (pre ++ [v]) rest (by simpa using fits)
      rw [List.length_append,List.length_singleton] at later
      rw [storeAll,storeOver,okBind,later,List.append_assoc,List.singleton_append]
      rfl

theorem storeAllNext {pre vs : List UInt8} {i m n : Nat} (position : i = pre.length)
    (size : m = vs.length + n) :
    storeAll (filled pre ++ alloc m) i vs = .ok (filled (pre ++ vs) ++ alloc n) := by
  have left : (alloc m).drop vs.length = alloc n := by
    rw [alloc,List.drop_replicate,size,Nat.add_sub_cancel_left,alloc]
  rw [storeAllOver position (by rw [allocLength]; omega),left]

theorem contentsFilled (bytes : List UInt8) (rest : Buffer) :
    contents (filled bytes ++ rest) bytes.length = .ok bytes := by
  induction bytes with
  | nil => simp [contents]
  | cons v bytes ih =>
    rw [filledCons,List.cons_append,List.length_cons]
    simp only [contents,ih,okBind]

theorem contentsExact {bytes : List UInt8} {n : Nat} (size : n = bytes.length) :
    contents (filled bytes) n = .ok bytes := by
  subst size
  simpa using contentsFilled bytes []

end Buffer
end LibDoip.Library
