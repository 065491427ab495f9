/-! A byte stream as the receiving side meets it. The stream arrives in pieces of at least one
byte; a failure stands between pieces, and after the last arrival the stream has ended. A read
takes from the first piece only and leaves what it did not take. -/
namespace LibDoip.Library

inductive Arrival where
  | data (first : UInt8) (more : List UInt8)
  | failure (code : Nat)
  deriving DecidableEq, Repr

structure ReadResult where
  count : Int
  bytes : List UInt8
  rest : List Arrival
  deriving DecidableEq, Repr

namespace Inbox

def putBack : List UInt8 → List Arrival → List Arrival
  | [], rest => rest
  | b::bs, rest => .data b bs::rest

-- The end of the stream is read as 0, a failure as a count that is not positive.
def read (limit : Nat) : List Arrival → ReadResult
  | [] => ⟨0,[],[]⟩
  | .failure code::rest => ⟨-code,[],rest⟩
  | .data first more::rest =>
      let taken := (first::more).take limit
      ⟨taken.length,taken,putBack ((first::more).drop limit) rest⟩

/- The bytes that can be read before the first failure or the end. -/
def stream : List Arrival → List UInt8
  | [] => []
  | .failure _::_ => []
  | .data first more::rest => first::more ++ stream rest

theorem streamPutBack (bs : List UInt8) (rest : List Arrival) :
    stream (putBack bs rest) = bs ++ stream rest := by
  cases bs <;> rfl

theorem readEnded {limit : Nat} {inbox : List Arrival} (ended : stream inbox = []) :
    (read limit inbox).count ≤ 0 := by
  match inbox with
  | [] => exact Int.le_refl 0
  | .failure code::rest => simp only [read]; omega
  | .data first more::rest => simp [stream] at ended

structure Delivered (limit : Nat) (inbox : List Arrival) (r : ReadResult) : Prop where
  count : r.count = r.bytes.length
  some : 0 < r.bytes.length
  bound : r.bytes.length ≤ limit
  next : stream inbox = r.bytes ++ stream r.rest

theorem readDelivers {limit : Nat} (positive : 0 < limit) {inbox : List Arrival}
    (more : stream inbox ≠ []) : Delivered limit inbox (read limit inbox) := by
  match inbox with
  | [] => simp [stream] at more
  | .failure code::rest => simp [stream] at more
  | .data first bs::rest =>
    refine ⟨rfl,?_,?_,?_⟩
    · simp only [read,List.length_take,List.length_cons]; omega
    · simp only [read,List.length_take]; omega
    · simp only [read,stream,streamPutBack,← List.append_assoc,List.take_append_drop]

def total : List Arrival → Nat
  | [] => 0
  | .failure _::rest => total rest
  | .data _ more::rest => more.length + 1 + total rest

theorem totalPutBack (bs : List UInt8) (rest : List Arrival) : total (putBack bs rest) = bs.length + total rest := by
  cases bs with
  | nil => exact (Nat.zero_add _).symm
  | cons b more => rfl

theorem readTotal (limit : Nat) (inbox : List Arrival) :
    (read limit inbox).bytes.length + total (read limit inbox).rest = total inbox ∧
      (read limit inbox).count ≤ (read limit inbox).bytes.length := by
  match inbox with
  | [] => exact ⟨rfl,Int.le_refl 0⟩
  | .failure code::rest => exact ⟨Nat.zero_add _,by simp only [read,List.length_nil]; omega⟩
  | .data first more::rest =>
    refine ⟨?_,Int.le_refl _⟩
    simp only [read,total,totalPutBack,List.length_take,List.length_drop,List.length_cons]
    omega

end Inbox
end LibDoip.Library
