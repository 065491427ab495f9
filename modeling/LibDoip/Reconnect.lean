import LibDoip.Dialogue
import Mathlib.Data.List.Basic
import Mathlib.Logic.Function.Iterate

/-! A client that goes on sending and receiving. It counts the empty messages it gets; every fifth makes it close its
descriptor and connect anew, whatever else it has received or sent meanwhile. -/
namespace LibDoip
open Library

inductive Talk where
  | send (x : Send)
  | receive (uninit : GenericHeaderAction) (result : RecvResult)
  deriving DecidableEq, Repr

inductive ClientAct where
  | wrote (written : Written)
  | event (e : ClientEvent)
  deriving DecidableEq, Repr

def sending (x : Send) : Program Fault ClientAct ClientState Unit := fun s =>
  let o := send x s.client
  ⟨o.log.map .wrote,{s with client := o.state},o.result⟩

def ClientAct.used : ClientAct → Option Int
  | .wrote written => some written.fd
  | .event (.recv fd) => some fd
  | .event _ => none

def ClientAct.closed : ClientAct → Option Int
  | .event (.close fd) => some fd
  | _ => none

def ClientAct.connected : ClientAct → Option Int
  | .event (.connect fd) => some fd
  | _ => none

def attempts : List Int → Nat
  | [] => 1
  | result::rest => if result = -1 then attempts rest + 1 else 1

def acceptedAfter : List Int → List Int
  | [] => []
  | result::rest => if result = -1 then acceptedAfter rest else rest

structure Line where
  sockFd : Int
  results : List Int
  deriving DecidableEq, Repr

/- Where no socket can be created, nothing is connected. -/
def Line.renew (line : Line) : Line :=
  ⟨line.results.headD 3,if 0 ≤ line.results.headD 3 then acceptedAfter line.results.tail else line.results.tail⟩

def Line.connects (line : Line) : List Int :=
  if 0 ≤ line.results.headD 3 then List.replicate (attempts line.results.tail) line.renew.sockFd else []

def Line.after (line : Line) (renewals : Nat) : Line := Line.renew^[renewals] line

def ClientState.line (s : ClientState) : Line := ⟨s.client.sockFd,s.results⟩

def Talk.empty : Talk → Bool
  | .send _ => false
  | .receive _ result => result.count == 0

def empties (ops : List Talk) : Nat := ops.countP Talk.empty

def ClientState.renewals (s : ClientState) (ops : List Talk) : Nat := (s.emptyMessageCounter + empties ops) / 5

/- The connections of a client one after the other: which descriptor each operation uses, which are closed, and how
often each is connected. Where no socket can be created the operations go on with descriptor -1. -/
structure Talked (s : ClientState) (ops : List Talk) (l : List ClientAct) (t : ClientState) : Prop where
  counter : t.emptyMessageCounter = (s.emptyMessageCounter + empties ops) % 5
  line : t.line = s.line.after (s.renewals ops)
  used : l.filterMap ClientAct.used =
    (List.range ops.length).map (fun i => (s.line.after (s.renewals (ops.take i))).sockFd)
  closed : l.filterMap ClientAct.closed = (List.range (s.renewals ops)).map (fun j => (s.line.after j).sockFd)
  connected : l.filterMap ClientAct.connected = (List.range (s.renewals ops)).flatMap (fun j => (s.line.after j).connects)

section Line

theorem lineAfter (line : Line) (m n : Nat) : (line.after m).after n = line.after (m + n) := by
  unfold Line.after
  rw [Nat.add_comm,Function.iterate_add_apply]

theorem emptiesAppend (ops later : List Talk) : empties (ops ++ later) = empties ops + empties later :=
  List.countP_append

end Line

section Talking
variable {s t u : ClientState} {ops later : List Talk} {l m : List ClientAct}

theorem Talked.renewals (first : Talked s ops l t) (later : List Talk) :
    s.renewals (ops ++ later) = s.renewals ops + t.renewals later := by
  rw [ClientState.renewals,ClientState.renewals,ClientState.renewals,first.counter,emptiesAppend]
  omega

theorem Talked.after (first : Talked s ops l t) (later : List Talk) :
    t.line.after (t.renewals later) = s.line.after (s.renewals (ops ++ later)) := by
  rw [first.line,lineAfter,first.renewals]

theorem Talked.trans (first : Talked s ops l t) (second : Talked t later m u) : Talked s (ops ++ later) (l ++ m) u where
  counter := by
    rw [second.counter,first.counter,emptiesAppend]
    omega
  line := second.line.trans (first.after later)
  used := by
    rw [List.filterMap_append,first.used,second.used,List.length_append,List.range_add,List.map_append,List.map_map]
    refine congrArg₂ (· ++ ·) (List.map_congr_left (fun i inside => ?_)) (List.map_congr_left (fun i _ => ?_))
    · rw [List.take_append_of_le_length (Nat.le_of_lt (List.mem_range.mp inside))]
    · rw [Function.comp_apply,List.take_length_add_append,first.after]
  closed := by
    rw [List.filterMap_append,first.closed,second.closed,first.renewals,List.range_add,List.map_append,List.map_map]
    refine congrArg₂ (· ++ ·) rfl (List.map_congr_left (fun j _ => ?_))
    rw [Function.comp_apply,← lineAfter,first.line]
  connected := by
    rw [List.filterMap_append,first.connected,second.connected,first.renewals,List.range_add,List.flatMap_append,
      List.flatMap_map]
    refine congrArg₂ (· ++ ·) rfl (List.flatMap_congr (fun j _ => ?_))
    rw [← lineAfter,first.line]

end Talking

section Receiving
variable {s : ClientState}

end Receiving

end LibDoip
