import LibDoip.Run

/-! What the log of a connection says, read event by event: which address the latest successful
routing activation was answered for, which frame was dispatched last, and what followed it. -/
namespace LibDoip
open Library
variable {σ : Type}

def Event.sent : Event → Option (List UInt8)
  | .write _ message | .sslWrite _ message => some message
  | _ => none

/- `expected` is the address that was registered when the frame was dispatched. -/
structure Record where
  registered : Option Address
  frame : Option (GenericHeaderAction × Option Buffer)
  expected : Option Address
  notices : Nat
  answer : Option Bool
  delivered : Nat
  deriving DecidableEq, Repr

def Record.next (r : Record) : Event → Record
  | .write _ message | .sslWrite _ message => {r with registered := (routedBy message).or r.registered}
  | .received action payload => ⟨r.registered,some (action,payload),r.registered,0,none,0⟩
  | .notifyApplication _ => {r with notices := r.notices + 1}
  | .answered ack => {r with answer := some ack}
  | .diagCallback _ _ _ => {r with delivered := r.delivered + 1}
  | _ => r

def record (log : List Event) : Record := log.foldl Record.next ⟨none,none,none,0,none,0⟩

def Event.Silent (e : Event) : Prop := ∀ r, Record.next r e = r

theorem recordAppend (past l : List Event) : record (past ++ l) = l.foldl Record.next (record past) :=
  List.foldl_append

theorem recordNext (past : List Event) (e : Event) : record (past ++ [e]) = (record past).next e :=
  recordAppend past [e]

theorem foldSilent {l : List Event} (silent : ∀ e ∈ l, e.Silent) (r : Record) :
    l.foldl Record.next r = r := by
  induction l with
  | nil => rfl
  | cons e rest ih =>
    rw [List.foldl_cons,silent e List.mem_cons_self]
    exact ih (fun e member => silent e (List.mem_cons_of_mem _ member))

theorem recordSilent {l : List Event} (silent : ∀ e ∈ l, e.Silent) (past : List Event) :
    record (past ++ l) = record past := by
  rw [recordAppend,foldSilent silent]

def Event.Quiet (e : Event) : Prop := e.Silent ∧ ¬ e.UsesAddress

namespace Event

theorem sendingIsQuiet {e : Event} (h : e.OfSending) : e.Quiet := by
  refine ⟨fun r => ?_,fun uses => by cases e <;> first | exact h.elim | exact uses.elim⟩
  cases e with
  | write fd message => simp only [Record.next]; rw [show routedBy message = none from h]; rfl
  | sslWrite ssl message => simp only [Record.next]; rw [show routedBy message = none from h]; rfl
  | _ => first | exact h.elim | rfl

theorem timerIsQuiet {e : Event} (h : e.OfTimer) : e.Quiet := by
  cases e <;> first | exact h.elim | exact ⟨fun _ => rfl,id⟩

theorem closingIsQuiet {e : Event} (h : e.OfClosing) : e.Quiet := timerIsQuiet (closingIsTimer h)

theorem startIsQuiet {e : Event} (h : e.OfStart) : e.Quiet := by
  cases e <;> first | exact h.elim | exact ⟨fun _ => rfl,id⟩

theorem readingIsQuiet {e : Event} (h : e.OfReading) : e.Quiet := by
  cases e <;> first | exact h.elim | exact ⟨fun _ => rfl,id⟩

theorem receivingIsQuiet : receiving.Quiet := ⟨fun _ => rfl,id⟩

theorem callIsSilent {e : Event} (h : e.OfCall) : e.Silent := by
  cases e with
  | called _ => exact fun _ => rfl
  | _ => exact (h.elim timerIsQuiet sendingIsQuiet).1

end Event

structure Record.Diagnostic (r : Record) (d0 d1 d2 d3 : UInt8) (data : List UInt8) : Prop where
  frame : ∃ action, r.frame = some (action,some (Buffer.filled (d0::d1::d2::d3::data))) ∧
    action.type = .diagnosticMessage ∧ action.payloadLength.toNat = data.length + 4

theorem Record.Diagnostic.unique {r : Record} {d0 d1 d2 d3 e0 e1 e2 e3 : UInt8} {data other : List UInt8}
    (h : r.Diagnostic d0 d1 d2 d3 data) (h' : r.Diagnostic e0 e1 e2 e3 other) :
    d0 = e0 ∧ d1 = e1 ∧ d2 = e2 ∧ d3 = e3 ∧ data = other := by
  obtain ⟨action,frame,_⟩ := h
  obtain ⟨action',frame',_⟩ := h'
  have same := (Prod.mk.inj (Option.some.inj (frame.symm.trans frame'))).2
  have bytes := Buffer.filledInjective (Option.some.inj same)
  simpa using bytes

end LibDoip
