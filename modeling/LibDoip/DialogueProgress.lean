import LibDoip.DialogueSafety
import LibDoip.Library.Loop

/-! A dialogue comes to rest. A client that begins with a routing activation is attended to until it leaves
or the timer fires, and what is on its way keeps both sides and the network busy for finitely many moves
only; when nothing moves any more it has been shown every answer. -/
namespace LibDoip
open Library ExampleServer Relation

def Dialogue.Quiet (d : Dialogue) : Prop := d.upstream = [] ∧ d.downstream = [] ∧ d.phase.Blocked

instance (d : Dialogue) : Decidable d.Quiet := by unfold Dialogue.Quiet; infer_instance

section Rest
variable {gateway : UInt16} {d : Dialogue} {position : Position} {inbox : List Arrival} {done held : List UInt8}
  {rs : List Request}

theorem Attends.quiet (attends : Attends gateway d position inbox done held rs) (quiet : d.Quiet) :
    d.shown = tells gateway (d.sent.map Send.request) := by
  obtain ⟨up,down,blocked⟩ := quiet
  rw [attends.phase] at blocked
  have none := @endedRequests none ⟨position,inbox⟩ held attends.holding (Thread.Blocked.ended blocked)
  have asked := attends.asks
  dsimp only at none
  rw [up,List.append_nil,none,List.append_nil] at asked
  have told := attends.told
  rw [down,List.append_nil] at told
  rw [asked,told]

theorem answerShort (session : Session) (request : Request) (gateway : UInt16) :
    ((server.answer session request).flatMap (Answer.bytes gateway)).length ≤ 32 := by
  have refusal : ∀ code, ([Answer.refusal code].flatMap (Answer.bytes gateway)).length = 9 := fun _ => rfl
  have activation : ∀ client code, ([Answer.activation client code].flatMap (Answer.bytes gateway)).length = 17 :=
    fun _ _ => rfl
  have response : ∀ data : List UInt8, (responseData data data.length).bytes.length ≤ 7 := by
    intro data
    unfold responseData
    split <;> simp
  cases session with
  | closed => exact Nat.zero_le 32
  | crashed => exact Nat.zero_le 32
  | unrouted =>
    cases request with
    | refused code => exact Nat.le_trans (Nat.le_of_eq (refusal code)) (by decide)
    | activation client code => exact Nat.le_trans (Nat.le_of_eq (activation client code)) (by decide)
    | diagnostic => exact Nat.zero_le 32
    | other => exact Nat.zero_le 32
  | routed client =>
    cases request with
    | refused code => exact Nat.le_trans (Nat.le_of_eq (refusal code)) (by decide)
    | activation client code => exact Nat.le_trans (Nat.le_of_eq (activation client code)) (by decide)
    | other => exact Nat.zero_le 32
    | diagnostic source targetAddress data =>
      have short := response data
      have acknowledged : (Answer.bytes gateway (.acknowledgement client)).length = 13 := rfl
      have responded : (Answer.bytes gateway (.response targetAddress client (responseData data data.length))).length =
          (responseData data data.length).bytes.length + 12 := diagnosticMessageLength _ _ _
      show ((Answer.acknowledgement client::_).flatMap (Answer.bytes gateway)).length ≤ 32
      rw [List.flatMap_cons,List.length_append,acknowledged]
      split
      · rw [List.flatMap_cons,List.flatMap_nil,List.append_nil,responded]
        omega
      · simp

end Rest

def Phase.effort : Phase → Nat
  | .serving thread => thread.effort
  | .finished => 0

namespace Dialogue

def effort (d : Dialogue) : Nat := 21 * d.upstream.length + d.phase.effort + d.downstream.length

end Dialogue

section Works
variable {gateway : UInt16} {d e : Dialogue} {position : Position} {inbox : List Arrival} {done held : List UInt8}
  {rs : List Request}

theorem Attends.turn (attends : Attends gateway d position inbox done held rs) (nonzero : d.fd ≠ 0)
    (present : d.left = false) (ready : ¬ d.Waits) (uninit : GenericHeaderAction) {o : Outcome Fault Event (State Unit) Phase}
    (ran : LibDoip.handleClient application (.client uninit) d.phase d.server = o) :
    o.state.connection.aliveCheckTimer.timeout = d.server.connection.aliveCheckTimer.timeout ∧
      ∀ next, o.result = .ok next → (writtenTo d.fd o.log).length + next.effort < d.phase.effort := by
  have active : isSocketActive d.server.connection := fun closed => nonzero (attends.sock.symm.trans closed)
  have running := attends.settled.running active
  have goesOn : ¬ (⟨position,inbox⟩ : Thread).Ended := by
    intro ended
    refine ready ⟨?_,fun gone => Bool.false_ne_true (present.symm.trans gone.1)⟩
    rw [attends.phase]
    exact ended.blocked attends.clean
  rw [attends.phase,turnAdvances application uninit ⟨position,inbox⟩ (fun _ => active)] at ran
  rw [attends.phase]
  by_cases dispatching : ∃ action payload, position = .dispatching action payload
  · obtain ⟨action,payload,rfl⟩ := dispatching
    have holding := attends.holding
    generalize at' : Position.dispatching action payload = position at holding
    cases holding with
    | @dispatching frame held whole =>
      cases at'
      have replies := frameReplies frame active
      have written : (writtenTo d.fd (react application frame.action frame.payload d.server).log).length ≤ 32 := by
        rw [← attends.written,← writtenSends,replies.sends,writtenAnswers]
        exact answerShort _ _ _
      have same : o = (react application frame.action frame.payload d.server).andThen (fun _ => pure (.serving ⟨.idle,inbox⟩)) := by
        rw [← ran,advance,Program.bindApply,Outcome.andThenAssoc]
        rfl
      have expired := replies.expired
      generalize react application frame.action frame.payload d.server = p at same written expired
      obtain ⟨l,t,r⟩ := p
      subst same
      cases r with
      | error e => exact ⟨expired,fun next returned => by cases returned⟩
      | ok v =>
        refine ⟨expired,fun next returned => ?_⟩
        cases returned
        simp only [Outcome.andThenOk,Program.pureApply,Outcome.prependMk,List.append_nil,Phase.effort,Thread.effort,
          Position.taken,Position.rank] at written ⊢
        omega
    | _ => cases at'
  · have steps := @stepsOn _ none _ inbox application uninit _ _ attends.holding (fun _ _ => Or.inl rfl) attends.plain running
      (fun action payload same => dispatching ⟨action,payload,same⟩)
    generalize advance application uninit ⟨position,inbox⟩ d.server = p at steps ran
    cases steps with
    | @moves l t next held' moves =>
      subst ran
      refine ⟨moves.retimed.expired,fun phase returned => ?_⟩
      cases returned
      rw [Outcome.andThenOk,Program.pureApply,Outcome.prependMk,List.append_nil,← attends.written,writtenNone _ moves.unsent,
        List.length_nil,Nat.zero_add]
      exact moves.effort
    | fails ended => exact absurd ended goesOn
    | breaks ended => exact absurd ended goesOn

end Works

end LibDoip
