import LibDoip.Receiving

/-! Runs of a connection: receive calls and public calls in any order, the receive calls all on
one stream of arrivals. -/
namespace LibDoip
open Library
variable {σ : Type}

inductive Op where
  | receive (uninit : GenericHeaderAction)
  | call (call : Call)
  deriving DecidableEq, Repr

def step (app : Application σ) : Op → List Arrival → Doip σ (List Arrival)
  | .receive uninit, inbox => do
      let r ← receiveTcpOrTlsMessage app uninit inbox
      pure r.inbox
  | .call call, inbox => do
      let _ ← perform call
      pure inbox

def run (app : Application σ) : List Op → List Arrival → Doip σ (List Arrival) := Program.iterate (step app)

def Fresh (s : State σ) : Prop := ∃ clientSock gateway ssl startTime maxSeconds,
  s.connection = DoIPConnection.new clientSock gateway ssl startTime maxSeconds

def State.opened (ssl : Option Nat) : State Unit :=
  ⟨DoIPConnection.new 5 0x0E80 ssl 0 0,⟨[],[],[],[],0⟩,()⟩

theorem State.openedFresh (ssl : Option Nat) : Fresh (State.opened ssl) := ⟨5,0x0E80,ssl,0,0,rfl⟩

def EachStep (p : Op → List Arrival → State σ → Prop) (app : Application σ) :
    List Op → List Arrival → State σ → Prop := Program.Each p (step app)

section Rules
variable {R : State σ → List Event → State σ → Option Fault → Prop} {app : Application σ}

theorem stepReceiveAt (c : Program.Composable R) {uninit : GenericHeaderAction} {inbox : List Arrival}
    {s : State σ} (h : Program.At R (receiveTcpOrTlsMessage app uninit inbox) s) :
    Program.At R (step app (.receive uninit) inbox) s :=
  Program.atBind c h (fun _ _ => Program.meetsPure c _ _)

theorem stepCallMeets (c : Program.Composable R) {call : Call}
    (h : Program.Meets R (perform call : Doip σ Int)) (inbox : List Arrival) :
    Program.Meets R (step app (.call call) inbox) :=
  Program.meetsBind c h (fun _ => Program.meetsPure c _)

end Rules
end LibDoip
