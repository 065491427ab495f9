import LibDoip.ClientReceiving
import LibDoip.Disconnection
import LibDoip.ExampleServer

/-! One client and the example server with a network between them. The client sends and receives, the
network hands over what it likes of what is on its way, and the server's two threads take their steps,
all in any order. It carries all that the server hands to `write` on the client's descriptor, which is not 0. Every
state that is reached is consistent with the machine of the example server. -/
namespace LibDoip
open Library ExampleServer
variable {σ : Type}

/- `sent` is the history of the client's sends, `shown` what it has displayed; `fault` is set where the
server's process has ended in one. -/
structure Dialogue where
  fd : Int
  client : ClientState
  sent : List Send
  upstream : List UInt8
  left : Bool
  phase : Phase
  server : State Unit
  fault : Option Fault
  downstream : List UInt8
  shown : List UInt8
  deriving DecidableEq, Repr

inductive DialogueMove where
  | send (x : Send)
  | leave
  | arrive (n : Nat)
  | server (uninit : GenericHeaderAction)
  | timer
  | receive (n : Nat) (uninit : GenericHeaderAction)
  deriving DecidableEq, Repr

def Event.writtenTo (fd : Int) : Event → List UInt8
  | .write used message => if used = fd then message else []
  | _ => []

def writtenTo (fd : Int) (l : List Event) : List UInt8 := l.flatMap (Event.writtenTo fd)

def ClientEvent.shown : ClientEvent → List UInt8
  | .displayed bytes => bytes
  | _ => []

def Phase.arrive (bytes : List UInt8) : Phase → Phase
  | .serving ⟨position,inbox⟩ => .serving ⟨position,inbox ++ Inbox.putBack bytes []⟩
  | .finished => .finished

def Phase.Blocked : Phase → Prop
  | .serving thread => thread.Blocked
  | .finished => False

instance (phase : Phase) : Decidable phase.Blocked := by unfold Phase.Blocked; split <;> infer_instance

namespace Dialogue

def Waits (d : Dialogue) : Prop := d.phase.Blocked ∧ ¬ (d.left = true ∧ d.upstream = [])

instance (d : Dialogue) : Decidable d.Waits := by unfold Waits; infer_instance

def take (d : Dialogue) (o : Outcome Fault Event (State Unit) Phase) : Dialogue :=
  {d with
    phase := match o.result with
      | .ok phase => phase
      | .error _ => d.phase
    server := o.state
    fault := o.fault
    downstream := d.downstream ++ writtenTo d.fd o.log}

def deliver (d : Dialogue) (n : Nat) : RecvResult :=
  .delivered (d.downstream.take (min n 64)) (by rw [List.length_take]; unfold clientMaxDataSize; omega)

/- A move that is not possible changes nothing. -/
def step (d : Dialogue) : DialogueMove → Dialogue
  | .send x => if d.left then d else
      let o := send x d.client.client
      {d with
        client := {d.client with client := o.state}
        sent := d.sent ++ [x]
        upstream := d.upstream ++ o.log.flatMap Written.message}
  | .leave => {d with left := true}
  | .arrive n => {d with upstream := d.upstream.drop n, phase := d.phase.arrive (d.upstream.take n)}
  | .server uninit =>
      if d.fault = none ∧ ¬ d.Waits then d.take (LibDoip.handleClient application (.client uninit) d.phase d.server) else d
  | .timer => if d.fault = none then d.take (LibDoip.handleClient application .timer d.phase d.server) else d
  | .receive n uninit => if d.left = true ∨ n = 0 ∨ d.downstream = [] then d else
      let o := DoIPClient.receiveMessage uninit (d.deliver n) d.client
      {d with
        client := o.state
        downstream := d.downstream.drop (min n 64)
        shown := d.shown ++ o.log.flatMap ClientEvent.shown}

def run (d : Dialogue) (moves : List DialogueMove) : Dialogue := moves.foldl step d

def start (client : ClientState) (fd : Int) (gateway : UInt16) (startTime : Int) (maxSeconds : UInt16)
    (environment : Environment) : Dialogue :=
  ⟨fd,client,[],[],false,.serving ⟨.idle,[]⟩,State.setTimer
    ⟨DoIPConnection.new fd gateway none startTime maxSeconds,environment,()⟩ (·.setTimer 50000),none,[],[]⟩

end Dialogue

def ClientState.connected : ClientState :=
  ⟨⟨3,(0x0E,0x00)⟩,4,⟨List.replicate 64 0,List.length_replicate⟩,⟨[],[],[],[],0⟩,0,[]⟩

def activationMoves : List DialogueMove :=
  [.send .routingActivationRequest,.arrive 9,.arrive 6] ++ List.replicate 15 (.server noAction) ++ [.receive 64 noAction]

end LibDoip
