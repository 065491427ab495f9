import LibDoip.Attending
import LibDoip.Handles
import LibDoip.Server

/-! The server's process: two listeners that accept clients over TCP and over TLS, and for each client a
thread that serves it and its timer. The kernel gives out a descriptor again as soon as it has been closed. Steps mix
in any order, but each is taken whole. A turn is one step of the receiving thread (a read is two, its call and its
return; a dispatch is one), one round of the timer or one public call, with all of `closeSocket`, from SSL_shutdown to
`client_sock = 0`, and each update of the counter inside it. A listener takes accept, SSL_new, the handshake and the
start of the client's thread in one move. -/
namespace LibDoip
open Library
variable {σ : Type}

def waitForTcpConnection (v : DoIPServer) (clientSock startTime : Int) (maxSeconds : UInt16) : Except String DoIPConnection :=
  if clientSock < 0 then .error "Unable to accept tcp client"
  else .ok (DoIPConnection.new clientSock v.logicalGatewayAddress none startTime maxSeconds)

/- `accepted` is what `SSL_accept` returns. -/
def waitForTlsConnection (v : DoIPServer) (clientSock : Int) (ssl : Nat) (accepted startTime : Int) (maxSeconds : UInt16) :
    Except String DoIPConnection :=
  if clientSock < 0 then .error "Unable to accept tls client"
  else if accepted ≤ 0 then .error "Unable to accept ssl client"
  else .ok (DoIPConnection.new clientSock v.logicalGatewayAddress (some ssl) startTime maxSeconds)

/- What a listener finds, and what a client brings along: the bytes it will send, the results of the calls on its
connection, the state of the application and what the timer's memory holds. -/
structure Arriving (σ : Type) where
  clientSock : Int
  ssl : Nat
  accepted : Int
  inbox : List Arrival
  environment : Environment
  application : σ
  startTime : Int
  maxSeconds : UInt16
  deriving DecidableEq, Repr

structure ServedClient (σ : Type) where
  accepted : DoIPConnection
  arrivals : List Arrival
  phase : Phase
  state : State σ
  deriving DecidableEq, Repr

/- The client's thread starts by setting the inactivity time. -/
def ServedClient.new (connection : DoIPConnection) (a : Arriving σ) : ServedClient σ :=
  ⟨connection,a.inbox,.serving ⟨.idle,a.inbox⟩,State.setTimer ⟨connection,a.environment,a.application⟩ (·.setTimer 50000)⟩

def ServedClient.take (c : ServedClient σ) (o : Outcome Fault Event (State σ) Phase) : ServedClient σ :=
  {c with
    phase := match o.result with
      | .ok phase => phase
      | .error _ => c.phase
    state := o.state}

/- The process ends where a call faults, or an exception reaches the end of a thread. -/
inductive Ending where
  | fault (fault : Fault)
  | uncaught (text : String)
  deriving DecidableEq, Repr

structure Process (σ : Type) where
  server : DoIPServer
  reserved : List Handle
  clients : List (ServedClient σ)
  connectionsCounter : Int
  log : List (Entry Nat Handle Event)
  ended : Option Ending
  deriving DecidableEq, Repr

inductive ProcessMove (σ : Type) where
  | sets (setting : Setting)
  | listens (isTls : Bool) (arriving : Arriving σ)
  | turn (i : Nat) (turn : Turn)
  deriving DecidableEq, Repr

namespace Process

def holder (p : Process σ) : Handle → Option Nat := Custody.holder (@handles σ) p.log

def Free (p : Process σ) (h : Handle) : Prop := h ∉ p.reserved ∧ p.holder h = none
instance (p : Process σ) (h) : Decidable (p.Free h) := by unfold Free; infer_instance

def Gives (p : Process σ) (isTls : Bool) (a : Arriving σ) : Prop :=
  (0 ≤ a.clientSock → p.Free (.descriptor a.clientSock)) ∧ (isTls = true → p.Free (.object a.ssl))
instance (p : Process σ) (isTls a) : Decidable (p.Gives isTls a) := by unfold Gives; infer_instance

def waitForConnection (p : Process σ) (isTls : Bool) (a : Arriving σ) : Except String DoIPConnection :=
  if isTls then waitForTlsConnection p.server a.clientSock a.ssl a.accepted a.startTime a.maxSeconds
  else waitForTcpConnection p.server a.clientSock a.startTime a.maxSeconds

def given (isTls : Bool) (a : Arriving σ) : List Handle :=
  if isTls then [.descriptor a.clientSock,.object a.ssl] else [.descriptor a.clientSock]

def listenTcpOrTls (p : Process σ) (isTls : Bool) (a : Arriving σ) : Process σ := match p.waitForConnection isTls a with
  | .error text => {p with ended := some (.uncaught text)}
  | .ok connection =>
      {p with
        clients := p.clients ++ [.new connection a]
        connectionsCounter := p.connectionsCounter + 1
        log := p.log ++ Custody.grants p.clients.length (given isTls a)}

/- A turn of one client's threads. Every close notification runs `CloseConnection`. -/
def take (p : Process σ) (i : Nat) (c : ServedClient σ) (o : Outcome Fault Event (State σ) Phase) : Process σ :=
  {p with
    clients := p.clients.set i (c.take o)
    connectionsCounter := p.connectionsCounter - o.log.count .closeConnection
    log := p.log ++ Custody.does i o.log
    ended := o.fault.map .fault}

/- A move that is not possible changes nothing. -/
def step (app : Application σ) (p : Process σ) (m : ProcessMove σ) : Process σ := if p.ended = none then match m with
    | .sets setting => {p with server := p.server.set setting}
    | .listens isTls arriving => if p.Gives isTls arriving then p.listenTcpOrTls isTls arriving else p
    | .turn i turn => match p.clients[i]? with
        | some c => p.take i c (handleClient app turn c.phase c.state)
        | none => p
  else p

def run (app : Application σ) (p : Process σ) (moves : List (ProcessMove σ)) : Process σ := moves.foldl (step app) p

end Process

/- Nobody has been accepted yet. Descriptor 0 is open, so that no connection gets it. -/
structure Process.Fresh (p : Process σ) : Prop where
  clients : p.clients = []
  counter : p.connectionsCounter = 0
  log : p.log = []
  ended : p.ended = none
  reserved : .descriptor 0 ∈ p.reserved

structure Process.Kept (p : Process σ) : Prop where
  proper : Always (Custody.Proper (@handles σ)) [] p.log
  holders : ∀ h i, p.holder h = some i ↔ ∃ c, p.clients[i]? = some c ∧ c.state.connection.Holds h
  reserved : .descriptor 0 ∈ p.reserved
  granted : ∀ i h, .grants i h ∈ p.log → h ∉ p.reserved ∧ ∃ c, p.clients[i]? = some c ∧ c.accepted.Holds h
  released : p.ended = none → ∀ c ∈ p.clients, Settled c.state ∧ (c.phase = .finished → c.state.connection.clientSock = 0)

theorem Process.Fresh.kept {p : Process σ} (fresh : p.Fresh) : p.Kept := by
  have nobody : ∀ h, p.holder h = none := by
    intro h
    rw [Process.holder,fresh.log]
    rfl
  refine ⟨?_,fun h i => ?_,fresh.reserved,?_,?_⟩
  · rw [fresh.log]
    trivial
  · rw [nobody,fresh.clients]
    simp
  · rw [fresh.log]
    exact fun _ _ member => absurd member List.not_mem_nil
  · rw [fresh.clients]
    exact fun _ _ member => absurd member List.not_mem_nil

section Accepting
variable {p : Process σ} {isTls : Bool} {a : Arriving σ} {connection : DoIPConnection}

structure Made (p : Process σ) (isTls : Bool) (a : Arriving σ) (connection : DoIPConnection) : Prop where
  sock : connection.clientSock = a.clientSock
  ssl : connection.ssl = if isTls then some a.ssl else none
  accepted : 0 ≤ a.clientSock
  running : connection.aliveCheckTimer.timeout = false
  unrouted : connection.routedClientAddress = none

theorem waitForConnectionMakes (made : p.waitForConnection isTls a = .ok connection) : Made p isTls a connection := by
  rw [Process.waitForConnection] at made
  cases isTls with
  | true =>
    simp only [if_true,waitForTlsConnection] at made
    split at made
    · cases made
    · split at made
      · cases made
      · cases made
        exact ⟨rfl,rfl,by omega,rfl,rfl⟩
  | false =>
    simp only [Bool.false_eq_true,if_false,waitForTcpConnection] at made
    split at made
    · cases made
    · cases made
      exact ⟨rfl,rfl,by omega,rfl,rfl⟩

theorem Made.holds (made : Made p isTls a connection) (nonzero : a.clientSock ≠ 0) (h : Handle) :
    connection.Holds h ↔ h ∈ Process.given isTls a := by
  cases h with
  | descriptor fd =>
    rw [DoIPConnection.Holds,made.sock]
    cases isTls <;> simp [Process.given] <;> omega
  | object ssl =>
    rw [DoIPConnection.Holds,made.ssl]
    cases isTls <;> simp [Process.given,eq_comm]

theorem givenNodup : (Process.given isTls a).Nodup := by cases isTls <;> simp [Process.given]

theorem Made.free (made : Made p isTls a connection) (gives : p.Gives isTls a) : ∀ h ∈ Process.given isTls a, p.Free h := by
  have descriptor := gives.1 made.accepted
  cases isTls with
  | true => exact List.forall_mem_cons.mpr ⟨descriptor,List.forall_mem_singleton.mpr (gives.2 rfl)⟩
  | false => exact List.forall_mem_singleton.mpr descriptor

end Accepting

theorem clientsConcat (clients : List (ServedClient σ)) (new : ServedClient σ) (q : ServedClient σ → Prop) (i : Nat) :
    (∃ c, (clients ++ [new])[i]? = some c ∧ q c) ↔ (∃ c, clients[i]? = some c ∧ q c) ∨ q new ∧ i = clients.length := by
  rw [List.getElem?_append]
  split
  · rename_i before
    have other : i ≠ clients.length := Nat.ne_of_lt before
    simp only [other,and_false,or_false]
  · rename_i after
    have none : clients[i]? = none := List.getElem?_eq_none (Nat.le_of_not_lt after)
    by_cases last : i = clients.length
    · simp [last]
    · have beyond : ([new] : List (ServedClient σ))[i - clients.length]? = Option.none :=
        List.getElem?_eq_none (by rw [List.length_singleton]; omega)
      simp [beyond,none,last]

theorem Process.Kept.listens {p : Process σ} (kept : p.Kept) {isTls : Bool} {a : Arriving σ} (gives : p.Gives isTls a) :
    (p.listenTcpOrTls isTls a).Kept := by
  rw [Process.listenTcpOrTls]
  cases found : p.waitForConnection isTls a with
  | error text => exact ⟨kept.proper,kept.holders,kept.reserved,kept.granted,fun running => absurd running (Option.some_ne_none _)⟩
  | ok connection =>
    have made := waitForConnectionMakes found
    have free := made.free gives
    have nonzero : a.clientSock ≠ 0 := by
      intro zero
      have descriptor := (gives.1 made.accepted).1
      rw [zero] at descriptor
      exact descriptor kept.reserved
    refine ⟨?_,fun h i => ?_,kept.reserved,fun i h member => ?_,?_⟩
    · refine (Always.append [] _ _).mpr ⟨kept.proper,?_⟩
      refine Custody.grantsProper _ givenNodup (fun h member => ⟨(free h member).2,?_⟩)
      rintro rfl
      exact (free _ member).1 kept.reserved
    · have granted : (p.holder h = some i ∨ h ∈ Process.given isTls a ∧ i = p.clients.length) ↔
          Custody.holder (@handles σ) (p.log ++ Custody.grants p.clients.length (Process.given isTls a)) h = some i := by
        rw [Custody.holderGrants]
        by_cases given : h ∈ Process.given isTls a
        · rw [if_pos given,(free h given).2]
          simp [given,eq_comm]
        · rw [if_neg given]
          simp only [given,false_and,or_false]
          rfl
      refine granted.symm.trans ?_
      rw [kept.holders,← made.holds nonzero,clientsConcat]
      rfl
    · rcases List.mem_append.mp member with before | after
      · obtain ⟨outside,own⟩ := kept.granted i h before
        exact ⟨outside,(clientsConcat p.clients _ (fun c => c.accepted.Holds h) i).mpr (Or.inl own)⟩
      · obtain ⟨g,given,same⟩ := List.mem_map.mp after
        cases same
        have own := (made.holds nonzero h).mpr given
        exact ⟨(free h given).1,(clientsConcat p.clients _ (fun c => c.accepted.Holds h) _).mpr (Or.inr ⟨own,rfl⟩)⟩
    · intro running c member
      rcases List.mem_append.mp member with before | after
      · exact kept.released running c before
      · cases List.mem_singleton.mp after
        refine ⟨⟨fun closed => absurd (made.sock.symm.trans closed) nonzero,fun fired => ?_⟩,Phase.noConfusion⟩
        exact absurd (made.running.symm.trans fired) Bool.false_ne_true

section Turns
variable {p : Process σ} {app : Application σ} {turn : Turn} {c : ServedClient σ} {i : Nat}

theorem turnConfined (app : Application σ) (turn : Turn) (phase : Phase) :
    Program.Meets Confined (handleClient app turn phase) :=
  turnMeets confined (fun _ => ownConfined (List.forall_mem_singleton.mpr ⟨nofun,rfl⟩) rfl rfl) app turn phase

theorem turnSettles (app : Application σ) (turn : Turn) (phase : Phase) :
    Program.Meets Settles (handleClient app turn phase) :=
  turnMeets settles (fun _ _ settled => settled) app turn phase

theorem turnReleases {next : Phase} {l : List Event} {t : State σ} (settled : Settled c.state)
    (finished : c.phase = .finished → c.state.connection.clientSock = 0)
    (ran : handleClient app turn c.phase c.state = ⟨l,t,.ok next⟩) :
    Settled t ∧ (next = .finished → t.connection.clientSock = 0) := by
  have settles := turnSettles app turn c.phase c.state
  have turned := handleClientTurns app turn c.phase c.state
  have muted := turnMute app turn c.phase c.state
  rw [Program.At,ran] at settles muted
  rw [ran] at turned
  refine ⟨settles rfl settled,?_⟩
  rintro rfl
  cases turned with
  | accounted accounted same =>
    have closed := finished ((same _ rfl).mp rfl)
    exact (muted.silent closed (settled.closed closed)).1
  | disconnected serving closed => exact closed

theorem Process.Kept.takes (kept : p.Kept) (running : p.ended = none) (found : p.clients[i]? = some c) :
    (p.take i c (handleClient app turn c.phase c.state)).Kept := by
  have confines := turnConfined app turn c.phase c.state
  have releases := @turnReleases σ app turn c
  have before := kept.released running c (List.mem_of_getElem? found)
  rw [Program.At] at confines
  generalize handleClient app turn c.phase c.state = o at confines releases
  obtain ⟨l,t,r⟩ := o
  have holds : ∀ h, (@handles σ).holds c.state h ↔ Custody.holder (@handles σ) p.log h = some i := by
    intro h
    refine Iff.trans ?_ (kept.holders h i).symm
    simp [found,handles]
  have settles := Custody.partySettles confines holds
  have inside : i < p.clients.length := (List.getElem?_eq_some_iff.mp found).1
  refine ⟨?_,fun h j => ?_,kept.reserved,fun j h member => ?_,fun ended d member => ?_⟩
  · refine (Always.append [] _ _).mpr ⟨kept.proper,?_⟩
    exact Custody.partyProper confines holds
  · by_cases own : j = i
    · subst own
      refine (settles.own h).symm.trans ?_
      simp [Process.take,ServedClient.take,List.getElem?_set_self inside,handles]
    · refine (settles.others h j own).trans ((kept.holders h j).trans ?_)
      simp only [Process.take,List.getElem?_set_ne (Ne.symm own)]
  · rcases List.mem_append.mp member with earlier | later
    · obtain ⟨outside,d,there,own⟩ := kept.granted j h earlier
      refine ⟨outside,?_⟩
      by_cases same : i = j
      · subst same
        cases found.symm.trans there
        exact ⟨c.take ⟨l,t,r⟩,List.getElem?_set_self inside,own⟩
      · exact ⟨d,(List.getElem?_set_ne same).trans there,own⟩
    · obtain ⟨e,_,same⟩ := List.mem_map.mp later
      cases same
  · rcases List.mem_or_eq_of_mem_set member with other | rfl
    · exact kept.released running d other
    · cases r with
      | error e => cases ended
      | ok next => exact releases before.1 before.2 rfl

end Turns

theorem Process.Kept.steps {p : Process σ} (kept : p.Kept) (app : Application σ) (m : ProcessMove σ) : (p.step app m).Kept := by
  unfold Process.step
  split
  · rename_i running
    cases m with
    | sets setting => exact ⟨kept.proper,kept.holders,kept.reserved,kept.granted,kept.released⟩
    | listens isTls arriving =>
      dsimp only
      split
      · rename_i gives
        exact kept.listens gives
      · exact kept
    | turn i turn =>
      dsimp only
      split
      · rename_i c found
        exact kept.takes running found
      · exact kept
  · exact kept

theorem Process.Kept.runs {p : Process σ} (kept : p.Kept) (app : Application σ) (moves : List (ProcessMove σ)) :
    (p.run app moves).Kept := by
  induction moves generalizing p with
  | nil => exact kept
  | cons m moves ih => exact ih (kept.steps app m)

theorem Process.Kept.spares {p : Process σ} (kept : p.Kept) {i : Nat} {e : Event} {h : Handle} (done : .does i e ∈ p.log)
    (uses : e.uses = some h) (reserved : h ∈ p.reserved) : h = .descriptor 0 ∧ e.releases = false := by
  obtain ⟨before,after,split⟩ := List.append_of_mem done
  have proper := kept.proper.split split
  rw [List.nil_append] at proper
  rcases proper h uses with held | ⟨zero,keeps,_⟩
  · have granted : .grants i h ∈ p.log := by
      rw [split]
      exact List.mem_append_left _ (Custody.holderGranted held)
    exact absurd reserved (kept.granted i h granted).1
  · exact ⟨zero,keeps⟩

theorem nothingLeaked (app : Application σ) {p : Process σ} (fresh : p.Fresh) (moves : List (ProcessMove σ))
    (running : (p.run app moves).ended = none) (h : Handle) (i : Nat) (held : (p.run app moves).holder h = some i) :
    ∃ c, (p.run app moves).clients[i]? = some c ∧ c.phase ≠ .finished := by
  have kept := fresh.kept.runs app moves
  obtain ⟨c,found,own⟩ := (kept.holders h i).mp held
  obtain ⟨settled,closes⟩ := kept.released running c (List.mem_of_getElem? found)
  refine ⟨c,found,fun finished => ?_⟩
  have closed := closes finished
  cases h with
  | descriptor fd => exact own.1 (own.2.symm.trans closed)
  | object ssl =>
    have none : Option.none = some ssl := (settled.closed closed).symm.trans own
    cases none

section Counting

def Phase.active : Phase → Bool
  | .serving _ => true
  | .finished => false

def Process.served (p : Process σ) : Nat := p.clients.countP (fun c => c.phase.active)

def Entry.ends : Entry Nat Handle Event → Bool
  | .does _ e => e.ends
  | .grants _ _ => false

def Process.ends (p : Process σ) : Nat := p.log.countP Entry.ends

def Process.Counted (p : Process σ) : Prop := p.ended = none → p.connectionsCounter = p.served - p.ends

theorem turnCounts {app : Application σ} {turn : Turn} {phase next : Phase} {s t : State σ} {l : List Event}
    (ran : handleClient app turn phase s = ⟨l,t,.ok next⟩) :
    l.count .closeConnection + next.active.toNat = l.countP Event.ends + phase.active.toNat := by
  have turned := handleClientTurns app turn phase s
  rw [ran] at turned
  cases turned with
  | accounted accounted same =>
    have most : l.count .closeConnection ≤ l.countP Event.ends := accounted.atMost
    have least : l.countP Event.ends ≤ l.count .closeConnection := accounted.atLeast rfl
    have kept : next.active = phase.active := by
      have finished := same next rfl
      cases next <;> cases phase <;> simp_all [Phase.active]
    rw [kept]
    omega
  | disconnected serving closed =>
    cases phase with
    | serving thread => rfl
    | finished => exact absurd rfl serving

theorem grantsEnd (i : Nat) (hs : List Handle) : (Custody.grants i hs).countP Entry.ends = 0 := by
  induction hs with
  | nil => rfl
  | cons h rest ih => exact ih

theorem doesEnd (i : Nat) (l : List Event) : (Custody.does i l).countP Entry.ends = l.countP Event.ends := by
  induction l with
  | nil => rfl
  | cons e rest ih =>
    rw [Custody.does,List.map_cons,List.countP_cons,List.countP_cons]
    exact congrArg (· + _) ih

theorem replacedActive {clients : List (ServedClient σ)} {i : Nat} {c : ServedClient σ} (found : clients[i]? = some c)
    (new : ServedClient σ) : (clients.set i new).countP (fun c => c.phase.active) + c.phase.active.toNat =
      clients.countP (fun c => c.phase.active) + new.phase.active.toNat := by
  induction clients generalizing i with
  | nil => cases found
  | cons d rest ih =>
    cases i with
    | zero =>
      cases found
      rw [List.set_cons_zero,List.countP_cons,List.countP_cons]
      cases c.phase.active <;> cases new.phase.active <;> simp
    | succ i =>
      have next := ih (i := i) found
      rw [List.set_cons_succ,List.countP_cons,List.countP_cons]
      omega

theorem Process.Counted.steps {p : Process σ} (counted : p.Counted) (app : Application σ) (m : ProcessMove σ) :
    (p.step app m).Counted := by
  unfold Process.step
  split
  · rename_i running
    have now := counted running
    cases m with
    | sets setting => exact counted
    | listens isTls arriving =>
      dsimp only
      split
      · unfold Process.listenTcpOrTls
        split
        · exact nofun
        · intro _
          have served : ∀ new : ServedClient σ, new.phase.active = true →
              (p.clients ++ [new]).countP (fun c => c.phase.active) = p.served + 1 := by
            intro new serving
            rw [List.countP_append,List.countP_singleton,if_pos serving]
            rfl
          have ends : (p.log ++ Custody.grants p.clients.length (Process.given isTls arriving)).countP Entry.ends =
              p.ends := by rw [List.countP_append,grantsEnd,Nat.add_zero,Process.ends]
          simp only [Process.served,Process.ends] at now served ends ⊢
          rw [served _ rfl,ends]
          omega
      · exact counted
    | turn i turn =>
      dsimp only
      split
      · rename_i c found
        have counts := fun next l t => @turnCounts σ app turn c.phase next c.state t l
        generalize handleClient app turn c.phase c.state = o at counts
        obtain ⟨l,t,r⟩ := o
        cases r with
        | error e => exact nofun
        | ok next =>
          intro _
          have balance := counts next l t rfl
          have replaced := replacedActive found (c.take ⟨l,t,.ok next⟩)
          have ends : (p.log ++ Custody.does i l).countP Entry.ends = p.ends + l.countP Event.ends := by
            rw [List.countP_append,doesEnd,Process.ends]
          simp only [Process.take,ServedClient.take,Process.served,Process.ends] at now replaced ends ⊢
          rw [ends]
          omega
      · exact counted
  · exact counted

theorem Process.Counted.runs {p : Process σ} (counted : p.Counted) (app : Application σ) (moves : List (ProcessMove σ)) :
    (p.run app moves).Counted := by
  induction moves generalizing p with
  | nil => exact counted
  | cons m moves ih => exact ih (counted.steps app m)

theorem connectionsCounted (app : Application σ) {p : Process σ} (fresh : p.Fresh) (moves : List (ProcessMove σ))
    (running : (p.run app moves).ended = none) :
    (p.run app moves).connectionsCounter = (p.run app moves).served - (p.run app moves).ends := by
  have start : p.Counted := by
    intro _
    rw [fresh.counter,Process.served,Process.ends,fresh.clients,fresh.log]
    rfl
  exact start.runs app moves running

end Counting

section Scenario

def Process.listening : Process Unit := ⟨.new .zero,[.descriptor 0,.descriptor 1,.descriptor 2,.descriptor 3,.descriptor 4],
  [],0,[],none⟩

theorem listeningFresh : Process.listening.Fresh := ⟨rfl,rfl,rfl,rfl,List.mem_cons_self⟩

def Arriving.usual (clientSock : Int) (ssl : Nat) : Arriving Unit := ⟨clientSock,ssl,1,[],⟨[],[],[],[],0⟩,(),0,0⟩

/- One client over TCP, whose header is refused, and one over TLS, of which the application asks to disconnect. It still
sends to the first, which writes to descriptor 0; the first one's own descriptor goes to a third client. -/
def listeningMoves : List (ProcessMove Unit) :=
  [.listens false {Arriving.usual 5 0 with inbox := refusedInbox},.listens true (.usual 6 1),.turn 1 .timer,
    .turn 1 (.call .triggerDisconnection)] ++
    List.replicate 7 (.turn 0 (.client ⟨.negativeAck,0,0⟩)) ++
    [.turn 0 (.call (.sendNegativeAck 0x00)),.turn 0 (.client ⟨.negativeAck,0,0⟩),.listens false (.usual 5 0)]

theorem listeningRuns : (Process.listening.run (.answering true) listeningMoves).ended = none := rfl

theorem nothingLeakedListening : ∃ c, (Process.listening.run (.answering true) listeningMoves).clients[1]? = some c ∧
    c.phase ≠ .finished :=
  nothingLeaked (.answering true) listeningFresh listeningMoves listeningRuns (.object 1) 1 rfl

theorem connectionsCountedListening : (Process.listening.run (.answering true) listeningMoves).connectionsCounter =
    (Process.listening.run (.answering true) listeningMoves).served -
      (Process.listening.run (.answering true) listeningMoves).ends :=
  connectionsCounted (.answering true) listeningFresh listeningMoves listeningRuns

end Scenario
end LibDoip
