import LibDoip.Process

/-! The clients of the example server, all in one process. Each one, over TCP or TLS, is told what the machine tells a
client that is alone, whatever the listeners and the threads of the other clients do in between. -/
namespace LibDoip
open Library ExampleServer
variable {σ : Type}

def ServedClient.answers (c : ServedClient σ) : List UInt8 :=
  tells c.accepted.logicalGatewayAddress (requests (Inbox.stream c.arrivals))

def Event.content : Event → List UInt8
  | .write _ message | .sslWrite _ message => message
  | _ => []

/- What is handed to `write` and `SSL_write` on the descriptor and the TLS object of a client while these are its own,
by whichever thread. -/
def Process.told (p : Process σ) (i : Nat) : List UInt8 := Custody.delivered (@handles σ) Event.content i [] p.log

def Process.written (p : Process σ) (i : Nat) (c : ServedClient σ) : List UInt8 :=
  writtenOn c.accepted (Custody.doneBy i p.log)

def ProcessMove.Unprompted : ProcessMove σ → Prop
  | .turn _ (.call _) => False
  | _ => True

instance (m : ProcessMove σ) : Decidable m.Unprompted := by unfold ProcessMove.Unprompted; split <;> infer_instance

structure AttendedTo (told : List UInt8) (c : ServedClient Unit) (thread : Thread) (done held : List UInt8)
    (rs : List Request) : Prop where
  phase : c.phase = .serving thread
  attending : Attending c.accepted rs held thread c.state
  stream : Inbox.stream c.arrivals = done ++ held ++ Inbox.stream thread.inbox
  whole : ∀ rest, requests (done ++ rest) = rs ++ requests rest
  told : told = tells c.accepted.logicalGatewayAddress rs

structure ToldAll (told : List UInt8) (c : ServedClient Unit) (thread : Thread) : Prop where
  phase : c.phase = .serving thread
  failing : Failing c.accepted thread c.state
  told : told = c.answers

structure Dismissed (told : List UInt8) (running : Prop) (c : ServedClient Unit) : Prop where
  silent : running → c.state.connection.clientSock = 0 ∧ c.state.connection.ssl = none
  beginning : told <+: c.answers
  all : c.state.connection.aliveCheckTimer.timeout = false → told = c.answers

inductive InService (told : List UInt8) (running : Prop) (c : ServedClient Unit) : Prop where
  | attended {thread : Thread} {done held : List UInt8} {rs : List Request}
      (attended : AttendedTo told c thread done held rs) : InService told running c
  | toldAll {thread : Thread} (toldAll : ToldAll told c thread) : InService told running c
  | dismissed (dismissed : Dismissed told running c) : InService told running c

theorem InService.still {told : List UInt8} {running running' : Prop} {c : ServedClient Unit}
    (service : InService told running c) (only : running' → running) : InService told running' c := by
  cases service with
  | attended attended => exact .attended attended
  | toldAll toldAll => exact .toldAll toldAll
  | dismissed dismissed => exact .dismissed {dismissed with silent := fun now => dismissed.silent (only now)}

section Client
variable {told : List UInt8} {c : ServedClient Unit} {thread : Thread} {done held : List UInt8} {rs : List Request}

theorem AttendedTo.asks (attended : AttendedTo told c thread done held rs) :
    requests (Inbox.stream c.arrivals) = rs ++ requests (held ++ Inbox.stream thread.inbox) := by
  rw [attended.stream,List.append_assoc,attended.whole]

theorem AttendedTo.turned (attended : AttendedTo told c thread done held rs)
    {o : Outcome Fault Event (State Unit) Phase} {ended : Prop}
    (turned : AttendedTurn c.accepted rs held thread ended o) (gone : ended → thread.Ended) :
    InService (told ++ writtenOn c.accepted o.log) (o.fault = none) (c.take o) := by
  have more : ∀ {request l}, Answering c.accepted rs held request l →
      told ++ writtenOn c.accepted l = tells c.accepted.logicalGatewayAddress (rs ++ [request]) := by
    intro request l answering
    rw [attended.told,answering.tells]
  have nothing : ended → told = (c.take o).answers := by
    intro all
    show _ = tells c.accepted.logicalGatewayAddress (requests (Inbox.stream c.arrivals))
    rw [attended.told,attended.asks,endedRequests attended.attending.holding (gone all),List.append_nil]
  cases turned with
  | @moves l t next held' now kept clean quiet =>
    refine @InService.attended _ _ _ next done held' rs ⟨rfl,now,?_,attended.whole,?_⟩
    · rw [List.append_assoc,kept,← List.append_assoc]
      exact attended.stream
    · rw [quiet,List.append_nil]
      exact attended.told
  | @answers l t request answering now =>
    refine @InService.attended _ _ _ ⟨.idle,thread.inbox⟩ (done ++ held) [] (rs ++ [request])
      ⟨rfl,now,?_,fun rest => ?_,more answering⟩
    · rw [List.append_nil]
      exact attended.stream
    · rw [List.append_assoc,attended.whole,answering.cut,List.append_assoc,List.singleton_append]
  | @last _ request answering silent finished =>
    have asks : requests (Inbox.stream c.arrivals) = (rs ++ [request]) ++ requests (Inbox.stream thread.inbox) := by
      rw [attended.asks,answering.cut,List.append_assoc,List.singleton_append]
    have all : told ++ writtenOn c.accepted o.log = (c.take o).answers := by
      show _ = tells c.accepted.logicalGatewayAddress (requests (Inbox.stream c.arrivals))
      rw [more answering,asks,overTells finished]
    exact .dismissed ⟨silent,all ▸ List.prefix_refl _,fun _ => all⟩
  | @fails l t next all failing quiet =>
    refine @InService.toldAll _ _ _ next ⟨rfl,failing,?_⟩
    rw [quiet,List.append_nil]
    exact nothing all
  | stops quiet silent reason =>
    rw [quiet,List.append_nil]
    have beginning : told <+: (c.take o).answers := by
      show _ <+: tells c.accepted.logicalGatewayAddress (requests (Inbox.stream c.arrivals))
      rw [attended.told,attended.asks]
      exact tellsPrefix _ rs _
    refine .dismissed ⟨silent,beginning,fun running => ?_⟩
    rcases reason with all | fired
    · exact nothing all
    · exact absurd (running.symm.trans fired) Bool.false_ne_true

theorem ToldAll.turned (toldAll : ToldAll told c thread) {o : Outcome Fault Event (State Unit) Phase}
    (turned : FailingTurn c.accepted thread o) :
    InService (told ++ writtenOn c.accepted o.log) (o.fault = none) (c.take o) := by
  have all : told = (c.take o).answers := toldAll.told
  cases turned with
  | @waits l t failing quiet =>
    refine @InService.toldAll _ _ _ thread ⟨rfl,failing,?_⟩
    rw [quiet,List.append_nil]
    exact all
  | stops quiet silent =>
    rw [quiet,List.append_nil]
    exact .dismissed ⟨silent,all ▸ List.prefix_refl _,fun _ => all⟩

theorem Dismissed.turned (dismissed : Dismissed told True c) (nonzero : c.accepted.clientSock ≠ 0) (turn : Turn) :
    let o := handleClient application turn c.phase c.state
    InService (told ++ writtenOn c.accepted o.log) (o.fault = none) (c.take o) := by
  have muted := turnMute application turn c.phase c.state
  unfold Program.At at muted
  generalize handleClient application turn c.phase c.state = o at muted
  obtain ⟨closed,plain⟩ := dismissed.silent trivial
  obtain ⟨closed',plain',_⟩ := muted.silent closed plain
  have quiet := muted.quiet nonzero closed plain
  dsimp only
  rw [quiet,List.append_nil]
  refine .dismissed ⟨fun _ => ⟨closed',plain'⟩,dismissed.beginning,fun running => dismissed.all ?_⟩
  refine Bool.eq_false_iff.mpr (fun fired => ?_)
  exact absurd (running.symm.trans (muted.timeout fired)) Bool.false_ne_true

theorem InService.turned (service : InService told True c) (nonzero : c.accepted.clientSock ≠ 0) {turn : Turn} {i : Nat}
    (unprompted : (ProcessMove.turn i turn : ProcessMove Unit).Unprompted) :
    let o := handleClient application turn c.phase c.state
    InService (told ++ writtenOn c.accepted o.log) (o.fault = none) (c.take o) := by
  cases service with
  | dismissed dismissed => exact dismissed.turned nonzero turn
  | attended attended =>
    dsimp only
    rw [attended.phase]
    cases turn with
    | client uninit => exact attended.turned (clientTurn attended.attending nonzero uninit) id
    | timer => exact attended.turned (timerTurn attended.attending) False.elim
    | call call => exact unprompted.elim
  | toldAll toldAll =>
    dsimp only
    rw [toldAll.phase]
    cases turn with
    | client uninit => exact toldAll.turned (toldAll.failing.client nonzero uninit)
    | timer => exact toldAll.turned toldAll.failing.timer
    | call call => exact unprompted.elim

end Client

/- What the transport of this client takes: over TLS no payload of 2 GiB or more. -/
def ServedClient.Readable (c : ServedClient σ) : Prop := AllReadable c.accepted.ssl (Inbox.stream c.arrivals)

structure Process.Serving (p : Process Unit) : Prop where
  kept : p.Kept
  nonzero : ∀ c ∈ p.clients, c.accepted.clientSock ≠ 0
  clients : ∀ (i : Nat) c, p.clients[i]? = some c → c.Readable → InService (p.written i c) (p.ended = none) c
  later : ∀ i, p.clients.length ≤ i → Custody.doneBy i p.log = []

theorem Process.Fresh.serving {p : Process Unit} (fresh : p.Fresh) : p.Serving := by
  refine ⟨fresh.kept,?_,?_,fun i _ => ?_⟩
  · rw [fresh.clients]
    exact fun _ member => absurd member List.not_mem_nil
  · rw [fresh.clients]
    exact fun _ _ none => absurd none.symm (Option.some_ne_none _)
  · rw [fresh.log]
    rfl

section Steps
variable {p : Process Unit}

theorem newAttended {isTls : Bool} {a : Arriving Unit} {connection : DoIPConnection} (made : Made p isTls a connection)
    (nonzero : connection.clientSock ≠ 0) (readable : (ServedClient.new connection a).Readable) :
    AttendedTo [] (.new connection a) ⟨.idle,a.inbox⟩ [] [] [] := by
  have settled : Settled (ServedClient.new connection a).state := by
    refine ⟨fun closed => absurd closed nonzero,fun fired => ?_⟩
    exact absurd (made.running.symm.trans fired) Bool.false_ne_true
  have session : (ServedClient.new connection a).state.session = .unrouted := by
    have unrouted : (ServedClient.new connection a).state.connection.routedClientAddress = none := made.unrouted
    rw [openSession (s := (ServedClient.new connection a).state) nonzero,unrouted]
  exact ⟨rfl,⟨⟨rfl,rfl,rfl⟩,settled,.idle,readable,session⟩,rfl,fun _ => rfl,rfl⟩

theorem Process.Serving.listens (serving : p.Serving) {isTls : Bool} {a : Arriving Unit} (gives : p.Gives isTls a) :
    (p.listenTcpOrTls isTls a).Serving := by
  have kept := serving.kept.listens gives
  rw [Process.listenTcpOrTls] at kept ⊢
  cases found : p.waitForConnection isTls a with
  | error text =>
    rw [found] at kept
    refine ⟨kept,serving.nonzero,fun i c at' readable => ?_,serving.later⟩
    exact (serving.clients i c at' readable).still (fun running => absurd running (Option.some_ne_none _))
  | ok connection =>
    rw [found] at kept
    have made := waitForConnectionMakes found
    have nonzero : connection.clientSock ≠ 0 := by
      intro zero
      have descriptor := (gives.1 made.accepted).1
      rw [← made.sock,zero] at descriptor
      exact descriptor serving.kept.reserved
    have quiet : ∀ i, Custody.doneBy i (p.log ++ Custody.grants p.clients.length (Process.given isTls a)) =
        Custody.doneBy i p.log := fun i => Custody.doneByGrants i _ _ _
    refine ⟨kept,fun c member => ?_,fun i c at' readable => ?_,fun i beyond => ?_⟩
    · rcases List.mem_append.mp member with before | new
      · exact serving.nonzero c before
      · cases List.mem_singleton.mp new
        exact nonzero
    · dsimp only [Process.written]
      rw [quiet]
      rcases Nat.lt_or_ge i p.clients.length with before | new
      · rw [List.getElem?_append_left before] at at'
        exact serving.clients i c at' readable
      · rw [List.getElem?_append_right new] at at'
        obtain ⟨_,same⟩ := List.getElem?_eq_some_iff.mp at'
        have own : .new connection a = c := (List.getElem_singleton _).symm.trans same
        subst own
        rw [serving.later i new]
        exact .attended (newAttended made nonzero readable)
    · rw [quiet]
      refine serving.later i ?_
      rw [List.length_append] at beyond
      omega

theorem Process.Serving.takes (serving : p.Serving) (running : p.ended = none) {i : Nat} {c : ServedClient Unit}
    (found : p.clients[i]? = some c) {turn : Turn}
    (unprompted : (ProcessMove.turn i turn : ProcessMove Unit).Unprompted) :
    (p.take i c (handleClient application turn c.phase c.state)).Serving := by
  have kept := @Process.Kept.takes _ p application turn c i serving.kept running found
  have inside : i < p.clients.length := (List.getElem?_eq_some_iff.mp found).1
  have nonzero := serving.nonzero c (List.mem_of_getElem? found)
  have turned := fun readable => (serving.clients i c found readable).still (fun _ => running) |>.turned nonzero unprompted
  generalize handleClient application turn c.phase c.state = o at kept turned
  refine ⟨kept,fun d member => ?_,fun j d at' readable => ?_,fun j beyond => ?_⟩
  · rcases List.mem_or_eq_of_mem_set member with other | rfl
    · exact serving.nonzero d other
    · exact nonzero
  · by_cases own : i = j
    · subst own
      cases (List.getElem?_set_self inside).symm.trans at'
      dsimp only [Process.written,Process.take]
      rw [Custody.doneByOwn,writtenAppend]
      refine (turned readable).still (fun ended => ?_)
      cases faulted : o.fault with
      | none => rfl
      | some f => rw [faulted] at ended; cases ended
    · have at'' : p.clients[j]? = some d := (List.getElem?_set_ne own).symm.trans at'
      dsimp only [Process.written,Process.take]
      rw [Custody.doneByOther own]
      exact (serving.clients j d at'' readable).still (fun _ => running)
  · have past : p.clients.length ≤ j := by simpa [Process.take] using beyond
    dsimp only [Process.take]
    rw [Custody.doneByOther (Nat.ne_of_lt (Nat.lt_of_lt_of_le inside past))]
    exact serving.later j past

theorem Process.Serving.steps (serving : p.Serving) {m : ProcessMove Unit} (unprompted : m.Unprompted) :
    (p.step application m).Serving := by
  unfold Process.step
  split
  · rename_i running
    cases m with
    | sets setting =>
      have kept : Process.Kept {p with server := p.server.set setting} :=
        ⟨serving.kept.proper,serving.kept.holders,serving.kept.reserved,serving.kept.granted,serving.kept.released⟩
      exact ⟨kept,serving.nonzero,serving.clients,serving.later⟩
    | listens isTls arriving =>
      dsimp only
      split
      · rename_i gives
        exact serving.listens gives
      · exact serving
    | turn i turn =>
      dsimp only
      split
      · rename_i c found
        exact serving.takes running found unprompted
      · exact serving
  · exact serving

theorem Process.Serving.runs (serving : p.Serving) {moves : List (ProcessMove Unit)}
    (unprompted : ∀ m ∈ moves, m.Unprompted) : (p.run application moves).Serving := by
  induction moves generalizing p with
  | nil => exact serving
  | cons m moves ih =>
    obtain ⟨first,later⟩ := List.forall_mem_cons.mp unprompted
    exact ih (serving.steps first) later

end Steps

theorem Process.Serving.told {p : Process Unit} (serving : p.Serving) {i : Nat} {c : ServedClient Unit}
    (found : p.clients[i]? = some c) : p.told i = p.written i c := by
  refine Custody.deliveredOwn serving.kept.proper (fun e h uses granted => ?_) (fun e h uses common => ?_) (fun e unused => ?_)
  · obtain ⟨_,d,there,own⟩ := serving.kept.granted i h granted
    cases found.symm.trans there
    cases e with
    | write used message =>
      cases uses
      exact if_pos own.2.symm
    | sslWrite used message =>
      cases uses
      exact if_pos own
    | _ => rfl
  · cases e with
    | write used message =>
      have zero : used = 0 := Handle.descriptor.inj ((Option.some.inj uses).trans common)
      have nonzero := serving.nonzero c (List.mem_of_getElem? found)
      exact if_neg (fun same => nonzero (same.symm.trans zero))
    | sslWrite used message => cases (Option.some.inj uses).trans common
    | _ => rfl
  · cases e <;> first | rfl | contradiction

end LibDoip
