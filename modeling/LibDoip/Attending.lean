import LibDoip.Dialogue

/-! One turn of the threads of a connection that the example server attends to. What has been answered, what the thread
holds and what is still to come change together, or the connection comes to its end. -/
namespace LibDoip
open Library ExampleServer
variable {σ : Type}

def tells (gateway : UInt16) (rs : List Request) : List UInt8 :=
  (server.transcript .unrouted rs).flatMap (Answer.bytes gateway)

theorem tellsPrefix (gateway : UInt16) (rs later : List Request) : tells gateway rs <+: tells gateway (rs ++ later) := by
  obtain ⟨rest,more⟩ := server.transcriptPrefix .unrouted (List.prefix_append rs later)
  exact ⟨_,by rw [tells,tells,← more,List.flatMap_append]⟩

/- What is handed to `write` on the descriptor of a connection, or to `SSL_write` on its TLS object, whatever these
return: `sendMessage` tries once. -/
def Event.writtenOn (c : DoIPConnection) : Event → List UInt8
  | .write used message => if used = c.clientSock then message else []
  | .sslWrite used message => if c.ssl = some used then message else []
  | _ => []

def writtenOn (c : DoIPConnection) (l : List Event) : List UInt8 := l.flatMap (Event.writtenOn c)

section Written
variable (c : DoIPConnection)

theorem writtenPlain {c : DoIPConnection} (plain : c.ssl = none) (l : List Event) :
    writtenOn c l = writtenTo c.clientSock l := by
  have same : Event.writtenOn c = Event.writtenTo c.clientSock := by
    funext e
    cases e with
    | write used message => rfl
    | sslWrite used message => simp only [Event.writtenOn,Event.writtenTo,plain,reduceCtorEq,if_false]
    | _ => rfl
  rw [writtenOn,same,writtenTo]

theorem writtenAppend (l m : List Event) : writtenOn c (l ++ m) = writtenOn c l ++ writtenOn c m :=
  List.flatMap_append

theorem writtenNone {l : List Event} (unsent : l.filterMap Event.sent = []) : writtenOn c l = [] := by
  refine List.flatMap_eq_nil_iff.mpr (fun e member => ?_)
  have silent := List.filterMap_eq_nil_iff.mp unsent e member
  cases e <;> first | rfl | contradiction

theorem writtenSends (l : List Event) : writtenOn c (sends l) = writtenOn c l := by
  induction l with
  | nil => rfl
  | cons e rest ih =>
    have first : writtenOn c (sends [e]) = writtenOn c [e] := by cases e <;> rfl
    rw [← List.singleton_append,sendsAppend,writtenAppend,writtenAppend,first,ih]

theorem writtenAnswers (answers : List Answer) :
    writtenOn c (sentOn c answers) = answers.flatMap (Answer.bytes c.logicalGatewayAddress) := by
  induction answers with
  | nil => rfl
  | cons a rest ih =>
    have first : Event.writtenOn c (sendEvent c (a.bytes c.logicalGatewayAddress)) = a.bytes c.logicalGatewayAddress := by
      rw [sendEvent]
      cases tls : c.ssl with
      | none => exact if_pos rfl
      | some ssl => exact if_pos tls
    rw [writtenOn,sentOn,List.map_cons,List.flatMap_cons,first,List.flatMap_cons]
    exact congrArg _ ih

end Written

def Event.Lost : Event → Prop
  | .write fd _ => fd = 0
  | .sslWrite _ _ => False
  | _ => True

/- A closed connection writes to nothing but descriptor 0, and a timer that has fired stays so. -/
structure Mute (s : State σ) (l : List Event) (t : State σ) (_ : Option Fault) : Prop where
  silent : s.connection.clientSock = 0 → s.connection.ssl = none →
    t.connection.clientSock = 0 ∧ t.connection.ssl = none ∧ ∀ e ∈ l, e.Lost
  timeout : s.connection.aliveCheckTimer.timeout = true → t.connection.aliveCheckTimer.timeout = true

theorem unwrittenMute {s t : State σ} {l : List Event} {f : Option Fault} (unsent : ∀ e ∈ l, e.sent = none)
    (sock : t.connection.clientSock = s.connection.clientSock) (ssl : t.connection.ssl = s.connection.ssl)
    (timeout : s.connection.aliveCheckTimer.timeout = true → t.connection.aliveCheckTimer.timeout = true) : Mute s l t f := by
  refine ⟨fun closed plain => ⟨sock.trans closed,ssl.trans plain,fun e member => ?_⟩,timeout⟩
  have silent := unsent e member
  cases e with
  | write | sslWrite => cases silent
  | _ => trivial

theorem mute : ConnectionRules (@Mute σ) where
  composable := by
    refine ⟨fun s => unwrittenMute (List.forall_mem_nil _) rfl rfl id,?_⟩
    intro s l t m u f first second
    refine ⟨fun closed plain => ?_,fun fired => second.timeout (first.timeout fired)⟩
    obtain ⟨closed',plain',before⟩ := first.silent closed plain
    obtain ⟨closed'',plain'',after⟩ := second.silent closed' plain'
    exact ⟨closed'',plain'',List.forall_mem_append.mpr ⟨before,after⟩⟩
  stopped := unwrittenMute (List.forall_mem_nil _) rfl rfl id
  inward {s e} inward := unwrittenMute (List.forall_mem_singleton.mpr (by cases e <;> first | rfl | exact inward.elim)) rfl rfl id
  asked := unwrittenMute (List.forall_mem_nil _) rfl rfl id
  applied := unwrittenMute (List.forall_mem_nil _) rfl rfl id
  timed {s f} retimes := unwrittenMute (List.forall_mem_nil _) rfl rfl (fun fired => (retimes.timeout _).trans fired)
  routed := unwrittenMute (List.forall_mem_nil _) rfl rfl id
  sent {s bytes o} _ sends := by
    obtain ⟨errors⟩ := sends
    refine ⟨fun closed plain => ⟨closed,plain,fun e member => ?_⟩,id⟩
    rw [sendEvent,plain] at member
    rcases List.mem_cons.mp member with rfl | later
    · exact closed
    · obtain ⟨_,_,rfl,_⟩ := errors _ later
      trivial
  read {s l t} reading := by
    cases reading with
    | reads events =>
      refine unwrittenMute (fun e member => ?_) rfl rfl id
      obtain ⟨n,rfl⟩ := events e member
      unfold readEvent
      split <;> rfl
    | failed _ tls handled =>
      refine ⟨fun _ plain => ?_,fun fired => by rw [handled.timer]; exact fired⟩
      rw [plain] at tls
      contradiction
  closed {s l t} ran := by
    refine ⟨fun closed plain => ?_,fun fired => by rw [closeSocketTimer ran]; exact fired⟩
    cases ran.symm.trans (closeInactive false closed)
    exact ⟨closed,plain,List.forall_mem_nil _⟩
  expired {s l t now} ran := by
    refine ⟨fun closed plain => ?_,fun _ => by rw [closeSocketTimer ran]; rfl⟩
    cases ran.symm.trans (@closeInactive σ (s.setTimer (·.expire)) false closed)
    exact ⟨closed,plain,by simp [Event.Lost]⟩
  unbound := unwrittenMute (List.forall_mem_singleton.mpr rfl) rfl rfl (fun _ => rfl)
  triggered := unwrittenMute (List.forall_mem_cons.mpr ⟨rfl,List.forall_mem_singleton.mpr rfl⟩) rfl rfl id

theorem Mute.quiet {s t : State σ} {l : List Event} {f : Option Fault} (muted : Mute s l t f) {c : DoIPConnection}
    (nonzero : c.clientSock ≠ 0) (closed : s.connection.clientSock = 0) (plain : s.connection.ssl = none) :
    writtenOn c l = [] := by
  obtain ⟨_,_,lost⟩ := muted.silent closed plain
  refine List.flatMap_eq_nil_iff.mpr (fun e member => ?_)
  have nowhere := lost e member
  cases e with
  | write used message => exact if_neg (fun same => nonzero (same.symm.trans nowhere))
  | sslWrite used message => exact nowhere.elim
  | _ => rfl

theorem turnMeets {R : State σ → List Event → State σ → Option Fault → Prop} (rules : ConnectionRules R)
    (notified : ∀ s, R s [.closeConnection] s none) (app : Application σ) (turn : Turn) (phase : Phase) :
    Program.Meets R (LibDoip.handleClient app turn phase) := by
  have advances : ∀ uninit thread, Program.Meets R (do
      let thread ← advance app uninit thread
      pure (.serving thread) : Doip σ Phase) := fun uninit thread =>
    Program.meetsBind rules.composable (rules.advanceMeets app uninit thread) (fun _ =>
      Program.meetsPure rules.composable _)
  cases turn with
  | client uninit =>
    cases phase with
    | serving thread =>
      obtain ⟨position,inbox⟩ := thread
      cases position with
      | idle =>
        intro s
        rw [LibDoip.handleClient,Program.At,Program.bindApply,connectionApply,Outcome.andThenOk,Outcome.prependNil]
        split
        · exact advances uninit ⟨.idle,inbox⟩ s
        · exact notified s
      | _ => exact advances uninit _
    | finished =>
      exact Program.meetsBind rules.composable (rules.setTimerMeets ⟨fun _ => rfl,fun _ _ => rfl⟩) (fun _ =>
        Program.meetsPure rules.composable _)
  | timer =>
    exact Program.meetsBind rules.composable rules.waitForResponseMeets (fun _ => Program.meetsPure rules.composable _)
  | call call =>
    cases phase with
    | serving thread =>
      exact Program.meetsBind rules.composable (rules.performMeets call) (fun _ => Program.meetsPure rules.composable _)
    | finished => exact Program.meetsPure rules.composable _

theorem turnMute (app : Application σ) (turn : Turn) (phase : Phase) :
    Program.Meets Mute (LibDoip.handleClient app turn phase) :=
  turnMeets mute (fun _ => unwrittenMute (List.forall_mem_singleton.mpr rfl) rfl rfl id) app turn phase

theorem endedRequests {tls : Option Nat} {thread : Thread} {held : List UInt8} (holding : Holding tls thread.position held)
    (ended : thread.Ended) : requests (held ++ Inbox.stream thread.inbox) = [] := by
  obtain ⟨position,inbox⟩ := thread
  dsimp only at holding
  cases holding with
  | @blocked part front bytes data pos remaining called begun filling remains more same =>
    have none : Inbox.stream inbox = [] := ended
    have length := filling.length
    dsimp only
    rw [none,List.append_nil]
    cases begun with
    | header =>
      have short : bytes.length < 8 := by
        have size : pos + remaining = 8 := remains
        omega
      exact requestsNone (splitFrameTruncated (splitHeaderTruncated noAction short))
    | payload uninit b0 b1 b2 b3 b4 b5 b6 b7 some =>
      have header : splitHeader uninit ([b0,b1,b2,b3,b4,b5,b6,b7] ++ bytes) =
          .some (classify uninit b0 b1 b2 b3 b4 b5 b6 b7,bytes) := rfl
      have size : pos + remaining = (classify uninit b0 b1 b2 b3 b4 b5 b6 b7).payloadLength.toNat := remains
      exact requestsNone (splitFrameShort header (by omega))
  | _ => exact ended.elim

def Over (rs : List Request) : Prop := server.after .unrouted rs = .closed ∨ server.after .unrouted rs = .crashed

theorem overAppend {rs : List Request} (ended : Over rs) (later : List Request) : Over (rs ++ later) := by
  rw [Over,server.afterAppend]
  rcases ended with closed | crashed
  · exact Or.inl (by rw [closed]; exact closedEnded.after later)
  · exact Or.inr (by rw [crashed]; exact crashedEnded.after later)

theorem overTells {rs : List Request} (ended : Over rs) (gateway : UInt16) (later : List Request) :
    tells gateway (rs ++ later) = tells gateway rs := by
  have silent : server.transcript (server.after .unrouted rs) later = [] := by
    rcases ended with closed | crashed
    · rw [closed]
      exact closedEnded.transcript later
    · rw [crashed]
      exact crashedEnded.transcript later
  rw [tells,tells,Transducer.transcriptAppend,silent,List.append_nil]

theorem turnAdvances (app : Application σ) (uninit : GenericHeaderAction) (thread : Thread) {s : State σ}
    (active : thread.position = .idle → isSocketActive s.connection) :
    LibDoip.handleClient app (.client uninit) (.serving thread) s =
      (advance app uninit thread s).andThen (fun next => pure (.serving next)) := by
  obtain ⟨position,inbox⟩ := thread
  cases position with
  | idle =>
    rw [LibDoip.handleClient,Program.bindApply,connectionApply,Outcome.andThenOk,Outcome.prependNil,if_pos (active rfl)]
    rfl
  | _ => rfl

theorem reactShuts (frame : Frame) (s : State σ) :
    Shuts s (react application frame.action frame.payload s).state (react application frame.action frame.payload s).fault := by
  obtain ⟨o,reacted,reaction⟩ := arrivedReacts application (.frame frame) frame.rules.bound s
  have same : react application frame.action frame.payload s = o.prepend [.received frame.action frame.pointer] := reacted
  rw [same]
  exact reaction.shuts

structure Attending (c : DoIPConnection) (rs : List Request) (held : List UInt8) (thread : Thread) (s : State Unit) :
    Prop where
  channel : SameChannel c s.connection
  settled : Settled s
  holding : Holding c.ssl thread.position held
  readable : AllReadable c.ssl (held ++ Inbox.stream thread.inbox)
  session : s.session = server.after .unrouted rs

structure Failing (c : DoIPConnection) (thread : Thread) (s : State Unit) : Prop where
  channel : SameChannel c s.connection
  settled : Settled s
  failed : thread.position.Failed

structure Answering (c : DoIPConnection) (rs : List Request) (held : List UInt8) (request : Request) (l : List Event) :
    Prop where
  cut : ∀ rest, requests (held ++ rest) = request::requests rest
  written : writtenOn c l = (server.answer (server.after .unrouted rs) request).flatMap (Answer.bytes c.logicalGatewayAddress)

theorem Answering.tells {c : DoIPConnection} {rs : List Request} {held : List UInt8} {request : Request} {l : List Event}
    (answering : Answering c rs held request l) : LibDoip.tells c.logicalGatewayAddress rs ++ writtenOn c l =
      LibDoip.tells c.logicalGatewayAddress (rs ++ [request]) := by
  rw [answering.written,LibDoip.tells,LibDoip.tells,Transducer.transcriptAppend,List.flatMap_append]
  simp

def Muted {α : Type} (o : Outcome Fault Event (State Unit) α) : Prop :=
  o.fault = none → o.state.connection.clientSock = 0 ∧ o.state.connection.ssl = none

/- One turn of either thread of a connection that is attended to; `ended` is what must hold if it finds that the stream
has ended. -/
inductive AttendedTurn (c : DoIPConnection) (rs : List Request) (held : List UInt8) (thread : Thread) (ended : Prop) :
    Outcome Fault Event (State Unit) Phase → Prop where
  | moves {l : List Event} {t : State Unit} {next : Thread} {held' : List UInt8}
      (attending : Attending c rs held' next t)
      (kept : held' ++ Inbox.stream next.inbox = held ++ Inbox.stream thread.inbox)
      (clean : Clean thread.inbox → Clean next.inbox) (quiet : writtenOn c l = []) :
      AttendedTurn c rs held thread ended ⟨l,t,.ok (.serving next)⟩
  | answers {l : List Event} {t : State Unit} {request : Request} (answering : Answering c rs held request l)
      (attending : Attending c (rs ++ [request]) [] ⟨.idle,thread.inbox⟩ t) :
      AttendedTurn c rs held thread ended ⟨l,t,.ok (.serving ⟨.idle,thread.inbox⟩)⟩
  | last {o : Outcome Fault Event (State Unit) Phase} {request : Request}
      (answering : Answering c rs held request o.log) (silent : Muted o) (finished : Over (rs ++ [request])) :
      AttendedTurn c rs held thread ended o
  | fails {l : List Event} {t : State Unit} {next : Thread} (all : ended) (failing : Failing c next t)
      (quiet : writtenOn c l = []) : AttendedTurn c rs held thread ended ⟨l,t,.ok (.serving next)⟩
  | stops {o : Outcome Fault Event (State Unit) Phase} (quiet : writtenOn c o.log = []) (silent : Muted o)
      (reason : ended ∨ o.state.connection.aliveCheckTimer.timeout = true) : AttendedTurn c rs held thread ended o

inductive FailingTurn (c : DoIPConnection) (thread : Thread) : Outcome Fault Event (State Unit) Phase → Prop where
  | waits {l : List Event} {t : State Unit} (failing : Failing c thread t) (quiet : writtenOn c l = []) :
      FailingTurn c thread ⟨l,t,.ok (.serving thread)⟩
  | stops {o : Outcome Fault Event (State Unit) Phase} (quiet : writtenOn c o.log = []) (silent : Muted o) :
      FailingTurn c thread o

inductive Round (c : DoIPConnection) (s : State Unit) : Outcome Fault Event (State Unit) Unit → Prop where
  | waits {t : State Unit} (channel : SameChannel c t.connection) (settled : Settled t) (session : t.session = s.session) :
      Round c s ⟨[],t,.ok ()⟩
  | stops {o : Outcome Fault Event (State Unit) Unit} (quiet : writtenOn c o.log = []) (silent : Muted o)
      (fired : o.state.connection.aliveCheckTimer.timeout = true) : Round c s o

section Turns
variable {c : DoIPConnection} {rs : List Request} {held : List UInt8} {thread : Thread} {s : State Unit}

theorem openChannel (channel : SameChannel c s.connection) (nonzero : c.clientSock ≠ 0) : isSocketActive s.connection :=
  fun closed => nonzero (channel.sock.symm.trans closed)

theorem Attending.answered {frame : Frame} {inbox : List Arrival} {ended : Prop}
    (attending : Attending c rs held ⟨.dispatching frame.action frame.pointer,inbox⟩ s) (nonzero : c.clientSock ≠ 0)
    (whole : WholeFrame frame held) :
    AttendedTurn c rs held ⟨.dispatching frame.action frame.pointer,inbox⟩ ended
      ((react application frame.action frame.payload s).andThen (fun _ => pure (.serving ⟨.idle,inbox⟩))) := by
  have channel := attending.channel
  have active := openChannel channel nonzero
  have replies := frameReplies frame active
  have shuts := reactShuts frame s
  generalize react application frame.action frame.payload s = o at replies shuts
  obtain ⟨uninit,split⟩ := whole
  have session := replies.session
  rw [attending.session,← Transducer.afterNil server (server.next _ _),← Transducer.afterCons,← Transducer.afterAppend] at session
  have written : writtenOn c o.log =
      (server.answer (server.after .unrouted rs) frame.request).flatMap (Answer.bytes c.logicalGatewayAddress) := by
    rw [← writtenSends,replies.sends,channel.sentOn,writtenAnswers,attending.session]
  have answering : Answering c rs held frame.request o.log := ⟨fun rest => requestsCut (split rest),written⟩
  obtain ⟨l,t,r⟩ := o
  cases r with
  | error e => exact .last answering (fun fine => absurd fine (Option.some_ne_none e)) (Or.inr session.symm)
  | ok v =>
    rw [Outcome.andThenOk,Program.pureApply,Outcome.prependMk,List.append_nil]
    have settled := shuts.settled rfl attending.settled
    by_cases still : isSocketActive t.connection
    · refine .answers answering ⟨channel.trans (replies.channel still),settled,.idle,fun n member => ?_,session⟩
      exact attending.readable n (by rw [declaredCut (split _)]; exact List.mem_cons_of_mem _ member)
    · have closed := Decidable.not_not.mp still
      exact .last answering (fun _ => ⟨closed,settled.closed closed⟩)
        (Or.inl (session.symm.trans (closedSession closed)))

theorem clientTurn (attending : Attending c rs held thread s) (nonzero : c.clientSock ≠ 0) (uninit : GenericHeaderAction) :
    AttendedTurn c rs held thread thread.Ended
      (LibDoip.handleClient application (.client uninit) (.serving thread) s) := by
  have channel := attending.channel
  have active := openChannel channel nonzero
  have running := attending.settled.running active
  rw [turnAdvances application uninit thread (fun _ => active)]
  obtain ⟨position,inbox⟩ := thread
  by_cases dispatching : ∃ action payload, position = .dispatching action payload
  · obtain ⟨action,payload,rfl⟩ := dispatching
    have holding := attending.holding
    dsimp only at holding
    generalize at' : Position.dispatching action payload = position at holding
    cases holding with
    | dispatching whole =>
      cases at'
      rw [advance,Program.bindApply,Outcome.andThenAssoc]
      exact attending.answered nonzero whole
    | _ => cases at'
  · have steps := stepsOn application uninit attending.holding attending.readable channel.ssl running
      (fun action payload same => dispatching ⟨action,payload,same⟩)
    generalize advance application uninit ⟨position,inbox⟩ s = o at steps
    cases steps with
    | moves moves =>
      have retimed := moves.retimed
      have settled := attending.settled.same retimed.sock retimed.ssl retimed.expired (fun off => retimed.disabled.trans off)
      rw [Outcome.andThenOk,Program.pureApply,Outcome.prependMk,List.append_nil]
      refine .moves ⟨channel.trans ⟨retimed.sock,retimed.ssl,retimed.gateway⟩,settled,moves.holding,?_,?_⟩ moves.kept
        moves.clean (writtenNone c moves.unsent)
      · rw [moves.kept]
        exact attending.readable
      · exact (sameSession retimed.sock retimed.routed).trans attending.session
    | fails ended failed retimed unsent =>
      have settled := attending.settled.same retimed.sock retimed.ssl retimed.expired (fun off => retimed.disabled.trans off)
      rw [Outcome.andThenOk,Program.pureApply,Outcome.prependMk,List.append_nil]
      exact .fails ended ⟨channel.trans ⟨retimed.sock,retimed.ssl,retimed.gateway⟩,settled,failed⟩ (writtenNone c unsent)
    | breaks ended ran =>
      obtain ⟨shut,effect⟩ := closeSocketClosed ran
      have settled := effect.shuts.settled rfl (attending.settled.same rfl rfl rfl id)
      rw [Outcome.andThenOk,Program.pureApply,Outcome.prependMk,List.append_nil]
      have unsent := closingUnsent effect.events
      exact .stops (writtenNone c ((List.filterMap_cons_none rfl).trans unsent)) (fun _ => ⟨shut,settled.closed shut⟩) (Or.inl ended)

theorem Failing.client (failing : Failing c thread s) (nonzero : c.clientSock ≠ 0) (uninit : GenericHeaderAction) :
    FailingTurn c thread (LibDoip.handleClient application (.client uninit) (.serving thread) s) := by
  have active := openChannel failing.channel nonzero
  rw [turnAdvances application uninit thread (fun _ => active)]
  obtain ⟨position,inbox⟩ := thread
  obtain ⟨l,t,advanced,ran⟩ := @failedCloses Unit s inbox application uninit position failing.failed
  obtain ⟨shut,effect⟩ := closeSocketClosed ran
  have settled := effect.shuts.settled rfl failing.settled
  rw [advanced,Outcome.andThenOk,Program.pureApply,Outcome.prependMk,List.append_nil]
  exact .stops (writtenNone c (closingUnsent effect.events)) (fun _ => ⟨shut,settled.closed shut⟩)

theorem closeSocketTls {skipShutdown : Bool} {s t : State σ} {l : List Event} (ran : closeSocket skipShutdown s = ⟨l,t,.ok ()⟩)
    (closed : s.connection.clientSock = 0 → s.connection.ssl = none) : t.connection.ssl = none := by
  by_cases active : isSocketActive s.connection
  · obtain ⟨m,u,ran',_,connection,_⟩ := closeSocketActive skipShutdown active
    cases ran.symm.trans ran'
    rw [connection]
  · have shut := Decidable.not_not.mp active
    cases ran.symm.trans (closeInactive skipShutdown shut)
    exact closed shut

theorem timerRound (channel : SameChannel c s.connection) (settled : Settled s) : Round c s (waitForResponse s) := by
  by_cases running : s.connection.aliveCheckTimer.Running
  · by_cases due : Due s.ticked
    · cases bound : s.connection.aliveCheckTimer.cb with
      | false =>
        rw [roundUnbound due bound]
        exact .stops rfl (fun fine => absurd fine (Option.some_ne_none _)) rfl
      | true =>
        obtain ⟨l,t,ran,shut,effect⟩ := closeSocketCloses false (s.ticked.setTimer (·.expire))
        have unsent : (Event.timeout s.ticked.environment.now::l ++ [Event.closeConnection]).filterMap Event.sent = [] := by
          rw [List.cons_append,List.filterMap_cons_none rfl,List.filterMap_append,closingUnsent effect.events]
          rfl
        rw [roundFires due bound ran]
        have freed := closeSocketTls ran settled.closed
        exact .stops (writtenNone c unsent) (fun _ => ⟨shut,freed⟩) (congrArg AliveCheckTimer.timeout (closeSocketTimer ran))
    · rw [roundWaits running due]
      exact .waits channel (settled.same rfl rfl rfl id) (sameSession rfl rfl)
  · rw [roundStopped running]
    exact .waits channel settled rfl

theorem Round.muted {o : Outcome Fault Event (State Unit) Unit} {phase : Phase} (quiet : writtenOn c o.log = [])
    (silent : Muted o) : let o' := o.andThen (fun _ => (pure phase : Doip Unit Phase))
    writtenOn c o'.log = [] ∧ Muted o' ∧ o'.state = o.state := by
  obtain ⟨l,t,r⟩ := o
  cases r with
  | error e => exact ⟨quiet,silent,rfl⟩
  | ok v =>
    rw [Outcome.andThenOk,Program.pureApply,Outcome.prependMk,List.append_nil]
    exact ⟨quiet,fun _ => silent rfl,rfl⟩

theorem timerTurn (attending : Attending c rs held thread s) :
    AttendedTurn c rs held thread False (LibDoip.handleClient application .timer (.serving thread) s) := by
  have turn : LibDoip.handleClient application .timer (.serving thread) s =
      (waitForResponse s).andThen (fun _ => pure (.serving thread)) := rfl
  have round := timerRound attending.channel attending.settled
  rw [turn]
  generalize waitForResponse s = o at round
  cases round with
  | waits channel settled session =>
    exact .moves {attending with channel := channel, settled := settled, session := session.trans attending.session} rfl id rfl
  | stops quiet silent fired =>
    obtain ⟨quiet',silent',same⟩ := @Round.muted c o (.serving thread) quiet silent
    exact .stops quiet' silent' (Or.inr (by rw [same]; exact fired))

theorem Failing.timer (failing : Failing c thread s) :
    FailingTurn c thread (LibDoip.handleClient application .timer (.serving thread) s) := by
  have turn : LibDoip.handleClient application .timer (.serving thread) s =
      (waitForResponse s).andThen (fun _ => pure (.serving thread)) := rfl
  have round := timerRound failing.channel failing.settled
  rw [turn]
  generalize waitForResponse s = o at round
  cases round with
  | waits channel settled session => exact .waits {failing with channel := channel, settled := settled} rfl
  | stops quiet silent fired =>
    obtain ⟨quiet',silent',_⟩ := @Round.muted c o (.serving thread) quiet silent
    exact .stops quiet' silent'

end Turns
end LibDoip
