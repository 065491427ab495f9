import LibDoip.Attending

/-! What every state of a dialogue satisfies. As long as the server attends to the client, what was sent is
cut into what has been answered, what the thread holds and what is still to come; once its last read has failed
or it has stopped, nothing more reaches the client. -/
namespace LibDoip
open Library ExampleServer
variable {σ : Type}

/- The server attends to its client: the bytes of `done` have been answered as the requests `rs`, and all
that was sent since is held by the thread, has arrived or is on its way. -/
structure Attends (gateway : UInt16) (d : Dialogue) (position : Position) (inbox : List Arrival)
    (done held : List UInt8) (rs : List Request) : Prop where
  phase : d.phase = .serving ⟨position,inbox⟩
  fault : d.fault = none
  sock : d.server.connection.clientSock = d.fd
  plain : d.server.connection.ssl = none
  address : d.server.connection.logicalGatewayAddress = gateway
  settled : Settled d.server
  holding : Holding none position held
  clean : Clean inbox
  stream : d.sent.flatMap (Send.bytes d.client.client.sourceAddress) = done ++ held ++ Inbox.stream inbox ++ d.upstream
  whole : ∀ rest, requests (done ++ rest) = rs ++ requests rest
  session : d.server.session = server.after .unrouted rs
  told : d.shown ++ d.downstream = tells gateway rs

structure Closing (gateway : UInt16) (d : Dialogue) (thread : Thread) : Prop where
  phase : d.phase = .serving thread
  fault : d.fault = none
  sock : d.server.connection.clientSock = d.fd
  plain : d.server.connection.ssl = none
  settled : Settled d.server
  failed : thread.position.Failed
  told : d.shown ++ d.downstream <+: tells gateway (d.sent.map Send.request)
  left : d.left = true

structure Stopped (gateway : UInt16) (d : Dialogue) : Prop where
  silent : d.fault = none → d.server.connection.clientSock = 0 ∧ d.server.connection.ssl = none
  told : d.shown ++ d.downstream <+: tells gateway (d.sent.map Send.request)
  reason : d.left = true ∨ d.server.connection.aliveCheckTimer.timeout = true ∨ Over (d.sent.map Send.request)

inductive Consistent (gateway : UInt16) (d : Dialogue) : Prop where
  | attends {position : Position} {inbox : List Arrival} {done held : List UInt8} {rs : List Request}
      (attends : Attends gateway d position inbox done held rs) : Consistent gateway d
  | closing {thread : Thread} (closing : Closing gateway d thread) : Consistent gateway d
  | stopped (stopped : Stopped gateway d) : Consistent gateway d

theorem requestsNil : requests [] = [] := requestsNone (splitFrameTruncated (splitHeaderTruncated noAction (by decide)))

section Moves
variable {gateway : UInt16} {d : Dialogue} {position : Position} {inbox : List Arrival} {done held : List UInt8}
  {rs : List Request}

theorem Attends.asks (attends : Attends gateway d position inbox done held rs) :
    d.sent.map Send.request = rs ++ requests (held ++ Inbox.stream inbox ++ d.upstream) := by
  have all := requestsOfSends d.client.client.sourceAddress d.sent []
  rw [List.append_nil,requestsNil,List.append_nil] at all
  rw [← all,attends.stream,List.append_assoc,List.append_assoc,attends.whole,List.append_assoc]

theorem Attends.stops (attends : Attends gateway d position inbox done held rs) {d' : Dialogue}
    (sent : d'.sent = d.sent) (same : d'.shown ++ d'.downstream = d.shown ++ d.downstream)
    (silent : d'.fault = none → d'.server.connection.clientSock = 0 ∧ d'.server.connection.ssl = none)
    (reason : d'.left = true ∨ d'.server.connection.aliveCheckTimer.timeout = true) : Consistent gateway d' := by
  refine .stopped ⟨silent,?_,reason.elim Or.inl (fun fired => Or.inr (Or.inl fired))⟩
  rw [sent,same,attends.told,attends.asks]
  exact tellsPrefix gateway rs _

theorem takeQuiet (d : Dialogue) {o : Outcome Fault Event (State Unit) Phase} (quiet : writtenTo d.fd o.log = []) :
    (d.take o).shown ++ (d.take o).downstream = d.shown ++ d.downstream := by
  show d.shown ++ (d.downstream ++ writtenTo d.fd o.log) = _
  rw [quiet,List.append_nil]

theorem Attends.sends (attends : Attends gateway d position inbox done held rs) (x : Send) :
    Consistent gateway (d.step (.send x)) := by
  rw [Dialogue.step]
  split
  · exact .attends attends
  · rw [sendWrites]
    refine .attends {attends with stream := ?_}
    simp only [List.flatMap_append,attends.stream,List.flatMap_cons,List.flatMap_nil,List.append_nil,List.append_assoc]

theorem Attends.arrives (attends : Attends gateway d position inbox done held rs) (n : Nat) :
    Consistent gateway (d.step (.arrive n)) := by
  have pieces : Clean (Inbox.putBack (d.upstream.take n) []) := cleanPutBack _ cleanNil
  suffices next : Attends gateway (d.step (.arrive n)) position (inbox ++ Inbox.putBack (d.upstream.take n) []) done held rs from
    .attends next
  refine {attends with phase := ?_, clean := cleanAppend attends.clean pieces, stream := ?_}
  · show d.phase.arrive _ = _
    rw [attends.phase]
    rfl
  · show _ = done ++ held ++ Inbox.stream (inbox ++ Inbox.putBack (d.upstream.take n) []) ++ d.upstream.drop n
    rw [streamAppend attends.clean,Inbox.streamPutBack,Inbox.stream,List.append_nil]
    simp only [List.append_assoc,List.take_append_drop]
    exact attends.stream.trans (by simp only [List.append_assoc])

theorem deliverCount {n : Nat} (some : n ≠ 0) (more : d.downstream ≠ []) : (d.deliver n).count ≠ 0 := by
  have length := List.length_pos_iff.mpr more
  simp only [Dialogue.deliver,RecvResult.count,List.length_take]
  omega

theorem receiveShows (d : Dialogue) (n : Nat) (uninit : GenericHeaderAction) :
    ∃ client downstream shown,
      d.step (.receive n uninit) = {d with client := client, downstream := downstream, shown := shown} ∧
      shown ++ downstream = d.shown ++ d.downstream ∧ client.client = d.client.client := by
  rw [Dialogue.step]
  split
  · exact ⟨_,_,_,rfl,rfl,rfl⟩
  · rename_i possible
    have some := deliverCount (d := d) (fun none => possible (Or.inr (Or.inl none)))
      (fun none => possible (Or.inr (Or.inr none)))
    have quiet : ∀ data type, (acknowledged data type).flatMap ClientEvent.shown = [] := by
      intro data type
      cases type <;> rfl
    have displayed : ∀ fd, [ClientEvent.recv fd,.displayed (d.deliver n).bytes].flatMap ClientEvent.shown =
        d.downstream.take (min n 64) := fun _ => List.append_nil _
    rw [receiveMessageApply uninit some]
    refine ⟨_,_,_,rfl,?_,rfl⟩
    rw [List.flatMap_append,quiet,List.append_nil,displayed,List.append_assoc,List.take_append_drop]

theorem Attends.receives (attends : Attends gateway d position inbox done held rs) (n : Nat)
    (uninit : GenericHeaderAction) : Consistent gateway (d.step (.receive n uninit)) := by
  obtain ⟨client,downstream,shown,received,same,kept⟩ := receiveShows d n uninit
  rw [received]
  refine .attends {attends with stream := ?_, told := same.trans attends.told}
  show d.sent.flatMap (Send.bytes client.client.sourceAddress) = _
  rw [kept]
  exact attends.stream

theorem Attends.leaves (attends : Attends gateway d position inbox done held rs) :
    Consistent gateway (d.step .leave) :=
  .attends (d := d.step .leave) {attends with}

theorem Attends.attending (attends : Attends gateway d position inbox done held rs) :
    Attending d.server.connection rs held ⟨position,inbox⟩ d.server := by
  refine ⟨⟨rfl,rfl,rfl⟩,attends.settled,?_,fun _ _ => Or.inl attends.plain,attends.session⟩
  rw [attends.plain]
  exact attends.holding

theorem Attends.written (attends : Attends gateway d position inbox done held rs) (l : List Event) :
    writtenOn d.server.connection l = writtenTo d.fd l := by
  rw [writtenPlain attends.plain,attends.sock]

theorem Attends.turned (attends : Attends gateway d position inbox done held rs)
    {o : Outcome Fault Event (State Unit) Phase} {ended : Prop}
    (turned : AttendedTurn d.server.connection rs held ⟨position,inbox⟩ ended o)
    (gone : ended → d.left = true) : Consistent gateway (d.take o) := by
  have told : ∀ {request l}, Answering d.server.connection rs held request l →
      d.shown ++ (d.downstream ++ writtenTo d.fd l) = tells gateway (rs ++ [request]) := by
    intro request l answering
    have more := answering.tells
    rw [attends.written,attends.address] at more
    rw [← List.append_assoc,attends.told,more]
  have address : ∀ {t : State Unit}, SameChannel d.server.connection t.connection →
      t.connection.clientSock = d.fd ∧ t.connection.ssl = none ∧ t.connection.logicalGatewayAddress = gateway :=
    fun channel => ⟨channel.sock.trans attends.sock,channel.ssl.trans attends.plain,channel.gateway.trans attends.address⟩
  cases turned with
  | @moves l t next held' now kept clean quiet =>
    obtain ⟨sock,plain,gateway'⟩ := address now.channel
    have holding := now.holding
    rw [attends.plain] at holding
    suffices later : Attends gateway (d.take ⟨l,t,.ok (.serving next)⟩) next.position next.inbox done held' rs from
      .attends later
    refine ⟨rfl,rfl,sock,plain,gateway',now.settled,holding,clean attends.clean,?_,attends.whole,now.session,?_⟩
    · have bytes : done ++ held ++ Inbox.stream inbox = done ++ held' ++ Inbox.stream next.inbox := by
        rw [List.append_assoc,← kept,List.append_assoc]
      exact attends.stream.trans (congrArg (· ++ d.upstream) bytes)
    · exact (takeQuiet d ((attends.written l).symm.trans quiet)).trans attends.told
  | @answers l t request answering now =>
    obtain ⟨sock,plain,gateway'⟩ := address now.channel
    suffices later : Attends gateway (d.take ⟨l,t,.ok (.serving ⟨.idle,inbox⟩)⟩) .idle inbox (done ++ held) []
        (rs ++ [request]) from .attends later
    refine ⟨rfl,rfl,sock,plain,gateway',now.settled,.idle,attends.clean,?_,?_,now.session,told answering⟩
    · exact attends.stream.trans (by rw [List.append_nil]; rfl)
    · intro rest
      rw [List.append_assoc,attends.whole,answering.cut,List.append_assoc,List.singleton_append]
  | @last _ request answering silent finished =>
    have sent : d.sent.map Send.request = (rs ++ [request]) ++ requests (Inbox.stream inbox ++ d.upstream) := by
      rw [attends.asks,List.append_assoc,answering.cut,List.append_assoc,List.singleton_append]
    refine .stopped ⟨silent,?_,Or.inr (Or.inr ?_)⟩
    · show d.shown ++ (d.downstream ++ writtenTo d.fd o.log) <+: tells gateway (d.sent.map Send.request)
      rw [told answering,sent]
      exact tellsPrefix gateway _ _
    · show Over (d.sent.map Send.request)
      rw [sent]
      exact overAppend finished _
  | @fails l t next all failing quiet =>
    obtain ⟨sock,plain,_⟩ := address failing.channel
    refine .closing ⟨rfl,rfl,sock,plain,failing.settled,failing.failed,?_,gone all⟩
    rw [takeQuiet d ((attends.written l).symm.trans quiet),attends.told]
    show tells gateway rs <+: tells gateway (d.sent.map Send.request)
    rw [attends.asks]
    exact tellsPrefix gateway rs _
  | stops quiet silent reason =>
    exact attends.stops rfl (takeQuiet d ((attends.written _).symm.trans quiet)) silent (reason.imp gone id)

theorem Closing.turned {thread : Thread} (closing : Closing gateway d thread) {o : Outcome Fault Event (State Unit) Phase}
    (turned : FailingTurn d.server.connection thread o) : Consistent gateway (d.take o) := by
  have written : ∀ l, writtenOn d.server.connection l = writtenTo d.fd l := fun l => by
    rw [writtenPlain closing.plain,closing.sock]
  cases turned with
  | @waits l t failing quiet =>
    refine .closing ⟨rfl,rfl,failing.channel.sock.trans closing.sock,failing.channel.ssl.trans closing.plain,
      failing.settled,failing.failed,?_,closing.left⟩
    rw [takeQuiet d ((written l).symm.trans quiet)]
    exact closing.told
  | stops quiet silent =>
    refine .stopped ⟨silent,?_,Or.inl closing.left⟩
    rw [takeQuiet d ((written _).symm.trans quiet)]
    exact closing.told

theorem Closing.failing {thread : Thread} (closing : Closing gateway d thread) :
    Failing d.server.connection thread d.server := ⟨⟨rfl,rfl,rfl⟩,closing.settled,closing.failed⟩

theorem Closing.steps {thread : Thread} (closing : Closing gateway d thread) (nonzero : d.fd ≠ 0) (move : DialogueMove) :
    Consistent gateway (d.step move) := by
  cases move with
  | send x =>
    rw [Dialogue.step,if_pos closing.left]
    exact .closing closing
  | leave => exact .closing (d := d.step .leave) {closing with left := rfl}
  | arrive n =>
    have later : (d.step (.arrive n)).phase = .serving ⟨thread.position,thread.inbox ++ Inbox.putBack (d.upstream.take n) []⟩ := by
      show d.phase.arrive _ = _
      rw [closing.phase]
      rfl
    exact .closing ⟨later,closing.fault,closing.sock,closing.plain,closing.settled,closing.failed,closing.told,closing.left⟩
  | server uninit =>
    have nonzero' : d.server.connection.clientSock ≠ 0 := by rw [closing.sock]; exact nonzero
    rw [Dialogue.step]
    split
    · rw [closing.phase]
      exact closing.turned (closing.failing.client nonzero' uninit)
    · exact .closing closing
  | timer =>
    rw [Dialogue.step,if_pos closing.fault,closing.phase]
    exact closing.turned closing.failing.timer
  | receive n uninit =>
    obtain ⟨client,downstream,shown,received,same,_⟩ := receiveShows d n uninit
    rw [received]
    refine .closing {closing with told := ?_}
    rw [same]
    exact closing.told

theorem Attends.rounds (attends : Attends gateway d position inbox done held rs) :
    Consistent gateway (d.step .timer) := by
  rw [Dialogue.step,if_pos attends.fault,attends.phase]
  exact attends.turned (timerTurn attends.attending) False.elim

theorem Attends.serves (attends : Attends gateway d position inbox done held rs) (nonzero : d.fd ≠ 0)
    (uninit : GenericHeaderAction) : Consistent gateway (d.step (.server uninit)) := by
  have nonzero' : d.server.connection.clientSock ≠ 0 := by rw [attends.sock]; exact nonzero
  rw [Dialogue.step]
  split
  · rename_i possible
    have turned := clientTurn attends.attending nonzero' uninit
    rw [attends.phase]
    refine attends.turned turned (fun ended => ?_)
    refine Decidable.byContradiction (fun open' => possible.2 ⟨?_,fun gone => open' gone.1⟩)
    rw [attends.phase]
    exact ended.blocked attends.clean
  · exact .attends attends

theorem Stopped.turns (stopped : Stopped gateway d) (nonzero : d.fd ≠ 0) (running : d.fault = none) (turn : Turn) :
    Stopped gateway (d.take (LibDoip.handleClient application turn d.phase d.server)) := by
  have muted := turnMute application turn d.phase d.server
  unfold Program.At at muted
  generalize LibDoip.handleClient application turn d.phase d.server = o at muted
  obtain ⟨closed,plain⟩ := stopped.silent running
  obtain ⟨closed',plain',_⟩ := muted.silent closed plain
  have quiet : writtenTo d.fd o.log = [] :=
    (writtenPlain rfl o.log).symm.trans (@Mute.quiet _ _ _ _ _ muted (.new d.fd gateway none 0 0) nonzero closed plain)
  refine ⟨fun _ => ⟨closed',plain'⟩,?_,?_⟩
  · rw [takeQuiet d quiet]
    exact stopped.told
  · exact stopped.reason.imp id (Or.imp muted.timeout id)

theorem Stopped.steps (stopped : Stopped gateway d) (nonzero : d.fd ≠ 0) (move : DialogueMove) :
    Stopped gateway (d.step move) := by
  cases move with
  | send x =>
    rw [Dialogue.step]
    split
    · exact stopped
    · refine ⟨stopped.silent,?_,stopped.reason.imp id (Or.imp id (fun ended => ?_))⟩
      · show d.shown ++ d.downstream <+: tells gateway ((d.sent ++ [x]).map Send.request)
        rw [List.map_append]
        exact stopped.told.trans (tellsPrefix gateway _ _)
      · show Over ((d.sent ++ [x]).map Send.request)
        rw [List.map_append]
        exact overAppend ended _
  | leave => exact ⟨stopped.silent,stopped.told,Or.inl rfl⟩
  | arrive n => exact ⟨stopped.silent,stopped.told,stopped.reason⟩
  | server uninit =>
    rw [Dialogue.step]
    split
    · rename_i possible
      exact stopped.turns nonzero possible.1 _
    · exact stopped
  | timer =>
    rw [Dialogue.step]
    split
    · rename_i running
      exact stopped.turns nonzero running _
    · exact stopped
  | receive n uninit =>
    obtain ⟨client,downstream,shown,received,same,_⟩ := receiveShows d n uninit
    rw [received]
    refine ⟨stopped.silent,?_,stopped.reason⟩
    rw [same]
    exact stopped.told

theorem Consistent.steps (consistent : Consistent gateway d) (nonzero : d.fd ≠ 0) (move : DialogueMove) :
    Consistent gateway (d.step move) := by
  cases consistent with
  | stopped stopped => exact .stopped (stopped.steps nonzero move)
  | closing closing => exact closing.steps nonzero move
  | attends attends =>
    cases move with
    | send x => exact attends.sends x
    | leave => exact attends.leaves
    | arrive n => exact attends.arrives n
    | server uninit => exact attends.serves nonzero uninit
    | timer => exact attends.rounds
    | receive n uninit => exact attends.receives n uninit

theorem stepDescriptor (d : Dialogue) (move : DialogueMove) : (d.step move).fd = d.fd := by
  cases move with
  | leave => rfl
  | arrive n => rfl
  | _ =>
    rw [Dialogue.step]
    split <;> rfl

theorem Consistent.runs (consistent : Consistent gateway d) (nonzero : d.fd ≠ 0) (moves : List DialogueMove) :
    Consistent gateway (d.run moves) := by
  induction moves generalizing d with
  | nil => exact consistent
  | cons move rest ih => exact ih (consistent.steps nonzero move) (by rw [stepDescriptor]; exact nonzero)

end Moves

section Runs
variable (client : ClientState) {fd : Int} (gateway : UInt16) (startTime : Int) (maxSeconds : UInt16)
  (environment : Environment)

theorem startAttends (nonzero : fd ≠ 0) :
    Attends gateway (Dialogue.start client fd gateway startTime maxSeconds environment) .idle [] [] [] [] := by
  refine ⟨rfl,rfl,rfl,rfl,rfl,⟨fun closed => absurd closed nonzero,fun fired => by cases fired⟩,.idle,cleanNil,rfl,
    fun _ => rfl,?_,rfl⟩
  exact openSession (s := (Dialogue.start client fd gateway startTime maxSeconds environment).server) nonzero

theorem startConsistent (nonzero : fd ≠ 0) (moves : List DialogueMove) :
    Consistent gateway ((Dialogue.start client fd gateway startTime maxSeconds environment).run moves) :=
  (Consistent.attends (startAttends client gateway startTime maxSeconds environment nonzero)).runs nonzero moves

theorem dialogueSafe (nonzero : fd ≠ 0) (moves : List DialogueMove) :
    let d := (Dialogue.start client fd gateway startTime maxSeconds environment).run moves
    d.shown <+: tells gateway (d.sent.map Send.request) := by
  have consistent := startConsistent client gateway startTime maxSeconds environment nonzero moves
  generalize (Dialogue.start client fd gateway startTime maxSeconds environment).run moves = d at consistent
  have onItsWay : d.shown <+: d.shown ++ d.downstream := List.prefix_append _ _
  cases consistent with
  | stopped stopped => exact onItsWay.trans stopped.told
  | closing closing => exact onItsWay.trans closing.told
  | @attends _ _ _ _ rs attends =>
    rw [attends.told] at onItsWay
    dsimp only
    rw [attends.asks]
    exact onItsWay.trans (tellsPrefix gateway rs _)

end Runs

theorem dialogueSafeActivation :
    let d := (Dialogue.start .connected 5 0x28 0 0 ⟨[],[],[],[],0⟩).run activationMoves
    d.shown <+: tells 0x28 (d.sent.map Send.request) :=
  dialogueSafe .connected 0x28 0 0 ⟨[],[],[],[],0⟩ (by decide) activationMoves

end LibDoip
