import LibDoip.Client
import LibDoip.Framing

/-! From the client to the server's application. What the client sends over one connection is
what the server's loop finds in the stream, message by message. -/
namespace LibDoip
open Library
variable {σ α : Type}

def Send.Framed (frame : Frame) : Send → Prop
  | .routingActivationRequest => frame.action.type = .routingActivationRequest ∧
      frame.payload = activationRequestPayload
  | .diagnosticMessage targetAddress userData _ => frame.action.type = .diagnosticMessage ∧
      frame.payload = 0x0E::0x00::targetAddress.1::targetAddress.2::userData.bytes
  | .aliveCheckResponse => frame.action.type = .negativeAck ∧ frame.action.value = unknownPayloadTypeCode

theorem sentFramed (uninit : GenericHeaderAction) (sourceAddress : Address) (x : Send) (rest : List UInt8) :
    ∃ frame, splitFrame uninit (x.bytes sourceAddress ++ rest) = some (frame,rest) ∧ x.Framed frame := by
  cases x with
  | routingActivationRequest =>
    have decoded := classifyOwn uninit 0x00 0x05 7
    obtain ⟨frame,split,action,payload⟩ := @splitOwn _ _ 0x00 0x05 7 activationRequestPayload decoded rfl rest
    exact ⟨frame,split,by rw [action]; rfl,payload⟩
  | diagnosticMessage targetAddress userData some =>
    have fits := userData.fits
    have value : (UInt32.ofNat (4 + userData.bytes.length)).toNat = 4 + userData.bytes.length :=
      UInt32.toNat_ofNat_of_lt (by show _ < 4294967296; omega)
    have permitted : ¬ lengthRejected .diagnosticMessage (UInt32.ofNat (4 + userData.bytes.length)) := by
      intro rejected
      have small := UInt32.le_iff_toNat_le.mp rejected
      rw [value] at small
      have four : (4 : UInt32).toNat = 4 := rfl
      omega
    have decoded := classifyOwn uninit 0x80 0x01 (UInt32.ofNat (4 + userData.bytes.length))
    have recognised : messagePayloadType 0x80 0x01 = .some .diagnosticMessage := by decide
    simp only [recognised,acceptedLength _ permitted] at decoded
    obtain ⟨frame,split,action,payload⟩ := @splitOwn _ _ 0x80 0x01 _
      (0x0E::0x00::targetAddress.1::targetAddress.2::userData.bytes) decoded
      (by simp only [UInt32.toNat_toUInt64,value,List.length_cons]; omega) rest
    have bytes : diagnosticMessageBytes 0x0E00 targetAddress userData = headerBytes 0x80 0x01
        (UInt32.ofNat (4 + userData.bytes.length)) ++
        (0x0E::0x00::targetAddress.1::targetAddress.2::userData.bytes) := by
      simp only [diagnosticMessageBytes,List.append_assoc,List.cons_append,List.nil_append]
      rfl
    exact ⟨frame,by rw [Send.bytes,bytes]; exact split,by rw [action],payload⟩
  | aliveCheckResponse =>
    have decoded := classifyOwn uninit 0x00 0x08 2
    obtain ⟨frame,split,action,_⟩ := @splitOwn _ _ 0x00 0x08 2 [sourceAddress.1,sourceAddress.2] decoded rfl rest
    exact ⟨frame,split,by rw [action]; rfl,by rw [action]; rfl⟩

/- An application that agrees to every message; the timer does not get its turn inside a callback. -/
structure Agreeable (app : Application σ) : Prop where
  agrees : ∀ a targetAddress, (app.notifyApplication a targetAddress).Returns (fun out => out.1 = true)
  notified : ∀ a targetAddress, (app.notifyApplication a targetAddress).Calls (· ≠ .timerRound)
  delivered : ∀ a targetAddress data length,
    (app.diagCallback a targetAddress data length).Calls (· ≠ .timerRound)

inductive Landmark where
  | dispatched (type : PayloadType)
  | delivered (targetAddress : Nat) (data : List UInt8) (length : Int)
  | closed (fd : Int)
  deriving DecidableEq, Repr

def Event.landmark : Event → Option Landmark
  | .received action _ => some (.dispatched action.type)
  | .diagCallback targetAddress data length => some (.delivered targetAddress.toNat data length)
  | .close fd => some (.closed fd)
  | _ => none

def landmarks (l : List Event) : List Landmark := l.filterMap Event.landmark

def Send.landmarks : Send → List Landmark
  | .routingActivationRequest => [.dispatched .routingActivationRequest]
  | .diagnosticMessage targetAddress userData _ => [.dispatched .diagnosticMessage,
      .delivered (256 * targetAddress.1.toNat + targetAddress.2.toNat) userData.bytes userData.bytes.length]
  -- The type is unknown to the server.
  | .aliveCheckResponse => [.dispatched .negativeAck]

theorem landmarksAppend (l m : List Event) : landmarks (l ++ m) = landmarks l ++ landmarks m :=
  List.filterMap_append

theorem landmarksCons (e : Event) (l : List Event) : landmarks (e::l) = e.landmark.toList ++ landmarks l := by
  unfold landmarks
  cases h : e.landmark <;> simp [h]

theorem noLandmarks {l : List Event} (none : ∀ e ∈ l, e.landmark = .none) : landmarks l = [] :=
  List.filterMap_eq_nil_iff.mpr none

theorem landmarksObserved (l : List Event) : landmarks (l.filter Event.observable) = landmarks l := by
  induction l with
  | nil => rfl
  | cons e rest ih => cases e <;> simp [landmarksCons,Event.landmark,Event.observable,ih,List.filter_cons]

structure Steady (s : State σ) (l : List Event) (t : State σ) (f : Option Fault) : Prop where
  sock : t.connection.clientSock = s.connection.clientSock
  ssl : t.connection.ssl = s.connection.ssl
  routed : t.connection.routedClientAddress = s.connection.routedClientAddress
  calm : ∀ e ∈ l, e.landmark = none
  returns : s.connection.routedClientAddress ≠ none → f = none

theorem steadyComposable : Program.Composable (@Steady σ) where
  refl s := ⟨rfl,rfl,rfl,by simp,fun _ => rfl⟩
  trans := by
    intro s l t m u f first second
    refine ⟨second.sock.trans first.sock,second.ssl.trans first.ssl,second.routed.trans first.routed,?_,?_⟩
    · exact List.forall_mem_append.mpr ⟨first.calm,second.calm⟩
    · intro routed
      exact second.returns (by rw [first.routed]; exact routed)

theorem sendEventCalm (c : DoIPConnection) (bytes : List UInt8) : (sendEvent c bytes).landmark = none := by
  unfold sendEvent
  split <;> rfl

theorem Sends.steady {s : State σ} {bytes : List UInt8} {o : Outcome Fault Event (State σ) Int}
    (h : Sends s bytes o) : Steady s o.log o.state o.fault := by
  obtain ⟨errors⟩ := h
  refine ⟨rfl,rfl,rfl,List.forall_mem_cons.mpr ⟨sendEventCalm _ _,?_⟩,fun _ => rfl⟩
  intro e member
  obtain ⟨ssl,err,rfl,_⟩ := errors e member
  rfl

theorem emitSteady {e : Event} (calm : e.landmark = none) :
    Program.Meets Steady (Program.emit e : Doip σ Unit) := by
  intro s
  refine ⟨rfl,rfl,rfl,?_,fun _ => rfl⟩
  intro e' member
  cases List.mem_singleton.mp member
  exact calm

theorem unroutedSteady {x : Doip σ Int} {s : State σ} (unrouted : s.connection.routedClientAddress = none)
    (stopped : x s = ⟨[],s,.error .indeterminatePointer⟩) : Program.At Steady x s := by
  rw [Program.At,stopped]
  exact ⟨rfl,rfl,rfl,by simp,fun routed => absurd unrouted routed⟩

theorem performSteady {call : Call} (other : call ≠ .timerRound) :
    Program.Meets Steady (perform call : Doip σ Int) := by
  intro s
  refine Program.atBind steadyComposable (emitSteady rfl s) (fun _ _ => ?_)
  have answered : ∀ {x : Doip σ Int}, Program.At Steady x s →
      Program.At Steady (do let _ ← x; pure (0 : Int)) s :=
    fun h => Program.atBind steadyComposable h (fun _ _ => Program.meetsPure steadyComposable _ _)
  cases call with
  | sendNegativeAck ackCode => exact (sendNegativeAckSends ackCode s).steady
  | sendDiagnosticAck sourceAddress ackType ackCode =>
    cases routed : s.connection.routedClientAddress with
    | some registered => exact answered (sendDiagnosticAckSends sourceAddress ackType ackCode routed).steady
    | none => exact answered (unroutedSteady routed (sendDiagnosticAckUnrouted _ _ _ routed))
  | sendDiagnosticPayload sourceAddress data =>
    cases routed : s.connection.routedClientAddress with
    | some registered => exact answered (sendDiagnosticPayloadSends sourceAddress data routed).steady
    | none => exact answered (unroutedSteady routed (sendDiagnosticPayloadUnrouted _ _ routed))
  | triggerDisconnection =>
    exact Program.atBind steadyComposable (emitSteady rfl s) (fun _ _ => Program.meetsPure steadyComposable _ _)
  | setGeneralInactivityTime seconds =>
    refine Program.atBind steadyComposable ?_ (fun _ _ => Program.meetsPure steadyComposable _ _)
    show Program.At Steady (setGeneralInactivityTime seconds) s
    unfold setGeneralInactivityTime
    split <;> exact ⟨rfl,rfl,rfl,by simp [Program.modify],fun _ => rfl⟩
  | isSocketActive =>
    refine Program.atBind steadyComposable ?_ (fun _ _ => Program.meetsPure steadyComposable _ _)
    show Program.At Steady connection s
    rw [Program.At,connectionApply]
    exact steadyComposable.refl s
  | timerRound => contradiction

theorem callbackSteady {script : Script Call Int α} (calls : script.Calls (· ≠ .timerRound)) :
    Program.Meets Steady (script.interpret perform : Doip σ α) :=
  Script.interpretMeets steadyComposable calls (fun _ => performSteady)

theorem Notified.agreed {app : Application σ} (agreeable : Agreeable app) {targetAddress : UInt16}
    {s : State σ} {o : Outcome Fault Event (State σ) Bool} (h : Notified app targetAddress s o) :
    Steady s o.log o.state o.fault ∧ ∀ ack, o.result = .ok ack → ack = true := by
  have steady := callbackSteady (agreeable.notified s.application targetAddress) s
  cases h with
  | stopped _ ran =>
    rw [Program.At,ran] at steady
    refine ⟨{steady with calm := List.forall_mem_cons.mpr ⟨rfl,steady.calm⟩},?_⟩
    intro ack returned
    contradiction
  | answered _ ran =>
    have agrees := Script.interpretReturns (agreeable.agrees s.application targetAddress) (by rw [ran])
    rw [Program.At,ran] at steady
    refine ⟨{steady with calm := ?_},?_⟩
    · exact List.forall_mem_append.mpr ⟨List.forall_mem_cons.mpr ⟨rfl,steady.calm⟩,by simp [Event.landmark]⟩
    · intro ack returned
      exact (Except.ok.inj returned).symm.trans agrees

theorem Delivered.agreed {app : Application σ} (agreeable : Agreeable app) {targetAddress : UInt16}
    {data : List UInt8} {length : Int} {s : State σ} {o : Outcome Fault Event (State σ) Unit}
    (h : Delivered app targetAddress data length s o) :
    ∃ calls, o.log = .diagCallback targetAddress data length::calls ∧ Steady s calls o.state o.fault := by
  have steady := callbackSteady (agreeable.delivered s.application targetAddress data length) s
  cases h with
  | stopped _ ran =>
    rw [Program.At,ran] at steady
    exact ⟨_,rfl,steady⟩
  | returned _ ran =>
    rw [Program.At,ran] at steady
    exact ⟨_,rfl,{steady with}⟩

structure Serving (fd : Int) (s : State σ) : Prop where
  sock : s.connection.clientSock = fd
  ssl : s.connection.ssl = none
  routed : s.connection.routedClientAddress = some (0x0E,0x00)

structure Handled (x : Send) (fd : Int) (o : Outcome Fault Event (State σ) Int) : Prop where
  fault : o.fault = none
  landmarks : landmarks o.log = x.landmarks
  serving : Serving fd o.state

theorem frameBytes {frame : Frame} {bytes other : List UInt8} (payload : frame.payload = bytes)
    (pointer : frame.pointer = some (Buffer.filled other)) : other = bytes := by
  unfold Frame.pointer at pointer
  split at pointer
  · contradiction
  · rw [payload] at pointer
    exact (Buffer.filledInjective (Option.some.inj pointer)).symm

theorem dispatchedLandmarks {o : Outcome Fault Event (State σ) Int} (action : GenericHeaderAction)
    (payload : Option Buffer) : landmarks (o.prepend [.received action payload]).log =
      .dispatched action.type::landmarks o.log := by
  rw [Outcome.prependLog,List.singleton_append,landmarksCons]
  rfl

section Reactions
variable {app : Application σ} {frame : Frame} {fd : Int} {s : State σ}
  {o : Outcome Fault Event (State σ) Int}

theorem activationHandled (framed : Send.routingActivationRequest.Framed frame)
    (sock : s.connection.clientSock = fd) (ssl : s.connection.ssl = none)
    (h : Reaction app frame.action frame.pointer s o) :
    Handled .routingActivationRequest fd (o.prepend [.received frame.action frame.pointer]) := by
  obtain ⟨type,payload⟩ := framed
  cases h with
  | ignored _ routing _ => exact absurd type routing
  | negativeAck other _ => rw [type] at other; contradiction
  | diagnostic _ _ _ _ _ other _ _ _ => rw [type] at other; contradiction
  | unreadable other _ => rw [type] at other; contradiction
  | activation d0 d1 d2 rest _ bytes reaction =>
    cases frameBytes payload bytes
    cases reaction with
    | refused failed _ => exact absurd (by decide) failed
    | routed _ started =>
      refine ⟨rfl,?_,started.sock.trans sock,started.ssl.trans ssl,started.routed⟩
      rw [dispatchedLandmarks,type,landmarksCons,sendEventCalm,noLandmarks]
      · rfl
      · intro e member
        have starting := started.events e member
        cases e <;> first | rfl | exact starting.elim

theorem aliveCheckHandled (framed : Send.aliveCheckResponse.Framed frame) (serving : Serving fd s)
    (h : Reaction app frame.action frame.pointer s o) :
    Handled .aliveCheckResponse fd (o.prepend [.received frame.action frame.pointer]) := by
  obtain ⟨type,value⟩ := framed
  cases h with
  | ignored nack _ _ => exact absurd type nack
  | activation _ _ _ _ other _ _ => rw [type] at other; contradiction
  | diagnostic _ _ _ _ _ other _ _ _ => rw [type] at other; contradiction
  | unreadable other _ => rw [type] at other; contradiction
  | negativeAck _ reaction =>
    cases reaction with
    | closed code _ => rw [value] at code; exact absurd code (by decide)
    | kept _ errors =>
      refine ⟨rfl,?_,serving.sock,serving.ssl,serving.routed⟩
      rw [dispatchedLandmarks,type,landmarksCons,sendEventCalm,noLandmarks]
      · rfl
      · intro e member
        obtain ⟨ssl,err,rfl,_⟩ := errors e member
        rfl

theorem diagnosticHandled (agreeable : Agreeable app) {targetAddress : Address} {userData : UserData}
    {some : 0 < userData.bytes.length}
    (framed : (Send.diagnosticMessage targetAddress userData some).Framed frame) (serving : Serving fd s)
    (h : Reaction app frame.action frame.pointer s o) :
    Handled (.diagnosticMessage targetAddress userData some) fd
      (o.prepend [.received frame.action frame.pointer]) := by
  have fits := userData.fits
  obtain ⟨type,payload⟩ := framed
  cases h with
  | ignored _ _ diagnostic => exact absurd type diagnostic
  | negativeAck other _ => rw [type] at other; contradiction
  | activation _ _ _ _ other _ _ => rw [type] at other; contradiction
  | unreadable _ unassigned =>
    have size := frame.size
    rw [payload,List.length_cons] at size
    rw [Frame.pointer,payload,if_neg (by simp)] at unassigned
    exact absurd (Option.some.inj unassigned).symm (Buffer.allocNotFilled (by omega) _)
  | diagnostic d0 d1 d2 d3 data _ bytes _ reaction =>
    cases frameBytes payload bytes
    have registered : s.connection.routedClientAddress ≠ none := by simp [serving.routed]
    cases reaction with
    | stopped notified =>
      have faults := notified.agreed agreeable |>.1.returns registered
      contradiction
    | unheard notified reason =>
      rcases reason with refused | long | ⟨address,routed,different⟩
      · have agreed := (notified.agreed agreeable).2 _ rfl
        rw [refused] at agreed
        contradiction
      · omega
      · rw [serving.routed] at routed
        exact absurd (Option.some.inj routed).symm different
    | unrouted _ _ unrouted => exact absurd unrouted registered
    | @delivered l m t u r notified _ _ delivered =>
      obtain ⟨first,_⟩ := notified.agreed agreeable
      obtain ⟨calls,rfl,second⟩ := delivered.agreed agreeable
      have returned := second.returns (by rw [first.routed]; exact registered)
      refine ⟨?_,?_,?_⟩
      · cases r with
        | error e => contradiction
        | ok _ => rfl
      · have value : (bigEndian16 targetAddress.1 targetAddress.2).toNat =
            256 * targetAddress.1.toNat + targetAddress.2.toNat := by rw [bigEndian16Value]; omega
        rw [dispatchedLandmarks,type,landmarksAppend,noLandmarks first.calm,landmarksCons,
          noLandmarks second.calm,Event.landmark,value]
        rfl
      · exact ⟨second.sock.trans (first.sock.trans serving.sock),second.ssl.trans (first.ssl.trans serving.ssl),
          second.routed.trans (first.routed.trans serving.routed)⟩

end Reactions

theorem messageHandled {app : Application σ} (agreeable : Agreeable app) {x : Send} {frame : Frame}
    (framed : x.Framed frame) {fd : Int} {s : State σ} (sock : s.connection.clientSock = fd)
    (ssl : s.connection.ssl = none) (ready : x = .routingActivationRequest ∨ Serving fd s) :
    Handled x fd (messageReceived app frame.action frame.pointer s) := by
  have dispatched := messageReceivedDispatched app (.frame frame) frame.rules.bound s
  generalize messageReceived app frame.action frame.pointer s = o at dispatched
  cases dispatched with
  | @dispatched resets t o reset retimed reaction =>
    have handled : Handled x fd (o.prepend [.received frame.action frame.pointer]) := by
      have sock' := retimed.sock.trans sock
      have ssl' := retimed.ssl.trans ssl
      cases x with
      | routingActivationRequest => exact activationHandled framed sock' ssl' reaction
      | aliveCheckResponse =>
        have serving := ready.resolve_left (by simp)
        exact aliveCheckHandled framed ⟨sock',ssl',retimed.routed.trans serving.routed⟩ reaction
      | diagnosticMessage targetAddress userData some =>
        have serving := ready.resolve_left (by simp)
        exact diagnosticHandled agreeable framed ⟨sock',ssl',retimed.routed.trans serving.routed⟩ reaction
    have quiet : landmarks resets = [] := by
      refine noLandmarks (fun e member => ?_)
      obtain ⟨now,rfl⟩ := reset e member
      rfl
    rw [← Outcome.prependPrepend]
    refine ⟨handled.fault,?_,handled.serving⟩
    rw [Outcome.prependLog,landmarksAppend,quiet,List.nil_append,handled.landmarks]

theorem framesDelivered {app : Application σ} (agreeable : Agreeable app)
    (uninit : Nat → GenericHeaderAction) (sourceAddress : Address) {sends : List Send} {fd : Int}
    {s : State σ} (active : fd ≠ 0) (sock : s.connection.clientSock = fd) (ssl : s.connection.ssl = none)
    (ready : sends.head? = some .routingActivationRequest ∨ Serving fd s) :
    (dispatchFrames app (frames uninit (sends.flatMap (Send.bytes sourceAddress))) s).result = .ok () ∧
      landmarks (dispatchFrames app (frames uninit (sends.flatMap (Send.bytes sourceAddress))) s).log =
        sends.flatMap Send.landmarks ++ [.closed fd] := by
  have opened : isSocketActive s.connection := fun closed => active (sock.symm.trans closed)
  induction sends generalizing uninit s with
  | nil =>
    have ended := framesNone (splitFrameTruncated (@splitHeaderTruncated (uninit 0) [] (by decide)))
    rw [List.flatMap_nil,ended,dispatchFrames,closePlain false opened ssl,sock]
    exact ⟨rfl,rfl⟩
  | cons x rest ih =>
    obtain ⟨frame,split,framed⟩ := sentFramed (uninit 0) sourceAddress x
      (rest.flatMap (Send.bytes sourceAddress))
    have handled := messageHandled agreeable framed sock ssl (ready.imp Option.some.inj id)
    rw [List.flatMap_cons,framesSome split,dispatchFramesActive app frame _ opened]
    generalize messageReceived app frame.action frame.pointer s = o at handled
    obtain ⟨l,t,r⟩ := o
    cases r with
    | error e => exact absurd handled.fault (by simp)
    | ok v =>
      have next := handled.serving
      obtain ⟨returned,later⟩ := ih (fun n => uninit (n+1)) next.sock next.ssl (Or.inr next)
        (fun closed => active (next.sock.symm.trans closed))
      rw [Outcome.andThenOk,Outcome.prependResult,Outcome.prependLog,landmarksAppend,later,handled.landmarks,
        List.flatMap_cons,List.append_assoc]
      exact ⟨returned,rfl⟩

theorem endToEnd (app : Application σ) (agreeable : Agreeable app) (client : DoIPClient)
    (sends : List Send) (uninit : Nat → GenericHeaderAction) (inbox : List Arrival) (s : State σ)
    (fuel : Nat) (opened : isSocketActive s.connection) (plain : s.connection.ssl = none)
    (running : s.connection.aliveCheckTimer.timeout = false)
    (arrives : Inbox.stream inbox = sentStream client (.routingActivationRequest::sends))
    (enough : (Inbox.stream inbox).length < fuel) :
    (Program.sequence send (.routingActivationRequest::sends) client).result = .ok () ∧
      (serve app uninit fuel inbox s).result = .ok () ∧
      landmarks (serve app uninit fuel inbox s).log =
        (.routingActivationRequest::sends).flatMap Send.landmarks ++ [.closed s.connection.clientSock] := by
  have refined := serveRefines app uninit (plainStart plain running) enough
  rw [arrives,sentStreamBytes] at refined
  obtain ⟨returned,delivered⟩ := @framesDelivered σ app agreeable uninit client.sourceAddress
    (.routingActivationRequest::sends) _ s opened rfl plain (Or.inl rfl)
  have result : (serve app uninit fuel inbox s).result = .ok () :=
    (congrArg Outcome.result refined).trans returned
  have log : landmarks (serve app uninit fuel inbox s).log = landmarks (dispatchFrames app (frames uninit
      ((.routingActivationRequest::sends).flatMap (Send.bytes client.sourceAddress))) s).log := by
    rw [← landmarksObserved,← landmarksObserved (dispatchFrames _ _ _).log]
    exact congrArg landmarks (congrArg Outcome.log refined)
  exact ⟨by rw [sequenceWrites],result,log.trans delivered⟩

theorem answeringAgreeable : Agreeable (Application.answering true) :=
  ⟨fun _ _ => rfl,fun _ _ => trivial,fun _ _ _ _ => trivial⟩

theorem endToEndTwoPieces :
    let client : DoIPClient := ⟨3,(0x0E,0x00)⟩
    let sends : List Send := [.aliveCheckResponse,.diagnosticMessage (0x00,0x01) ⟨[0x10],by decide⟩ (by decide)]
    let inbox : List Arrival := [.data 0x02 [0xFD,0x00,0x05,0x00,0x00,0x00,0x07,0x0E,0x00,0x00,0x00,0x00,0x00,0x00,
      0x02,0xFD,0x00,0x08],.data 0x00 [0x00,0x00,0x02,0x0E,0x00,
      0x02,0xFD,0x80,0x01,0x00,0x00,0x00,0x05,0x0E,0x00,0x00,0x01,0x10]]
    let s : State Unit := ⟨DoIPConnection.new 5 0x0E80 none 0 0,⟨[],[],[],[],0⟩,()⟩
    let app := Application.answering true
    let uninit := fun _ : Nat => (⟨.negativeAck,0,0⟩ : GenericHeaderAction)
    (Program.sequence send (.routingActivationRequest::sends) client).result = .ok () ∧
      (serve app uninit 40 inbox s).result = .ok () ∧
      landmarks (serve app uninit 40 inbox s).log =
        (.routingActivationRequest::sends).flatMap Send.landmarks ++ [.closed s.connection.clientSock] :=
  endToEnd _ answeringAgreeable _ _ _ _ _ _ (by decide) rfl rfl (by decide) (by decide)

end LibDoip
