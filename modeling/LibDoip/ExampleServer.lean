import LibDoip.Holding
import LibDoip.Requests
import LibDoip.Library.Transducer

/-! The example server as an application of the library. It acknowledges every diagnostic message and
answers the ones it is handed; what a client reads of it is the transcript of a small machine over the
requests in its stream. -/
namespace LibDoip
open Library
variable {σ : Type}

namespace ExampleServer

def logicalAddress : UInt16 := 0x28

def responseData (data : List UInt8) (length : Int) : UserData :=
  if 2 < length ∧ data.getD 0 0 = 0x22 then
    ⟨[0x62,data.getD 1 0,data.getD 2 0,0x01,0x02,0x03,0x04],by simp⟩
  else ⟨[0x7F,data.getD 0 0,0x11],by simp⟩

def receiveFromLibrary (s : σ) (targetAddress : UInt16) (data : List UInt8) (length : Int) : Script Call Int σ :=
  .call (.sendDiagnosticPayload targetAddress (responseData data length)) (fun _ => .done s)

def diagnosticMessageReceived (s : σ) (_targetAddress : UInt16) : Script Call Int (Bool × σ) :=
  .call (.sendDiagnosticAck logicalAddress true 0x00) (fun _ => .done (true,s))

/- The callbacks that `handleClient` sets. They leave the state of the application alone. -/
def application : Application σ := ⟨diagnosticMessageReceived,receiveFromLibrary⟩

inductive Answer where
  | refusal (code : UInt8)
  | activation (client : Address) (code : UInt8)
  | acknowledgement (client : Address)
  | response (targetAddress : UInt16) (client : Address) (data : UserData)
  deriving DecidableEq, Repr

def Answer.bytes (gateway : UInt16) : Answer → List UInt8
  | .refusal code => negativeAckBytes code
  | .activation client code => activationResponseBytes gateway client code
  | .acknowledgement client => diagnosticAckBytes true logicalAddress client 0x00
  | .response targetAddress client data => diagnosticMessageBytes targetAddress client data

/- A session crashes where the library reads the address of a client that was never routed. -/
inductive Session where
  | unrouted
  | routed (client : Address)
  | closed
  | crashed
  deriving DecidableEq, Repr

def answer : Session → Request → List Answer
  | .closed, _ | .crashed, _ => []
  | _, .refused code => [.refusal code]
  | _, .activation client code => [.activation client code]
  | .unrouted, .diagnostic _ _ _ => []
  | .routed client, .diagnostic source targetAddress data => .acknowledgement client::
      (if source = client ∧ data.length + 4 < 2147483648 then
        [.response targetAddress client (responseData data data.length)] else [])
  | _, .other => []

def next : Session → Request → Session
  | .closed, _ => .closed
  | .crashed, _ => .crashed
  | s, .refused code => if code = incorrectPatternFormatCode ∨ code = invalidPayloadLengthCode then .closed else s
  | _, .activation client code => if code = successfullyRoutedCode then .routed client else .closed
  | .unrouted, .diagnostic _ _ _ => .crashed
  | s, _ => s

def server : Transducer Request Answer Session := ⟨answer,next⟩

theorem closedEnded : server.Ended .closed := ⟨fun _ => rfl,fun _ => rfl⟩

theorem crashedEnded : server.Ended .crashed := ⟨fun _ => rfl,fun _ => rfl⟩

end ExampleServer

open ExampleServer

def State.session (s : State σ) : Session :=
  if s.connection.clientSock = 0 then .closed else match s.connection.routedClientAddress with
    | some client => .routed client
    | none => .unrouted

def sessionOf {α : Type} (o : Outcome Fault Event (State σ) α) : Session := match o.result with
  | .ok _ => o.state.session
  | .error _ => .crashed

def Event.isSend (e : Event) : Bool := e.sent.isSome

def sends (l : List Event) : List Event := l.filter Event.isSend

def sentOn (c : DoIPConnection) (answers : List Answer) : List Event :=
  answers.map (fun a => sendEvent c (a.bytes c.logicalGatewayAddress))

theorem sendEventIsSend (c : DoIPConnection) (bytes : List UInt8) : (sendEvent c bytes).isSend = true := by
  unfold sendEvent
  split <;> rfl

theorem sendsNone {l : List Event} (unsent : l.filterMap Event.sent = []) : sends l = [] := by
  refine List.filter_eq_nil_iff.mpr (fun e member => ?_)
  rw [Event.isSend,List.filterMap_eq_nil_iff.mp unsent e member]
  simp

theorem sendsAppend (l m : List Event) : sends (l ++ m) = sends l ++ sends m := List.filter_append l m

theorem sendsFirst (c : DoIPConnection) (bytes : List UInt8) {rest : List Event} (unsent : rest.filterMap Event.sent = []) :
    sends (sendEvent c bytes::rest) = [sendEvent c bytes] := by
  rw [sends,List.filter_cons_of_pos (sendEventIsSend c bytes)]
  exact congrArg _ (sendsNone unsent)

theorem closedSession {s : State σ} (closed : s.connection.clientSock = 0) : s.session = .closed := if_pos closed

theorem openSession {s : State σ} (active : isSocketActive s.connection) : s.session =
    match s.connection.routedClientAddress with
    | some client => .routed client
    | none => .unrouted := if_neg active

theorem openSessionCases {s : State σ} (active : isSocketActive s.connection) :
    (s.session = .unrouted ∧ s.connection.routedClientAddress = none) ∨
      ∃ client, s.session = .routed client ∧ s.connection.routedClientAddress = some client := by
  rw [openSession active]
  cases s.connection.routedClientAddress with
  | none => exact Or.inl ⟨rfl,rfl⟩
  | some client => exact Or.inr ⟨client,rfl,rfl⟩

theorem Settled.running {s : State σ} (settled : Settled s) (active : isSocketActive s.connection) :
    s.connection.aliveCheckTimer.timeout = false :=
  Bool.eq_false_iff.mpr (fun fired => active (settled.expired fired).2)

theorem sameSession {s t : State σ} (sock : t.connection.clientSock = s.connection.clientSock)
    (routed : t.connection.routedClientAddress = s.connection.routedClientAddress) : t.session = s.session := by
  rw [State.session,State.session,sock,routed]

structure SameChannel (c d : DoIPConnection) : Prop where
  sock : d.clientSock = c.clientSock
  ssl : d.ssl = c.ssl
  gateway : d.logicalGatewayAddress = c.logicalGatewayAddress

theorem SameChannel.trans {c d e : DoIPConnection} (first : SameChannel c d) (second : SameChannel d e) :
    SameChannel c e :=
  ⟨second.sock.trans first.sock,second.ssl.trans first.ssl,second.gateway.trans first.gateway⟩

theorem SameChannel.sentOn {c d : DoIPConnection} (same : SameChannel c d) (answers : List Answer) :
    sentOn d answers = sentOn c answers := by
  refine List.map_congr_left (fun a _ => ?_)
  rw [sendEvent,sendEvent,same.sock,same.ssl,same.gateway]

structure Replies (s : State σ) (request : Request) (o : Outcome Fault Event (State σ) Int) : Prop where
  sends : sends o.log = sentOn s.connection (server.answer s.session request)
  session : sessionOf o = server.next s.session request
  channel : isSocketActive o.state.connection → SameChannel s.connection o.state.connection
  expired : o.state.connection.aliveCheckTimer.timeout = s.connection.aliveCheckTimer.timeout

section Callbacks
variable {s : State σ} {client : Address}

theorem notifiedRouted (targetAddress : UInt16) (routed : s.connection.routedClientAddress = some client) :
    ∃ l environment, notifyApplication application targetAddress s = ⟨l,{s with environment := environment},.ok true⟩ ∧
      sends l = sentOn s.connection [.acknowledgement client] := by
  have sent := sendDiagnosticAckSends logicalAddress true 0x00 routed
  generalize ran : sendDiagnosticAck logicalAddress true 0x00 s = o at sent
  obtain ⟨errors⟩ := sent
  rename_i tail environment value
  refine ⟨.notifyApplication targetAddress::.called (.sendDiagnosticAck logicalAddress true 0x00)::
    sendEvent s.connection (Answer.bytes s.connection.logicalGatewayAddress (.acknowledgement client))::
      (tail ++ [.answered true]),environment,?_,?_⟩
  · simp [notifyApplication,application,diagnosticMessageReceived,Script.interpret,perform,ran,Answer.bytes]
  · refine sendsFirst s.connection _ ?_
    rw [List.filterMap_append,errorsUnsent errors]
    rfl

theorem notifiedUnrouted (targetAddress : UInt16) (unrouted : s.connection.routedClientAddress = none) :
    notifyApplication application targetAddress s = ⟨[.notifyApplication targetAddress,
      .called (.sendDiagnosticAck logicalAddress true 0x00)],s,.error .indeterminatePointer⟩ := by
  simp [notifyApplication,application,diagnosticMessageReceived,Script.interpret,perform,
    sendDiagnosticAckUnrouted logicalAddress true 0x00 unrouted]

theorem deliveredRouted (targetAddress : UInt16) (data : List UInt8)
    (routed : s.connection.routedClientAddress = some client) :
    ∃ l environment, diagCallback application targetAddress data data.length s =
        ⟨l,{s with environment := environment},.ok ()⟩ ∧
      sends l = sentOn s.connection [.response targetAddress client (responseData data data.length)] := by
  have sent := sendDiagnosticPayloadSends targetAddress (responseData data data.length) routed
  generalize ran : sendDiagnosticPayload targetAddress (Buffer.filled (responseData data data.length).bytes)
    (responseData data data.length).bytes.length s = o at sent
  obtain ⟨errors⟩ := sent
  rename_i tail environment value
  refine ⟨.diagCallback targetAddress data data.length::
    .called (.sendDiagnosticPayload targetAddress (responseData data data.length))::
      sendEvent s.connection (Answer.bytes s.connection.logicalGatewayAddress
        (.response targetAddress client (responseData data data.length)))::tail,environment,?_,?_⟩
  · simp [diagCallback,application,receiveFromLibrary,Script.interpret,perform,ran,Answer.bytes]
  · exact sendsFirst s.connection _ (errorsUnsent errors)

end Callbacks

section Reactions
variable {s : State σ}

theorem repliesToRefused {code : UInt8} (active : isSocketActive s.connection) :
    Replies s (.refused code) (reactOnNegativeAck code s) := by
  have reacts := reactOnNegativeAckReacts code s
  generalize reactOnNegativeAck code s = o at reacts
  have answers : server.answer s.session (.refused code) = [.refusal code] := by
    rcases openSessionCases active with ⟨session,_⟩ | ⟨client,session,_⟩ <;> rw [session] <;> rfl
  have next : server.next s.session (.refused code) =
      if code = incorrectPatternFormatCode ∨ code = invalidPayloadLengthCode then .closed else s.session := by
    rcases openSessionCases active with ⟨session,_⟩ | ⟨client,session,_⟩ <;> rw [session] <;> rfl
  cases reacts with
  | @closed l t v fatal closing =>
    refine ⟨?_,?_,fun still => absurd closing.closed.1 still,
      congrArg AliveCheckTimer.timeout closing.closed.2⟩
    · rw [answers]
      exact sendsFirst s.connection _ (closingUnsent closing.effect.events)
    · rw [next,if_pos fatal]
      exact closedSession closing.closed.1
  | kept mild errors =>
    refine ⟨?_,?_,fun _ => ⟨rfl,rfl,rfl⟩,rfl⟩
    · rw [answers]
      exact sendsFirst s.connection _ (errorsUnsent errors)
    · rw [next,if_neg mild]
      exact sameSession rfl rfl

theorem startUnsent {l : List Event} (starting : ∀ e ∈ l, e.OfStart) : l.filterMap Event.sent = [] := by
  refine List.filterMap_eq_nil_iff.mpr (fun e member => ?_)
  have starts := starting e member
  cases e <;> first | rfl | exact starts.elim

theorem repliesToActivation {d0 d1 d2 : UInt8} {rest : List UInt8} (active : isSocketActive s.connection) :
    Replies s (.activation (d0,d1) (activationCode d0 d1 d2))
      (reactOnRoutingActivation (some (Buffer.filled (d0::d1::d2::rest))) s) := by
  have reacts := reactOnRoutingActivationReacts d0 d1 d2 rest s
  generalize reactOnRoutingActivation _ s = o at reacts
  generalize activationCode d0 d1 d2 = code at reacts
  have answers : server.answer s.session (.activation (d0,d1) code) = [.activation (d0,d1) code] := by
    rcases openSessionCases active with ⟨session,_⟩ | ⟨client,session,_⟩ <;> rw [session] <;> rfl
  have next : server.next s.session (.activation (d0,d1) code) =
      if code = successfullyRoutedCode then .routed (d0,d1) else .closed := by
    rcases openSessionCases active with ⟨session,_⟩ | ⟨client,session,_⟩ <;> rw [session] <;> rfl
  cases reacts with
  | @refused l t failed closing =>
    refine ⟨?_,?_,fun still => absurd closing.closed.1 still,
      congrArg AliveCheckTimer.timeout closing.closed.2⟩
    · rw [answers]
      exact sendsFirst s.connection _ (closingUnsent closing.effect.events)
    · rw [next,if_neg failed]
      exact closedSession closing.closed.1
  | @routed l t v success started =>
    refine ⟨?_,?_,fun _ => ⟨started.sock,started.ssl,started.gateway⟩,started.expired⟩
    · rw [answers]
      exact sendsFirst s.connection _ (startUnsent started.events)
    · rw [next,if_pos success]
      have active' : isSocketActive t.connection := fun closed => active (started.sock.symm.trans closed)
      exact (openSession active').trans (by rw [started.routed])

theorem repliesToDiagnostic {d0 d1 d2 d3 : UInt8} {data : List UInt8} (active : isSocketActive s.connection)
    (bound : data.length + 4 < 4294967296) :
    Replies s (.diagnostic (d0,d1) (bigEndian16 d2 d3) data)
      (reactOnDiagnosticMessage application (data.length + 4) (some (Buffer.filled (d0::d1::d2::d3::data))) s) := by
  rcases openSessionCases active with ⟨session,unrouted⟩ | ⟨client,session,routed⟩
  · have l2 : Buffer.loadFrom (some (Buffer.filled (d0::d1::d2::d3::data))) 2 = .ok d2 := rfl
    have l3 : Buffer.loadFrom (some (Buffer.filled (d0::d1::d2::d3::data))) 3 = .ok d3 := rfl
    rw [reactOnDiagnosticMessage,l2,Program.liftOkBind,l3,Program.liftOkBind,Program.bindApply,
      notifiedUnrouted _ unrouted,Outcome.andThenError]
    exact ⟨by rw [session]; rfl,by rw [session]; rfl,fun _ => ⟨rfl,rfl,rfl⟩,rfl⟩
  · obtain ⟨l,environment,notified,acknowledged⟩ := notifiedRouted (bigEndian16 d2 d3) routed
    rw [announcedDiagnostic application d0 d1 d2 d3 data bound routed,announceAndCheck,Program.bindApply,notified,
      Outcome.andThenOk,Program.bindApply]
    by_cases permitted : client = (d0,d1) ∧ data.length + 4 < 2147483648
    · have answers : server.answer (.routed client) (.diagnostic (d0,d1) (bigEndian16 d2 d3) data) =
          [.acknowledgement client] ++ [.response (bigEndian16 d2 d3) client (responseData data data.length)] :=
        congrArg (List.cons _) (if_pos ⟨permitted.1.symm,permitted.2⟩)
      obtain ⟨m,environment',delivered,responded⟩ := @deliveredRouted σ {s with environment := environment} client
        (bigEndian16 d2 d3) data routed
      rw [Program.whenTrue ⟨rfl,permitted⟩,delivered]
      have same : (State.session {s with environment := environment'}) = .routed client := (sameSession rfl rfl).trans session
      refine ⟨?_,by rw [session]; exact same,fun _ => ⟨rfl,rfl,rfl⟩,rfl⟩
      rw [session,answers]
      simp only [Outcome.andThenOk,Program.pureApply,Outcome.prependMk,List.append_nil,sendsAppend,acknowledged,
        responded,sentOn,List.map_append]
    · have answers : server.answer (.routed client) (.diagnostic (d0,d1) (bigEndian16 d2 d3) data) =
          [.acknowledgement client] :=
        congrArg (List.cons _) (if_neg (fun both => permitted ⟨both.1.symm,both.2⟩))
      rw [Program.whenFalse (fun all => permitted all.2)]
      have same : (State.session {s with environment := environment}) = .routed client := (sameSession rfl rfl).trans session
      refine ⟨?_,by rw [session]; exact same,fun _ => ⟨rfl,rfl,rfl⟩,rfl⟩
      rw [session,answers]
      simp only [Program.pureApply,Outcome.andThenOk,Outcome.prependMk,List.append_nil,acknowledged]

theorem repliesToOther {v : Int} (active : isSocketActive s.connection) : Replies s .other ⟨[],s,.ok v⟩ := by
  rcases openSessionCases active with ⟨session,_⟩ | ⟨client,session,_⟩
  · exact ⟨by rw [session]; rfl,by rw [session]; exact session,fun _ => ⟨rfl,rfl,rfl⟩,rfl⟩
  · exact ⟨by rw [session]; rfl,by rw [session]; exact session,fun _ => ⟨rfl,rfl,rfl⟩,rfl⟩

theorem Replies.after {t : State σ} {request : Request} {o : Outcome Fault Event (State σ) Int} {l : List Event}
    (replies : Replies t request o) (retimed : Retimed s t) (unsent : l.filterMap Event.sent = []) :
    Replies s request (o.prepend l) := by
  have same : t.session = s.session := sameSession retimed.sock retimed.routed
  have channel : SameChannel s.connection t.connection := ⟨retimed.sock,retimed.ssl,retimed.gateway⟩
  refine ⟨?_,replies.session.trans (by rw [same]),fun still => channel.trans (replies.channel still),
    replies.expired.trans retimed.expired⟩
  rw [Outcome.prependLog,sendsAppend,sendsNone unsent,List.nil_append,replies.sends,same,channel.sentOn]

theorem frameReplies (frame : Frame) (active : isSocketActive s.connection) :
    Replies s frame.request (react application frame.action frame.payload s) := by
  have noted : ∀ {request o}, Replies s request o →
      Replies s request (o.prepend [.received frame.action (payloadPointer frame.payload)]) :=
    fun replies => replies.after (Retimed.refl s) rfl
  unfold Frame.request requestOf
  cases type : frame.action.type with
  | negativeAck =>
    rw [reactNack type]
    exact noted (repliesToRefused active)
  | routingActivationRequest =>
    obtain ⟨d0,d1,d2,rest,payload⟩ := activationPayload frame.rules frame.size type
    rw [reactActivation type,payload]
    rw [payload] at noted
    exact noted (repliesToActivation active)
  | diagnosticMessage =>
    obtain ⟨d0,d1,d2,d3,data,payload,_,size⟩ := frame.diagnosticBytes type
    have bound : data.length + 4 < 4294967296 := by rw [← size]; exact frame.rules.bound
    rw [reactDiagnostic type,payload,size]
    rw [payload] at noted
    exact noted (repliesToDiagnostic active bound)
  | _ =>
    obtain ⟨v,ran⟩ := @otherReacts σ application frame.action frame.payload s (by simp [type]) (by simp [type]) (by simp [type])
    rw [ran]
    exact noted (o := ⟨[],s,.ok v⟩) (repliesToOther active)

theorem messageReplies (frame : Frame) (active : isSocketActive s.connection) :
    Replies s frame.request (messageReceived application frame.action frame.pointer s) := by
  unfold messageReceived
  rw [Program.bindApply,connectionApply,Outcome.andThenOk,Outcome.prependNil]
  by_cases running : s.connection.aliveCheckTimer.active = true
  · obtain ⟨now,t,reset,retimed⟩ := resetTimerRetimed running
    have active' : isSocketActive t.connection := fun closed => active (retimed.sock.symm.trans closed)
    rw [Program.whenTrue running,Program.bindApply,reset,Outcome.andThenOk]
    exact (frameReplies frame active').after retimed rfl
  · rw [Program.whenFalse running,pure_bind]
    exact frameReplies frame active

end Reactions

theorem sentOnAppend (c : DoIPConnection) (answers later : List Answer) :
    sentOn c (answers ++ later) = sentOn c answers ++ sentOn c later := List.map_append

def Event.InBounds : Event → Prop
  | .diagCallback _ data length => 0 < data.length ∧ length = data.length
  | _ => True

theorem callInBounds {e : Event} (h : e.OfCall) : e.InBounds := by
  cases e <;> first | trivial | exact (h.elim id id).elim

theorem reactionInBounds {app : Application σ} {frame : Frame} {s : State σ} {o : Outcome Fault Event (State σ) Int}
    (h : Reaction app frame.action frame.pointer s o) : ∀ e ∈ o.log, e.InBounds := by
  have sending : ∀ c bytes, (sendEvent c bytes).InBounds := by
    intro c bytes
    unfold sendEvent
    split <;> trivial
  have looked : ∀ {l : List Event}, (∀ e ∈ l, ∃ ssl err, e = .sslError ssl err ∧ s.connection.ssl = some ssl) →
      ∀ e ∈ l, e.InBounds := by
    intro l errors e member
    obtain ⟨_,_,rfl,_⟩ := errors e member
    trivial
  have notice : ∀ {targetAddress p}, Notified app targetAddress s p → ∀ e ∈ p.log, e.InBounds := by
    intro targetAddress p notified
    cases notified with
    | stopped effect _ =>
      exact List.forall_mem_cons.mpr ⟨trivial,fun e member => callInBounds (effect.events e member)⟩
    | answered effect _ =>
      exact List.forall_mem_append.mpr ⟨List.forall_mem_cons.mpr ⟨trivial,fun e member =>
        callInBounds (effect.events e member)⟩,List.forall_mem_singleton.mpr trivial⟩
  cases h with
  | ignored => simp
  | unreadable => simp
  | negativeAck _ reaction =>
    cases reaction with
    | closed _ closing => exact List.forall_mem_cons.mpr ⟨sending _ _,fun e member =>
        callInBounds (Event.closingIsCall (closing.effect.events e member))⟩
    | kept _ errors => exact List.forall_mem_cons.mpr ⟨sending _ _,looked errors⟩
  | activation _ _ _ _ _ _ reaction =>
    cases reaction with
    | refused _ closing => exact List.forall_mem_cons.mpr ⟨sending _ _,fun e member =>
        callInBounds (Event.closingIsCall (closing.effect.events e member))⟩
    | routed _ started =>
      refine List.forall_mem_cons.mpr ⟨sending _ _,fun e member => ?_⟩
      have starts := started.events e member
      cases e <;> trivial
  | diagnostic d0 d1 d2 d3 data type bytes size reaction =>
    have some := frame.rules.diagnostic type
    cases reaction with
    | stopped notified => exact notice notified
    | unheard notified _ => exact notice notified
    | unrouted notified _ _ => exact notice notified
    | @delivered _ _ _ _ r notified _ _ delivered =>
      refine List.forall_mem_append.mpr ⟨notice notified,?_⟩
      cases delivered with
      | stopped effect _ => exact List.forall_mem_cons.mpr ⟨⟨by omega,rfl⟩,fun e member =>
          callInBounds (effect.events e member)⟩
      | returned effect _ => exact List.forall_mem_cons.mpr ⟨⟨by omega,rfl⟩,fun e member =>
          callInBounds (effect.events e member)⟩

theorem messageInBounds (app : Application σ) (frame : Frame) (s : State σ) :
    ∀ e ∈ (messageReceived app frame.action frame.pointer s).log, e.InBounds := by
  have dispatched := messageReceivedDispatched app (.frame frame) frame.rules.bound s
  generalize messageReceived app frame.action frame.pointer s = o at dispatched
  cases dispatched with
  | @dispatched resets t o reset _ reaction =>
    refine List.forall_mem_append.mpr ⟨List.forall_mem_append.mpr ⟨fun e member => ?_,
      List.forall_mem_singleton.mpr trivial⟩,reactionInBounds reaction⟩
    obtain ⟨now,rfl⟩ := reset e member
    trivial

theorem readingIsQuiet {l : List Event} (reading : ∀ e ∈ l, e.OfReading) :
    l.filterMap Event.sent = [] ∧ ∀ e ∈ l, e.InBounds := by
  refine ⟨List.filterMap_eq_nil_iff.mpr (fun e member => ?_),fun e member => ?_⟩
  · have reads := reading e member
    cases e <;> first | rfl | exact reads.elim
  · have reads := reading e member
    cases e <;> trivial

namespace ExampleServer

/- The thread of one client, on all that the client ever sends; neither the timer nor another thread has a
turn in it. -/
def handleClient (uninit : Nat → GenericHeaderAction) (fuel : Nat) (inbox : List Arrival) : Doip σ Unit := do
  setGeneralInactivityTime 50000
  serve application uninit fuel inbox
  triggerDisconnection

end ExampleServer

structure Transcribed (s : State σ) (stream : List UInt8) (o : Outcome Fault Event (State σ) Unit) : Prop where
  sends : sends o.log = sentOn s.connection (server.transcript s.session (requests stream))
  returns : o.fault = none ↔ server.after s.session (requests stream) ≠ .crashed
  closes : o.fault = none → o.state.connection.clientSock = 0
  bounds : ∀ e ∈ o.log, e.InBounds

theorem Transcribed.prepend {s : State σ} {stream : List UInt8} {o : Outcome Fault Event (State σ) Unit}
    (served : Transcribed s stream o) {l : List Event} (unsent : l.filterMap Event.sent = []) (bounds : ∀ e ∈ l, e.InBounds) : Transcribed s stream (o.prepend l) := by
  refine ⟨?_,served.returns,served.closes,List.forall_mem_append.mpr ⟨bounds,served.bounds⟩⟩
  rw [Outcome.prependLog,sendsAppend,sendsNone unsent,List.nil_append]
  exact served.sends

theorem closedTranscribed {s : State σ} (closed : s.connection.clientSock = 0) (stream : List UInt8) :
    Transcribed s stream ⟨[],s,.ok ()⟩ := by
  have session := closedSession closed
  refine ⟨?_,iff_of_true rfl ?_,fun _ => closed,List.forall_mem_nil _⟩
  · rw [session,closedEnded.transcript]
    rfl
  · rw [session,closedEnded.after]
    exact Session.noConfusion

theorem Replies.transcribed {s : State σ} {request : Request} {stream rest : List UInt8} {o : Outcome Fault Event (State σ) Int}
    {x : Doip σ Unit} (replies : Replies s request o) (bounds : ∀ e ∈ o.log, e.InBounds)
    (cut : requests stream = request::requests rest) (later : o.fault = none → Transcribed o.state rest (x o.state)) :
    Transcribed s stream (o.andThen (fun _ => x)) := by
  obtain ⟨l,t,r⟩ := o
  have session := replies.session
  cases r with
  | error e =>
    have crashed : server.next s.session request = .crashed := session.symm
    have ended := crashedEnded.after (requests rest)
    refine ⟨?_,iff_of_false (Option.some_ne_none e) ?_,fun fine => absurd fine (Option.some_ne_none e),bounds⟩
    · rw [cut,Transducer.transcriptCons,crashed,crashedEnded.transcript,List.append_nil]
      exact replies.sends
    · rw [cut,Transducer.afterCons,crashed]
      exact fun other => other ended
  | ok v =>
    have next : server.next s.session request = t.session := session.symm
    have served := later rfl
    dsimp only at served
    rw [Outcome.andThenOk]
    refine ⟨?_,?_,served.closes,List.forall_mem_append.mpr ⟨bounds,served.bounds⟩⟩
    · rw [Outcome.prependLog,sendsAppend,replies.sends,served.sends,cut,Transducer.transcriptCons,next,sentOnAppend]
      by_cases still : isSocketActive t.connection
      · rw [(replies.channel still).sentOn]
      · rw [closedSession (Decidable.not_not.mp still),closedEnded.transcript]
        rfl
    · rw [cut,Transducer.afterCons,next]
      exact served.returns

section Serving
variable {uninit : GenericHeaderAction} {inbox : List Arrival} {s : State σ}

theorem receiveEnds (readable : AllReadable s.connection.ssl (Inbox.stream inbox))
    (none : splitFrame uninit (Inbox.stream inbox) = none) :
    ∃ l t rest, receiveTcpOrTlsMessage application uninit inbox s = ⟨l,t,.ok ⟨0,rest⟩⟩ ∧
      t.connection.clientSock = 0 ∧ l.filterMap Event.sent = [] ∧ ∀ e ∈ l, e.InBounds := by
  have received := receives application uninit inbox s
  generalize receiveTcpOrTlsMessage application uninit inbox s = o at received
  cases received with
  | @closed l m t u rest reading _ _ ran =>
    obtain ⟨shut,closing⟩ := closeSocketClosed ran
    obtain ⟨unsent,bounds⟩ := readingIsQuiet (l := l ++ m) (List.forall_mem_append.mpr ⟨reading.effect.events,
      fun e member => Event.closingIsReading (closing.events e member)⟩)
    exact ⟨_,_,_,rfl,shut,unsent,List.forall_mem_cons.mpr ⟨trivial,bounds⟩⟩
  | frame _ _ split _ => cases none.symm.trans split
  | @mistaken _ _ action _ _ clash header _ size =>
    obtain ⟨bytes,header⟩ := header
    have small := (readable _ (declaredHeader header)).resolve_left clash.1
    omega

/- The induction is on the fuel; each call but the last takes a frame off the stream and answers it. -/
theorem serveTranscribed {uninit : Nat → GenericHeaderAction} {fuel : Nat} (settled : Settled s)
    (active : isSocketActive s.connection) (readable : AllReadable s.connection.ssl (Inbox.stream inbox))
    (enough : (Inbox.stream inbox).length < fuel) :
    Transcribed s (Inbox.stream inbox) (serve application uninit fuel inbox s) := by
  induction fuel generalizing uninit inbox s with
  | zero => omega
  | succ fuel ih =>
    have running := settled.running active
    rw [serveActive application uninit fuel inbox active]
    cases split : splitFrame (uninit 0) (Inbox.stream inbox) with
    | none =>
      obtain ⟨l,t,rest,ran,shut,unsent,bounds⟩ := receiveEnds readable split
      rw [ran,Outcome.andThenOk,serveClosed application _ fuel rest shut,Outcome.prependMk,List.append_nil]
      refine ⟨?_,iff_of_true rfl ?_,fun _ => shut,bounds⟩
      · rw [requestsNone split]
        exact sendsNone unsent
      · rw [requestsNone split]
        rcases openSessionCases active with ⟨session,_⟩ | ⟨client,session,_⟩ <;>
          exact fun crashed => Session.noConfusion (session.symm.trans crashed)
    | some found =>
      obtain ⟨frame,bytes⟩ := found
      have cut := declaredCut split
      have fits : ReadableOver s.connection.ssl frame.action.payloadLength.toNat :=
        readable _ (by rw [cut]; exact List.mem_cons_self)
      have shorter := splitFrameShorter split
      obtain ⟨l,rest,ran,next,events⟩ := receivesWhole application fits running split
      obtain ⟨unsent,quiet⟩ := readingIsQuiet (readsEffect events).events
      have replies := messageReplies frame active
      have shuts := (messageReceivedDispatched application (.frame frame) frame.rules.bound s).shuts
      rw [ran,Outcome.andThenPrepend,Program.bindApply,Outcome.andThenAssoc]
      refine Transcribed.prepend ?_ unsent (List.forall_mem_cons.mpr ⟨trivial,quiet⟩)
      refine @Replies.transcribed σ s frame.request _ bytes _ (serve application (fun n => uninit (n+1)) fuel rest)
        replies (messageInBounds application frame s) (requestsCut split) (fun returned => ?_)
      by_cases still : isSocketActive (messageReceived application frame.action frame.pointer s).state.connection
      · rw [← next] at cut ⊢
        refine ih (shuts.settled returned settled) still ?_ (by rw [next]; omega)
        rw [(replies.channel still).ssl]
        exact fun n member => readable n (by rw [cut]; exact List.mem_cons_of_mem _ member)
      · have closed := Decidable.not_not.mp still
        rw [serveClosed application _ fuel rest closed]
        exact closedTranscribed closed bytes

end Serving

theorem exampleServes (uninit : Nat → GenericHeaderAction) (inbox : List Arrival) (s : State σ) (fuel : Nat)
    (fresh : Fresh s) (opened : isSocketActive s.connection)
    (readable : AllReadable s.connection.ssl (Inbox.stream inbox)) (enough : (Inbox.stream inbox).length < fuel) :
    let o := ExampleServer.handleClient uninit fuel inbox s
    sends o.log = sentOn s.connection (server.transcript .unrouted (requests (Inbox.stream inbox))) ∧
      (o.fault = none ↔ server.after .unrouted (requests (Inbox.stream inbox)) ≠ .crashed) ∧
      (o.fault = none → o.state.connection.clientSock = 0) ∧ ∀ e ∈ o.log, e.InBounds := by
  obtain ⟨fd,gateway,ssl,startTime,maxSeconds,new⟩ := fresh
  have set : setGeneralInactivityTime 50000 s = ⟨[],s.setTimer (·.setTimer 50000),.ok ()⟩ := rfl
  have session : (s.setTimer (·.setTimer 50000)).session = .unrouted := by
    rw [openSession (s := s.setTimer (·.setTimer 50000)) opened,State.setTimer,State.setConnection,new]
    rfl
  have running : (s.setTimer (·.setTimer 50000)).connection.aliveCheckTimer.timeout = false := by
    rw [State.setTimer,State.setConnection,new]
    rfl
  have settled : Settled (s.setTimer (·.setTimer 50000)) :=
    ⟨fun closed => absurd closed opened,fun fired => by rw [running] at fired; contradiction⟩
  have served : Transcribed (s.setTimer (·.setTimer 50000)) (Inbox.stream inbox)
      (serve application uninit fuel inbox (s.setTimer (·.setTimer 50000))) := serveTranscribed settled opened readable enough
  dsimp only
  rw [ExampleServer.handleClient,Program.bindApply,set,Outcome.andThenOk,Outcome.prependNil,Program.bindApply]
  generalize serve application uninit fuel inbox _ = o at served
  have sent := served.sends
  have returns := served.returns
  rw [session] at sent returns
  obtain ⟨l,t,r⟩ := o
  cases r with
  | error e => exact ⟨sent,returns,served.closes,served.bounds⟩
  | ok v =>
    refine ⟨?_,returns,served.closes,List.forall_mem_append.mpr ⟨served.bounds,List.forall_mem_singleton.mpr trivial⟩⟩
    rw [Outcome.andThenOk,Outcome.prependLog,sendsAppend]
    exact (List.append_nil _).trans sent

theorem exampleServesRead :
    let inbox : List Arrival := [.data 0x02 [0xFD,0x00,0x05,0x00,0x00,0x00,0x07,0x0E,0x00,0x00,0x00,0x00,0x00,0x00,
      0x02,0xFD,0x80],.data 0x01 [0x00,0x00,0x00,0x07,0x0E,0x00,0x00,0x28,0x22,0xF1,0x90]]
    let s := State.opened (some 1)
    let o := ExampleServer.handleClient (fun _ => noAction) 40 inbox s
    sends o.log = sentOn s.connection (server.transcript .unrouted (requests (Inbox.stream inbox))) ∧
      (o.fault = none ↔ server.after .unrouted (requests (Inbox.stream inbox)) ≠ .crashed) ∧
      (o.fault = none → o.state.connection.clientSock = 0) ∧ ∀ e ∈ o.log, e.InBounds := by
  refine exampleServes _ _ _ _ (State.openedFresh _) (by decide) (fun n member => Or.inr ?_) (by decide)
  rw [@declaredCut noAction _ _ _ rfl,@declaredCut noAction _ _ _ rfl,declaredNone rfl] at member
  rcases List.mem_cons.mp member with rfl | second
  · decide
  · cases List.mem_singleton.mp second
    decide

end LibDoip
