import LibDoip.UdpReplies

/-! Announcements, and where they go while the listener thread answers requests. Both threads address
their datagrams by the one member `clientAddress`. -/
namespace LibDoip
open Library

def announcementAddress (clientAddress : SockAddr) : SockAddr :=
  {clientAddress with port := announcementPort, addr := broadcastAddr}

def ServerState.announcing (s : ServerState) : ServerState :=
  ⟨{s.server with clientAddress := announcementAddress s.server.clientAddress},s.results.tail⟩

theorem sendVehicleAnnouncementApply (unassigned : Int) (s : ServerState) :
    sendVehicleAnnouncement unassigned s =
      ((if s.results.headD 0 = 0 then do
          let message ← Program.lift (identificationResponse s.server)
          announce message s.server.aDoIPAnnounceNum.toNat unassigned
        else pure (-1) : Udp Int) s.announcing).prepend [.setsockopt s.server.serverSocketUdp .broadcast] := (rfl)

inductive Announcer where
  | start (unassigned : Int)
  | looping (message : Buffer) (i : Nat) (sendedmessage : Int)
  | done
  deriving DecidableEq, Repr

inductive UdpMove where
  | announcer
  | listener (uninit : GenericHeaderAction) (incoming : Incoming)
  deriving DecidableEq, Repr

def udpMove : UdpMove → Announcer → Udp Announcer
  | .announcer, .start unassigned => do
      Program.modify (·.setServer (fun v => {v with clientAddress := announcementAddress v.clientAddress}))
      let s ← Program.get
      Program.emit (.setsockopt s.server.serverSocketUdp .broadcast)
      let socketError ← systemCall 0
      if socketError = 0 then do
        let message ← Program.lift (identificationResponse s.server)
        pure (.looping message 0 unassigned)
      else do
        Program.emit (.returned (-1))
        pure .done
  | .announcer, .looping message i sendedmessage => do
      let s ← Program.get
      if (i : Int) < s.server.aDoIPAnnounceNum then do
        let sendedmessage ← sendto message (genericHeaderLength + viResponseLength)
        let s ← Program.get
        Program.emit (.sleep s.server.aDoIPAnnounceInterval)
        pure (.looping message (i+1) sendedmessage)
      else do
        Program.emit (.returned sendedmessage)
        pure .done
  | .announcer, .done => pure .done
  | .listener uninit incoming, position => do
      serverStep (.receiveUdpMessage uninit incoming) ()
      pure position

theorem sendtoAddressed (message : Buffer) (messageLength : Int) (s : ServerState) :
    (∃ e, sendto message messageLength s = ⟨[],s,.error e⟩) ∨
      ∃ bytes value, sendto message messageLength s =
        ⟨[.sendto s.server.serverSocketUdp bytes s.server.clientAddress],{s with results := s.results.tail},
          .ok value⟩ := by
  unfold sendto
  rw [Program.bindApply,Program.getApply,Outcome.andThenOk,Outcome.prependNil]
  cases message.contents (intToUnsignedLong messageLength) with
  | error e => exact Or.inl ⟨e,rfl⟩
  | ok bytes => exact Or.inr ⟨bytes,_,rfl⟩

theorem loopsAlone (message : Buffer) (n i : Nat) (sendedmessage : Int) {s : ServerState}
    (left : n = (s.server.aDoIPAnnounceNum - i).toNat) :
    Program.iterate udpMove (List.replicate (n+1) .announcer) (.looping message i sendedmessage) s =
      ((do
        let value ← announce message n sendedmessage
        Program.emit (.returned value)
        pure .done : Udp Announcer) s) := by
  induction n generalizing i sendedmessage s with
  | zero =>
    have ended : ¬ (i : Int) < s.server.aDoIPAnnounceNum := by omega
    simp [Program.iterate,udpMove,ended,announce]
  | succ n ih =>
    have more : (i : Int) < s.server.aDoIPAnnounceNum := by omega
    rw [List.replicate_succ,Program.iterate,announce]
    simp only [udpMove,Program.bindApply,Program.getApply,Outcome.andThenOk,if_pos more]
    rcases sendtoAddressed message (genericHeaderLength + viResponseLength) s with ⟨e,sent⟩ | ⟨bytes,value,sent⟩
    · rw [sent]
      rfl
    · have later := @ih (i+1) value {s with results := s.results.tail} (by dsimp only; omega)
      simp only [Program.bindApply] at later
      simp only [sent,Program.bindApply,Program.getApply,Program.emitApply,Program.pureApply,Outcome.andThenOk,
        Outcome.andThenPrepend,Outcome.prependMk,Outcome.prependPrepend,List.nil_append,later]
      rfl

theorem startApply (unassigned : Int) (s : ServerState) :
    udpMove .announcer (.start unassigned) s =
      ((if s.results.headD 0 = 0 then do
          let message ← Program.lift (identificationResponse s.server)
          pure (.looping message 0 unassigned)
        else do
          Program.emit (.returned (-1))
          pure .done : Udp Announcer) s.announcing).prepend [.setsockopt s.server.serverSocketUdp .broadcast] := (rfl)

theorem announcesAlone (unassigned : Int) (s : ServerState) :
    ∃ n, Program.iterate udpMove (List.replicate n .announcer) (.start unassigned) s =
      ((do
        serverStep (.sendVehicleAnnouncement unassigned) ()
        pure .done : Udp Announcer) s) := by
  have called : serverStep (.sendVehicleAnnouncement unassigned) () s = (do
      let value ← sendVehicleAnnouncement unassigned
      Program.emit (.returned value) : Udp Unit) s := rfl
  rw [Program.bindApply,called,Program.bindApply,sendVehicleAnnouncementApply]
  by_cases accepted : s.results.headD 0 = 0
  · refine ⟨s.server.aDoIPAnnounceNum.toNat+2,?_⟩
    have loops := @loopsAlone (Buffer.filled (identificationBytes s.server)) s.server.aDoIPAnnounceNum.toNat 0
      unassigned s.announcing (by simp [ServerState.announcing])
    have created : identificationResponse s.server = .ok (Buffer.filled (identificationBytes s.server)) :=
      createdVehicleIdentificationResponse _ _ _ _ _
    rw [List.replicate_succ,Program.iterate,Program.bindApply,startApply,if_pos accepted,if_pos accepted,created,
      Program.liftOkBind,Program.liftOkBind]
    simp only [Program.pureApply,Outcome.prependMk,Outcome.andThenOk,List.append_nil,loops,Program.bindApply,
      Outcome.andThenPrepend,Outcome.andThenAssoc]
    rfl
  · refine ⟨1,?_⟩
    rw [List.replicate_succ,Program.iterate,Program.bindApply,startApply,if_neg accepted,if_neg accepted]
    rfl

def broadcastAddress : SockAddr := ⟨afInet,announcementPort,broadcastAddr⟩

def AnnouncesToBroadcast (m : UdpMove) (position : Announcer) (s : ServerState) : Prop :=
  m = .announcer → ∀ recipient ∈ destinations (udpMove m position s).log, recipient.Matches broadcastAddress

def Pending (position : Announcer) (s : ServerState) : Prop := match position with
  | .looping _ i _ => (i : Int) < s.server.aDoIPAnnounceNum
  | _ => False

def Responds (uninit : GenericHeaderAction) : Incoming → Prop
  | .failed => uninit.type = .negativeAck ∨ uninit.type = .vehicleIdentRequest
  | .datagram _ bytes => Answered uninit bytes

/- No datagram is answered while rounds are to come, unless the server is bound to the broadcast address itself. -/
def Undisturbed (m : UdpMove) (position : Announcer) (s : ServerState) : Prop := match m with
  | .announcer => True
  | .listener uninit incoming => Pending position s → Responds uninit incoming →
      s.server.serverAddress.Matches broadcastAddress

def Aimed (position : Announcer) (s : ServerState) : Prop :=
  Pending position s → s.server.clientAddress.Matches broadcastAddress

structure Listened (uninit : GenericHeaderAction) (incoming : Incoming) (s t : ServerState) : Prop where
  num : t.server.aDoIPAnnounceNum = s.server.aDoIPAnnounceNum
  client : t.server.clientAddress = s.server.clientAddress ∨
    Responds uninit incoming ∧ t.server.clientAddress = s.server.replyAddress

theorem replyAnswers {v : DoIPServer} {action : GenericHeaderAction} {message : List UInt8}
    (reply : replyBytes v action = some message) :
    action.type = .negativeAck ∨ action.type = .vehicleIdentRequest := by
  unfold replyBytes at reply
  split at reply
  · rename_i type
    exact Or.inl type
  · rename_i type
    exact Or.inr type
  · contradiction

theorem listenedTo (uninit : GenericHeaderAction) (incoming : Incoming) (s : ServerState) :
    Listened uninit incoming s (serverStep (.receiveUdpMessage uninit incoming) () s).state := by
  cases incoming with
  | failed =>
    have reacts := @reactToReceivedUdpMessageReacts uninit uninit (-1) s rfl
    simp only [serverStep,receiveUdpMessage,recvfrom,Program.bindApply,Program.getApply,Program.emitApply,
      Program.pureApply,Outcome.andThenOk,Outcome.prependMk]
    generalize reactToReceivedUdpMessage uninit (-1) s = o at reacts ⊢
    cases reacts with
    | answered reply => exact ⟨rfl,Or.inr ⟨replyAnswers reply,rfl⟩⟩
    | silent _ => exact ⟨rfl,Or.inl rfl⟩
  | datagram sender bytes =>
    obtain ⟨action,parsed,reacts⟩ := receiveUdpMessageReacts uninit sender bytes s
    generalize serverStep (.receiveUdpMessage uninit (.datagram sender bytes)) () s = o at reacts ⊢
    cases reacts with
    | answered reply => exact ⟨rfl,Or.inr ⟨⟨action,parsed,replyAnswers reply⟩,rfl⟩⟩
    | silent _ => exact ⟨rfl,Or.inl rfl⟩

def Announces (o : Outcome Fault ServerEvent ServerState Announcer) : Prop :=
  (∀ recipient ∈ destinations o.log, recipient.Matches broadcastAddress) ∧
    ∀ position, o.result = .ok position → Aimed position o.state

theorem startAnnounces (unassigned : Int) (s : ServerState) : Announces (udpMove .announcer (.start unassigned) s) := by
  rw [startApply]
  split
  · rw [identificationResponse,createdVehicleIdentificationResponse,Program.liftOkBind]
    refine ⟨by simp [destinations,destination],?_⟩
    rintro _ ⟨⟩
    exact fun _ => ⟨rfl,rfl⟩
  · refine ⟨by simp [destinations,destination],?_⟩
    rintro _ ⟨⟩ looping
    cases looping

theorem loopAnnounces {message : Buffer} {i : Nat} {sendedmessage : Int} {s : ServerState}
    (aimed : Aimed (.looping message i sendedmessage) s) :
    Announces (udpMove .announcer (.looping message i sendedmessage) s) := by
  rw [udpMove,Program.bindApply,Program.getApply,Outcome.andThenOk,Outcome.prependNil]
  split
  · rename_i more
    rcases sendtoAddressed message (genericHeaderLength + viResponseLength) s with ⟨e,sent⟩ | ⟨bytes,value,sent⟩
    · rw [Program.bindApply,sent]
      exact ⟨by simp [destinations],nofun⟩
    · rw [Program.bindApply,sent]
      refine ⟨?_,?_⟩
      · intro recipient member
        cases List.mem_singleton.mp member
        exact aimed more
      · rintro _ ⟨⟩
        exact fun _ => aimed more
  · refine ⟨by simp [destinations,destination],?_⟩
    rintro _ ⟨⟩
    exact nofun

theorem listenerAims {uninit : GenericHeaderAction} {incoming : Incoming} {position : Announcer} {s t : ServerState}
    (aimed : Aimed position s) (undisturbed : Undisturbed (.listener uninit incoming) position s)
    (listened : Listened uninit incoming s t) : Aimed position t := by
  intro pending
  have before : Pending position s := by
    cases position with
    | looping message i sendedmessage =>
      have left : (i : Int) < t.server.aDoIPAnnounceNum := pending
      rw [listened.num] at left
      exact left
    | _ => exact pending.elim
  rcases listened.client with same | ⟨responds,replied⟩
  · rw [same]
    exact aimed before
  · rw [replied]
    exact undisturbed before responds

theorem udpMoveAnnounces (m : UdpMove) (position : Announcer) (s : ServerState) (aimed : Aimed position s)
    (undisturbed : Undisturbed m position s) :
    AnnouncesToBroadcast m position s ∧
      ∀ position', (udpMove m position s).result = .ok position' → Aimed position' (udpMove m position s).state := by
  cases m with
  | announcer =>
    have announces : Announces (udpMove .announcer position s) := by
      cases position with
      | start unassigned => exact startAnnounces unassigned s
      | looping message i sendedmessage => exact loopAnnounces aimed
      | done => exact ⟨by simp [udpMove,destinations],by rintro _ ⟨⟩; exact nofun⟩
    exact ⟨fun _ => announces.1,announces.2⟩
  | listener uninit incoming =>
    have listened := listenedTo uninit incoming s
    refine ⟨nofun,?_⟩
    rw [udpMove,Program.bindApply]
    generalize serverStep (.receiveUdpMessage uninit incoming) () s = o at listened
    obtain ⟨l,t,result⟩ := o
    cases result with
    | error e => exact nofun
    | ok u =>
      rintro _ ⟨⟩
      exact listenerAims aimed undisturbed listened

theorem announcedToBroadcast (moves : List UdpMove) (unassigned : Int) (s : ServerState)
    (undisturbed : Program.Each Undisturbed udpMove moves (.start unassigned) s) :
    Program.Each AnnouncesToBroadcast udpMove moves (.start unassigned) s :=
  Program.eachOfInvariant udpMoveAnnounces nofun undisturbed

section Scenario

def ServerState.listening : ServerState := ⟨{DoIPServer.new .zero with serverAddress := ⟨afInet,13400,inAddrAny⟩},[]⟩

def identificationRequest : UdpMove := .listener ⟨.negativeAck,0,0⟩
  (.datagram ⟨afInet,50000,0xC0A8000A⟩ [0x02,0xFD,0x00,0x01,0x00,0x00,0x00,0x00])

theorem announcedToBroadcastAfterRequest : Program.Each AnnouncesToBroadcast udpMove
    [identificationRequest,.announcer,.announcer,.announcer,.announcer,.announcer] (.start 0) .listening :=
  announcedToBroadcast _ 0 _ ⟨nofun,fun _ _ => ⟨trivial,fun _ _ => ⟨trivial,fun _ _ => ⟨trivial,fun _ _ =>
    ⟨trivial,fun _ _ => ⟨trivial,fun _ _ => trivial⟩⟩⟩⟩⟩⟩

/- A request that comes after the first announcement sends the second to 0.0.0.0, port 13400. -/
theorem requestRedirects : ¬ ∀ (moves : List UdpMove) (unassigned : Int) (s : ServerState),
    1 ≤ s.server.aDoIPAnnounceNum → Program.Each AnnouncesToBroadcast udpMove moves (.start unassigned) s := by
  intro stated
  have each := stated ([.announcer,.announcer,identificationRequest] ++ [.announcer]) 0 .listening (by decide)
  have announced := Program.eachLast each rfl rfl _ (List.mem_singleton.mpr rfl)
  exact absurd announced.1 (by decide)

end Scenario
end LibDoip
