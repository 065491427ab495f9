import LibDoip.Discovery

/-! What clients learn of servers over UDP, and what is sent for it. Every datagram has a source in the run, and a
receipt causes at most one more. -/
namespace LibDoip
open Library

section Sources
variable (refusals strays : Prop) (known : DoIPServer → Prop)

def Message (message : List UInt8) : Prop :=
  message = identificationRequestBytes ∨ (∃ v, known v ∧ message = identificationBytes v) ∨
    refusals ∧ ∃ code, message = negativeAckBytes code

def Announcer.Holds : Announcer → Prop
  | .looping message _ _ => ∃ v, known v ∧ message = Buffer.filled (identificationBytes v)
  | _ => True

structure Vehicle.Serves (v : Vehicle) : Prop where
  fault : v.fault = none
  announcer : v.announcer.Holds known

def Tester.Informed (initial : VehicleInformation) (c : Tester) : Prop :=
  c.state.information = initial ∨ ∃ v, known v ∧ c.state.information = v.identity

/- Of the clients nothing is said where strays may mislead them. -/
def Party.Good (initial : Nat → VehicleInformation) : (p : Party) → p.State → Prop
  | .server _, v => Vehicle.Serves known v
  | .client j, c => strays ∨ Tester.Informed known (initial j) c

def Party.Known : (p : Party) → p.State → Prop
  | .server _, v => known v.state.server
  | .client _, _ => True

/- Where a receive fails, the result struct of the parser holds what it held before: at a server no refusal. -/
def Party.Unrefusing : (p : Party) → p.Move → Prop
  | .server _, .failsToReceive uninit => uninit.type ≠ .negativeAck
  | _, _ => True

def Party.Unmistaken : (p : Party) → p.Move → Prop
  | .client _, .failsToReceive uninit => uninit.type ≠ .vehicleIdentResponse
  | _, _ => True

structure Party.Possible (p : Party) (move : p.Move) : Prop where
  refused : refusals ∨ p.Unrefusing move
  mistaken : strays ∨ p.Unmistaken move

structure Attended (o : Vehicle × List (List UInt8)) : Prop where
  serves : Vehicle.Serves known o.1
  sends : ∀ message ∈ o.2, Message refusals known message

variable {refusals strays known}

theorem quietAttended {v : Vehicle} (serves : v.Serves known) : Attended refusals known (v,[]) :=
  ⟨serves,List.forall_mem_nil _⟩

theorem startAttended {v : Vehicle} {unassigned : Int} (fault : v.fault = none) (now : known v.state.server) :
    Attended refusals known (v.takes (udpMove .announcer (.start unassigned))) := by
  have started := startApply unassigned v.state
  by_cases accepted : v.state.results.headD 0 = 0
  · rw [if_pos accepted,identificationResponse,createdVehicleIdentificationResponse,Program.liftOkBind] at started
    rw [takesOk started]
    exact ⟨⟨fault,v.state.server,now,rfl⟩,List.forall_mem_nil _⟩
  · rw [if_neg accepted] at started
    rw [takesOk started]
    exact ⟨⟨fault,trivial⟩,List.forall_mem_nil _⟩

theorem loopAttended {v : Vehicle} {w : DoIPServer} {i : Nat} {sendedmessage : Int} (fault : v.fault = none)
    (told : known w) :
    Attended refusals known
      (v.takes (udpMove .announcer (.looping (Buffer.filled (identificationBytes w)) i sendedmessage))) := by
  by_cases more : (i : Int) < v.state.server.aDoIPAnnounceNum
  · have size := identificationLength w
    have sent := @sendtoSends (identificationBytes w) (genericHeaderLength + viResponseLength) (by rw [size]; rfl)
      (by omega) v.state
    have looped : udpMove .announcer (.looping (Buffer.filled (identificationBytes w)) i sendedmessage) v.state =
        ⟨[.sendto v.state.server.serverSocketUdp (identificationBytes w) v.state.server.clientAddress,
          .sleep v.state.server.aDoIPAnnounceInterval],{v.state with results := v.state.results.tail},
          .ok (.looping (Buffer.filled (identificationBytes w)) (i+1)
            (v.state.results.headD (identificationBytes w).length))⟩ := by
      rw [udpMove,Program.bindApply,Program.getApply,Outcome.andThenOk,Outcome.prependNil,if_pos more,
        Program.bindApply,sent]
      rfl
    rw [takesOk looped]
    refine ⟨⟨fault,w,told,rfl⟩,?_⟩
    exact List.forall_mem_singleton.mpr (Or.inr (Or.inl ⟨w,told,rfl⟩))
  · have ended : udpMove .announcer (.looping (Buffer.filled (identificationBytes w)) i sendedmessage) v.state =
        ⟨[.returned sendedmessage],v.state,.ok .done⟩ := by
      rw [udpMove,Program.bindApply,Program.getApply,Outcome.andThenOk,Outcome.prependNil,if_neg more]
      rfl
    rw [takesOk ended]
    exact ⟨⟨fault,trivial⟩,List.forall_mem_nil _⟩

theorem announcerAttended {v : Vehicle} (serves : v.Serves known) (now : known v.state.server) :
    Attended refusals known (v.takes (udpMove .announcer v.announcer)) := by
  have holds := serves.announcer
  generalize v.announcer = position at holds
  cases position with
  | start unassigned => exact startAttended serves.fault now
  | looping message i sendedmessage =>
    obtain ⟨w,told,rfl⟩ := holds
    exact loopAttended serves.fault told
  | done =>
    have ended : udpMove .announcer .done v.state = ⟨[],v.state,.ok .done⟩ := rfl
    rw [takesOk ended]
    exact ⟨⟨serves.fault,trivial⟩,List.forall_mem_nil _⟩

theorem receivedAttended {v : Vehicle} {reply : List (List UInt8)} {o : Vehicle × List (List UInt8)} (serves : v.Serves known)
    (received : ReceivedBy v reply o) (sends : ∀ message ∈ reply, Message refusals known message) :
    Attended refusals known o := by
  refine ⟨⟨received.fault.trans serves.fault,?_⟩,?_⟩
  · rw [received.announcer]
    exact serves.announcer
  · rw [received.sent]
    exact sends

theorem messageAnswers {message : List UInt8} (heard : Message refusals known message) (uninit : GenericHeaderAction)
    (sender : SockAddr) {s : ServerState} (now : known s.server) :
    ∀ reply ∈ answers uninit sender s message, Message refusals known reply := by
  rcases heard with rfl | ⟨w,told,rfl⟩ | ⟨some,code,rfl⟩
  · rw [requestAnswered]
    exact List.forall_mem_singleton.mpr (Or.inr (Or.inl ⟨s.server,now,rfl⟩))
  · rw [identificationBytes,identificationUnanswered]
    exact List.forall_mem_nil _
  · rw [negativeAckAnswered]
    exact List.forall_mem_singleton.mpr (Or.inr (Or.inr ⟨some,_,rfl⟩))

theorem vehicleAttends {move : VehicleMove} {sent : List (List UInt8)} {v : Vehicle}
    (heard : ∀ message ∈ sent, Message refusals known message)
    (possible : ∀ uninit, move = .failsToReceive uninit → refusals ∨ uninit.type ≠ .negativeAck)
    (now : known v.state.server) (serves : v.Serves known) : Attended refusals known (vehicleMove move sent v) := by
  cases move with
  | sets setting =>
    have ran : (do
        serverStep (.set setting) ()
        pure v.announcer : Udp Announcer) v.state = ⟨[],v.state.setServer (·.set setting),.ok v.announcer⟩ := rfl
    rw [vehicleMove,takesOk ran]
    exact ⟨⟨serves.fault,serves.announcer⟩,List.forall_mem_nil _⟩
  | setsUp =>
    obtain ⟨l,t,ran,silent⟩ := setsUpSilently v.announcer v.state
    rw [vehicleMove,takesOk ran,silent]
    exact ⟨⟨serves.fault,serves.announcer⟩,List.forall_mem_nil _⟩
  | announces unassigned =>
    rw [vehicleMove]
    split
    · exact ⟨⟨serves.fault,trivial⟩,List.forall_mem_nil _⟩
    · exact quietAttended serves
  | announcer => exact announcerAttended serves now
  | receives uninit sender n =>
    cases there : sent[n]? with
    | none =>
      rw [vehicleMove,there]
      exact quietAttended serves
    | some bytes =>
      have there' := heard bytes (List.mem_of_getElem? there)
      exact receivedAttended serves (receivesApply uninit sender v there) (messageAnswers there' uninit sender now)
  | failsToReceive uninit =>
    refine receivedAttended serves (failsToReceiveApply uninit sent v) (fun message reply => ?_)
    rcases replyKinds reply with rfl | ⟨type,rfl⟩
    · exact Or.inr (Or.inl ⟨v.state.server,now,rfl⟩)
    · have refused := (possible uninit rfl).resolve_right (fun other => other type)
      exact Or.inr (Or.inr ⟨refused,_,rfl⟩)

theorem requestSent (address : Option UInt32) (s : ClientSockets) :
    (sendVehicleIdentificationRequest address s).log.filterMap ClientTraffic.sent = [identificationRequestBytes] := by
  have whole : (Buffer.filled identificationRequestBytes).contents (intToUnsignedLong 8) =
      .ok identificationRequestBytes := Buffer.contentsExact rfl
  simp only [sendVehicleIdentificationRequest,Program.bindApply,Program.getApply,Program.emitApply,Program.modifyApply,
    Outcome.andThenOk,Outcome.prependMk,builtVehicleIdentificationRequest,Program.liftApply,whole]
  rfl

theorem messageType {message : List UInt8} (heard : Message refusals known message) :
    headerType (message.take clientMaxDataSize) ≠ none ∧
      (headerType (message.take clientMaxDataSize) = some .vehicleIdentResponse →
        ∃ v, known v ∧ message = identificationBytes v) := by
  rcases heard with rfl | ⟨v,told,rfl⟩ | ⟨_,code,rfl⟩
  · have type : headerType (identificationRequestBytes.take clientMaxDataSize) = some .vehicleIdentRequest := by decide
    rw [type]
    exact ⟨nofun,nofun⟩
  · refine ⟨?_,fun _ => ⟨v,told,rfl⟩⟩
    rw [ne_eq,headerTypeNone,List.length_take,identificationLength]
    decide
  · have type : headerType ((negativeAckBytes code).take clientMaxDataSize) = some .negativeAck := rfl
    rw [type]
    exact ⟨nofun,nofun⟩

theorem testerInformed {initial : VehicleInformation} {move : TesterMove} {sent : List (List UInt8)} {c : Tester}
    (heard : ∀ message ∈ sent, Message refusals known message)
    (possible : ∀ uninit, move = .failsToReceive uninit → uninit.type ≠ .vehicleIdentResponse)
    (informed : c.Informed known initial) : Tester.Informed known initial (testerMove move sent c).1 := by
  cases move with
  | requests address => exact informed
  | receives uninit n =>
    cases there : sent[n]? with
    | none =>
      rw [testerMove,there]
      exact informed
    | some message =>
      obtain ⟨whole,response⟩ := messageType (heard message (List.mem_of_getElem? there))
      obtain ⟨type,found⟩ := Option.ne_none_iff_exists'.mp whole
      simp only [testerMove,there,RecvResult.cut,receiveUdpMessageApply,parsedKnown found]
      by_cases identified : type = .vehicleIdentResponse
      · obtain ⟨v,told,rfl⟩ := response (by rw [found,identified])
        rw [if_pos identified]
        exact Or.inr ⟨v,told,receivedIdentity v c.state.receivedData⟩
      · rw [if_neg identified]
        exact informed
  | failsToReceive uninit =>
    have unidentified : parsedType uninit .failed ≠ .vehicleIdentResponse := possible uninit rfl
    simp only [testerMove,receiveUdpMessageApply,if_neg unidentified]
    exact informed

theorem testerSends {move : TesterMove} {sent : List (List UInt8)} {c : Tester} {message : List UInt8}
    (own : message ∈ (testerMove move sent c).2) : message = identificationRequestBytes := by
  cases move with
  | requests address =>
    rw [testerMove,requestSent] at own
    exact List.mem_singleton.mp own
  | receives uninit n =>
    rw [testerMove] at own
    split at own <;> cases own
  | failsToReceive uninit => cases own

theorem serverAttends {i : Nat} {move : VehicleMove} {sent : List (List UInt8)} {v : Vehicle}
    (heard : ∀ message ∈ sent, Message refusals known message)
    (possible : Party.Possible refusals strays (.server i) move) (now : known v.state.server) (serves : v.Serves known) :
    Attended refusals known (vehicleMove move sent v) := by
  refine vehicleAttends heard (fun uninit same => ?_) now serves
  subst same
  exact possible.refused

theorem clientInformed {j : Nat} {move : TesterMove} {sent : List (List UInt8)} {c : Tester} {initial : VehicleInformation}
    (heard : ∀ message ∈ sent, Message refusals known message)
    (possible : Party.Possible refusals strays (.client j) move) (good : strays ∨ c.Informed known initial) :
    strays ∨ Tester.Informed known initial (testerMove move sent c).1 := by
  rcases good with stray | informed
  · exact Or.inl stray
  · rcases possible.mistaken with stray | unmistaken
    · exact Or.inl stray
    · refine Or.inr (testerInformed heard (fun uninit same => ?_) informed)
      subst same
      exact unmistaken

theorem partyKeeps (initial : Nat → VehicleInformation) :
    Medium.Keeps partyMove (Party.Possible refusals strays) (Party.Known known) (Party.Good strays known initial)
      (Message refusals known) where
  stays {p move sent s} heard possible now good := by
    cases p with
    | server i => exact (serverAttends heard possible now good).serves
    | client j => exact clientInformed heard possible good
  sends {p move sent s} heard possible now good := by
    cases p with
    | server i => exact (serverAttends heard possible now good).sends
    | client j => exact fun message sent => Or.inl (testerSends sent)

end Sources

structure Network.Fresh (g : Network) : Prop where
  silent : g.sent = []
  idle : ∀ i, (g.server i).announcer = .done
  fault : ∀ i, (g.server i).fault = none

def Network.Met (g : Network) (moves : List NetworkMove) (v : DoIPServer) : Prop :=
  ∃ before i, before <+: moves ∧ v = ((g.run before).server i).state.server

theorem runSound {g : Network} (fresh : g.Fresh) {refusals strays : Prop} {moves : List NetworkMove}
    (possible : ∀ m ∈ moves, Party.Possible refusals strays m.1 m.2) :
    Medium.Sound (Party.Good strays (g.Met moves) (fun j => (g.client j).state.information)) (Message refusals (g.Met moves))
      (g.run moves) := by
  refine Medium.Keeps.run (partyKeeps _) possible (fun before shorter p => ?_) ⟨fun p => ?_,?_⟩
  · cases p with
    | server i => exact ⟨before,i,shorter,rfl⟩
    | client j => trivial
  · cases p with
    | server i =>
      refine ⟨fresh.fault i,?_⟩
      have idle := fresh.idle i
      rw [Network.server] at idle
      rw [idle]
      trivial
    | client j => exact Or.inr (Or.inl rfl)
  · rw [fresh.silent]
    exact nofun

theorem discoveryAuthentic {g : Network} (fresh : g.Fresh) (moves : List NetworkMove)
    (unmistaken : ∀ m ∈ moves, Party.Unmistaken m.1 m.2) :
    (∀ j, ((g.run moves).client j).state.information = (g.client j).state.information ∨
      ∃ before i, before <+: moves ∧
        ((g.run moves).client j).state.information = ((g.run before).server i).state.server.identity) ∧
      ∀ i, ((g.run moves).server i).fault = none := by
  have sound := @runSound g fresh True False moves (fun m member => ⟨Or.inl trivial,Or.inr (unmistaken m member)⟩)
  refine ⟨fun j => ?_,fun i => ?_⟩
  · have informed : Tester.Informed (g.Met moves) _ ((g.run moves).client j) := (sound.parties (.client j)).resolve_left id
    rcases informed with initial | ⟨v,⟨before,i,shorter,rfl⟩,told⟩
    · exact Or.inl initial
    · exact Or.inr ⟨before,i,shorter,told⟩
  · have serves : Vehicle.Serves (g.Met moves) ((g.run moves).server i) := sound.parties (.server i)
    exact serves.fault

theorem serverStepped (g : Network) (i : Nat) (move : VehicleMove) :
    (g.step (.server i) move).server i = (vehicleMove move g.sent (g.server i)).1 := Medium.stepSame partyMove g (.server i) move

theorem clientStepped (g : Network) (j : Nat) (move : TesterMove) :
    (g.step (.client j) move).client j = (testerMove move g.sent (g.client j)).1 := Medium.stepSame partyMove g (.client j) move

theorem requestDiscovers (g : Network) (i j k : Nat) (address : Option UInt32) (meanwhile later : List NetworkMove)
    (uninit uninit' : GenericHeaderAction) (sender : SockAddr) :
    let asked := (g.step (.client j) (.requests address)).run meanwhile
    let answered := (asked.step (.server i) (.receives uninit sender g.sent.length)).run later
    let heard := answered.step (.client k) (.receives uninit' asked.sent.length)
    (heard.client k).state.information = (asked.server i).state.server.identity := by
  intro asked answered heard
  have there : asked.sent[g.sent.length]? = some identificationRequestBytes := by
    refine Medium.runHeard partyMove _ meanwhile ?_
    show (g.sent ++ (testerMove (.requests address) g.sent (g.client j)).2)[_]? = _
    rw [testerMove,requestSent]
    exact List.getElem?_concat_length
  have reply : answered.sent[asked.sent.length]? = some (identificationBytes (asked.server i).state.server) := by
    have received := receivesApply uninit sender (asked.server i) there
    refine Medium.runHeard partyMove _ later ?_
    show (asked.sent ++ (vehicleMove (.receives uninit sender g.sent.length) asked.sent (asked.server i)).2)[_]? = _
    rw [received.sent,requestAnswered]
    exact List.getElem?_concat_length
  have known : headerType ((identificationBytes (asked.server i).state.server).take clientMaxDataSize) =
      some .vehicleIdentResponse := rfl
  rw [clientStepped,testerMove]
  simp only [reply,RecvResult.cut,receiveUdpMessageApply,parsedKnown known,if_true]
  exact receivedIdentity _ _

def Receipt : NetworkMove → Prop
  | ⟨.server _,.receives _ _ _⟩ | ⟨.client _,.receives _ _⟩ => True
  | _ => False

def Network.reply (g : Network) : NetworkMove → Option (List UInt8)
  | ⟨.server i,.receives _ _ n⟩ =>
      if g.sent[n]? = some identificationRequestBytes then some (identificationBytes (g.server i).state.server) else none
  | _ => none

def Network.Calm (g : Network) : Prop := ∀ message ∈ g.sent, Message False (fun _ => True) message

structure Replied (g : Network) (m : NetworkMove) (g' : Network) : Prop where
  sent : g'.sent = g.sent ++ (g.reply m).toList
  identity : ∀ i, identificationBytes (g'.server i).state.server = identificationBytes (g.server i).state.server

theorem identificationNoRequest (v : DoIPServer) : identificationBytes v ≠ identificationRequestBytes := by
  intro same
  have length := congrArg List.length same
  rw [identificationLength] at length
  cases length

theorem calmAnswers {message : List UInt8} (calm : Message False (fun _ => True) message) (uninit : GenericHeaderAction)
    (sender : SockAddr) (s : ServerState) : answers uninit sender s message =
      (if message = identificationRequestBytes then some (identificationBytes s.server) else none).toList := by
  rcases calm with rfl | ⟨v,_,rfl⟩ | ⟨none,_⟩
  · rw [if_pos rfl,requestAnswered]
    rfl
  · rw [if_neg (identificationNoRequest v),identificationBytes,identificationUnanswered]
    rfl
  · exact none.elim

theorem receiptReplied {g : Network} (calm : g.Calm) {m : NetworkMove} (receives : Receipt m) :
    Replied g m (Medium.step partyMove g m) := by
  obtain ⟨p,move⟩ := m
  cases p with
  | server i =>
    cases move with
    | receives uninit sender n =>
      have moved : ∃ reply, ReceivedBy (g.server i) reply (vehicleMove (.receives uninit sender n) g.sent (g.server i)) ∧
          reply = (g.reply ⟨.server i,.receives uninit sender n⟩).toList := by
        cases there : g.sent[n]? with
        | none =>
          refine ⟨[],?_,?_⟩
          · rw [vehicleMove,there]
            exact ⟨rfl,rfl,rfl,rfl⟩
          · rw [Network.reply,there]
            rfl
        | some message =>
          refine ⟨_,receivesApply uninit sender (g.server i) there,?_⟩
          rw [calmAnswers (calm message (List.mem_of_getElem? there)),Network.reply,there]
          simp only [Option.some.injEq]
      obtain ⟨reply,received,same⟩ := moved
      refine ⟨?_,fun i' => ?_⟩
      · rw [← same,← received.sent]
        rfl
      · by_cases own : i' = i
        · subst own
          exact (congrArg (fun v : Vehicle => identificationBytes v.state.server) (serverStepped g i' _)).trans
            received.identity
        · have other : Party.server i' ≠ .server i := fun same => own (Party.server.inj same)
          have kept := Medium.stepOther partyMove g (m := ⟨.server i,.receives uninit sender n⟩) other
          exact congrArg (fun v : Vehicle => identificationBytes v.state.server) kept
    | _ => exact receives.elim
  | client j =>
    cases move with
    | receives uninit n =>
      have silent : (testerMove (.receives uninit n) g.sent (g.client j)).2 = [] := by
        rw [testerMove]
        split <;> rfl
      refine ⟨?_,fun i => ?_⟩
      · show g.sent ++ (testerMove (.receives uninit n) g.sent (g.client j)).2 = _
        rw [silent]
        rfl
      · have other : Party.server i ≠ .client j := Party.noConfusion
        have kept := Medium.stepOther partyMove g (m := ⟨.client j,.receives uninit n⟩) other
        exact congrArg (fun v : Vehicle => identificationBytes v.state.server) kept
    | _ => exact receives.elim

theorem replyIdentifies {g : Network} {m : NetworkMove} {message : List UInt8} (reply : g.reply m = some message) :
    ∃ i, message = identificationBytes (g.server i).state.server := by
  unfold Network.reply at reply
  split at reply
  · split at reply
    · rename_i i _ _ _ _
      exact ⟨i,(Option.some.inj reply).symm⟩
    · cases reply
  · cases reply

theorem Replied.calm {g g' : Network} {m : NetworkMove} (calm : g.Calm) (replied : Replied g m g') : g'.Calm := by
  intro message member
  rw [replied.sent] at member
  rcases List.mem_append.mp member with before | after
  · exact calm message before
  · obtain ⟨i,rfl⟩ := replyIdentifies (Option.mem_toList.mp after)
    exact Or.inr (Or.inl ⟨_,trivial,rfl⟩)

theorem Replied.reply {g g' : Network} {m : NetworkMove} (replied : Replied g m g') : g'.reply = g.reply := by
  have asked : ∀ n : Nat, g'.sent[n]? = some identificationRequestBytes ↔ g.sent[n]? = some identificationRequestBytes := by
    intro n
    rw [replied.sent]
    cases reply : g.reply m with
    | none => rw [Option.toList,List.append_nil]
    | some message =>
      obtain ⟨i,rfl⟩ := replyIdentifies reply
      rw [Option.toList,List.getElem?_append]
      split
      · exact Iff.rfl
      · rename_i beyond
        rw [List.getElem?_eq_none (Nat.le_of_not_lt beyond)]
        refine iff_of_false (fun found => ?_) (Option.some_ne_none _ ·.symm)
        have same := List.mem_singleton.mp (List.mem_of_getElem? found)
        exact identificationNoRequest _ same.symm
  funext other
  obtain ⟨p,move⟩ := other
  cases p with
  | server i =>
    cases move with
    | receives uninit sender n => simp only [Network.reply,asked,replied.identity]
    | _ => rfl
  | client j => rfl

theorem receiptsReplied {g : Network} (calm : g.Calm) {receipts : List NetworkMove} (receive : ∀ m ∈ receipts, Receipt m) :
    (g.run receipts).sent = g.sent ++ receipts.filterMap g.reply := by
  induction receipts generalizing g with
  | nil => exact (List.append_nil g.sent).symm
  | cons m receipts ih =>
    obtain ⟨first,later⟩ := List.forall_mem_cons.mp receive
    have replied := receiptReplied calm first
    have next := ih (replied.calm calm) later
    rw [replied.sent,replied.reply,List.append_assoc] at next
    rw [List.filterMap_cons]
    cases reply : g.reply m with
    | none =>
      rw [reply] at next
      exact next
    | some message =>
      rw [reply] at next
      exact next

/- As long as no failed receive is taken for a refusal there are no refusals. From then on receipts alone, however many
and in whatever order, send the replies to the requests that were there, and nothing is sent in return to these. -/
theorem discoveryCalm {g : Network} (fresh : g.Fresh) (moves receipts : List NetworkMove)
    (unrefusing : ∀ m ∈ moves, Party.Unrefusing m.1 m.2) (receive : ∀ m ∈ receipts, Receipt m) :
    let h := g.run moves
    (∀ message ∈ h.sent, message = identificationRequestBytes ∨ ∃ before i, before <+: moves ∧
      message = identificationBytes ((g.run before).server i).state.server) ∧
      (h.run receipts).sent = h.sent ++ receipts.filterMap h.reply := by
  intro h
  have sound := @runSound g fresh False True moves (fun m member => ⟨Or.inr (unrefusing m member),Or.inl trivial⟩)
  refine ⟨fun message sent => ?_,receiptsReplied (fun message sent => ?_) receive⟩
  · rcases sound.messages message sent with request | ⟨v,⟨before,i,shorter,rfl⟩,told⟩ | ⟨none,_⟩
    · exact Or.inl request
    · exact Or.inr ⟨before,i,shorter,told⟩
    · exact none.elim
  · rcases sound.messages message sent with request | ⟨v,_,told⟩ | ⟨none,_⟩
    · exact Or.inl request
    · exact Or.inr (Or.inl ⟨v,trivial,told⟩)
    · exact none.elim

section Scenario

def Tester.unconnected : Tester := ⟨⟨⟨3,0x00,0x00⟩,4,⟨List.replicate clientMaxDataSize 0x00,List.length_replicate⟩,
  ⟨[],[],[],[],0x00⟩,0,[]⟩,⟨afInet,serverPortTcpUdp,inAddrAny⟩⟩

def Network.quiet : Network := ⟨fun
  | .server _ => ⟨.fresh,.done,none⟩
  | .client _ => .unconnected,[]⟩

theorem quietFresh : Network.quiet.Fresh := ⟨rfl,fun _ => rfl,fun _ => rfl⟩

/- A client asks, two servers hear it, and the first is given another address before the client hears of it. Receives
that fail find a request left over, which a server answers and a client leaves alone. -/
def discoveryMoves : List NetworkMove :=
  [⟨.client 0,.requests none⟩,⟨.server 0,.receives ⟨.negativeAck,0,0⟩ ⟨afInet,13400,0xC0A8000A⟩ 0⟩,
    ⟨.server 1,.receives ⟨.negativeAck,0,0⟩ ⟨afInet,13400,0xC0A8000A⟩ 0⟩,
    ⟨.server 0,.sets (.logicalGatewayAddress 0x1234)⟩,⟨.server 1,.failsToReceive ⟨.vehicleIdentRequest,0,0⟩⟩,
    ⟨.client 0,.failsToReceive ⟨.vehicleIdentRequest,0,0⟩⟩,⟨.client 0,.receives ⟨.negativeAck,0,0⟩ 1⟩]

theorem discoveryUnmistaken : ∀ m ∈ discoveryMoves, Party.Unmistaken m.1 m.2 := by
  simp [discoveryMoves,Party.Unmistaken]

theorem discoveryUnrefusing : ∀ m ∈ discoveryMoves, Party.Unrefusing m.1 m.2 := by
  simp [discoveryMoves,Party.Unrefusing]

theorem discoveryAuthenticMoves :
    (∀ j, ((Network.quiet.run discoveryMoves).client j).state.information = (Network.quiet.client j).state.information ∨
      ∃ before i, before <+: discoveryMoves ∧ ((Network.quiet.run discoveryMoves).client j).state.information =
        ((Network.quiet.run before).server i).state.server.identity) ∧
      ∀ i, ((Network.quiet.run discoveryMoves).server i).fault = none :=
  discoveryAuthentic quietFresh discoveryMoves discoveryUnmistaken

def discoveryReceipts : List NetworkMove :=
  [⟨.server 0,.receives ⟨.negativeAck,0,0⟩ ⟨afInet,13400,0xC0A8000A⟩ 0⟩,
    ⟨.server 1,.receives ⟨.negativeAck,0,0⟩ ⟨afInet,13400,0xC0A8000A⟩ 0⟩,
    ⟨.server 1,.receives ⟨.negativeAck,0,0⟩ ⟨afInet,13400,0xC0A8000A⟩ 1⟩]

theorem discoveryCalmMoves :
    let h := Network.quiet.run discoveryMoves
    (∀ message ∈ h.sent, message = identificationRequestBytes ∨ ∃ before i, before <+: discoveryMoves ∧
      message = identificationBytes ((Network.quiet.run before).server i).state.server) ∧
      (h.run discoveryReceipts).sent = h.sent ++ discoveryReceipts.filterMap h.reply :=
  discoveryCalm quietFresh discoveryMoves discoveryReceipts discoveryUnrefusing
    (by simp [discoveryReceipts,Receipt])

end Scenario
end LibDoip
