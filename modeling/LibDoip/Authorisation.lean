import LibDoip.Orderly

/-! Who is listened to: when the registered address is read, whose messages are delivered, and
about whose messages the application is consulted. -/
namespace LibDoip
open Library
variable {σ α : Type}

def AddressSafe (o : Outcome Fault Event (State σ) α) : Prop :=
  o.fault ≠ some .indeterminatePointer ∧ ∀ before targetAddress data length after,
    o.log = before ++ .diagCallback targetAddress data length::after → (record before).registered ≠ none

theorem addressAwaitsActivation (app : Application σ) (ops : List Op) (inbox : List Arrival) (s : State σ)
    (fresh : Fresh s) : AddressSafe (run app ops inbox s) ↔
      Always AwaitsActivation [] (run app ops inbox s).log := by
  obtain ⟨order,_,fault,_⟩ := freshRunKeeps app ops inbox fresh
  constructor
  · rintro ⟨safe,_⟩
    exact Classical.byContradiction (fun early => safe (fault.mpr early))
  · intro awaits
    refine ⟨fun stopped => fault.mp stopped awaits,?_⟩
    intro before targetAddress data length after found
    obtain ⟨_,_,_,d0,d1,d2,d3,_,registered,_⟩ := order.split found
    rw [List.nil_append] at registered
    simp [registered]

/- A routing activation of tester 0x0E00, and a diagnostic message of the same tester or its neighbour. -/
def scenario (source : UInt8) : List Arrival :=
  [.data 0x02 [0xFD,0x00,0x05,0x00,0x00,0x00,0x07,0x0E,0x00,0x00,0x00,0x00,0x00,0x00],
    .data 0x02 [0xFD,0x80,0x01,0x00,0x00,0x00,0x05,0x0E,source,0x00,0x01,0x10]]

def scenarioOps : List Op := [.receive ⟨.negativeAck,0,0⟩,.receive ⟨.negativeAck,0,0⟩]

theorem addressAwaitsActivationRouted :
    AddressSafe (run (Application.answering true) scenarioOps (scenario 0x00) (State.opened none)) ↔
      Always AwaitsActivation [] (run (Application.answering true) scenarioOps (scenario 0x00) (State.opened none)).log :=
  addressAwaitsActivation _ _ _ _ (State.openedFresh none)

/- The first message is a diagnostic message, and the application agrees to it. -/
theorem addressReadUnassigned : ¬ ∀ (ops : List Op) (inbox : List Arrival),
    AddressSafe (run (Application.answering true) ops inbox (State.opened none)) := by
  intro stated
  obtain ⟨safe,_⟩ := stated [.receive ⟨.negativeAck,0,0⟩]
    [.data 0x02 [0xFD,0x80,0x01,0x00,0x00,0x00,0x05,0x0E,0x00,0x00,0x01,0x10]]
  have header : splitHeader ⟨.negativeAck,0,0⟩ (Inbox.stream
      [.data 0x02 [0xFD,0x80,0x01,0x00,0x00,0x00,0x05,0x0E,0x00,0x00,0x01,0x10]]) =
      some (⟨.diagnosticMessage,0,5⟩,[0x0E,0x00,0x00,0x01,0x10]) := rfl
  obtain ⟨l,rest,ran,_⟩ := @receivesFrame Unit (Application.answering true) _ _ (State.opened none) _ _ rfl rfl
    (splitFrameWhole header (by decide))
  refine safe ?_
  rw [run,Program.iterate,Program.bindApply,step,Program.bindApply,ran]
  rfl

structure Delivery (r : Record) (targetAddress : UInt16) (data : List UInt8) (length : Int) : Prop where
  frame : ∃ action d0 d1 d2 d3, r.frame = some (action,some (Buffer.filled (d0::d1::d2::d3::data))) ∧
    action.type = .diagnosticMessage ∧ r.registered = some (d0,d1) ∧
    targetAddress.toNat = 256 * d2.toNat + d3.toNat
  agreed : r.notices = 1 ∧ r.answer = some true
  once : r.delivered = 0
  whole : length = data.length

structure DeliveriesAuthorised (o : Outcome Fault Event (State σ) α) : Prop where
  deliveries : ∀ before targetAddress data length after,
    o.log = before ++ .diagCallback targetAddress data length::after →
      Delivery (record before) targetAddress data length
  activations : ∀ before e after address, o.log = before ++ e::after →
    e.sent.bind routedBy = some address →
      ∃ action d2 rest, (record before).frame =
          some (action,some (Buffer.filled (address.1::address.2::d2::rest))) ∧
        action.type = .routingActivationRequest ∧
        activationCode address.1 address.2 d2 = successfullyRoutedCode
  registered : o.state.connection.routedClientAddress = (record o.log).registered

theorem deliveriesAuthorised (app : Application σ) (ops : List Op) (inbox : List Arrival) (s : State σ)
    (fresh : Fresh s) : DeliveriesAuthorised (run app ops inbox s) := by
  obtain ⟨order,_,_,registered⟩ := freshRunKeeps app ops inbox fresh
  refine ⟨?_,?_,registered⟩
  · intro before targetAddress data length after found
    obtain ⟨notices,answer,once,d0,d1,d2,d3,⟨action,frame,type,_⟩,routed,value,whole⟩ := order.split found
    rw [List.nil_append] at *
    exact ⟨⟨action,d0,d1,d2,d3,frame,type,routed,value⟩,⟨notices,answer⟩,once,whole⟩
  · intro before e after address found answered
    have inOrder := order.split found
    rw [List.nil_append] at inOrder
    cases e with
    | write fd message => exact inOrder address (by simpa [Event.sent] using answered)
    | sslWrite ssl message => exact inOrder address (by simpa [Event.sent] using answered)
    | _ => simp [Event.sent] at answered

theorem deliveriesAuthorisedTwoPieces : DeliveriesAuthorised (run (Application.answering true)
    [.receive ⟨.negativeAck,0,0⟩,.receive ⟨.negativeAck,0,0⟩]
    [.data 0x02 [0xFD,0x00,0x05,0x00,0x00,0x00,0x07,0x0E,0x00,0x00,0x00,0x00,0x00,0x00],
      .data 0x02 [0xFD,0x80,0x01,0x00,0x00,0x00,0x05,0x0E,0x00,0x00,0x01,0x10]] (State.opened none)) :=
  deliveriesAuthorised _ _ _ _ (State.openedFresh none)

def FromRegistered (past : List Event) : Event → Prop
  | .received action payload => action.type = .diagnosticMessage → ∀ d0 d1 rest,
      payload = some (Buffer.filled (d0::d1::rest)) → (record past).registered = some (d0,d1)
  | _ => True

structure ConsultedForRegistered (log : List Event) : Prop where
  announced : ∀ before targetAddress after, log = before ++ .notifyApplication targetAddress::after →
    ∃ d0 d1 d2 d3 data, (record before).Diagnostic d0 d1 d2 d3 data ∧
      (record before).registered = some (d0,d1)
  delivered : ∀ before after d0 d1 d2 d3 data, log = before ++ .answered true::after →
    (record before).Diagnostic d0 d1 d2 d3 data → data.length + 4 < 2147483648 →
    ∃ rest, after = .diagCallback (bigEndian16 d2 d3) data data.length::rest

def Record.FromExpected (r : Record) : Prop :=
  ∀ d0 d1 d2 d3 data, r.Diagnostic d0 d1 d2 d3 data → r.expected = some (d0,d1)

theorem expectedSource {past l : List Event} (start : (record past).FromExpected)
    (always : Always FromRegistered past l) : (record (past ++ l)).FromExpected := by
  induction l generalizing past with
  | nil => simpa using start
  | cons e rest ih =>
    have next : (record (past ++ [e])).FromExpected := by
      rw [recordNext]
      cases e with
      | received action payload =>
        rintro d0 d1 d2 d3 data ⟨action',frame,type,_⟩
        cases frame
        exact always.1 type d0 d1 _ rfl
      | _ => exact fun d0 d1 d2 d3 data found => start d0 d1 d2 d3 data ⟨found.frame⟩
    have later := ih next always.2
    rwa [List.append_assoc,List.singleton_append] at later

theorem consultedForRegistered (app : Application σ) (ops : List Op) (inbox : List Arrival) (s : State σ)
    (fresh : Fresh s) (sources : Always FromRegistered [] (run app ops inbox s).log) :
    ConsultedForRegistered (run app ops inbox s).log := by
  obtain ⟨order,leads,_,_⟩ := freshRunKeeps app ops inbox fresh
  have empty : (record []).FromExpected := by
    rintro d0 d1 d2 d3 data ⟨_,frame,_⟩
    cases frame
  constructor
  · intro before targetAddress after found
    obtain ⟨_,same,d0,d1,d2,d3,data,diagnostic,_⟩ := order.split found
    have prior : Always FromRegistered [] before := ((Always.append _ _ _).mp (found ▸ sources)).1
    have expected := expectedSource empty prior d0 d1 d2 d3 data diagnostic
    exact ⟨d0,d1,d2,d3,data,diagnostic,same.symm.trans expected⟩
  · intro before after d0 d1 d2 d3 data found diagnostic small
    obtain ⟨_,_,same,_⟩ := order.split found
    have prior : Always FromRegistered [] before := ((Always.append _ _ _).mp (found ▸ sources)).1
    have expected := expectedSource empty prior d0 d1 d2 d3 data diagnostic
    have agreed : Agreed ([] ++ before) (.answered true) :=
      ⟨rfl,d0,d1,d2,d3,data,diagnostic,same.symm.trans expected,small⟩
    obtain ⟨next,rest,rfl,handed⟩ := leads.split found agreed
    exact ⟨rest,by rw [handed d0 d1 d2 d3 data diagnostic]⟩

section Scenario

def activationFrame : Frame :=
  ⟨⟨.routingActivationRequest,0,7⟩,[0x0E,0x00,0x00,0x00,0x00,0x00,0x00],⟨by decide,by decide,by decide⟩,rfl⟩

def messageFrame (source : UInt8) : Frame :=
  ⟨⟨.diagnosticMessage,0,5⟩,[0x0E,source,0x00,0x01,0x10],⟨by decide,by decide,by decide⟩,rfl⟩

def activated : State Unit :=
  ⟨⟨5,⟨false,true,false,true,1,0,0⟩,some (0x0E,0x00),0x0E80,none⟩,⟨[],[],[],[],0⟩,()⟩

def activationLog : List Event :=
  [.received activationFrame.action activationFrame.pointer,
    .write 5 (activationResponseBytes 0x0E80 (0x0E,0x00) 0x10),.timerReset 0,.timerStarted]

def announcementLog (source : UInt8) : List Event :=
  [.timerReset 0,.received (messageFrame source).action (messageFrame source).pointer]

theorem scenarioLog {source : UInt8} {rest : List Event}
    (second : messageReceived (Application.answering true) (messageFrame source).action
      (messageFrame source).pointer activated = ⟨announcementLog source ++ rest,activated,.ok (-1)⟩) :
    ∃ l l' : List Event, (∀ e ∈ l, e.Quiet) ∧ (∀ e ∈ l', e.Quiet) ∧
      (run (Application.answering true) scenarioOps (scenario source) (State.opened none)).log =
        l ++ (activationLog ++ (l' ++ (announcementLog source ++ rest))) := by
  have first : messageReceived (Application.answering true) activationFrame.action activationFrame.pointer
      (State.opened none) = ⟨activationLog,activated,.ok 17⟩ := rfl
  obtain ⟨l,inbox,ran,next,events⟩ := @receivesFrame Unit (Application.answering true) ⟨.negativeAck,0,0⟩
    (scenario source) (State.opened none) activationFrame _ rfl rfl rfl
  obtain ⟨l',inbox',ran',_,events'⟩ := @receivesFrame Unit (Application.answering true) ⟨.negativeAck,0,0⟩
    inbox activated (messageFrame source) [] rfl rfl (by rw [next]; rfl)
  rw [Program.bindApply,first] at ran
  rw [Program.bindApply,second] at ran'
  refine ⟨.receiving::l,.receiving::l',?_,?_,?_⟩
  · exact List.forall_mem_cons.mpr ⟨Event.receivingIsQuiet,fun e member =>
      Event.readingIsQuiet ((readsEffect events).events e member)⟩
  · exact List.forall_mem_cons.mpr ⟨Event.receivingIsQuiet,fun e member =>
      Event.readingIsQuiet ((readsEffect events').events e member)⟩
  · simp only [scenarioOps,run,Program.iterate,step,Program.bindApply,ran,ran',Outcome.andThenOk,Program.pureApply,
      Outcome.prependMk,List.append_nil,List.append_assoc]

theorem scenarioRecord {l l' : List Event} (quiet : ∀ e ∈ l, e.Quiet) (quiet' : ∀ e ∈ l', e.Quiet)
    (first second : List Event) :
    record (l ++ (first ++ (l' ++ second))) = record (first ++ second) := by
  have silent := foldSilent (fun e member => (quiet e member).1)
  have silent' := foldSilent (fun e member => (quiet' e member).1)
  simp only [record,List.foldl_append,silent,silent']

theorem quietFromRegistered {l : List Event} (quiet : ∀ e ∈ l, e.Quiet) (past : List Event) :
    Always FromRegistered past l := by
  refine Always.ofForall (fun past e member => ?_) past
  have silent := (quiet e member).1 ⟨none,none,none,0,none,0⟩
  cases e with
  | received action payload => simp [Record.next] at silent
  | _ => trivial

theorem consultedForRegisteredTester :
    ConsultedForRegistered
      (run (Application.answering true) scenarioOps (scenario 0x00) (State.opened none)).log := by
  refine consultedForRegistered _ _ _ _ (State.openedFresh none) ?_
  obtain ⟨l,l',quiet,quiet',log⟩ := @scenarioLog 0x00 [.notifyApplication 0x0001,.answered true,
    .diagCallback 0x0001 [0x10] 1] rfl
  have first : ∀ past, Always FromRegistered past activationLog :=
    fun past => ⟨(fun type => nomatch type),trivial,trivial,trivial,trivial⟩
  rw [log,Always.append,Always.append,Always.append]
  refine ⟨quietFromRegistered quiet _,first _,quietFromRegistered quiet' _,trivial,?_,trivial,trivial,trivial,
    trivial⟩
  intro _ d0 d1 rest bytes
  have known := scenarioRecord quiet quiet' activationLog [.timerReset 0]
  simp only [List.nil_append,List.append_assoc]
  rw [known]
  cases Buffer.filledInjective (Option.some.inj bytes)
  rfl

/- The application is asked about a message of the neighbour, agrees, and the message is then refused. -/
theorem consultedForStranger : ¬ ∀ (ops : List Op) (inbox : List Arrival),
    ConsultedForRegistered (run (Application.answering true) ops inbox (State.opened none)).log := by
  intro stated
  obtain ⟨l,l',quiet,quiet',log⟩ := @scenarioLog 0x01 [.notifyApplication 0x0001,.answered true] rfl
  have known := scenarioRecord quiet quiet' activationLog (announcementLog 0x01)
  obtain ⟨d0,d1,d2,d3,data,⟨action,frame,_⟩,registered⟩ := (stated scenarioOps (scenario 0x01)).announced
    (l ++ (activationLog ++ (l' ++ announcementLog 0x01))) 0x0001 [.answered true]
    (by rw [log]; simp only [List.append_assoc])
  rw [known] at frame registered
  cases Buffer.filledInjective (Option.some.inj (Prod.mk.inj (Option.some.inj frame)).2)
  cases registered

end Scenario
end LibDoip
