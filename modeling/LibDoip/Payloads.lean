import LibDoip.Reactions

/-! The payload on its way through the dispatcher. Its length changes type twice; which lengths are
delivered, and that no length makes the code read outside the payload. -/
namespace LibDoip
open Library
variable {σ α : Type}

theorem diagCallbackFirst (app : Application σ) (targetAddress : UInt16) (data : List UInt8) (length : Int)
    (s : State σ) : ∃ later, (diagCallback app targetAddress data length s).log =
      .diagCallback targetAddress data length::later := by
  have delivered := diagCallbackDelivered app targetAddress data length s
  generalize diagCallback app targetAddress data length s = o at delivered
  cases delivered with
  | stopped _ _ => exact ⟨_,rfl⟩
  | returned _ _ => exact ⟨_,rfl⟩

def targetOf (payload : List UInt8) : UInt16 := bigEndian16 (payload.getD 2 0) (payload.getD 3 0)

def sourceOf (payload : List UInt8) : Address := (payload.getD 0 0,payload.getD 1 0)

def DeliversInFull (app : Application σ) (action : GenericHeaderAction) (payload : List UInt8) (notice : List Event)
    (s : State σ) : Prop :=
  ∃ later, (react app action payload s).log = .received action (some (Buffer.filled payload))::(notice ++
    .diagCallback (targetOf payload) (payload.drop 4) (payload.length - 4 : Nat)::later)

section Delivery
variable {app : Application σ} {uninit action : GenericHeaderAction} {payload : List UInt8} {s t : State σ}
  {notice : List Event}

theorem deliversExactly (rules : HeaderRules action) (type : action.type = .diagnosticMessage)
    (size : payload.length = action.payloadLength.toNat)
    (source : s.connection.routedClientAddress = some (sourceOf payload))
    (notified : notifyApplication app (targetOf payload) s = ⟨notice,t,.ok true⟩) :
    DeliversInFull app action payload notice s ↔ payload.length < 2147483648 := by
  obtain ⟨d0,d1,d2,d3,data,rfl,reacted⟩ := @diagnosticReacts σ app action payload s rules size type _ source
  rw [DeliversInFull,reacted,announceAndCheck,Program.bindApply,show bigEndian16 d2 d3 = targetOf (d0::d1::d2::d3::data) from rfl,
    notified,Outcome.andThenOk]
  by_cases small : (d0::d1::d2::d3::data).length < 2147483648
  · obtain ⟨later,delivered⟩ := diagCallbackFirst app (targetOf (d0::d1::d2::d3::data)) data data.length t
    refine iff_of_true ?_ small
    rw [Program.whenTrue ⟨rfl,rfl,small⟩]
    refine ⟨later,?_⟩
    rw [Outcome.prependPrepend,Outcome.prependLog,returnLog,delivered]
    rfl
  · rw [Program.whenFalse (fun all => small all.2.2)]
    refine iff_of_false ?_ small
    rintro ⟨later,log⟩
    have shorter := congrArg List.length log
    simp [Outcome.prepend] at shorter

theorem deliveredInFull {h : Header} (parsed : parseGenericHeader uninit (Buffer.filled h.bytes) 8 = .ok action)
    (type : action.type = .diagnosticMessage) (size : payload.length = action.payloadLength.toNat)
    (source : s.connection.routedClientAddress = some (sourceOf payload))
    (notified : notifyApplication app (targetOf payload) s = ⟨notice,t,.ok true⟩) :
    DeliversInFull app action payload notice s ↔ payload.length < 2147483648 :=
  deliversExactly (parsedRules parsed) type size source notified

end Delivery

def State.routedClient : State Unit := (State.opened none).register (0x0E,0x00)

theorem deliveredInFullSmall :
    DeliversInFull (Application.answering true) ⟨.diagnosticMessage,0,5⟩ [0x0E,0x00,0x00,0x01,0x10]
      [.notifyApplication 1,.answered true] State.routedClient ↔ 5 < 2147483648 :=
  @deliveredInFull Unit (Application.answering true) ⟨.negativeAck,0,0⟩ ⟨.diagnosticMessage,0,5⟩
    [0x0E,0x00,0x00,0x01,0x10] State.routedClient State.routedClient [.notifyApplication 1,.answered true]
    ⟨0x02,0xFD,0x80,0x01,0x00,0x00,0x00,0x05⟩ rfl rfl rfl rfl rfl

/- 02 FD 80 01 80 00 00 00 and a payload of 2147483648 bytes from the registered client. -/
theorem largeMessageDropped : ¬ ∀ (h : Header) (action : GenericHeaderAction) (payload : List UInt8),
    parseGenericHeader ⟨.negativeAck,0,0⟩ (Buffer.filled h.bytes) 8 = .ok action → action.type = .diagnosticMessage →
    payload.length = action.payloadLength.toNat →
    State.routedClient.connection.routedClientAddress = some (sourceOf payload) →
    DeliversInFull (Application.answering true) action payload [.notifyApplication (targetOf payload),.answered true]
      State.routedClient := by
  intro stated
  have rules : HeaderRules ⟨.diagnosticMessage,0,2147483648⟩ := ⟨by decide,by simp,fun _ => by decide⟩
  obtain ⟨data,length⟩ : ∃ data : List UInt8, data.length = 2147483644 := ⟨List.replicate _ 0,List.length_replicate⟩
  have size : (0x0E::0x00::0x00::0x01::data).length = 2147483648 := by
    simp only [List.length_cons,length]
  have delivered := stated ⟨0x02,0xFD,0x80,0x01,0x80,0x00,0x00,0x00⟩ ⟨.diagnosticMessage,0,2147483648⟩
    (0x0E::0x00::0x00::0x01::data) rfl rfl size rfl
  have small := (deliversExactly rules rfl size rfl rfl).mp delivered
  omega

section Bounds
open Program

def Bounded (s : State σ) (_ : List Event) (t : State σ) (f : Option Fault) : Prop :=
  s.connection.routedClientAddress ≠ none →
    t.connection.routedClientAddress ≠ none ∧ ∀ e, f = some e → e = .emptyFunction

theorem bounded : Composable (@Bounded σ) where
  refl _ routed := ⟨routed,by simp⟩
  trans first second routed := second (first routed).1

theorem boundedSame {s t : State σ} {l : List Event} (routed : t.connection.routedClientAddress = s.connection.routedClientAddress) :
    Bounded s l t none := fun known => ⟨by rw [routed]; exact known,by simp⟩

theorem sendsBounded {s : State σ} {bytes : List UInt8} {o : Outcome Fault Event (State σ) Int}
    (sends : Sends s bytes o) : Bounded s o.log o.state o.fault := by
  obtain ⟨_⟩ := sends
  exact boundedSame rfl

theorem waitForResponseBounded : Meets Bounded (waitForResponse : Doip σ Unit) :=
  fun s routed => ⟨by rw [(waitForResponseEffect s).routed]; exact routed,(waitForResponseEffect s).faults⟩

theorem answeredBounded {x : Doip σ α} {s : State σ} {call : Call} (h : At Bounded x s) :
    At Bounded (do
      Program.emit (.called call)
      let _ ← x
      pure (0 : Int)) s :=
  atBind bounded (boundedSame rfl) (fun _ _ => atBind bounded h (fun _ _ => meetsPure bounded _ _))

theorem performBounded (call : Call) : Meets Bounded (perform call : Doip σ Int) := by
  intro s
  cases call with
  | sendNegativeAck ackCode =>
    exact atBind bounded (boundedSame rfl) (fun _ _ => sendsBounded (sendNegativeAckSends ackCode s))
  | triggerDisconnection => exact answeredBounded (boundedSame rfl)
  | setGeneralInactivityTime seconds =>
    refine answeredBounded ?_
    unfold setGeneralInactivityTime
    split <;> exact boundedSame rfl
  | isSocketActive => exact boundedSame rfl
  | timerRound => exact answeredBounded (waitForResponseBounded s)
  | sendDiagnosticAck sourceAddress ackType ackCode =>
    intro routed
    obtain ⟨registered,known⟩ := Option.ne_none_iff_exists'.mp routed
    exact answeredBounded (sendsBounded (sendDiagnosticAckSends sourceAddress ackType ackCode known)) routed
  | sendDiagnosticPayload sourceAddress data =>
    intro routed
    obtain ⟨registered,known⟩ := Option.ne_none_iff_exists'.mp routed
    exact answeredBounded (sendsBounded (sendDiagnosticPayloadSends sourceAddress data known)) routed

theorem callbackBounded (script : Script Call Int α) : Meets Bounded (script.interpret perform : Doip σ α) :=
  Script.interpretMeets bounded script.callsTrue (fun call _ => performBounded call)

theorem announceBounded (app : Application σ) (targetAddress : UInt16) (data : List UInt8) (permitted : Prop)
    [Decidable permitted] : Meets Bounded (announceAndCheck app targetAddress data permitted) := by
  have emits : ∀ e, Meets Bounded (Program.emit e : Doip σ Unit) := fun _ _ => boundedSame rfl
  refine meetsBind bounded ?_ (fun ack => meetsBind bounded (meetsWhen bounded (fun _ => ?_)) (fun _ => meetsPure bounded _))
  · refine meetsBind bounded (emits _) (fun _ => meetsBind bounded (meetsGet bounded) (fun s => ?_))
    refine meetsBind bounded (callbackBounded _) (fun out => meetsBind bounded (fun _ => boundedSame rfl) (fun _ => ?_))
    exact meetsBind bounded (emits _) (fun _ => meetsPure bounded _)
  · refine meetsBind bounded (emits _) (fun _ => meetsBind bounded (meetsGet bounded) (fun s => ?_))
    exact meetsBind bounded (callbackBounded _) (fun _ _ => boundedSame rfl)

theorem payloadAccessesInBounds (app : Application σ) {uninit action : GenericHeaderAction} {h : Header}
    {payload : List UInt8} {s : State σ} {registered : Address}
    (parsed : parseGenericHeader uninit (Buffer.filled h.bytes) 8 = .ok action)
    (size : payload.length = action.payloadLength.toNat)
    (routed : s.connection.routedClientAddress = some registered) :
    (react app action payload s).fault = none ∨ (react app action payload s).fault = some .emptyFunction := by
  have rules := parsedRules parsed
  by_cases nack : action.type = .negativeAck
  · have reaction := reactOnNegativeAckReacts action.value s
    rw [reactNack nack,Outcome.prependFault]
    generalize reactOnNegativeAck action.value s = o at reaction
    cases reaction <;> exact Or.inl rfl
  by_cases routing : action.type = .routingActivationRequest
  · obtain ⟨d0,d1,d2,rest,rfl⟩ := activationPayload rules size routing
    have reaction := reactOnRoutingActivationReacts d0 d1 d2 rest s
    have pointer : payloadPointer (d0::d1::d2::rest) = some (Buffer.filled (d0::d1::d2::rest)) := rfl
    rw [reactActivation routing,Outcome.prependFault,pointer]
    generalize reactOnRoutingActivation _ s = o at reaction
    cases reaction <;> exact Or.inl rfl
  by_cases diagnostic : action.type = .diagnosticMessage
  · obtain ⟨d0,d1,d2,d3,data,_,reacted⟩ := @diagnosticReacts σ app action payload s rules size diagnostic _ routed
    have only := (announceBounded app (bigEndian16 d2 d3) data (registered = (d0,d1) ∧ payload.length < 2147483648) s
      (by simp [routed])).2
    rw [reacted,Outcome.prependFault]
    generalize Outcome.fault _ = f at only
    cases f with
    | none => exact Or.inl rfl
    | some e => exact Or.inr (congrArg some (only e rfl))
  · obtain ⟨v,reacted⟩ := @otherReacts σ app action payload s nack routing diagnostic
    rw [reacted]
    exact Or.inl rfl

theorem payloadAccessesInBoundsShort :
    (react (Application.answering true) ⟨.diagnosticPositiveAck,0x04,4⟩ [0x0E,0x00,0x00,0x01] State.routedClient).fault = none ∨
      (react (Application.answering true) ⟨.diagnosticPositiveAck,0x04,4⟩ [0x0E,0x00,0x00,0x01] State.routedClient).fault =
        some .emptyFunction :=
  @payloadAccessesInBounds Unit (Application.answering true) ⟨.negativeAck,0,0⟩ ⟨.diagnosticPositiveAck,0x04,4⟩
    ⟨0x02,0xFD,0x80,0x02,0x00,0x00,0x00,0x04⟩ [0x0E,0x00,0x00,0x01] State.routedClient (0x0E,0x00) rfl rfl rfl

end Bounds
end LibDoip
