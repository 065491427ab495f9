import LibDoip.Classification
import LibDoip.Record

/-! What a connection does with one complete frame: what it sends, whether it closes, whom it
registers and whether it starts the alive check. -/
namespace LibDoip
open Library
variable {σ α : Type}

def payloadPointer (payload : List UInt8) : Option Buffer :=
  if payload = [] then none else some (Buffer.filled payload)

def react (app : Application σ) (action : GenericHeaderAction) (payload : List UInt8) : Doip σ Int :=
  reactOnReceivedTcpMessage app action action.payloadLength.toNat (payloadPointer payload)

def announceAndCheck (app : Application σ) (targetAddress : UInt16) (data : List UInt8) (permitted : Prop)
    [Decidable permitted] : Doip σ Int := do
  let ack ← notifyApplication app targetAddress
  Program.when (ack = true ∧ permitted) (diagCallback app targetAddress data data.length)
  pure (-1)

structure ReactsToNack (value : UInt8) (s : State σ) (o : Outcome Fault Event (State σ) Int) : Prop where
  sent : o.log.filterMap Event.sent = [[0x02,0xFD,0x00,0x00,0x00,0x00,0x00,0x01,value]]
  closed : o.state.connection.clientSock = 0 ↔ value = 0x00 ∨ value = 0x04
  routed : o.state.connection.routedClientAddress = s.connection.routedClientAddress
  timer : o.state.connection.aliveCheckTimer = s.connection.aliveCheckTimer

structure ReactsToActivation (d0 d1 code : UInt8) (s : State σ) (o : Outcome Fault Event (State σ) Int) : Prop where
  sent : o.log.filterMap Event.sent = [[0x02,0xFD,0x00,0x06,0x00,0x00,0x00,0x09,d0,d1,
    highByte s.connection.logicalGatewayAddress,lowByte s.connection.logicalGatewayAddress,code,0x00,0x00,0x00,0x00]]
  closed : o.state.connection.clientSock = 0 ↔ code ≠ 0x10
  routed : o.state.connection.routedClientAddress =
    if code = 0x10 then some (d0,d1) else s.connection.routedClientAddress
  started : .timerStarted ∈ o.log ↔ code = 0x10 ∧ s.connection.aliveCheckTimer.active = false ∧
    s.connection.aliveCheckTimer.disabled = false
  timer : .timerStarted ∉ o.log → o.state.connection.aliveCheckTimer =
    if code = 0x10 ∧ s.connection.aliveCheckTimer.active = false then {s.connection.aliveCheckTimer with cb := true}
    else s.connection.aliveCheckTimer

theorem errorsUnsent {s : State σ} {l : List Event}
    (errors : ∀ e ∈ l, ∃ ssl err, e = .sslError ssl err ∧ s.connection.ssl = some ssl) :
    l.filterMap Event.sent = [] := by
  refine List.filterMap_eq_nil_iff.mpr (fun e member => ?_)
  obtain ⟨_,_,rfl,_⟩ := errors e member
  rfl

theorem closingUnsent {l : List Event} (closing : ∀ e ∈ l, e.OfClosing) : l.filterMap Event.sent = [] := by
  refine List.filterMap_eq_nil_iff.mpr (fun e member => ?_)
  have closes := closing e member
  cases e <;> first | rfl | exact closes.elim

theorem announcedDiagnostic (app : Application σ) (d0 d1 d2 d3 : UInt8) (data : List UInt8) {s : State σ}
    {registered : Address} (bound : data.length + 4 < 4294967296)
    (routed : s.connection.routedClientAddress = some registered) :
    reactOnDiagnosticMessage app (data.length + 4) (some (Buffer.filled (d0::d1::d2::d3::data))) s =
      announceAndCheck app (bigEndian16 d2 d3) data (registered = (d0,d1) ∧ data.length + 4 < 2147483648) s := by
  have l2 : Buffer.loadFrom (some (Buffer.filled (d0::d1::d2::d3::data))) 2 = .ok d2 := rfl
  have l3 : Buffer.loadFrom (some (Buffer.filled (d0::d1::d2::d3::data))) 3 = .ok d3 := rfl
  have notified := notifyApplicationNotified app (bigEndian16 d2 d3) s
  rw [reactOnDiagnosticMessage,l2,Program.liftOkBind,l3,Program.liftOkBind,announceAndCheck,Program.bindApply,Program.bindApply]
  generalize notifyApplication app (bigEndian16 d2 d3) s = o at notified
  obtain ⟨l,t,r⟩ := o
  cases r with
  | error e => rfl
  | ok ack =>
    have same := notified.routed.trans routed
    rw [Outcome.andThenOk,Outcome.andThenOk]
    cases ack with
    | false => rw [Program.whenFalse Bool.false_ne_true,Program.whenFalse (fun both => Bool.false_ne_true both.1)]
    | true =>
      rw [Program.whenTrue rfl]
      simp only [bind_assoc,pure_bind]
      rw [Program.bindApply,connectionApply,Outcome.andThenOk,Outcome.prependNil,same]
      by_cases small : data.length + 4 < 2147483648
      · have length : toInt (data.length + 4) = data.length + 4 := toIntSmall small
        rw [length,parsedDiagnosticMessage]
        by_cases own : registered = (d0,d1)
        · rw [if_pos own,Program.whenTrue ⟨rfl,own,small⟩]
          simp only [bind_assoc,pure_bind]
        · rw [if_neg own,Program.whenFalse (fun all => own all.2.1)]
          rfl
      · have negative : toInt (data.length + 4) < 4 := by
          rw [toIntLarge (by omega) bound]
          omega
        rw [parsedNegativeLength _ _ _ negative,Program.whenFalse (fun all => small all.2.2)]
        rfl

section Types
variable {app : Application σ} {action : GenericHeaderAction} {payload : List UInt8} {s : State σ}

theorem reactNoted {reaction : Doip σ Int} (chosen : (match action.type with
    | .negativeAck => reactOnNegativeAck action.value
    | .routingActivationRequest => reactOnRoutingActivation (payloadPointer payload)
    | .aliveCheckResponse => pure 0
    | .diagnosticMessage => reactOnDiagnosticMessage app action.payloadLength.toNat (payloadPointer payload)
    | _ => pure (-1)) = reaction) :
    react app action payload s = (reaction s).prepend [.received action (payloadPointer payload)] := by
  subst chosen
  rfl

theorem reactNack (type : action.type = .negativeAck) : react app action payload s =
    (reactOnNegativeAck action.value s).prepend [.received action (payloadPointer payload)] :=
  reactNoted (by rw [type])

theorem reactActivation (type : action.type = .routingActivationRequest) : react app action payload s =
    (reactOnRoutingActivation (payloadPointer payload) s).prepend [.received action (payloadPointer payload)] :=
  reactNoted (by rw [type])

theorem reactDiagnostic (type : action.type = .diagnosticMessage) : react app action payload s =
    (reactOnDiagnosticMessage app action.payloadLength.toNat (payloadPointer payload) s).prepend
      [.received action (payloadPointer payload)] :=
  reactNoted (by rw [type])

theorem ReactsToNack.noted {value : UInt8} {o : Outcome Fault Event (State σ) Int} {p : Option Buffer}
    (h : ReactsToNack value s o) : ReactsToNack value s (o.prepend [.received action p]) :=
  ⟨h.sent,h.closed,h.routed,h.timer⟩

theorem ReactsToActivation.noted {d0 d1 code : UInt8} {o : Outcome Fault Event (State σ) Int} {p : Option Buffer}
    (h : ReactsToActivation d0 d1 code s o) : ReactsToActivation d0 d1 code s (o.prepend [.received action p]) := by
  have told : .timerStarted ∈ (o.prepend [.received action p]).log ↔ .timerStarted ∈ o.log := by simp
  exact ⟨h.sent,h.closed,h.routed,told.trans h.started,fun none => h.timer (mt told.mpr none)⟩

theorem parsedRules {uninit : GenericHeaderAction} {h : Header}
    (parsed : parseGenericHeader uninit (Buffer.filled h.bytes) 8 = .ok action) : HeaderRules action := by
  have classified := parsedHeader uninit h.d0 h.d1 h.d2 h.d3 h.d4 h.d5 h.d6 h.d7 [] (Int.le_refl 8)
  rw [List.append_nil] at classified
  rw [← Except.ok.inj (classified.symm.trans parsed)]
  exact classifyRules uninit _ _ _ _ _ _ _ _

theorem activationPayload (rules : HeaderRules action) (size : payload.length = action.payloadLength.toNat)
    (type : action.type = .routingActivationRequest) : ∃ d0 d1 d2 rest, payload = d0::d1::d2::rest := by
  have length := rules.activation type
  rw [← size] at length
  match payload, length with
  | d0::d1::d2::rest, _ => exact ⟨d0,d1,d2,rest,rfl⟩
  | [_,_], length | [_], length | [], length => simp at length

theorem diagnosticReacts (rules : HeaderRules action) (size : payload.length = action.payloadLength.toNat)
    (type : action.type = .diagnosticMessage) {registered : Address}
    (routed : s.connection.routedClientAddress = some registered) :
    ∃ d0 d1 d2 d3 data, payload = d0::d1::d2::d3::data ∧ react app action payload s =
      (announceAndCheck app (bigEndian16 d2 d3) data (registered = (d0,d1) ∧ payload.length < 2147483648) s).prepend
        [.received action (some (Buffer.filled payload))] := by
  have length := rules.diagnostic type
  have bound := rules.bound
  rw [← size] at length bound
  match payload, length with
  | d0::d1::d2::d3::data, _ =>
    refine ⟨d0,d1,d2,d3,data,rfl,?_⟩
    rw [reactDiagnostic type,← size]
    exact congrArg _ (announcedDiagnostic app d0 d1 d2 d3 data bound routed)
  | [_,_,_], length | [_,_], length | [_], length | [], length => simp at length

theorem otherReacts (nack : action.type ≠ .negativeAck) (routing : action.type ≠ .routingActivationRequest)
    (diagnostic : action.type ≠ .diagnosticMessage) :
    ∃ v, react app action payload s = ⟨[.received action (payloadPointer payload)],s,.ok v⟩ := by
  cases type : action.type with
  | negativeAck => exact absurd type nack
  | routingActivationRequest => exact absurd type routing
  | diagnosticMessage => exact absurd type diagnostic
  | aliveCheckResponse => exact ⟨0,reactNoted (by rw [type])⟩
  | _ => exact ⟨-1,reactNoted (by rw [type])⟩

end Types

end LibDoip
