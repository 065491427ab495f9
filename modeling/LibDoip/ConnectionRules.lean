import LibDoip.ConnectionSteps
import LibDoip.Run

/-! What the calls on a connection do, once for every property of its runs. Everything that happens
is one of a few things: something is noted, a field that no property is about changes, one of four
messages is sent, the stream is read, the socket is closed, the timer fires or the application
triggers a disconnection. -/
namespace LibDoip
open Library
variable {σ α : Type}

def Event.Inward : Event → Prop
  | .timerReset _ | .timerStarted | .notifyApplication _ | .answered _ | .diagCallback _ _ _ | .receiving
  | .received _ _ => True
  | .called call => call ≠ .triggerDisconnection
  | _ => False

structure Retimes (f : AliveCheckTimer → AliveCheckTimer) : Prop where
  timeout : ∀ t, (f t).timeout = t.timeout
  disabled : ∀ t, t.disabled = true → (f t).disabled = true

structure ConnectionRules (R : State σ → List Event → State σ → Option Fault → Prop) : Prop where
  composable : Program.Composable R
  stopped : ∀ {s e}, R s [] s (some e)
  inward : ∀ {s e}, e.Inward → R s [e] s none
  asked : ∀ {s environment}, R s [] {s with environment := environment} none
  applied : ∀ {s application}, R s [] {s with application := application} none
  timed : ∀ {s f}, Retimes f → R s [] (s.setTimer f) none
  routed : ∀ {s address}, R s [] (s.setConnection (fun c => {c with routedClientAddress := some address})) none
  sent : ∀ {s bytes o}, OwnMessage bytes → Sends s bytes o → R s o.log o.state o.fault
  read : ∀ {s l t}, HasRead s l t → R s l t none
  closed : ∀ {s l t}, closeSocket false s = ⟨l,t,.ok ()⟩ → R s l t none
  expired : ∀ {s l t now}, closeSocket false (s.setTimer (·.expire)) = ⟨l,t,.ok ()⟩ →
    R s (.timeout now::l ++ [.closeConnection]) t none
  unbound : ∀ {s now}, R s [.timeout now] (s.setTimer (·.expire)) (some .emptyFunction)
  triggered : ∀ {s}, R s [.called .triggerDisconnection,.closeConnection] s none

namespace ConnectionRules
open Program
variable {R : State σ → List Event → State σ → Option Fault → Prop} (rules : ConnectionRules R)
include rules

theorem started {s t : State σ} {l : List Event} (ran : startAliveCheck s = ⟨l,t,.ok ()⟩) : R s l t none := by
  cases active : s.connection.aliveCheckTimer.active with
  | true =>
    cases ran.symm.trans (startAliveCheckActive active)
    exact rules.composable.refl s
  | false =>
    cases disabled : s.connection.aliveCheckTimer.disabled with
    | true =>
      cases ran.symm.trans (startAliveCheckDisabled active disabled)
      exact rules.timed ⟨fun _ => rfl,fun _ off => off⟩
    | false =>
      cases ran.symm.trans (startAliveCheckEnabled active disabled)
      have seen : R s [] s.ticked none := rules.asked
      have reset : R s.ticked [.timerReset s.ticked.environment.now] s.ticked none := rules.inward trivial
      have pushed : R s.ticked [.timerStarted] s.ticked none := rules.inward trivial
      have noted := rules.composable.trans seen (rules.composable.trans reset pushed)
      have timed := rules.composable.trans noted (rules.timed (s := s.ticked)
        (f := fun t => AliveCheckTimer.startTimer {t with cb := true} s.ticked.environment.now) ⟨fun _ => rfl,fun _ off => off⟩)
      exact timed

theorem steps : ConnectionSteps R where
  composable := rules.composable
  stopped := rules.stopped
  noted {s e} noted := rules.inward (by
    cases e <;> first | exact noted.elim | trivial | skip
    rename_i call
    rintro rfl
    exact noted)
  ticked := rules.asked
  applied := rules.applied
  sent own _ sends _ := rules.sent own sends
  read reading _ := rules.read reading
  closed := rules.closed
  expired _ _ ran := rules.expired ran
  unbound _ _ := rules.unbound
  triggered := rules.triggered
  set {s seconds} := by
    have called : R s [.called (.setGeneralInactivityTime seconds)] s none :=
      rules.inward (show (Event.called (.setGeneralInactivityTime seconds)).Inward from Call.noConfusion)
    refine rules.composable.trans called (rules.timed (f := AliveCheckTimer.inactivity seconds) ⟨fun t => ?_,fun t off => ?_⟩)
    · unfold AliveCheckTimer.inactivity
      split <;> rfl
    · unfold AliveCheckTimer.inactivity
      split <;> first | exact off | rfl
  reset {s} _ := by
    have noted : R s [.timerReset s.environment.now] s none := rules.inward trivial
    exact rules.composable.trans noted (rules.timed (f := (·.resetTimer s.environment.now)) ⟨fun _ => rfl,fun _ off => off⟩)
  activated {s o gateway address l t} sends _ ran := by
    have sent := rules.sent (.activationResponse gateway address successfullyRoutedCode) sends
    have registered : R o.state [] (o.state.register address) none := rules.routed
    obtain ⟨_⟩ := sends
    exact rules.composable.trans sent (rules.composable.trans registered (rules.started ran))

theorem setTimerMeets {f : AliveCheckTimer → AliveCheckTimer} (retimes : Retimes f) :
    Meets R (Program.modify (·.setTimer f)) := fun _ => rules.timed retimes

theorem waitForResponseMeets : Meets R waitForResponse := rules.steps.toCallSteps.waitForResponseMeets

theorem performMeets (call : Call) : Meets R (perform call) := rules.steps.toCallSteps.performMeets call

theorem advanceMeets (app : Application σ) (uninit : GenericHeaderAction) (thread : Thread) :
    Meets R (advance app uninit thread) := rules.steps.advanceMeets app uninit thread

theorem reactOnReceivedTcpMessageMeets (app : Application σ) (action : GenericHeaderAction) (payloadLength : Nat)
    (payload : Option Buffer) : Meets R (reactOnReceivedTcpMessage app action payloadLength payload) :=
  rules.steps.reactOnReceivedTcpMessageMeets app action payloadLength payload

theorem receivingMeets {s t : State σ} {l : List Event} (reading : HasRead s l t) :
    R s (.receiving::l) t none :=
  rules.composable.trans (rules.inward (show Event.Inward .receiving from trivial)) (rules.read reading)

theorem receiveTcpOrTlsMessageMeets (app : Application σ) (uninit : GenericHeaderAction) (inbox : List Arrival) :
    Meets R (receiveTcpOrTlsMessage app uninit inbox) := by
  intro s
  have received := receives app uninit inbox s
  unfold At
  generalize receiveTcpOrTlsMessage app uninit inbox s = o at received
  cases received with
  | closed reading _ _ ran => exact rules.composable.trans (rules.receivingMeets reading) (rules.closed ran)
  | frame events _ _ _ =>
    exact rules.composable.trans (rules.receivingMeets (.reads events))
      (meetsBind rules.composable (rules.steps.messageReceivedMeets app _ _) (fun _ => meetsPure rules.composable _) s)
  | @mistaken _ t _ _ reading _ _ _ _ =>
    exact rules.composable.trans (rules.receivingMeets reading)
      (meetsBind rules.composable (rules.steps.messageReceivedMeets app _ _) (fun _ => meetsPure rules.composable _) t)

theorem stepMeets (app : Application σ) (op : Op) (inbox : List Arrival) : Meets R (step app op inbox) := by
  cases op with
  | receive uninit => exact fun s => stepReceiveAt rules.composable (rules.receiveTcpOrTlsMessageMeets app uninit inbox s)
  | call call => exact stepCallMeets rules.composable (rules.performMeets call) inbox

theorem runMeets (app : Application σ) (ops : List Op) (inbox : List Arrival) : Meets R (run app ops inbox) :=
  iterateMeets rules.composable (rules.stepMeets app) ops inbox

theorem moveMeets (app : Application σ) (m : Move) (thread : Thread) : Meets R (move app m thread) := by
  cases m with
  | receiver uninit => exact rules.advanceMeets app uninit thread
  | timer => exact meetsBind rules.composable rules.waitForResponseMeets (fun _ => meetsPure rules.composable thread)

theorem movesMeets (app : Application σ) (moves : List Move) (thread : Thread) :
    Meets R (Program.iterate (move app) moves thread) :=
  iterateMeets rules.composable (rules.moveMeets app) moves thread

end ConnectionRules
end LibDoip
