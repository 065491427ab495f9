import LibDoip.ConnectionRules

/-! The alive check against the receiving thread. A timer that fires closes the connection under the
thread; the thread looks at the flag once, between the header and the payload. -/
namespace LibDoip
open Library
variable {σ α : Type}

def Settles (s : State σ) (_ : List Event) (t : State σ) (f : Option Fault) : Prop :=
  f = none → Settled s → Settled t

theorem settles : ConnectionRules (@Settles σ) where
  composable := ⟨fun _ _ settled => settled,fun first second returned settled => second returned (first rfl settled)⟩
  stopped returned := nomatch returned
  inward _ _ settled := settled
  asked _ settled := settled.same rfl rfl rfl id
  applied _ settled := settled.same rfl rfl rfl id
  timed {s _} retimes _ settled :=
    settled.same rfl rfl (retimes.timeout s.connection.aliveCheckTimer) (retimes.disabled s.connection.aliveCheckTimer)
  routed _ settled := settled.same rfl rfl rfl id
  sent _ sends _ settled := by
    obtain ⟨_⟩ := sends
    exact settled.same rfl rfl rfl id
  read reading := reading.effect.shuts.settled
  closed ran := (closeSocketClosed ran).2.shuts.settled
  expired ran _ settled := expiredSettled settled ran
  unbound returned := nomatch returned
  triggered _ settled := settled

def Event.OfService : Event → Prop
  | .received _ _ | .notifyApplication _ | .diagCallback _ _ _ | .closeConnection | .write _ _
  | .sslWrite _ _ => True
  | _ => False

def Silent (s : State σ) (o : Outcome Fault Event (State σ) Thread) : Prop :=
  s.connection.aliveCheckTimer.timeout = true →
    (∀ e ∈ o.log, ¬ e.OfService) ∧ o.state.connection.aliveCheckTimer.timeout = true

def SilentAfterTimeout (app : Application σ) (m : Move) (thread : Thread) (s : State σ) : Prop :=
  Silent s (move app m thread s)

def Fires (s : State σ) : Prop :=
  s.connection.aliveCheckTimer.Running ∧ (s.connection.aliveCheckTimer.maxSeconds.toNat : Int) ≤
    s.connection.aliveCheckTimer.secondsPassed (s.environment.now + s.environment.ticks.headD 0)

/- The thread has looked at the flag, and the rest of the payload has arrived or is going to. -/
def Exposed (thread : Thread) : Prop := match thread.position with
  | .reading (.payload _) _ _ remaining => remaining ≤ (Inbox.stream thread.inbox).length
  | .blocked (.payload _) _ _ remaining called =>
      Readable called remaining ∧ remaining ≤ (Inbox.stream thread.inbox).length
  | .read (.payload action) _ readBytes => toUnsignedInt readBytes = action.payloadLength.toNat
  | .complete _ _ | .dispatching _ _ => True
  | _ => False

/- The timer does not fire between the look at the flag and the dispatch it would allow. -/
def Unexposed (m : Move) (thread : Thread) (s : State σ) : Prop := m = .timer → Fires s → ¬ Exposed thread

def Sized (thread : Thread) : Prop := match thread.position with
  | .reading (.payload action) _ payloadPos remaining => action.payloadLength.toNat < 4294967296 ∧
      payloadPos + remaining = action.payloadLength.toNat
  | .blocked (.payload action) _ payloadPos remaining _ => action.payloadLength.toNat < 4294967296 ∧
      payloadPos + remaining = action.payloadLength.toNat ∧ 0 < remaining
  | _ => True

structure Safe (thread : Thread) (s : State σ) : Prop where
  settled : Settled s
  sized : Sized thread
  unexposed : s.connection.aliveCheckTimer.timeout = true → ¬ Exposed thread

def Advances (s : State σ) (o : Outcome Fault Event (State σ) Thread) : Prop :=
  Silent s o ∧ ∀ thread, o.result = .ok thread → Safe thread o.state

theorem closingIsNoService {e : Event} (h : e.OfClosing) : ¬ e.OfService := by
  cases e <;> first | exact h.elim | exact id

theorem idleAdvances {s : State σ} {inbox : List Arrival} (settled : Settled s) :
    Advances s ((do
      closeSocket false
      pure ⟨.idle,inbox⟩ : Doip σ Thread) s) := by
  obtain ⟨m,t,closed,_,effect⟩ := closeSocketCloses false s
  rw [Program.returnAfter closed]
  refine ⟨fun fired => ⟨fun e member => closingIsNoService (effect.events e member),?_⟩,?_⟩
  · exact (congrArg _ (closeSocketTimer closed)).trans fired
  · rintro thread ⟨⟩
    exact ⟨effect.shuts.settled rfl settled,trivial,fun _ => id⟩

theorem stillAdvances {thread next : Thread} {s : State σ} {l : List Event} (safe : Safe thread s)
    (quiet : ∀ e ∈ l, ¬ e.OfService) (sized : Sized next)
    (unexposed : s.connection.aliveCheckTimer.timeout = true → ¬ Exposed next) :
    Advances s ⟨l,s,.ok next⟩ := by
  refine ⟨fun fired => ⟨quiet,fired⟩,?_⟩
  rintro _ ⟨⟩
  exact ⟨safe.settled,sized,unexposed⟩

section Moves
variable {app : Application σ} {thread : Thread} {s : State σ}

theorem readNotService (c : DoIPConnection) (n : Nat) : ¬ (readEvent c n).OfService := by
  unfold readEvent
  split <;> exact id

theorem readingAdvances {part : Part} {data : Buffer} {pos remaining : Nat} {inbox : List Arrival}
    {uninit : GenericHeaderAction} (safe : Safe ⟨.reading part data pos remaining,inbox⟩ s) :
    Advances s (advance app uninit ⟨.reading part data pos remaining,inbox⟩ s) := by
  have sized := safe.sized
  have unexposed := safe.unexposed
  by_cases done : remaining = 0
  · rw [advance,if_pos done]
    refine stillAdvances safe (by simp) trivial (fun fired => ?_)
    cases part with
    | header => exact id
    | payload action => exact absurd (by rw [done]; exact Nat.zero_le _) (unexposed fired)
  · rw [advance,if_neg done,Program.bindApply,connectionApply,Outcome.andThenOk,Program.bindApply,
      Program.emitApply,Outcome.andThenOk,Outcome.prependNil]
    refine stillAdvances safe (List.forall_mem_singleton.mpr (readNotService _ _)) ?_ (fun fired => ?_)
    · cases part with
      | header => trivial
      | payload action => exact ⟨sized.1,sized.2,Nat.pos_of_ne_zero done⟩
    · cases part with
      | header => exact id
      | payload action => exact fun exposed => unexposed fired exposed.2

theorem failedAdvances {part : Part} {data : Buffer} {pos remaining : Nat} {inbox rest : List Arrival}
    {called : DoIPConnection} (safe : Safe ⟨.blocked part data pos remaining called,inbox⟩ s) :
    Advances s ((do
      let count ← failedRead pos
      pure ⟨.read part data count,rest⟩ : Doip σ Thread) s) := by
  have failed := failedReadFails pos s
  generalize ran : failedRead pos s = o at failed
  simp only [Program.bindApply,ran]
  cases failed with
  | plain plain =>
    refine stillAdvances safe (by simp) trivial (fun fired => ?_)
    cases part with
    | header => exact id
    | payload action =>
      obtain ⟨bound,total,more⟩ := safe.sized
      simp only [Exposed,toUnsignedInt]
      omega
  | @tls ssl l t tls handled =>
    have early : s.connection.aliveCheckTimer.timeout ≠ true := by
      intro fired
      have plain := safe.settled.closed (safe.settled.expired fired).2
      rw [tls] at plain
      contradiction
    refine ⟨fun fired => absurd fired early,?_⟩
    rintro _ ⟨⟩
    refine ⟨handled.effect.shuts.settled rfl safe.settled,trivial,fun fired => ?_⟩
    exact absurd ((congrArg _ (handled.timer)).symm.trans fired) early

theorem blockedAdvances {part : Part} {data : Buffer} {pos remaining : Nat} {inbox : List Arrival}
    {called : DoIPConnection} {uninit : GenericHeaderAction}
    (safe : Safe ⟨.blocked part data pos remaining called,inbox⟩ s) :
    Advances s (advance app uninit ⟨.blocked part data pos remaining called,inbox⟩ s) := by
  have returned := @transportReadReturned called remaining
  rw [advance,readReturns]
  split
  · exact failedAdvances safe
  · rename_i some
    generalize data.storeAll pos (transportRead called remaining inbox).bytes = stored
    cases stored with
    | error e => exact ⟨fun fired => ⟨by simp,fired⟩,by simp⟩
    | ok data =>
      rw [Program.liftOkBind]
      cases part with
      | header => exact stillAdvances safe (by simp) trivial (fun _ => id)
      | payload action =>
        obtain ⟨bound,total,more⟩ := safe.sized
        obtain ⟨readable,delivered⟩ := returned more (by omega) some
        have count := delivered.count
        have taken := delivered.bound
        refine stillAdvances safe (by simp) ⟨bound,by omega⟩ (fun fired exposed => ?_)
        refine safe.unexposed fired ⟨readable,?_⟩
        have enough : remaining - (transportRead called remaining inbox).count.toNat ≤
          (Inbox.stream (transportRead called remaining inbox).rest).length := exposed
        rw [delivered.next,List.length_append]
        omega

theorem headerAdvances {header : Buffer} {readBytes : Nat} {inbox : List Arrival}
    {uninit : GenericHeaderAction} (safe : Safe ⟨.read .header header readBytes,inbox⟩ s) :
    Advances s (checkHeader uninit header readBytes inbox s) := by
  rw [checkHeader,Program.bindApply,connectionApply,Outcome.andThenOk,Outcome.prependNil]
  split
  · rename_i accepted
    have early : s.connection.aliveCheckTimer.timeout ≠ true := by simp [accepted.2]
    generalize parsed : parseGenericHeader uninit header genericHeaderLength = result
    cases result with
    | error e => exact ⟨fun fired => ⟨by simp,fired⟩,by simp⟩
    | ok action =>
      rw [Program.liftOkBind]
      split
      · exact stillAdvances safe (by simp) ⟨parsedLength (Int.le_refl 8) parsed,Nat.zero_add _⟩
          (fun fired => absurd fired early)
      · exact stillAdvances safe (by simp) trivial (fun fired => absurd fired early)
  · exact idleAdvances safe.settled

theorem payloadAdvances {action : GenericHeaderAction} {payload : Buffer} {readBytes : Nat}
    {inbox : List Arrival} {uninit : GenericHeaderAction}
    (safe : Safe ⟨.read (.payload action) payload readBytes,inbox⟩ s) :
    Advances s (advance app uninit ⟨.read (.payload action) payload readBytes,inbox⟩ s) := by
  rw [advance]
  split
  · exact idleAdvances safe.settled
  · rename_i equal
    exact stillAdvances safe (by simp) trivial (fun fired => absurd (Decidable.not_not.mp equal) (safe.unexposed fired))

theorem completeAdvances {action : GenericHeaderAction} {payload : Option Buffer} {inbox : List Arrival}
    {uninit : GenericHeaderAction} (safe : Safe ⟨.complete action payload,inbox⟩ s) :
    Advances s (advance app uninit ⟨.complete action payload,inbox⟩ s) := by
  have early : s.connection.aliveCheckTimer.timeout ≠ true := fun fired => safe.unexposed fired trivial
  rw [advance,Program.bindApply,connectionApply,Outcome.andThenOk,Outcome.prependNil]
  by_cases active : s.connection.aliveCheckTimer.active = true
  · obtain ⟨now,t,reset,retimed⟩ := resetTimerRetimed active
    rw [Program.whenTrue active,Program.bindApply,reset]
    refine ⟨fun fired => absurd fired early,?_⟩
    rintro _ ⟨⟩
    refine ⟨?_,trivial,fun fired => absurd (retimed.expired.symm.trans fired) early⟩
    exact safe.settled.same retimed.sock retimed.ssl retimed.expired (fun off => retimed.disabled.trans off)
  · rw [Program.whenFalse active]
    exact stillAdvances safe (by simp) trivial (fun fired => absurd fired early)

theorem dispatchingAdvances {action : GenericHeaderAction} {payload : Option Buffer} {inbox : List Arrival}
    {uninit : GenericHeaderAction} (safe : Safe ⟨.dispatching action payload,inbox⟩ s) :
    Advances s (advance app uninit ⟨.dispatching action payload,inbox⟩ s) := by
  refine ⟨fun fired => absurd trivial (safe.unexposed fired),?_⟩
  have settled := settles.reactOnReceivedTcpMessageMeets app action action.payloadLength.toNat payload s
  unfold Program.At at settled
  rw [advance,Program.bindApply]
  generalize reactOnReceivedTcpMessage app action action.payloadLength.toNat payload s = o at settled
  obtain ⟨l,t,result⟩ := o
  cases result with
  | error e => simp
  | ok v =>
    rintro _ ⟨⟩
    exact ⟨settled rfl safe.settled,trivial,fun _ => id⟩

theorem receiverAdvances (uninit : GenericHeaderAction) (safe : Safe thread s) :
    Advances s (advance app uninit thread s) := by
  obtain ⟨position,inbox⟩ := thread
  cases position with
  | idle => exact stillAdvances safe (List.forall_mem_singleton.mpr id) trivial (fun _ => id)
  | reading part data pos remaining => exact readingAdvances safe
  | blocked part data pos remaining called => exact blockedAdvances safe
  | read part data readBytes =>
    cases part with
    | header => exact headerAdvances safe
    | payload action => exact payloadAdvances safe
  | complete action payload => exact completeAdvances safe
  | dispatching action payload => exact dispatchingAdvances safe

theorem timerAdvances (safe : Safe thread s) (unexposed : Fires s → ¬ Exposed thread) :
    Advances s (move app .timer thread s) := by
  have settled := (waitForResponseEffect s).shuts.settled
  rw [move,Program.bindApply]
  by_cases running : s.connection.aliveCheckTimer.Running
  · have early : s.connection.aliveCheckTimer.timeout ≠ true := by
      intro fired
      have on := running.2
      rw [(safe.settled.expired fired).1] at on
      contradiction
    refine ⟨fun fired => absurd fired early,?_⟩
    by_cases fires : Fires s
    · generalize waitForResponse s = o at settled
      obtain ⟨l,t,result⟩ := o
      cases result with
      | error e => simp
      | ok u =>
        rintro _ ⟨⟩
        exact ⟨settled rfl safe.settled,safe.sized,fun _ => unexposed fires⟩
    · rw [roundWaits running fires,Outcome.andThenOk,Program.pureApply,Outcome.prependMk]
      rintro _ ⟨⟩
      exact ⟨safe.settled.same rfl rfl rfl id,safe.sized,fun fired => absurd fired early⟩
  · rw [roundStopped running,Outcome.andThenOk,Program.pureApply,Outcome.prependMk]
    exact stillAdvances safe (by simp) safe.sized safe.unexposed

theorem moveAdvances {m : Move} (safe : Safe thread s) (unexposed : Unexposed m thread s) :
    Advances s (move app m thread s) := by
  cases m with
  | receiver uninit => exact receiverAdvances uninit safe
  | timer => exact timerAdvances safe (unexposed rfl)

end Moves

theorem freshSafe {s : State σ} (fresh : Fresh s)
    (opened : s.connection.ssl ≠ none → isSocketActive s.connection) (inbox : List Arrival) :
    Safe ⟨.idle,inbox⟩ s := by
  obtain ⟨_,_,_,_,_,connection⟩ := fresh
  refine ⟨⟨fun closed => Decidable.not_not.mp (fun tls => opened tls closed),fun fired => ?_⟩,trivial,fun _ => id⟩
  rw [connection] at fired
  cases fired

theorem silentAfterTimeout (app : Application σ) (moves : List Move) (inbox : List Arrival) {s : State σ}
    (fresh : Fresh s) (opened : s.connection.ssl ≠ none → isSocketActive s.connection)
    (unexposed : Program.Each Unexposed (move app) moves ⟨.idle,inbox⟩ s) :
    Program.Each (SilentAfterTimeout app) (move app) moves ⟨.idle,inbox⟩ s := by
  refine Program.eachOfInvariant (fun m thread s safe each => ?_) (freshSafe fresh opened inbox) unexposed
  exact @moveAdvances σ app thread s m safe each

section Scenario

def State.patient : State Unit := ⟨DoIPConnection.new 5 0x0E80 none 0 5,⟨[],[],[],[0,5000000],0⟩,()⟩

def slowInbox : List Arrival :=
  [.data 0x02 [0xFD,0x00,0x05,0x00,0x00,0x00,0x07,0x0E,0x00,0x00,0x00,0x00,0x00,0x00],
    .data 0x02 [0xFD,0x80,0x01,0x00,0x00,0x00,0x05,0x0E,0x00,0x00,0x01,0x10]]

def receiverMoves (n : Nat) : List Move := List.replicate n (.receiver ⟨.negativeAck,0,0⟩)

theorem receiverUnexposed {app : Application σ} (n : Nat) (thread : Thread) (s : State σ) :
    Program.Each Unexposed (move app) (receiverMoves n) thread s := by
  refine Program.eachOfAll (fun m member thread s timer => ?_) thread s
  rw [List.eq_of_mem_replicate member] at timer
  contradiction

theorem State.patientFresh : Fresh State.patient := ⟨5,0x0E80,none,0,5,rfl⟩

theorem silentAfterTimeoutHeader : Program.Each (SilentAfterTimeout (Application.answering true))
    (move (Application.answering true)) (receiverMoves 13 ++ .timer::receiverMoves 5) ⟨.idle,slowInbox⟩
    State.patient := by
  refine silentAfterTimeout _ _ _ State.patientFresh (fun _ => by decide) ?_
  refine Program.eachAppend (receiverUnexposed 13 _ _) (fun thread waiting => ⟨?_,fun _ _ => receiverUnexposed 5 _ _⟩)
  cases waiting
  exact fun _ _ => id

/- The timer fires while the thread is blocked in the payload, which arrives afterwards and is delivered. -/
theorem servedAfterTimeout : ¬ ∀ moves : List Move, Program.Each (SilentAfterTimeout (Application.answering true))
    (move (Application.answering true)) moves ⟨.idle,slowInbox⟩ State.patient := by
  intro stated
  have each := stated (receiverMoves 17 ++ .timer::receiverMoves 4 ++ [.receiver ⟨.negativeAck,0,0⟩])
  have silent := (Program.eachLast each rfl rfl).1
  exact silent (.received ⟨.diagnosticMessage,0,5⟩ (some (Buffer.filled [0x0E,0x00,0x00,0x01,0x10])))
    (by decide) trivial

end Scenario
end LibDoip
