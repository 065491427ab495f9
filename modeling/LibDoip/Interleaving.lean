import LibDoip.Reading

/-! The receiving thread step by step, with rounds of the timer thread between its steps. A read is
two steps, the call and its return, so the timer can have its turn while the thread is blocked.
Left alone, the thread does what `receiveTcpOrTlsMessage` does. -/
namespace LibDoip
open Library
variable {σ : Type}

inductive Part where
  | header
  | payload (action : GenericHeaderAction)
  deriving DecidableEq, Repr

/- A blocked read goes on with what the connection was when it was called. -/
inductive Position where
  | idle
  | reading (part : Part) (receivedData : Buffer) (payloadPos remainingPayload : Nat)
  | blocked (part : Part) (receivedData : Buffer) (payloadPos remainingPayload : Nat) (called : DoIPConnection)
  | read (part : Part) (receivedData : Buffer) (readBytes : Nat)
  | complete (action : GenericHeaderAction) (payload : Option Buffer)
  | dispatching (action : GenericHeaderAction) (payload : Option Buffer)
  deriving DecidableEq, Repr

structure Thread where
  position : Position
  inbox : List Arrival
  deriving DecidableEq, Repr

def readReturns (part : Part) (receivedData : Buffer) (payloadPos remainingPayload : Nat) (r : ReadResult) :
    Doip σ Thread :=
  if r.count ≤ 0 then do
    let count ← failedRead payloadPos
    pure ⟨.read part receivedData count,r.rest⟩
  else do
    let receivedData ← Program.lift (receivedData.storeAll payloadPos r.bytes)
    pure ⟨.reading part receivedData (payloadPos + r.count.toNat) (remainingPayload - r.count.toNat),r.rest⟩

def checkHeader (uninit : GenericHeaderAction) (header : Buffer) (readBytes : Nat) (inbox : List Arrival) :
    Doip σ Thread := do
  let c ← connection
  if toUnsignedInt readBytes = 8 ∧ c.aliveCheckTimer.timeout = false then do
    let action ← Program.lift (parseGenericHeader uninit header genericHeaderLength)
    if 0 < action.payloadLength then
      pure ⟨.reading (.payload action) (Buffer.alloc action.payloadLength.toNat) 0 action.payloadLength.toNat,inbox⟩
    else pure ⟨.complete action none,inbox⟩
  else do
    closeSocket false
    pure ⟨.idle,inbox⟩

def advance (app : Application σ) (uninit : GenericHeaderAction) : Thread → Doip σ Thread
  | ⟨.idle,inbox⟩ => do
      Program.emit .receiving
      pure ⟨.reading .header (Buffer.alloc 8) 0 8,inbox⟩
  | ⟨.reading part receivedData payloadPos remainingPayload,inbox⟩ =>
      if remainingPayload = 0 then pure ⟨.read part receivedData payloadPos,inbox⟩
      else do
        let c ← connection
        Program.emit (readEvent c remainingPayload)
        pure ⟨.blocked part receivedData payloadPos remainingPayload c,inbox⟩
  | ⟨.blocked part receivedData payloadPos remainingPayload called,inbox⟩ =>
      readReturns part receivedData payloadPos remainingPayload (transportRead called remainingPayload inbox)
  | ⟨.read .header header readBytes,inbox⟩ => checkHeader uninit header readBytes inbox
  | ⟨.read (.payload action) payload readBytes,inbox⟩ =>
      if toUnsignedInt readBytes ≠ action.payloadLength.toNat then do
        closeSocket false
        pure ⟨.idle,inbox⟩
      else pure ⟨.complete action (some payload),inbox⟩
  | ⟨.complete action payload,inbox⟩ => do
      let c ← connection
      Program.when (c.aliveCheckTimer.active = true) resetTimer
      pure ⟨.dispatching action payload,inbox⟩
  | ⟨.dispatching action payload,inbox⟩ => do
      let _ ← reactOnReceivedTcpMessage app action action.payloadLength.toNat payload
      pure ⟨.idle,inbox⟩

inductive Move where
  | receiver (uninit : GenericHeaderAction)
  | timer
  deriving DecidableEq, Repr

def move (app : Application σ) : Move → Thread → Doip σ Thread
  | .receiver uninit, thread => advance app uninit thread
  | .timer, thread => do
      waitForResponse
      pure thread

def Reaches (app : Application σ) (uninit : GenericHeaderAction) (thread : Thread) (s : State σ)
    (o : Outcome Fault Event (State σ) Thread) : Prop :=
  ∃ n, Program.iterate (move app) (List.replicate n (.receiver uninit)) thread s = o

namespace Reaches
variable {app : Application σ} {uninit : GenericHeaderAction} {thread next : Thread} {s t : State σ}
  {l : List Event} {o : Outcome Fault Event (State σ) Thread}

theorem done : Reaches app uninit thread s ⟨[],s,.ok thread⟩ := ⟨0,rfl⟩

theorem step (ran : advance app uninit thread s = ⟨l,t,.ok next⟩) (later : Reaches app uninit next t o) :
    Reaches app uninit thread s (o.prepend l) := by
  obtain ⟨n,reached⟩ := later
  refine ⟨n+1,?_⟩
  rw [List.replicate_succ,Program.iterate,Program.bindApply,move,ran,Outcome.andThenOk,reached]

theorem silent (ran : advance app uninit thread s = ⟨[],s,.ok next⟩) (later : Reaches app uninit next s o) :
    Reaches app uninit thread s o := step ran later

theorem fault {e : Fault} (ran : advance app uninit thread s = ⟨l,t,.error e⟩) :
    Reaches app uninit thread s ⟨l,t,.error e⟩ :=
  ⟨1,by rw [List.replicate_one,Program.iterate,Program.bindApply,move,ran,Outcome.andThenError]⟩

theorem last {x : Doip σ Int} {inbox : List Arrival}
    (ran : advance app uninit thread s = (x s).andThen (fun _ => pure ⟨.idle,inbox⟩)) :
    Reaches app uninit thread s ((x s).andThen (fun _ => pure ⟨.idle,inbox⟩)) := by
  generalize x s = o at ran
  obtain ⟨m,u,r⟩ := o
  cases r with
  | error e => exact fault ran
  | ok v =>
    simp only [Outcome.andThenOk,Program.pureApply,Outcome.prependMk,List.append_nil] at ran ⊢
    simpa using step ran done

end Reaches

section Refinement
variable {app : Application σ} {uninit : GenericHeaderAction}

/- The induction is on what remains to be read: each round of the loop is two steps of the thread. -/
theorem loopReaches {part : Part} {f : Received → Doip σ Thread}
    (later : ∀ r t, Reaches app uninit ⟨.read part r.data r.count,r.inbox⟩ t (f r t))
    (receivedData : Buffer) (payloadPos remainingPayload : Nat) (inbox : List Arrival) (s : State σ) :
    Reaches app uninit ⟨.reading part receivedData payloadPos remainingPayload,inbox⟩ s
      ((receiveLoop receivedData payloadPos remainingPayload inbox s).andThen f) := by
  induction remainingPayload using Nat.strongRecOn generalizing receivedData payloadPos inbox with
  | ind remaining ih =>
    by_cases done : remaining = 0
    · have ran : advance app uninit ⟨.reading part receivedData payloadPos remaining,inbox⟩ s =
          ⟨[],s,.ok ⟨.read part receivedData payloadPos,inbox⟩⟩ := by rw [advance,if_pos done]; rfl
      rw [receiveLoop,if_pos done,Program.pureApply,Outcome.andThenOk]
      exact Reaches.silent ran (later ⟨payloadPos,receivedData,inbox⟩ s)
    · have called : advance app uninit ⟨.reading part receivedData payloadPos remaining,inbox⟩ s =
          ⟨[readEvent s.connection remaining],s,
            .ok ⟨.blocked part receivedData payloadPos remaining s.connection,inbox⟩⟩ := by
        rw [advance,if_neg done,Program.bindApply,connectionApply]
        rfl
      rw [receiveLoop,if_neg done,Program.bindApply,readSomeApply,Outcome.andThenOk,Outcome.andThenPrepend]
      refine Reaches.step called ?_
      have returned : advance app uninit ⟨.blocked part receivedData payloadPos remaining s.connection,inbox⟩ s =
        readReturns part receivedData payloadPos remaining (transportRead s.connection remaining inbox) s := rfl
      generalize transportRead s.connection remaining inbox = r at returned
      by_cases stop : r.count ≤ 0
      · rw [dif_pos stop]
        rw [readReturns,if_pos stop] at returned
        simp only [Program.bindApply] at returned ⊢
        generalize failedRead payloadPos s = o at returned
        obtain ⟨m,t,result⟩ := o
        cases result with
        | error e => exact Reaches.fault returned
        | ok count =>
          simp only [Outcome.andThenOk,Program.pureApply,Outcome.prependMk,List.append_nil] at returned ⊢
          exact Reaches.step returned (later ⟨count,receivedData,r.rest⟩ t)
      · rw [dif_neg stop]
        rw [readReturns,if_neg stop] at returned
        generalize receivedData.storeAll payloadPos r.bytes = stored at returned
        cases stored with
        | error e => exact Reaches.fault returned
        | ok data =>
          simp only [Program.liftOkBind] at returned ⊢
          exact Reaches.step returned (ih _ (by omega) data _ r.rest)

theorem messageReaches (action : GenericHeaderAction) (payload : Option Buffer) (inbox : List Arrival)
    (s : State σ) :
    Reaches app uninit ⟨.complete action payload,inbox⟩ s
      ((messageReceived app action payload s).andThen (fun _ => pure ⟨.idle,inbox⟩)) := by
  have dispatched : ∀ t : State σ, Reaches app uninit ⟨.dispatching action payload,inbox⟩ t
      ((reactOnReceivedTcpMessage app action action.payloadLength.toNat payload t).andThen
        (fun _ => pure ⟨.idle,inbox⟩)) := fun t => Reaches.last rfl
  simp only [messageReceived,Program.bindApply,connectionApply,Outcome.andThenOk,Outcome.prependNil]
  by_cases active : s.connection.aliveCheckTimer.active = true
  · obtain ⟨now,t,reset,_⟩ := resetTimerRetimed active
    have ran : advance app uninit ⟨.complete action payload,inbox⟩ s =
        ⟨[.timerReset now],t,.ok ⟨.dispatching action payload,inbox⟩⟩ := by
      simp only [advance,Program.bindApply,connectionApply,Outcome.andThenOk,Program.whenTrue active,reset]
      rfl
    rw [Program.whenTrue active,reset,Outcome.andThenOk,Outcome.andThenPrepend]
    exact Reaches.step ran (dispatched t)
  · have ran : advance app uninit ⟨.complete action payload,inbox⟩ s =
        ⟨[],s,.ok ⟨.dispatching action payload,inbox⟩⟩ := by
      simp only [advance,Program.bindApply,connectionApply,Outcome.andThenOk,Program.whenFalse active]
      rfl
    rw [Program.whenFalse active,Program.pureApply,Outcome.andThenOk,Outcome.andThenPrepend]
    exact Reaches.silent ran (dispatched s)

theorem closingReaches {thread : Thread} {inbox : List Arrival} {s : State σ}
    (ran : advance app uninit thread s = (do
      closeSocket false
      pure ⟨.idle,inbox⟩ : Doip σ Thread) s) :
    Reaches app uninit thread s (((do
      closeSocket false
      pure ⟨0,inbox⟩ : Doip σ Returned) s).andThen (fun r => pure ⟨.idle,r.inbox⟩)) := by
  obtain ⟨m,t,closed,_,_⟩ := closeSocketCloses false s
  rw [Program.returnAfter closed] at ran ⊢
  simpa using Reaches.step ran Reaches.done

theorem returnThread {x : Doip σ Int} (inbox : List Arrival) (s : State σ) :
    ((do
      let sentBytes ← x
      pure ⟨sentBytes,inbox⟩ : Doip σ Returned) s).andThen (fun r => pure ⟨.idle,r.inbox⟩) =
        (x s).andThen (fun _ => (pure ⟨.idle,inbox⟩ : Doip σ Thread)) := by
  rw [Program.bindApply,Outcome.andThenAssoc]
  rfl

theorem payloadReaches (action : GenericHeaderAction) (inbox : List Arrival) {thread : Thread} (s : State σ)
    (ran : advance app uninit thread s = ⟨[],s,.ok (if 0 < action.payloadLength then
      ⟨.reading (.payload action) (Buffer.alloc action.payloadLength.toNat) 0 action.payloadLength.toNat,inbox⟩
      else ⟨.complete action none,inbox⟩)⟩) :
    Reaches app uninit thread s
      ((receivePayload app action inbox s).andThen (fun r => pure ⟨.idle,r.inbox⟩)) := by
  by_cases positive : 0 < action.payloadLength
  · rw [if_pos positive] at ran
    rw [receivePayload,if_pos positive,Program.bindApply,Outcome.andThenAssoc]
    refine Reaches.silent ran (loopReaches (fun r t => ?_) _ _ _ _ _)
    by_cases short : toUnsignedInt r.count ≠ action.payloadLength.toNat
    · rw [if_pos short]
      exact closingReaches (by rw [advance,if_pos short])
    · have compared : advance app uninit ⟨.read (.payload action) r.data r.count,r.inbox⟩ t =
          ⟨[],t,.ok ⟨.complete action (some r.data),r.inbox⟩⟩ := by rw [advance,if_neg short]; rfl
      rw [if_neg short,returnThread]
      exact Reaches.silent compared (messageReaches action (some r.data) r.inbox t)
  · rw [if_neg positive] at ran
    rw [receivePayload,if_neg positive,returnThread]
    exact Reaches.silent ran (messageReaches action none inbox s)

theorem receiveReaches (app : Application σ) (uninit : GenericHeaderAction) (inbox : List Arrival) (s : State σ) :
    Reaches app uninit ⟨.idle,inbox⟩ s
      ((receiveTcpOrTlsMessage app uninit inbox s).andThen (fun r => pure ⟨.idle,r.inbox⟩)) := by
  have started : advance app uninit ⟨.idle,inbox⟩ s =
    ⟨[.receiving],s,.ok ⟨.reading .header (Buffer.alloc 8) 0 8,inbox⟩⟩ := rfl
  rw [receiveTcpOrTlsMessage,Program.bindApply,Program.emitApply,Outcome.andThenOk,Outcome.andThenPrepend,
    Program.bindApply,Outcome.andThenAssoc]
  refine Reaches.step started (loopReaches (fun header t => ?_) _ _ _ _ _)
  have checked : advance app uninit ⟨.read .header header.data header.count,header.inbox⟩ t =
    checkHeader uninit header.data header.count header.inbox t := rfl
  simp only [checkHeader,Program.bindApply,connectionApply,Outcome.andThenOk,Outcome.prependNil] at checked ⊢
  by_cases accepted : toUnsignedInt header.count = 8 ∧ t.connection.aliveCheckTimer.timeout = false
  · rw [if_pos accepted] at checked ⊢
    generalize parseGenericHeader uninit header.data genericHeaderLength = parsed at checked
    cases parsed with
    | error e => exact Reaches.fault checked
    | ok action =>
      rw [Program.liftOkBind] at checked ⊢
      exact payloadReaches action header.inbox t (by rw [checked]; split <;> rfl)
  · rw [if_neg accepted] at checked ⊢
    exact closingReaches checked

end Refinement
end LibDoip
