import LibDoip.ConnectionSteps

/-! The alive check on a running connection: the receiving thread step by step, public calls and rounds
of the timer's thread between its steps, and a clock that goes on in between. What is observed are the
events, and when a message is complete. -/
namespace LibDoip
open Library
variable {σ : Type}

inductive Observed where
  | event (e : Event)
  | complete (clock : Nat)
  deriving DecidableEq, Repr

inductive Instant where
  | receiver (uninit : GenericHeaderAction)
  | call (call : Call)
  | clock (n : Nat)
  deriving DecidableEq, Repr

def Thread.holdsMessage (thread : Thread) : Bool := match thread.position with
  | .complete _ _ => true
  | _ => false

/- A message is received with the reset of the timer that follows its last byte: both are one step. -/
def observe (thread : Thread) : Program Fault Observed (State σ) Unit := do
  let s ← Program.get
  Program.when (thread.holdsMessage = true) (Program.emit (.complete s.environment.now))

def elapse (app : Application σ) : Instant → Thread → Program Fault Observed (State σ) Thread
  | .receiver uninit, thread => do
      let next ← (advance app uninit thread).relabel .event
      observe thread
      pure next
  | .call call, thread => do
      let _ ← (perform call).relabel .event
      pure thread
  | .clock n, thread => do
      Program.modify (·.setEnvironment (fun e => {e with now := e.now + n}))
      pure thread

def Observed.event? : Observed → Option Event
  | .event e => some e
  | .complete _ => none

structure Observes (o : Outcome Fault Observed (State σ) Thread) (p : Outcome Fault Event (State σ) Thread) : Prop where
  log : o.log.filterMap Observed.event? = p.log
  state : o.state = p.state
  result : o.result = p.result

theorem eventsOnly (l : List Event) : (l.map Observed.event).filterMap Observed.event? = l := by
  induction l with
  | nil => rfl
  | cons e rest ih => simp [Observed.event?,ih]

section Observes
variable {app : Application σ} {uninit : GenericHeaderAction}

theorem elapseObserves (thread : Thread) (s : State σ) :
    Observes (elapse app (.receiver uninit) thread s) (advance app uninit thread s) := by
  have silent : ∀ t : State σ, (observe thread t).log.filterMap Observed.event? = [] ∧ (observe thread t).state = t ∧
      (observe thread t).result = .ok () := by
    intro t
    unfold observe Program.when
    split <;> exact ⟨rfl,rfl,rfl⟩
  rw [elapse,Program.bindApply,Program.relabelApply]
  generalize advance app uninit thread s = o
  obtain ⟨l,t,r⟩ := o
  cases r with
  | error e => exact ⟨eventsOnly l,rfl,rfl⟩
  | ok next =>
    obtain ⟨log,state,result⟩ := silent t
    rw [Outcome.andThenOk,Program.bindApply]
    generalize observe thread t = o at log state result
    obtain ⟨m,u,_⟩ := o
    cases result
    refine ⟨?_,state,rfl⟩
    show (l.map Observed.event ++ (m ++ [])).filterMap Observed.event? = l
    rw [List.append_nil,List.filterMap_append,eventsOnly,log,List.append_nil]

theorem iterateObserves (n : Nat) (thread : Thread) (s : State σ) :
    Observes (Program.iterate (elapse app) (List.replicate n (.receiver uninit)) thread s)
      (Program.iterate (move app) (List.replicate n (.receiver uninit)) thread s) := by
  induction n generalizing thread s with
  | zero => exact ⟨rfl,rfl,rfl⟩
  | succ n ih =>
    have stepped := @elapseObserves σ app uninit thread s
    rw [List.replicate_succ,List.replicate_succ,Program.iterate,Program.iterate,Program.bindApply,Program.bindApply,move]
    generalize elapse app (.receiver uninit) thread s = o at stepped
    generalize advance app uninit thread s = p at stepped
    obtain ⟨l,t,r⟩ := o
    obtain ⟨m,u,r'⟩ := p
    obtain ⟨log,state,result⟩ := stepped
    cases state
    cases result
    cases r with
    | error e => exact ⟨log,rfl,rfl⟩
    | ok next =>
      obtain ⟨later,same,returned⟩ := ih next t
      refine ⟨?_,same,returned⟩
      rw [Outcome.andThenOk,Outcome.prependLog,List.filterMap_append,later,log]
      rfl

theorem receiveObserved (inbox : List Arrival) (s : State σ) :
    ∃ n, Observes (Program.iterate (elapse app) (List.replicate n (.receiver uninit)) ⟨.idle,inbox⟩ s)
      ((receiveTcpOrTlsMessage app uninit inbox s).andThen (fun r => pure ⟨.idle,r.inbox⟩)) := by
  obtain ⟨n,reached⟩ := receiveReaches app uninit inbox s
  refine ⟨n,?_⟩
  rw [← reached]
  exact iterateObserves n ⟨.idle,inbox⟩ s

end Observes
end LibDoip
