import LibDoip.AliveCheck
import LibDoip.Descriptor

/-! The close notification. A client is served as long as its socket is active, then a disconnection
is triggered; the timer and the application can each have notified before. Every timeout and every
call of the application notifies once, and so does the end of the loop. -/
namespace LibDoip
open Library
variable {σ : Type}

inductive Phase where
  | serving (thread : Thread)
  | finished
  deriving DecidableEq, Repr

inductive Turn where
  | client (uninit : GenericHeaderAction)
  | timer
  | call (call : Call)
  deriving DecidableEq, Repr

def handleClient (app : Application σ) : Turn → Phase → Doip σ Phase
  | .client uninit, .serving ⟨.idle,inbox⟩ => do
      let c ← connection
      if isSocketActive c then do
        let thread ← advance app uninit ⟨.idle,inbox⟩
        pure (.serving thread)
      else do
        triggerDisconnection
        pure .finished
  | .client uninit, .serving thread => do
      let thread ← advance app uninit thread
      pure (.serving thread)
  -- The connection is destroyed, and its timer with it.
  | .client _, .finished => do
      Program.modify (·.setTimer (fun t => {t with disabled := true}))
      pure .finished
  | .timer, phase => do
      waitForResponse
      pure phase
  | .call call, .serving thread => do
      let _ ← perform call
      pure (.serving thread)
  | .call _, .finished => pure .finished

def serveClient (app : Application σ) (turns : List Turn) (inbox : List Arrival) : Doip σ Phase :=
  Program.iterate (handleClient app) turns (.serving ⟨.idle,inbox⟩)

def SocketClosed (s : State σ) (past : List Event) : Prop := s.connection.clientSock = 0 ∨ Closed past

def ClosesOnce (s : State σ) (past : List Event) (e : Event) : Prop :=
  e = .closeConnection → .closeConnection ∉ past ∧ SocketClosed s past

def Event.ends : Event → Bool
  | .timeout _ | .called .triggerDisconnection => true
  | _ => false

structure Accounted (s : State σ) (l : List Event) (t : State σ) (f : Option Fault) : Prop where
  atMost : l.count .closeConnection ≤ l.countP Event.ends
  atLeast : f = none → l.countP Event.ends ≤ l.count .closeConnection
  socket : t.connection.clientSock = 0 ↔ SocketClosed s l

def Event.Unnoticed (e : Event) : Prop := e ≠ .closeConnection ∧ e.ends = false

theorem readingUnnoticed {e : Event} (h : e.OfReading) : e.Unnoticed := by
  cases e <;> first | exact h.elim | exact ⟨Event.noConfusion,rfl⟩

theorem closingUnnoticed {e : Event} (h : e.OfClosing) : e.Unnoticed :=
  readingUnnoticed (Event.closingIsReading h)

theorem inwardUnnoticed {e : Event} (h : e.Inward) : e.Unnoticed := by
  cases e with
  | called call =>
    refine ⟨Event.noConfusion,?_⟩
    cases call <;> first | rfl | exact absurd rfl h
  | _ => first | exact h.elim | exact ⟨Event.noConfusion,rfl⟩

theorem closedOver {s t : State σ} {l m : List Event} (socket : t.connection.clientSock = 0 ↔ SocketClosed s l) :
    SocketClosed t m ↔ SocketClosed s (l ++ m) := by
  rw [SocketClosed,socket,SocketClosed,SocketClosed,closedAppend,or_assoc]

theorem unnoticedAccounted {s t : State σ} {l : List Event} {f : Option Fault}
    (unnoticed : ∀ e ∈ l, e.Unnoticed) (socket : t.connection.clientSock = 0 ↔ SocketClosed s l) :
    Accounted s l t f := by
  have silent : l.count .closeConnection = 0 := List.count_eq_zero.mpr (fun member => (unnoticed _ member).1 rfl)
  have calm : l.countP Event.ends = 0 :=
    List.countP_eq_zero.mpr (fun e member ends => Bool.false_ne_true ((unnoticed e member).2.symm.trans ends))
  exact ⟨by omega,by omega,socket⟩

theorem sameSocket {s t : State σ} {l : List Event} (same : t.connection.clientSock = s.connection.clientSock)
    (open' : ∀ fd, .close fd ∉ l) : t.connection.clientSock = 0 ↔ SocketClosed s l := by
  rw [SocketClosed,same]
  simp [Closed,open']

theorem closeSocketSocket {skipShutdown : Bool} {s t : State σ} {l : List Event}
    (ran : closeSocket skipShutdown s = ⟨l,t,.ok ()⟩) :
    (t.connection.clientSock = 0 ↔ SocketClosed s l) ∧ ∀ e ∈ l, e.OfClosing := by
  obtain ⟨closed,effect⟩ := closeSocketClosed ran
  refine ⟨iff_of_true closed ?_,effect.events⟩
  by_cases active : isSocketActive s.connection
  · obtain ⟨m,u,ran',_,_,_⟩ := closeSocketActive skipShutdown active
    cases ran.symm.trans ran'
    exact Or.inr ⟨s.connection.clientSock,List.mem_append_right m (List.mem_singleton_self _)⟩
  · exact Or.inl (Decidable.not_not.mp active)

theorem readSocket {s t : State σ} {l : List Event} (reading : HasRead s l t) :
    t.connection.clientSock = 0 ↔ SocketClosed s l := by
  have reads : ∀ {m : List Event}, (∀ e ∈ m, ∃ n, e = readEvent s.connection n) → ∀ fd, .close fd ∉ m := by
    intro m events fd member
    obtain ⟨n,found⟩ := events _ member
    unfold readEvent at found
    split at found <;> cases found
  cases reading with
  | reads events => exact sameSocket rfl (reads events)
  | @failed l m t ssl events tls handled =>
    have unread : s.connection.clientSock = 0 ↔ SocketClosed s (l ++ [.sslError ssl (nextSslError s)]) :=
      sameSocket rfl (by simpa using reads events)
    rw [List.append_cons,← closedOver unread]
    cases handled with
    | noted _ => exact sameSocket rfl (by simp)
    | closed _ ran => exact (closeSocketSocket ran).1

theorem accounted : ConnectionRules (@Accounted σ) where
  composable := by
    refine ⟨fun s => unnoticedAccounted (by simp) (sameSocket rfl (by simp)),?_⟩
    intro s l t m u f first second
    have balanced := first.atLeast rfl
    refine ⟨?_,fun returned => ?_,second.socket.trans (closedOver first.socket)⟩
    · rw [List.count_append,List.countP_append]
      exact Nat.add_le_add first.atMost second.atMost
    · rw [List.count_append,List.countP_append]
      exact Nat.add_le_add balanced (second.atLeast returned)
  stopped := unnoticedAccounted (by simp) (sameSocket rfl (by simp))
  inward inward := unnoticedAccounted (List.forall_mem_singleton.mpr (inwardUnnoticed inward))
    (sameSocket rfl (by rintro fd member; cases List.mem_singleton.mp member; exact inward))
  asked := unnoticedAccounted (by simp) (sameSocket rfl (by simp))
  applied := unnoticedAccounted (by simp) (sameSocket rfl (by simp))
  timed _ := unnoticedAccounted (by simp) (sameSocket rfl (by simp))
  routed := unnoticedAccounted (by simp) (sameSocket rfl (by simp))
  sent {s bytes _} _ sends := by
    obtain ⟨errors⟩ := sends
    rename_i tail environment value
    have sending : ∀ e ∈ sendEvent s.connection bytes::tail, e.Unnoticed ∧ ∀ fd, .close fd ≠ e := by
      refine List.forall_mem_cons.mpr ⟨?_,fun e member => ?_⟩
      · unfold sendEvent
        split <;> exact ⟨⟨Event.noConfusion,rfl⟩,fun _ => Event.noConfusion⟩
      · obtain ⟨ssl,err,rfl,_⟩ := errors e member
        exact ⟨⟨Event.noConfusion,rfl⟩,fun _ => Event.noConfusion⟩
    exact unnoticedAccounted (fun e member => (sending e member).1)
      (sameSocket rfl (fun fd member => (sending _ member).2 fd rfl))
  read reading := unnoticedAccounted (fun e member => readingUnnoticed (reading.effect.events e member))
    (readSocket reading)
  closed ran := unnoticedAccounted (fun e member => closingUnnoticed ((closeSocketSocket ran).2 e member))
    (closeSocketSocket ran).1
  expired {s l t now} ran := by
    obtain ⟨socket,events⟩ := closeSocketSocket ran
    have closing : Accounted (s.setTimer (·.expire)) l t none :=
      unnoticedAccounted (fun e member => closingUnnoticed (events e member)) socket
    have notices : (Event.timeout now::l ++ [Event.closeConnection]).count Event.closeConnection =
        l.count Event.closeConnection + 1 := by simp
    have ends : (Event.timeout now::l ++ [Event.closeConnection]).countP Event.ends = l.countP Event.ends + 1 := by
      rw [List.cons_append,List.countP_cons,List.countP_append]
      rfl
    have closed : SocketClosed s (.timeout now::l ++ [.closeConnection]) ↔ SocketClosed (s.setTimer (·.expire)) l := by
      simp [SocketClosed,Closed,State.setTimer,State.setConnection]
    refine ⟨?_,fun _ => ?_,socket.trans closed.symm⟩
    · rw [notices,ends]
      exact Nat.succ_le_succ closing.atMost
    · rw [notices,ends]
      exact Nat.succ_le_succ (closing.atLeast rfl)
  unbound := ⟨by simp,by simp,sameSocket rfl (by simp)⟩
  triggered := ⟨by decide,fun _ => by decide,sameSocket rfl (by simp)⟩

inductive Turned (phase : Phase) (s : State σ) : Outcome Fault Event (State σ) Phase → Prop where
  | accounted {o : Outcome Fault Event (State σ) Phase} (accounted : Accounted s o.log o.state o.fault)
      (same : ∀ next, o.result = .ok next → (next = .finished ↔ phase = .finished)) : Turned phase s o
  | disconnected (serving : phase ≠ .finished) (closed : s.connection.clientSock = 0) :
      Turned phase s ⟨[.closeConnection],s,.ok .finished⟩

theorem meetsTurned {α : Type} {x : Doip σ α} (meets : Program.Meets Accounted x) {f : α → Phase} {phase : Phase}
    (same : ∀ a, f a = .finished ↔ phase = .finished) (s : State σ) :
    Turned phase s ((do
      let a ← x
      pure (f a) : Doip σ Phase) s) := by
  refine .accounted (Program.meetsBind accounted.composable meets (fun a => Program.meetsPure accounted.composable _) s) ?_
  intro next returned
  rw [Program.bindApply] at returned
  generalize x s = o at returned
  obtain ⟨l,t,r⟩ := o
  cases r with
  | error e => cases returned
  | ok a =>
    cases returned
    exact same a

theorem handleClientTurns (app : Application σ) (turn : Turn) (phase : Phase) (s : State σ) :
    Turned phase s (handleClient app turn phase s) := by
  have advances : ∀ uninit thread, Turned (.serving thread) s ((do
      let thread ← advance app uninit thread
      pure (.serving thread) : Doip σ Phase) s) := fun uninit thread =>
    meetsTurned (accounted.advanceMeets app uninit thread) (fun _ => by simp) s
  cases turn with
  | client uninit =>
    cases phase with
    | serving thread =>
      obtain ⟨position,inbox⟩ := thread
      cases position with
      | idle =>
        rw [handleClient,Program.bindApply,connectionApply,Outcome.andThenOk,Outcome.prependNil]
        split
        · exact advances uninit ⟨.idle,inbox⟩
        · rename_i inactive
          exact .disconnected Phase.noConfusion (Decidable.not_not.mp inactive)
      | _ => exact advances uninit _
    | finished =>
      have destroyed : Program.Meets (@Accounted σ) (Program.modify (·.setTimer (fun t => {t with disabled := true}))) :=
        accounted.setTimerMeets ⟨fun _ => rfl,fun _ _ => rfl⟩
      exact meetsTurned destroyed (fun _ => Iff.rfl) s
  | timer => exact meetsTurned accounted.waitForResponseMeets (fun _ => Iff.rfl) s
  | call call =>
    cases phase with
    | serving thread => exact meetsTurned (accounted.performMeets call) (fun _ => by simp) s
    | finished => exact meetsTurned (Program.meetsPure accounted.composable ()) (fun _ => Iff.rfl) s

inductive Served (phase : Phase) (s : State σ) : Outcome Fault Event (State σ) Phase → Prop where
  | serving {o : Outcome Fault Event (State σ) Phase} (accounted : Accounted s o.log o.state o.fault)
      (same : ∀ next, o.result = .ok next → (next = .finished ↔ phase = .finished)) : Served phase s o
  | disconnected {l m : List Event} {t u : State σ} {r : Except Fault Phase} (serving : phase ≠ .finished)
      (before : Accounted s l t none) (closed : t.connection.clientSock = 0)
      (after : Accounted t m u (⟨m,u,r⟩ : Outcome Fault Event (State σ) Phase).fault) :
      Served phase s ⟨l ++ .closeConnection::m,u,r⟩

theorem servedRun (app : Application σ) (turns : List Turn) (phase : Phase) (s : State σ) :
    Served phase s (Program.iterate (handleClient app) turns phase s) := by
  induction turns generalizing phase s with
  | nil =>
    refine .serving (accounted.composable.refl s) ?_
    rintro _ ⟨⟩
    exact Iff.rfl
  | cons turn rest ih =>
    have turned := handleClientTurns app turn phase s
    rw [Program.iterate,Program.bindApply]
    generalize handleClient app turn phase s = o at turned
    cases turned with
    | disconnected serving closed =>
      have later := ih .finished s
      rw [Outcome.andThenOk]
      generalize Program.iterate (handleClient app) rest .finished s = o at later
      cases later with
      | serving after same =>
        obtain ⟨m,u,r⟩ := o
        exact .disconnected (l := []) serving (accounted.composable.refl s) closed after
      | disconnected other _ _ _ => exact absurd rfl other
    | accounted now same =>
      obtain ⟨l,t,r⟩ := o
      cases r with
      | error e => exact .serving now same
      | ok next =>
        have later := ih next t
        have kept := same next rfl
        rw [Outcome.andThenOk]
        generalize Program.iterate (handleClient app) rest next t = o at later
        cases later with
        | serving after still =>
          refine .serving (accounted.composable.trans now after) (fun last returned => ?_)
          exact (still last returned).trans kept
        | disconnected serving before closed after =>
          rw [Outcome.prependMk,← List.append_assoc]
          exact .disconnected (fun finished => serving (kept.mpr finished))
            (accounted.composable.trans now before) closed after

theorem unendedUnnoticed {s t : State σ} {l : List Event} {f : Option Fault} (accounted : Accounted s l t f)
    (calm : ∀ e ∈ l, e.ends = false) : .closeConnection ∉ l := by
  have none : l.countP Event.ends = 0 := List.countP_eq_zero.mpr (fun e member => by simp [calm e member])
  have atMost := accounted.atMost
  exact List.count_eq_zero.mp (by omega)

theorem unnoticedUnended {s t : State σ} {l : List Event} (accounted : Accounted s l t none)
    (unnoticed : .closeConnection ∉ l) : ∀ e ∈ l, e.ends = false := by
  have none : l.count .closeConnection = 0 := List.count_eq_zero.mpr unnoticed
  have atLeast := accounted.atLeast rfl
  have unended : l.countP Event.ends = 0 := by omega
  exact fun e member => Bool.eq_false_iff.mpr (List.countP_eq_zero.mp unended e member)

theorem unnoticedOnce {s : State σ} {l : List Event} (unnoticed : .closeConnection ∉ l) (past : List Event) :
    Always (ClosesOnce s) past l := by
  refine Always.ofForall (fun _ e member => ?_) past
  rintro rfl
  exact absurd member unnoticed

theorem closedOnce (app : Application σ) (turns : List Turn) (inbox : List Arrival) (s : State σ) :
    ((∀ e ∈ (serveClient app turns inbox s).log, e.ends = false) →
      Always (ClosesOnce s) [] (serveClient app turns inbox s).log) ∧
    ((serveClient app turns inbox s).result = .ok .finished →
      Always (ClosesOnce s) [] (serveClient app turns inbox s).log →
      ∀ e ∈ (serveClient app turns inbox s).log, e.ends = false) := by
  have served := servedRun app turns (.serving ⟨.idle,inbox⟩) s
  rw [← serveClient] at served
  generalize serveClient app turns inbox s = o at served
  cases served with
  | serving accounted same =>
    refine ⟨fun calm => unnoticedOnce (unendedUnnoticed accounted calm) [],fun finished => ?_⟩
    exact absurd ((same _ finished).mp rfl) Phase.noConfusion
  | @disconnected l m t u r serving before closed after =>
    constructor
    · intro calm
      have quiet := List.forall_mem_append.mp calm
      have first := unendedUnnoticed before quiet.1
      have last := unendedUnnoticed after (List.forall_mem_cons.mp quiet.2).2
      refine (Always.append [] l _).mpr ⟨unnoticedOnce first [],fun _ => ⟨first,before.socket.mp closed⟩,?_⟩
      exact unnoticedOnce last _
    · intro finished once
      cases finished
      have first : .closeConnection ∉ l := (once.split rfl rfl).1
      have last : .closeConnection ∉ m := by
        intro member
        obtain ⟨front,back,rfl⟩ := List.append_of_mem member
        have again := (@Always.split _ _ [] _ (l ++ .closeConnection::front) back _ once (by simp) rfl).1
        simp at again
      exact List.forall_mem_append.mpr ⟨unnoticedUnended before first,
        List.forall_mem_cons.mpr ⟨rfl,unnoticedUnended after last⟩⟩

def clientTurns (n : Nat) : List Turn := List.replicate n (.client ⟨.negativeAck,0,0⟩)

theorem closedOnceLeft :
    Always (ClosesOnce (State.opened none)) []
      (serveClient (Application.answering true) (clientTurns 6) [] (State.opened none)).log ∧
    ∀ e ∈ (serveClient (Application.answering true) (clientTurns 6) [] (State.opened none)).log, e.ends = false := by
  obtain ⟨calm,finished⟩ := closedOnce (Application.answering true) (clientTurns 6) [] (State.opened none)
  have once := calm (by decide)
  exact ⟨once,finished rfl once⟩

/- The timer fires while the thread waits for the second header; it notifies, and the loop does again. -/
theorem notifiedTwice : ¬ ∀ (turns : List Turn) (inbox : List Arrival) (s : State Unit), Fresh s →
    Always (ClosesOnce s) [] (serveClient (Application.answering true) turns inbox s).log := by
  intro stated
  have once := stated (clientTurns 13 ++ .timer::clientTurns 4) slowInbox State.patient State.patientFresh
  generalize held : (serveClient (Application.answering true) (clientTurns 13 ++ .timer::clientTurns 4) slowInbox
    State.patient).log = log at once
  have found : log = log.take 12 ++ [.closeConnection] := by subst held; rfl
  have noticed : .closeConnection ∈ [] ++ log.take 12 := by subst held; decide
  exact (once.split found rfl).1 noticed

end LibDoip
