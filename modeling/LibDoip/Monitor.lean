import LibDoip.Instants
import LibDoip.Run
import LibDoip.Library.History

/-! A monitor of the alive check: it reads what is observed of a connection, one entry after the other. The
invariant ties what it has read to the fields of the timer, in every state that a run reaches. -/
namespace LibDoip
open Library
variable {σ : Type}

/- What has happened so far: a routing activation was answered with success, the alive check was switched
off, it has fired; the last inactivity time that was set and the last that is not 0; what the clock showed
when the last message was received and when the timer was last reset. -/
structure Monitor where
  activated : Bool
  off : Bool
  fired : Bool
  setting : Option UInt16
  seconds : Option UInt16
  received : Option Nat
  reset : Option Nat
  deriving DecidableEq, Repr

namespace Monitor

def start : Monitor := ⟨false,false,false,none,none,none,none⟩

def sent (w : Monitor) (message : List UInt8) : Monitor :=
  {w with activated := w.activated || (routedBy message).isSome}

def set (w : Monitor) (seconds : UInt16) : Monitor :=
  if seconds = 0 then {w with setting := some seconds, off := true}
  else {w with setting := some seconds, seconds := some seconds}

def next (w : Monitor) : Observed → Monitor
  | .complete clock => {w with received := some clock}
  | .event (.write _ message) => w.sent message
  | .event (.sslWrite _ message) => w.sent message
  | .event (.called (.setGeneralInactivityTime seconds)) => w.set seconds
  | .event (.timerReset clock) => {w with reset := some clock}
  | .event (.timeout _) => {w with fired := true}
  | .event _ => w

end Monitor

def monitor (past : List Observed) : Monitor := past.foldl Monitor.next .start

theorem monitorAppend (past later : List Observed) :
    monitor (past ++ later) = later.foldl Monitor.next (monitor past) := List.foldl_append

/- A timeout is allowed at `clock`: it is the first, the alive check has been started and is not switched
off, and since the last message as many seconds have passed as were last set. -/
structure Timely (w : Monitor) (clock : Nat) : Prop where
  activated : w.activated = true
  first : w.fired = false
  on : w.off = false
  idle : ∃ received, w.received = some received ∧ ∀ seconds, w.seconds = some seconds →
    (seconds.toNat : Int) ≤ ((clock : Int) - received) / AliveCheckTimer.clocksPerSec

def Justified (past : List Observed) : Observed → Prop
  | .event (.timeout clock) => Timely (monitor past) clock
  | _ => True

structure Watched (w : Monitor) (timer : AliveCheckTimer) (now : Nat) : Prop where
  threads : timer.timerThreads = if timer.active = true then 1 else 0
  bound : timer.active = true → timer.cb = true
  activated : timer.active = true → w.activated = true
  started : w.activated = true → timer.active = true ∨ timer.disabled = true
  off : w.off = true → timer.disabled = true
  fired : w.fired = true → timer.disabled = true
  disabled : timer.disabled = true → w.off = true ∨ w.fired = true
  setting : ∀ seconds, w.setting = some seconds → if seconds = 0 then w.off = true else w.seconds = some seconds
  seconds : ∀ seconds, w.seconds = some seconds → timer.maxSeconds = seconds
  reset : timer.active = true → ∃ received reset, w.received = some received ∧ w.reset = some reset ∧
    timer.startTime = reset ∧ received ≤ reset ∧ reset ≤ now
  received : ∀ received, w.received = some received → received ≤ now

namespace Watched
variable {w : Monitor} {timer : AliveCheckTimer} {now : Nat}

theorem ofRunning (h : Watched w timer now) (running : timer.Running) :
    timer.active = true ∧ w.activated = true ∧ w.fired = false ∧ w.off = false := by
  obtain ⟨threads,on⟩ := running
  have active : timer.active = true := by
    refine Bool.not_eq_false _ |>.mp (fun inactive => ?_)
    simp [h.threads,inactive] at threads
  refine ⟨active,h.activated active,Bool.eq_false_iff.mpr (fun fired => ?_),Bool.eq_false_iff.mpr (fun off => ?_)⟩
  · simp [h.fired fired] at on
  · simp [h.off off] at on

theorem later (h : Watched w timer now) {after : Nat} (forth : now ≤ after) : Watched w timer after :=
  {h with
    reset := fun active => by
      obtain ⟨received,reset,seen,last,started,order,past⟩ := h.reset active
      exact ⟨received,reset,seen,last,started,order,Nat.le_trans past forth⟩
    received := fun received seen => Nat.le_trans (h.received received seen) forth}

theorem complete (h : Watched w timer now) (current : timer.active = true → w.reset = some now) :
    Watched {w with received := some now} timer now :=
  {h with
    reset := fun active => by
      obtain ⟨_,reset,_,last,started,_,past⟩ := h.reset active
      have same : reset = now := Option.some.inj (last.symm.trans (current active))
      exact ⟨now,reset,rfl,last,started,Nat.le_of_eq same.symm,past⟩
    received := by
      rintro _ ⟨⟩
      exact Nat.le_refl now}

theorem resets (h : Watched w timer now) (active : timer.active = true) :
    Watched {w with reset := some now} (timer.resetTimer now) now :=
  {h with
    threads := by simp [AliveCheckTimer.resetTimer,h.threads,active]
    bound := fun _ => h.bound active
    activated := fun _ => h.activated active
    started := fun _ => Or.inl rfl
    reset := fun _ => by
      obtain ⟨received,_,seen,_,_,_,_⟩ := h.reset active
      exact ⟨received,now,seen,rfl,rfl,h.received received seen,Nat.le_refl now⟩}

theorem sets (h : Watched w timer now) (seconds : UInt16) : Watched (w.set seconds) (timer.inactivity seconds) now := by
  by_cases zero : seconds = 0
  · subst zero
    exact {h with
      started := fun _ => Or.inr rfl
      off := fun _ => rfl
      fired := fun _ => rfl
      disabled := fun _ => Or.inl rfl
      setting := by rintro _ ⟨⟩; rfl}
  · have positive : 0 < seconds := by
      rw [UInt16.lt_iff_toNat_lt]
      exact Nat.pos_of_ne_zero (fun none => zero (UInt16.toNat_inj.mp none))
    rw [Monitor.set,if_neg zero,AliveCheckTimer.inactivity,if_pos positive]
    exact {h with
      setting := by
        rintro _ ⟨⟩
        exact (if_neg zero).mpr rfl
      seconds := by rintro _ ⟨⟩; rfl}

theorem expires (h : Watched w timer now) : Watched {w with fired := true} timer.expire now :=
  {h with
    started := fun _ => Or.inr rfl
    off := fun _ => rfl
    fired := fun _ => rfl
    disabled := fun _ => Or.inr rfl}

theorem timely (h : Watched w timer now) (running : timer.Running)
    (elapsed : (timer.maxSeconds.toNat : Int) ≤ timer.secondsPassed now) : Timely w now := by
  obtain ⟨active,activated,first,on⟩ := h.ofRunning running
  obtain ⟨received,reset,seen,_,started,order,past⟩ := h.reset active
  refine ⟨activated,first,on,received,seen,fun seconds last => ?_⟩
  rw [h.seconds seconds last,AliveCheckTimer.secondsPassed,started,Int.tdiv_eq_ediv_of_nonneg (by omega)] at elapsed
  exact Int.le_trans elapsed (Int.ediv_le_ediv (by decide) (by omega))

theorem active (h : Watched w timer now) (running : timer.active = true) : Watched {w with activated := true} timer now :=
  {h with
    activated := fun _ => rfl
    started := fun _ => Or.inl running}

theorem binds (h : Watched w timer now) (disabled : timer.disabled = true) :
    Watched {w with activated := true} {timer with cb := true} now :=
  {h with
    bound := fun _ => rfl
    activated := fun _ => rfl
    started := fun _ => Or.inr disabled}

theorem starts (h : Watched w timer now) (inactive : timer.active = false) {received : Nat}
    (seen : w.received = some received) :
    Watched {w with activated := true, reset := some now} (AliveCheckTimer.startTimer {timer with cb := true} now) now :=
  {h with
    threads := by simp [AliveCheckTimer.startTimer,AliveCheckTimer.resetTimer,h.threads,inactive]
    bound := fun _ => rfl
    activated := fun _ => rfl
    started := fun _ => Or.inl rfl
    reset := fun _ => ⟨received,now,seen,rfl,rfl,h.received received seen,Nat.le_refl now⟩}

end Watched

def Event.Unwatched (e : Event) : Prop := (∀ clock, e ≠ .timeout clock) ∧ ∀ w : Monitor, w.next (.event e) = w

theorem notedUnwatched {e : Event} (noted : e.Noted) : e.Unwatched := by
  cases e with
  | called call => cases call <;> first | exact noted.elim | exact ⟨fun _ => Event.noConfusion,fun _ => rfl⟩
  | _ => first | exact noted.elim | exact ⟨fun _ => Event.noConfusion,fun _ => rfl⟩

theorem readingUnwatched {e : Event} (reading : e.OfReading) : e.Unwatched := by
  cases e <;> first | exact reading.elim | exact ⟨fun _ => Event.noConfusion,fun _ => rfl⟩

theorem sendingUnwatched {e : Event} (sending : e.OfSending) : e.Unwatched := by
  have unanswered : ∀ {message}, routedBy message = none → ∀ w : Monitor, w.sent message = w := by
    intro message other w
    simp [Monitor.sent,other]
  cases e with
  | write fd message => exact ⟨fun _ => Event.noConfusion,unanswered sending⟩
  | sslWrite ssl message => exact ⟨fun _ => Event.noConfusion,unanswered sending⟩
  | _ => first | exact sending.elim | exact ⟨fun _ => Event.noConfusion,fun _ => rfl⟩

theorem monitorUnwatched {l : List Event} (quiet : ∀ e ∈ l, e.Unwatched) (past : List Observed) :
    monitor (past ++ l.map .event) = monitor past := by
  induction l generalizing past with
  | nil => simp
  | cons e rest ih =>
    obtain ⟨now,later⟩ := List.forall_mem_cons.mp quiet
    have stepped := ih later (past ++ [.event e])
    rw [List.append_assoc] at stepped
    rw [List.map_cons]
    refine stepped.trans ?_
    rw [monitorAppend]
    exact now.2 (monitor past)

theorem justifiedUnwatched {l : List Event} (quiet : ∀ e ∈ l, e.Unwatched) (past : List Observed) :
    Always Justified past (l.map .event) := by
  refine Always.ofForall (fun past o member => ?_) past
  obtain ⟨e,found,rfl⟩ := List.mem_map.mp member
  cases e with
  | timeout clock => exact absurd rfl ((quiet _ found).1 clock)
  | _ => trivial

theorem tickedLater (s : State σ) : s.environment.now ≤ s.ticked.environment.now := Nat.le_add_right _ _

structure Explained (ready : Prop) (w : Monitor) (s : State σ) : Prop where
  watched : Watched w s.connection.aliveCheckTimer s.environment.now
  ready : ready → ∃ received, w.received = some received

def watch (ready : Prop) : Contract Fault Observed (State σ) where
  assumes _ _ := True
  keeps past l _ := Always Justified past l
  invariant past s := Explained ready (monitor past) s
  nil _ := trivial
  append first second := (Always.append _ _ _).mpr ⟨first,second⟩

def Watches (ready : Prop) (s : State σ) (l : List Event) (t : State σ) (f : Option Fault) : Prop :=
  (watch ready).relation s (l.map .event) t f

section Watches
variable {ready : Prop} {s t : State σ} {f : Option Fault}

theorem watchesComposable : Program.Composable (@Watches σ ready) where
  refl s := (watch ready).composable.refl s
  trans first second := by
    rw [Watches,List.map_append]
    exact (watch ready).composable.trans first second

theorem watchesUnwatched {l : List Event} (quiet : ∀ e ∈ l, e.Unwatched)
    (timer : t.connection.aliveCheckTimer = s.connection.aliveCheckTimer)
    (forth : s.environment.now ≤ t.environment.now) : Watches ready s l t f := by
  intro past holds _
  refine ⟨justifiedUnwatched quiet past,?_⟩
  show Explained ready (monitor (past ++ l.map .event)) t
  rw [monitorUnwatched quiet past]
  refine ⟨?_,holds.ready⟩
  rw [timer]
  exact holds.watched.later forth

theorem watchesEvent {e : Event}
    (allowed : ∀ past, Explained ready (monitor past) s → Justified past (.event e))
    (kept : ∀ w, Explained ready w s → Explained ready (w.next (.event e)) t) : Watches ready s [e] t f := by
  intro past holds _
  refine ⟨⟨allowed past holds,trivial⟩,?_⟩
  show Explained ready (monitor (past ++ [.event e])) t
  rw [monitorAppend]
  exact kept (monitor past) holds

theorem watchesTicked : Watches ready s [] s.ticked f := watchesUnwatched (by simp) rfl (tickedLater s)

theorem watchesTimeout (due : Due s) : Watches ready s [.timeout s.environment.now] (s.setTimer (·.expire)) f :=
  watchesEvent (fun _ holds => holds.watched.timely due.1 due.2) (fun _ holds => ⟨holds.watched.expires,holds.ready⟩)

theorem closingUnwatched {l : List Event} (ran : closeSocket false s = ⟨l,t,.ok ()⟩) :
    (∀ e ∈ l, e.Unwatched) ∧ t.connection.aliveCheckTimer = s.connection.aliveCheckTimer ∧
      t.environment.now = s.environment.now := by
  have timeless := closeSocketTimeless false s
  have closing := (closeSocketClosed ran).2
  unfold Program.At Timeless at timeless
  rw [ran] at timeless
  exact ⟨fun e member => readingUnwatched (Event.closingIsReading (closing.events e member)),closeSocketTimer ran,
    timeless⟩

theorem watchesClosing {l : List Event} (ran : closeSocket false s = ⟨l,t,.ok ()⟩) : Watches ready s l t f := by
  obtain ⟨quiet,timer,timeless⟩ := closingUnwatched ran
  exact watchesUnwatched quiet timer (Nat.le_of_eq timeless.symm)

theorem HasRead.timer {l : List Event} (reading : HasRead s l t) :
    t.connection.aliveCheckTimer = s.connection.aliveCheckTimer := by
  cases reading with
  | reads _ => rfl
  | failed _ _ handled => exact handled.timer

end Watches

theorem watchCalls (ready : Prop) : CallSteps (@Watches σ ready) where
  composable := watchesComposable
  stopped := watchesUnwatched (by simp) rfl (Nat.le_refl _)
  noted noted := watchesUnwatched (List.forall_mem_singleton.mpr (notedUnwatched noted)) rfl (Nat.le_refl _)
  ticked := watchesTicked
  applied := watchesUnwatched (by simp) rfl (Nat.le_refl _)
  sent _ other sends timeless := by
    have effect := sends.effect other
    obtain ⟨_⟩ := sends
    exact watchesUnwatched (fun e member => sendingUnwatched (effect.events e member)) rfl (Nat.le_of_eq timeless.symm)
  read reading timeless := watchesUnwatched (fun e member => readingUnwatched (reading.effect.events e member))
    reading.timer (Nat.le_of_eq timeless.symm)
  closed := watchesClosing
  expired {s l t} due _ ran := by
    have told : Watches ready s (.timeout s.environment.now::l) t none :=
      watchesComposable.trans (watchesTimeout due) (watchesClosing ran)
    exact watchesComposable.trans told
      (watchesUnwatched (List.forall_mem_singleton.mpr ⟨fun _ => Event.noConfusion,fun _ => rfl⟩) rfl (Nat.le_refl _))
  unbound due _ := watchesTimeout due
  triggered := watchesUnwatched (List.forall_mem_cons.mpr ⟨⟨fun _ => Event.noConfusion,fun _ => rfl⟩,
    List.forall_mem_singleton.mpr ⟨fun _ => Event.noConfusion,fun _ => rfl⟩⟩) rfl (Nat.le_refl _)
  set {s seconds} := by
    refine watchesEvent (fun _ _ => trivial) (fun w holds => ⟨holds.watched.sets seconds,fun r => ?_⟩)
    obtain ⟨received,seen⟩ := holds.ready r
    refine ⟨received,?_⟩
    simp only [Monitor.next,Monitor.set]
    split <;> exact seen
  reset active := watchesEvent (fun _ _ => trivial) (fun w holds => ⟨holds.watched.resets active,holds.ready⟩)

theorem monitorAnswer (c : DoIPConnection) (gateway : UInt16) (address : Address) (w : Monitor) :
    w.next (.event (sendEvent c (activationResponseBytes gateway address successfullyRoutedCode))) =
      {w with activated := true} := by
  unfold sendEvent
  split <;> simp [Monitor.next,Monitor.sent,routedByResponse]

theorem startExplained {w : Monitor} {s t : State σ} {l : List Event} (holds : Explained True w s)
    (ran : startAliveCheck s = ⟨l,t,.ok ()⟩) :
    (∀ past, Always Justified past (l.map .event)) ∧
      Explained True ((l.map .event).foldl Monitor.next {w with activated := true}) t := by
  cases active : s.connection.aliveCheckTimer.active with
  | true =>
    cases ran.symm.trans (startAliveCheckActive active)
    exact ⟨fun _ => trivial,holds.watched.active active,holds.ready⟩
  | false =>
    cases disabled : s.connection.aliveCheckTimer.disabled with
    | true =>
      cases ran.symm.trans (startAliveCheckDisabled active disabled)
      exact ⟨fun _ => trivial,holds.watched.binds disabled,holds.ready⟩
    | false =>
      cases ran.symm.trans (startAliveCheckEnabled active disabled)
      obtain ⟨received,seen⟩ := holds.ready trivial
      have later := holds.watched.later (tickedLater s)
      exact ⟨fun _ => ⟨trivial,trivial,trivial⟩,later.starts active seen,holds.ready⟩

theorem watchConnection : ConnectionSteps (@Watches σ True) where
  toCallSteps := watchCalls True
  activated {s o gateway address l t} sends timeless ran := by
    obtain ⟨errors⟩ := sends
    rename_i tail environment v
    intro past holds _
    have quiet : ∀ e ∈ tail, e.Unwatched := by
      intro e member
      obtain ⟨ssl,err,rfl,_⟩ := errors e member
      exact ⟨fun _ => Event.noConfusion,fun _ => rfl⟩
    have registered : Explained True (monitor past) (State.register {s with environment := environment} address) := by
      refine ⟨?_,holds.ready⟩
      show Watched (monitor past) s.connection.aliveCheckTimer environment.now
      rw [show environment.now = s.environment.now from timeless]
      exact holds.watched
    obtain ⟨unfired,explained⟩ := startExplained registered ran
    have answer := monitorAnswer s.connection gateway address (monitor past)
    have answered : monitor (past ++ (sendEvent s.connection (activationResponseBytes gateway address
        successfullyRoutedCode)::tail).map .event) = {monitor past with activated := true} := by
      rw [List.map_cons,← List.singleton_append,← List.append_assoc,monitorUnwatched quiet,monitorAppend]
      exact answer
    rw [List.map_append]
    refine ⟨(Always.append _ _ _).mpr ⟨⟨?_,justifiedUnwatched quiet _⟩,unfired _⟩,?_⟩
    · unfold sendEvent
      split <;> trivial
    · show Explained True (monitor (past ++ _)) t
      rw [← List.append_assoc,monitorAppend,answered]
      exact explained

def Fits (past : List Observed) (thread : Thread) : Prop :=
  (∃ action payload, thread.position = .dispatching action payload) →
    ∃ received, (monitor past).received = some received

theorem notDispatching (app : Application σ) (uninit : GenericHeaderAction) {thread : Thread}
    (incomplete : thread.holdsMessage = false) :
    Program.Returns (fun next => ∀ action payload, next.position ≠ .dispatching action payload)
      (advance app uninit thread) := by
  obtain ⟨position,inbox⟩ := thread
  cases position with
  | idle => exact Program.returnsBind (fun _ => Program.returnsPure (fun _ _ => Position.noConfusion))
  | reading part data pos remaining =>
    rw [advance]
    split
    · exact Program.returnsPure (fun _ _ => Position.noConfusion)
    · exact Program.returnsBind (fun _ => Program.returnsBind (fun _ => Program.returnsPure (fun _ _ => Position.noConfusion)))
  | blocked part data pos remaining called =>
    rw [advance,readReturns]
    split <;> exact Program.returnsBind (fun _ => Program.returnsPure (fun _ _ => Position.noConfusion))
  | read part data readBytes =>
    cases part with
    | header =>
      refine Program.returnsBind (fun c => ?_)
      split
      · refine Program.returnsBind (fun action => ?_)
        split <;> exact Program.returnsPure (fun _ _ => Position.noConfusion)
      · exact Program.returnsBind (fun _ => Program.returnsPure (fun _ _ => Position.noConfusion))
    | payload action =>
      rw [advance]
      split
      · exact Program.returnsBind (fun _ => Program.returnsPure (fun _ _ => Position.noConfusion))
      · exact Program.returnsPure (fun _ _ => Position.noConfusion)
  | complete action payload => cases incomplete
  | dispatching action payload =>
    exact Program.returnsBind (fun _ => Program.returnsPure (fun _ _ => Position.noConfusion))

section Elapse
variable {app : Application σ} {past : List Observed} {thread : Thread} {s : State σ}

theorem programWatched {ready : Prop} {α : Type} {x : Doip σ α} (meets : Program.Meets (Watches ready) x)
    (holds : Explained ready (monitor past) s) :
    Always Justified past ((x s).log.map .event) ∧
      Explained ready (monitor (past ++ (x s).log.map .event)) (x s).state :=
  meets s past holds (Always.ofForall (fun _ _ _ => trivial) past)

def Kept (past : List Observed) (o : Outcome Fault Observed (State σ) Thread) : Prop :=
  Always Justified past o.log ∧ Explained False (monitor (past ++ o.log)) o.state ∧
    ∀ next, o.result = .ok next → Fits (past ++ o.log) next

theorem completeKept {action : GenericHeaderAction} {payload : Option Buffer} {inbox : List Arrival}
    (uninit : GenericHeaderAction) (holds : Explained False (monitor past) s) :
    Kept past (elapse app (.receiver uninit) ⟨.complete action payload,inbox⟩ s) := by
  by_cases active : s.connection.aliveCheckTimer.active = true
  · have ran : elapse app (.receiver uninit) ⟨.complete action payload,inbox⟩ s =
        ⟨[.event (.timerReset s.ticked.environment.now),.complete s.ticked.environment.now],
          s.ticked.setTimer (·.resetTimer s.ticked.environment.now),.ok ⟨.dispatching action payload,inbox⟩⟩ := by
      simp only [elapse,advance,Program.bindApply,Program.relabelApply,connectionApply,Outcome.andThenOk,
        Program.whenTrue active]
      rfl
    rw [ran]
    have later := holds.watched.later (tickedLater s)
    refine ⟨⟨trivial,trivial,trivial⟩,⟨?_,False.elim⟩,fun _ _ _ => ⟨s.ticked.environment.now,?_⟩⟩
    · rw [monitorAppend]
      exact (later.resets active).complete (fun _ => rfl)
    · rw [monitorAppend]
      rfl
  · have ran : elapse app (.receiver uninit) ⟨.complete action payload,inbox⟩ s =
        ⟨[.complete s.environment.now],s,.ok ⟨.dispatching action payload,inbox⟩⟩ := by
      simp only [elapse,advance,Program.bindApply,Program.relabelApply,connectionApply,Outcome.andThenOk,
        Program.whenFalse active]
      rfl
    rw [ran]
    refine ⟨⟨trivial,trivial⟩,⟨?_,False.elim⟩,fun _ _ _ => ⟨s.environment.now,?_⟩⟩
    · rw [monitorAppend]
      exact holds.watched.complete (fun running => absurd running active)
    · rw [monitorAppend]
      rfl

theorem elapseReceiver {uninit : GenericHeaderAction} (incomplete : thread.holdsMessage = false) :
    elapse app (.receiver uninit) thread s = (advance app uninit thread).relabel .event s := by
  have unobserved : ¬ thread.holdsMessage = true := by simp [incomplete]
  have silent : ∀ t : State σ, observe thread t = ⟨[],t,.ok ()⟩ := by
    intro t
    simp only [observe,Program.bindApply,Program.getApply,Outcome.andThenOk,Outcome.prependNil,
      Program.whenFalse unobserved,Program.pureApply]
  simp only [elapse,Program.bindApply,Program.relabelApply]
  cases (advance app uninit thread s).result with
  | error e => rfl
  | ok next =>
    simp only [Outcome.andThenOk,Program.bindApply,silent,Program.pureApply,Outcome.prependMk,List.append_nil]

theorem receiverKept (uninit : GenericHeaderAction) (fits : Fits past thread) (holds : Explained False (monitor past) s) :
    Kept past (elapse app (.receiver uninit) thread s) := by
  cases message : thread.holdsMessage with
  | true =>
    obtain ⟨position,inbox⟩ := thread
    cases position with
    | complete action payload => exact completeKept uninit holds
    | _ => cases message
  | false =>
    rw [elapseReceiver message]
    have handed : ∀ next, (advance app uninit thread s).result = .ok next →
        Fits (past ++ (advance app uninit thread s).log.map .event) next := by
      rintro next ok ⟨action,payload,dispatching⟩
      exact absurd dispatching (notDispatching app uninit message s next ok action payload)
    by_cases dispatching : ∃ action payload, thread.position = .dispatching action payload
    · have ready : Explained True (monitor past) s := ⟨holds.watched,fun _ => fits dispatching⟩
      obtain ⟨justified,explained⟩ := programWatched (watchConnection.advanceMeets app uninit thread) ready
      exact ⟨justified,⟨explained.watched,False.elim⟩,handed⟩
    · have other := fun action payload found => dispatching ⟨action,payload,found⟩
      obtain ⟨justified,explained⟩ := programWatched ((watchCalls False).advanceMeets app uninit thread other) holds
      exact ⟨justified,explained,handed⟩

theorem callKept (call : Call) (fits : Fits past thread) (holds : Explained False (monitor past) s) :
    Kept past (elapse app (.call call) thread s) := by
  have ready : Explained (∃ action payload, thread.position = .dispatching action payload) (monitor past) s :=
    ⟨holds.watched,fits⟩
  obtain ⟨justified,explained⟩ := programWatched ((watchCalls _).performMeets call) ready
  rw [elapse,Program.bindApply,Program.relabelApply]
  generalize perform call s = o at justified explained
  obtain ⟨l,t,r⟩ := o
  cases r with
  | error e => exact ⟨justified,⟨explained.watched,False.elim⟩,fun _ ok => by cases ok⟩
  | ok v =>
    rw [Outcome.andThenOk,Program.pureApply,Outcome.prependMk,List.append_nil]
    refine ⟨justified,⟨explained.watched,False.elim⟩,?_⟩
    rintro _ ⟨⟩
    exact explained.ready

theorem elapseKept (instant : Instant) (fits : Fits past thread) (holds : Explained False (monitor past) s) :
    Kept past (elapse app instant thread s) := by
  cases instant with
  | receiver uninit => exact receiverKept uninit fits holds
  | call call => exact callKept call fits holds
  | clock n =>
    have ran : elapse app (.clock n) thread s =
      ⟨[],s.setEnvironment (fun e => {e with now := e.now + n}),.ok thread⟩ := rfl
    rw [ran]
    refine ⟨trivial,⟨?_,False.elim⟩,?_⟩
    · rw [List.append_nil]
      exact holds.watched.later (Nat.le_add_right s.environment.now n)
    · rintro _ ⟨⟩
      rwa [List.append_nil]

theorem runKept (instants : List Instant) (fits : Fits past thread) (holds : Explained False (monitor past) s) :
    Kept past (Program.iterate (elapse app) instants thread s) :=
  (watch False).iterateKeeps (fun instant thread past s (fits : Fits past thread) holds =>
    @elapseKept σ app past thread s instant fits holds) instants fits holds

end Elapse

theorem freshExplained {s : State σ} (fresh : Fresh s) : Explained False (monitor []) s := by
  obtain ⟨_,_,_,_,_,connection⟩ := fresh
  refine ⟨?_,False.elim⟩
  rw [connection]
  constructor <;> simp [DoIPConnection.new,AliveCheckTimer.new,monitor,Monitor.start]

theorem idleFits (past : List Observed) (inbox : List Arrival) : Fits past ⟨.idle,inbox⟩ := by
  rintro ⟨_,_,dispatching⟩
  cases dispatching

end LibDoip
