import LibDoip.Monitor

/-! What the alive check guarantees on every run: a connection that is talking is not closed, the thread of
the timer is there at most once and is joined, and the inactivity time that was set last decides, as long as
the check has not been switched off. -/
namespace LibDoip
open Library
variable {σ : Type}

def observedRun (app : Application σ) (instants : List Instant) (inbox : List Arrival) (s : State σ) :
    Outcome Fault Observed (State σ) Thread :=
  Program.iterate (elapse app) instants ⟨.idle,inbox⟩ s

theorem observedRunKept (app : Application σ) (instants : List Instant) (inbox : List Arrival) {s : State σ}
    (fresh : Fresh s) : Kept [] (observedRun app instants inbox s) :=
  runKept instants (idleFits [] inbox) (freshExplained fresh)

theorem observedRunWatched (app : Application σ) (instants : List Instant) (inbox : List Arrival) {s : State σ}
    (fresh : Fresh s) : Watched (monitor (observedRun app instants inbox s).log)
      (observedRun app instants inbox s).state.connection.aliveCheckTimer
      (observedRun app instants inbox s).state.environment.now :=
  (observedRunKept app instants inbox fresh).2.1.watched

theorem neverWhileTalking (app : Application σ) (instants : List Instant) (inbox : List Arrival) {s : State σ}
    (fresh : Fresh s) : Always Justified [] (observedRun app instants inbox s).log :=
  (observedRunKept app instants inbox fresh).1

section Scenario

def activationInbox : List Arrival :=
  [.data 0x02 [0xFD,0x00,0x05,0x00,0x00,0x00,0x07,0x0E,0x00,0x00,0x00,0x00,0x00,0x00]]

def activationInstants : List Instant := List.replicate 11 (.receiver ⟨.negativeAck,0,0⟩)

def patientInstants : List Instant :=
  .call (.setGeneralInactivityTime 5)::activationInstants ++ [.clock 5000000,.call .timerRound]

end Scenario

theorem neverWhileTalkingFires :
    .event (.timeout 5000000) ∈
        (observedRun (Application.answering true) patientInstants activationInbox (State.opened none)).log ∧
      Always Justified []
        (observedRun (Application.answering true) patientInstants activationInbox (State.opened none)).log :=
  ⟨by decide,neverWhileTalking _ _ _ (State.openedFresh none)⟩

structure OneThread (timer : AliveCheckTimer) : Prop where
  atMost : timer.timerThreads ≤ 1
  exact : timer.timerThreads = 1 ↔ timer.active = true
  bound : 0 < timer.timerThreads → timer.cb = true
  joined : timer.destructor.2 = 0
  ended : ¬ timer.destructor.1.Running

theorem Watched.oneThread {w : Monitor} {timer : AliveCheckTimer} {now : Nat} (h : Watched w timer now) :
    OneThread timer := by
  have threads := h.threads
  have ended : ¬ timer.destructor.1.Running := fun running => Bool.noConfusion running.2
  cases active : timer.active with
  | true =>
    rw [active,if_pos rfl] at threads
    exact ⟨by omega,by simp [threads,active],fun _ => h.bound active,by simp [AliveCheckTimer.destructor,threads],ended⟩
  | false =>
    rw [active,if_neg Bool.false_ne_true] at threads
    exact ⟨by omega,by simp [threads,active],by omega,by simp [AliveCheckTimer.destructor,threads],ended⟩

theorem alwaysOneThread (app : Application σ) (instants : List Instant) (inbox : List Arrival) {s : State σ}
    (fresh : Fresh s) : OneThread (observedRun app instants inbox s).state.connection.aliveCheckTimer :=
  (observedRunWatched app instants inbox fresh).oneThread

theorem alwaysOneThreadFired : OneThread (observedRun (Application.answering true)
    (activationInstants ++ activationInstants ++ .call .timerRound::activationInstants)
    (activationInbox ++ activationInbox ++ activationInbox) (State.opened none)).state.connection.aliveCheckTimer :=
  alwaysOneThread _ _ _ (State.openedFresh none)

def State.after (s : State σ) (n : Nat) : State σ := s.setEnvironment (fun e => {e with now := e.now + n})

/- The thread of the timer is in its loop, and at whatever clock it has its next round, it fires if and only
if the seconds have passed since the timer was last reset, which was not before the last message. -/
structure WillFire (seconds : UInt16) (w : Monitor) (s : State σ) : Prop where
  running : s.connection.aliveCheckTimer.Running
  fires : ∃ reset, w.reset = some reset ∧ (∀ received, w.received = some received → received ≤ reset) ∧
    ∀ n, .timeout (s.after n).ticked.environment.now ∈ (waitForResponse (s.after n)).log ↔
      (seconds.toNat : Int) ≤ (((s.after n).ticked.environment.now : Int) - reset) / AliveCheckTimer.clocksPerSec

def StaysSilent (app : Application σ) (o : Outcome Fault Observed (State σ) Thread) : Prop :=
  ∀ thread, o.result = .ok thread → ∀ instants,
    (∀ seconds, seconds ≠ 0 →
      .event (.called (.setGeneralInactivityTime seconds)) ∉ (Program.iterate (elapse app) instants thread o.state).log) →
    ∀ clock, .event (.timeout clock) ∉ (Program.iterate (elapse app) instants thread o.state).log

def Honoured (app : Application σ) (seconds : UInt16) (o : Outcome Fault Observed (State σ) Thread) : Prop :=
  if seconds = 0 then StaysSilent app o
  else (monitor o.log).activated = true → WillFire seconds (monitor o.log) o.state

theorem offStays {w : Monitor} (off : w.off = true) (later : List Observed) :
    (later.foldl Monitor.next w).off = true := by
  have step : ∀ {w : Monitor}, w.off = true → ∀ o, (w.next o).off = true := by
    intro w off o
    unfold Monitor.next
    split
    case h_4 seconds =>
      rw [Monitor.set]
      split <;> first | rfl | exact off
    all_goals exact off
  induction later generalizing w with
  | nil => exact off
  | cons o rest ih => exact ih (step off o)

theorem offSilent {app : Application σ} {o : Outcome Fault Observed (State σ) Thread} (kept : Kept [] o)
    (off : (monitor o.log).off = true) : StaysSilent app o := by
  intro thread returned instants _ clock fired
  have holds : Explained False (monitor o.log) o.state := kept.2.1
  have fits : Fits o.log thread := kept.2.2 thread returned
  have later := (@runKept σ app o.log thread o.state instants fits holds).1
  obtain ⟨before,after,found⟩ := List.append_of_mem fired
  have on := (later.split found).on
  rw [monitorAppend,offStays off] at on
  cases on

theorem dueAfter {s : State σ} {seconds : UInt16} {reset : Nat}
    (running : s.connection.aliveCheckTimer.Running) (max : s.connection.aliveCheckTimer.maxSeconds = seconds)
    (started : s.connection.aliveCheckTimer.startTime = reset) (past : reset ≤ s.environment.now) (n : Nat) :
    Due (s.after n).ticked ↔ (seconds.toNat : Int) ≤
      (((s.after n).ticked.environment.now : Int) - reset) / AliveCheckTimer.clocksPerSec := by
  have forth : s.environment.now ≤ (s.after n).ticked.environment.now :=
    Nat.le_trans (Nat.le_add_right _ n) (tickedLater (s.after n))
  have elapsed : (s.after n).ticked.connection.aliveCheckTimer.secondsPassed (s.after n).ticked.environment.now =
      (((s.after n).ticked.environment.now : Int) - reset) / AliveCheckTimer.clocksPerSec := by
    rw [AliveCheckTimer.secondsPassed,show (s.after n).ticked.connection.aliveCheckTimer.startTime = reset from started]
    exact Int.tdiv_eq_ediv_of_nonneg (by omega)
  rw [Due,elapsed,show (s.after n).ticked.connection.aliveCheckTimer.maxSeconds = seconds from max]
  exact and_iff_right running

theorem firesIffDue {s : State σ} (running : s.connection.aliveCheckTimer.Running)
    (bound : s.connection.aliveCheckTimer.cb = true) :
    .timeout s.ticked.environment.now ∈ (waitForResponse s).log ↔ Due s.ticked := by
  by_cases due : Due s.ticked
  · obtain ⟨l,t,ran,_,_⟩ := closeSocketCloses false (s.ticked.setTimer (·.expire))
    rw [roundFires due bound ran]
    exact iff_of_true List.mem_cons_self due
  · rw [roundWaits running due]
    exact iff_of_false List.not_mem_nil due

theorem Watched.willFire {w : Monitor} {s : State σ} {seconds : UInt16}
    (h : Watched w s.connection.aliveCheckTimer s.environment.now) (activated : w.activated = true)
    (on : w.off = false) (unfired : w.fired = false) (last : w.seconds = some seconds) : WillFire seconds w s := by
  have enabled : s.connection.aliveCheckTimer.disabled = false := by
    refine Bool.eq_false_iff.mpr (fun disabled => ?_)
    rcases h.disabled disabled with off | fired
    · simp [on] at off
    · simp [unfired] at fired
  have active := (h.started activated).resolve_right (by simp [enabled])
  have running : s.connection.aliveCheckTimer.Running := by
    refine ⟨?_,enabled⟩
    rw [h.threads,if_pos active]
    exact Nat.one_pos
  obtain ⟨received,reset,seen,found,started,order,past⟩ := h.reset active
  refine ⟨running,reset,found,?_,fun n => ?_⟩
  · intro received' seen'
    cases seen.symm.trans seen'
    exact order
  · exact (@firesIffDue σ (s.after n) running (h.bound active)).trans
      (dueAfter running (h.seconds seconds last) started past n)

theorem lastSettingHonoured (app : Application σ) (instants : List Instant) (inbox : List Arrival) {s : State σ}
    (fresh : Fresh s) {seconds : UInt16} (unfired : (monitor (observedRun app instants inbox s).log).fired = false)
    (last : (monitor (observedRun app instants inbox s).log).setting = some seconds) :
    Honoured app seconds (observedRun app instants inbox s) ↔
      seconds = 0 ∨ (monitor (observedRun app instants inbox s).log).activated = false ∨
        (monitor (observedRun app instants inbox s).log).off = false := by
  have kept := observedRunKept app instants inbox fresh
  have watched := observedRunWatched app instants inbox fresh
  have setting := watched.setting seconds last
  unfold Honoured
  by_cases zero : seconds = 0
  · rw [if_pos zero] at setting ⊢
    exact iff_of_true (offSilent kept setting) (Or.inl zero)
  · rw [if_neg zero] at setting ⊢
    constructor
    · intro fires
      refine Or.inr ?_
      cases activated : (monitor (observedRun app instants inbox s).log).activated with
      | false => exact Or.inl rfl
      | true =>
        refine Or.inr (Bool.eq_false_iff.mpr (fun off => ?_))
        have enabled := (fires activated).running.2
        simp [watched.off off] at enabled
    · rintro (same | unactivated | on) activated
      · exact absurd same zero
      · simp [unactivated] at activated
      · exact watched.willFire activated on unfired setting

theorem lastSettingHonouredFive : Honoured (Application.answering true) 5 (observedRun (Application.answering true)
    (.call (.setGeneralInactivityTime 5)::activationInstants) activationInbox (State.opened none)) :=
  (lastSettingHonoured _ _ _ (State.openedFresh none) (by decide) (by decide)).mpr (Or.inr (Or.inr (by decide)))

theorem neverEnabledAgain : ¬ ∀ (app : Application Unit) (instants : List Instant) (inbox : List Arrival)
    (s : State Unit), Fresh s → ∀ seconds, (monitor (observedRun app instants inbox s).log).fired = false →
    (monitor (observedRun app instants inbox s).log).setting = some seconds →
    Honoured app seconds (observedRun app instants inbox s) := by
  intro stated
  have honoured := stated (Application.answering true)
    (.call (.setGeneralInactivityTime 5)::activationInstants ++
      [.call (.setGeneralInactivityTime 0),.call (.setGeneralInactivityTime 5)])
    activationInbox (State.opened none) (State.openedFresh none) 5 (by decide) (by decide)
  rw [Honoured,if_neg (by decide)] at honoured
  have running := (honoured (by decide)).running
  exact absurd running (by decide)

end LibDoip
