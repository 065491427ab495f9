import LibDoip.Library.Word

/-! The alive check timer as data. The thread it starts runs rounds of `waitForResponse`; a
round is modelled where the connection is, since its callback closes the connection. -/
namespace LibDoip

/- `startTime` and `maxSeconds` have no initial value in the source; `timerThreads` counts the
threads that were pushed, and `cb` says whether the callback is bound. -/
structure AliveCheckTimer where
  disabled : Bool
  active : Bool
  timeout : Bool
  cb : Bool
  timerThreads : Nat
  startTime : Int
  maxSeconds : UInt16
  deriving DecidableEq, Repr

namespace AliveCheckTimer

def clocksPerSec : Int := 1000000

def new (startTime : Int) (maxSeconds : UInt16) : AliveCheckTimer :=
  ⟨false,false,false,false,0,startTime,maxSeconds⟩

def resetTimer (t : AliveCheckTimer) (clock : Nat) : AliveCheckTimer :=
  {t with startTime := clock, active := true}

-- Only for a timer that is not disabled.
def startTimer (t : AliveCheckTimer) (clock : Nat) : AliveCheckTimer :=
  {t.resetTimer clock with timerThreads := t.timerThreads + 1}

def setTimer (t : AliveCheckTimer) (seconds : UInt16) : AliveCheckTimer := {t with maxSeconds := seconds}

def secondsPassed (t : AliveCheckTimer) (clock : Nat) : Int := (clock - t.startTime).tdiv clocksPerSec

def expire (t : AliveCheckTimer) : AliveCheckTimer := {t with disabled := true, timeout := true}

/- `~AliveCheckTimer` tells the loops to end and joins the first thread, if there is one. Beside the timer it
leaves the number of threads that are still joinable when the vector goes. -/
def destructor (t : AliveCheckTimer) : AliveCheckTimer × Nat :=
  ({t with disabled := true},if 0 < t.timerThreads then t.timerThreads - 1 else t.timerThreads)

def Running (t : AliveCheckTimer) : Prop := 0 < t.timerThreads ∧ t.disabled = false

instance (t : AliveCheckTimer) : Decidable t.Running := by unfold Running; infer_instance

end AliveCheckTimer
end LibDoip
