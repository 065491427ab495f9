import LibDoip.Receiving

/-! The loop over `receiveTcpOrTlsMessage` against a machine that works on whole frames. The frame
machine knows nothing of pieces: it is handed the frames that the byte stream consists of. -/
namespace LibDoip
open Library
variable {σ α β : Type}

/- The application's loop: it receives while the socket is active. `uninit n` is what the result
struct holds before the n-th header is parsed. -/
def serve (app : Application σ) (uninit : Nat → GenericHeaderAction) : (fuel : Nat) → List Arrival → Doip σ Unit
  | 0, _ => pure ()
  | fuel+1, inbox => do
      let c ← connection
      Program.when (isSocketActive c) (do
        let r ← receiveTcpOrTlsMessage app (uninit 0) inbox
        serve app (fun n => uninit (n+1)) fuel r.inbox)

def frames (uninit : Nat → GenericHeaderAction) (stream : List UInt8) : List Frame :=
  match _split : splitFrame (uninit 0) stream with
  | some (frame,rest) => frame::frames (fun n => uninit (n+1)) rest
  | none => []
termination_by stream.length
decreasing_by exact splitFrameShorter _split

def dispatchFrames (app : Application σ) : List Frame → Doip σ Unit
  | [] => closeSocket false
  | frame::rest => do
      let c ← connection
      Program.when (isSocketActive c) (do
        let _ ← messageReceived app frame.action frame.pointer
        dispatchFrames app rest)

def Event.observable : Event → Bool
  | .receiving | .recv _ _ | .sslRead _ _ => false
  | _ => true

def observed (o : Outcome Fault Event (State σ) α) : Outcome Fault Event (State σ) α :=
  {o with log := o.log.filter Event.observable}

theorem observedPrepend {l m : List Event} (same : l.filter Event.observable = m.filter Event.observable)
    {o p : Outcome Fault Event (State σ) α} (h : observed o = observed p) :
    observed (o.prepend l) = observed (p.prepend m) := by
  simp only [observed,Outcome.mk.injEq,Outcome.prependLog,Outcome.prependState,Outcome.prependResult,
    List.filter_append,same] at h ⊢
  exact ⟨congrArg _ h.1,h.2⟩

theorem observedAndThen (o : Outcome Fault Event (State σ) α) {f g : α → Doip σ β}
    (h : ∀ a, o.result = .ok a → observed (f a o.state) = observed (g a o.state)) :
    observed (o.andThen f) = observed (o.andThen g) := by
  obtain ⟨l,t,r⟩ := o
  cases r with
  | error e => rfl
  | ok a => exact observedPrepend rfl (h a rfl)

theorem readsNotObserved {s : State σ} {l : List Event}
    (events : ∀ e ∈ l, ∃ n, e = readEvent s.connection n) :
    (Event.receiving::l).filter Event.observable = [] := by
  rw [List.filter_eq_nil_iff]
  intro e member
  rcases List.mem_cons.mp member with rfl | read
  · decide
  · obtain ⟨n,rfl⟩ := events e read
    unfold readEvent
    split <;> simp [Event.observable]

structure Plain (s : State σ) : Prop where
  ssl : s.connection.ssl = none
  settled : Settled s

theorem Plain.shuts {s t : State σ} (plain : Plain s) (shuts : Shuts s t none) : Plain t :=
  ⟨shuts.ssl.elim (fun same => same.trans plain.ssl) id,shuts.settled rfl plain.settled⟩

theorem plainStart {s : State σ} (plain : s.connection.ssl = none)
    (running : s.connection.aliveCheckTimer.timeout = false) : Plain s :=
  ⟨plain,fun _ => plain,fun fired => by rw [running] at fired; contradiction⟩

theorem serveClosed (app : Application σ) (uninit : Nat → GenericHeaderAction) (fuel : Nat)
    (inbox : List Arrival) {s : State σ} (closed : s.connection.clientSock = 0) :
    serve app uninit fuel inbox s = ⟨[],s,.ok ()⟩ := by
  have inactive : ¬ isSocketActive s.connection := fun active => active closed
  cases fuel with
  | zero => rfl
  | succ fuel => simp [serve,Program.whenFalse inactive]

theorem dispatchFramesClosed (app : Application σ) (list : List Frame) {s : State σ}
    (closed : s.connection.clientSock = 0) : dispatchFrames app list s = ⟨[],s,.ok ()⟩ := by
  have inactive : ¬ isSocketActive s.connection := fun active => active closed
  cases list with
  | nil => exact closeInactive false closed
  | cons frame rest => simp [dispatchFrames,Program.whenFalse inactive]

theorem serveActive (app : Application σ) (uninit : Nat → GenericHeaderAction) (fuel : Nat)
    (inbox : List Arrival) {s : State σ} (active : isSocketActive s.connection) :
    serve app uninit (fuel+1) inbox s = (receiveTcpOrTlsMessage app (uninit 0) inbox s).andThen
      (fun r => serve app (fun n => uninit (n+1)) fuel r.inbox) := by
  simp only [serve,Program.bindApply,connectionApply,Outcome.andThenOk,Outcome.prependNil,
    Program.whenTrue active]

theorem dispatchFramesActive (app : Application σ) (frame : Frame) (list : List Frame) {s : State σ}
    (active : isSocketActive s.connection) :
    dispatchFrames app (frame::list) s =
      (messageReceived app frame.action frame.pointer s).andThen (fun _ => dispatchFrames app list) := by
  simp only [dispatchFrames,Program.bindApply,connectionApply,Outcome.andThenOk,Outcome.prependNil,
    Program.whenTrue active]

theorem framesNone {uninit : Nat → GenericHeaderAction} {stream : List UInt8}
    (none : splitFrame (uninit 0) stream = none) : frames uninit stream = [] := by
  rw [frames]
  split
  · rename_i found
    cases none.symm.trans found
  · rfl

theorem framesSome {uninit : Nat → GenericHeaderAction} {stream rest : List UInt8} {frame : Frame}
    (split : splitFrame (uninit 0) stream = some (frame,rest)) :
    frames uninit stream = frame::frames (fun n => uninit (n+1)) rest := by
  rw [frames]
  split
  · rename_i found
    cases split.symm.trans found
    rfl
  · rename_i found
    cases split.symm.trans found

/- The induction is on the fuel; each call but the last consumes a frame, so the stream is shorter
than the fuel at every call. -/
theorem serveRefines (app : Application σ) (uninit : Nat → GenericHeaderAction) {fuel : Nat}
    {inbox : List Arrival} {s : State σ} (plain : Plain s) (enough : (Inbox.stream inbox).length < fuel) :
    observed (serve app uninit fuel inbox s) =
      observed (dispatchFrames app (frames uninit (Inbox.stream inbox)) s) := by
  induction fuel generalizing uninit inbox s with
  | zero => omega
  | succ fuel ih =>
    by_cases closed : s.connection.clientSock = 0
    · rw [serveClosed app uninit _ inbox closed,dispatchFramesClosed app _ closed]
    · have active : isSocketActive s.connection := closed
      have running : s.connection.aliveCheckTimer.timeout = false :=
        Bool.eq_false_iff.mpr (fun fired => closed (plain.settled.expired fired).2)
      have received := receives app (uninit 0) inbox s
      rw [serveActive app uninit fuel inbox active]
      generalize receiveTcpOrTlsMessage app (uninit 0) inbox s = o at received
      cases received with
      | @closed l m t u rest reading missed _ ran =>
        obtain ⟨rfl,events⟩ := reading.plain plain.ssl
        rw [framesNone (missed plain.ssl running),dispatchFrames,ran,Outcome.andThenOk,
          serveClosed app _ fuel rest (closeSocketClosed ran).1,← List.cons_append]
        have silent := readsNotObserved events
        simp only [observed,Outcome.prependMk,List.append_nil,List.filter_append,silent,List.nil_append]
      | @frame l frame rest events _ split _ =>
        have shorter := splitFrameShorter split
        have shuts := (messageReceivedDispatched app (.frame frame) frame.rules.bound s).shuts
        rw [framesSome split,dispatchFramesActive app frame _ active,Outcome.andThenPrepend,
          Program.bindApply,Outcome.andThenAssoc]
        refine @observedPrepend σ Unit _ [] (readsNotObserved events) _ _ (observedAndThen _ ?_)
        intro v returned
        have kept : Plain (messageReceived app frame.action frame.pointer s).state :=
          plain.shuts (shuts.mono (by rw [Outcome.fault,returned]; simp))
        simpa using ih (fun n => uninit (n+1)) kept (show (Inbox.stream rest).length < fuel by omega)
      | mistaken _ clash => exact absurd plain.ssl clash.1

end LibDoip
