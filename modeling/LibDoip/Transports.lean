import LibDoip.Disconnection
import LibDoip.Twins

/-! Plain TCP and TLS compared. The same loop serves the same bytes over either, cut into pieces in any
two ways. What is dispatched, replied and called back is the same, as long as no payload length is refused by
`SSL_read`, whose count is an `int`, while the bytes of the payload are there or the refusal goes unnoticed. -/
namespace LibDoip
open Library
variable {σ : Type}

section GivingUp
open Program

def KeepsUntilReceived (s : State σ) (l : List Event) (t : State σ) (_ : Option Fault) : Prop :=
  (∀ action payload, .received action payload ∉ l) → SameSurroundings s t

theorem keepsUntilReceived : Composable (@KeepsUntilReceived σ) where
  refl s _ := .refl s
  trans := by
    intro s l t m u f first second none
    have before := first (fun action payload member => none action payload (List.mem_append_left m member))
    exact before.trans (second (fun action payload member => none action payload (List.mem_append_right l member)))

theorem keptUntilReceived {x : Doip σ α} (h : Meets (@KeepsSurroundings σ) x) : Meets (@KeepsUntilReceived σ) x :=
  fun s _ => h s

theorem handleSslReadErrorKeeps (ssl : Nat) : Meets (@KeepsSurroundings σ) (handleSslReadError ssl) := by
  refine meetsBind keepsSurroundings (parseSslErrorKeeps ssl) (fun err => ?_)
  cases err with
  | zeroReturn | other => exact meetsPure keepsSurroundings _
  | syscall | ssl => exact meetsBind keepsSurroundings (closeSocketKeeps true) (fun _ => meetsPure keepsSurroundings _)

theorem failedReadKeeps (pos : Nat) : Meets (@KeepsSurroundings σ) (failedRead pos) := by
  refine meetsBind keepsSurroundings connectionKeeps (fun c => ?_)
  cases c.ssl with
  | none => exact meetsPure keepsSurroundings _
  | some ssl => exact meetsBind keepsSurroundings (handleSslReadErrorKeeps ssl) (fun _ => meetsPure keepsSurroundings _)

theorem readSomeKeeps (remaining : Nat) (inbox : List Arrival) :
    Meets (@KeepsSurroundings σ) (readSome remaining inbox) := by
  intro s
  rw [At,readSomeApply]
  exact .refl s

theorem receiveLoopKeeps (data : Buffer) (pos remaining : Nat) (inbox : List Arrival) :
    Meets (@KeepsSurroundings σ) (receiveLoop data pos remaining inbox) := by
  induction remaining using Nat.strongRecOn generalizing data pos inbox with
  | ind remaining ih =>
    rw [receiveLoop]
    by_cases done : remaining = 0
    · rw [if_pos done]
      exact meetsPure keepsSurroundings _
    · rw [if_neg done]
      refine meetsBind keepsSurroundings (readSomeKeeps remaining inbox) (fun r => ?_)
      by_cases stop : r.count ≤ 0
      · rw [dif_pos stop]
        exact meetsBind keepsSurroundings (failedReadKeeps pos) (fun _ => meetsPure keepsSurroundings _)
      · rw [dif_neg stop]
        refine meetsBind keepsSurroundings (fun s => ?_) (fun data => ih _ (by omega) data _ _)
        rw [At,Program.liftApply]
        exact .refl s

theorem messageReceivedLogged (app : Application σ) (action : GenericHeaderAction) (payload : Option Buffer)
    (s : State σ) : .received action payload ∈ (messageReceived app action payload s).log := by
  have logged : ∀ t : State σ, .received action payload ∈
      (reactOnReceivedTcpMessage app action action.payloadLength.toNat payload t).log := by
    intro t
    rw [reactOnReceivedTcpMessage,Program.bindApply,Program.emitApply,Outcome.andThenOk,Outcome.prependLog]
    exact List.mem_cons_self
  unfold messageReceived
  rw [Program.bindApply,connectionApply,Outcome.andThenOk,Outcome.prependNil]
  by_cases active : s.connection.aliveCheckTimer.active = true
  · obtain ⟨now,t,reset,_⟩ := resetTimerRetimed active
    rw [Program.whenTrue active,Program.bindApply,reset,Outcome.andThenOk,Outcome.prependLog]
    exact List.mem_append_right _ (logged t)
  · rw [Program.whenFalse active,Program.bindApply,Program.pureApply,Outcome.andThenOk,Outcome.prependNil]
    exact logged s

theorem messageReceivedKeeps (app : Application σ) (action : GenericHeaderAction) (payload : Option Buffer) :
    Meets (@KeepsUntilReceived σ) (messageReceived app action payload) :=
  fun s none => absurd (messageReceivedLogged app action payload s) (none action payload)

theorem receiveTcpOrTlsMessageKeeps (app : Application σ) (uninit : GenericHeaderAction) (inbox : List Arrival) :
    Meets (@KeepsUntilReceived σ) (receiveTcpOrTlsMessage app uninit inbox) := by
  have closing : ∀ r : Returned, Meets (@KeepsUntilReceived σ) (do
      closeSocket false
      pure r) := fun r => keptUntilReceived
    (meetsBind keepsSurroundings (closeSocketKeeps false) (fun _ => meetsPure keepsSurroundings r))
  have dispatching : ∀ action payload rest, Meets (@KeepsUntilReceived σ) (do
      let sentBytes ← messageReceived app action payload
      pure (⟨sentBytes,rest⟩ : Returned)) := fun action payload rest =>
    meetsBind keepsUntilReceived (messageReceivedKeeps app action payload) (fun _ => meetsPure keepsUntilReceived _)
  have loop : ∀ data pos remaining rest, Meets (@KeepsUntilReceived σ) (receiveLoop data pos remaining rest) :=
    fun data pos remaining rest => keptUntilReceived (receiveLoopKeeps data pos remaining rest)
  refine meetsBind keepsUntilReceived (keptUntilReceived (emitKeeps _)) (fun _ => ?_)
  refine meetsBind keepsUntilReceived (loop _ _ _ _) (fun header => ?_)
  refine meetsBind keepsUntilReceived (keptUntilReceived connectionKeeps) (fun c => ?_)
  split
  · refine meetsBind keepsUntilReceived (keptUntilReceived (fun s => ?_)) (fun action => ?_)
    · rw [At,Program.liftApply]
      exact SameSurroundings.refl s
    · unfold receivePayload
      split
      · refine meetsBind keepsUntilReceived (loop _ _ _ _) (fun payload => ?_)
        split
        · exact closing _
        · exact dispatching _ _ _
      · exact dispatching _ _ _
  · exact closing _

theorem readsUnseen {c : DoIPConnection} {l : List Event} (events : ∀ e ∈ l, ∃ n, e = readEvent c n) :
    l.filterMap Event.outward = [] := by
  refine List.filterMap_eq_nil_iff.mpr (fun e member => ?_)
  obtain ⟨n,rfl⟩ := events e member
  unfold readEvent
  split <;> rfl

theorem readOutward {s t u : State σ} {l m : List Event} (reading : HasRead s l t)
    (active : isSocketActive s.connection) (ran : closeSocket false t = ⟨m,u,.ok ()⟩) :
    ClosedOutward s (l ++ m) u := by
  cases reading with
  | reads events =>
    have closed := closeSocketOutward active ran
    exact ⟨by rw [List.filterMap_append,readsUnseen events]; exact closed.seen,closed.connection,closed.application⟩
  | @failed l m' t ssl events tls handled =>
    have unseen : (l ++ .sslError ssl (nextSslError s)::m' ++ m).filterMap Event.outward =
        (m' ++ m).filterMap Event.outward := by
      rw [List.append_assoc,List.filterMap_append,readsUnseen events]
      rfl
    cases handled with
    | @noted environment mild =>
      have closed := closeSocketOutward (s := {s with environment := environment}) active ran
      exact ⟨unseen.trans closed.seen,closed.connection,closed.application⟩
    | @closed environment _ _ fatal first =>
      have closed := closeSocketOutward (s := {s with environment := environment}) active first
      have inactive : t.connection.clientSock = 0 := by rw [closed.connection]
      cases ran.symm.trans (closeInactive false inactive)
      exact ⟨unseen.trans (by rw [List.append_nil]; exact closed.seen),closed.connection,closed.application⟩

theorem receiveClosed (app : Application σ) {uninit : GenericHeaderAction} {inbox : List Arrival} {s : State σ}
    (active : isSocketActive s.connection)
    (missed : s.connection.aliveCheckTimer.timeout = false → splitFrame uninit (Inbox.stream inbox) = none)
    (noticed : ¬ Clash uninit inbox s) :
    ∃ l t rest, receiveTcpOrTlsMessage app uninit inbox s = ⟨.receiving::l,t,.ok ⟨0,rest⟩⟩ ∧
      ClosedOutward s l t ∧ SameSurroundings s t := by
  have received := receives app uninit inbox s
  have kept := receiveTcpOrTlsMessageKeeps app uninit inbox s
  rw [At] at kept
  generalize receiveTcpOrTlsMessage app uninit inbox s = o at received kept
  cases received with
  | @closed l m t u rest reading _ _ ran =>
    have closed := readOutward reading active ran
    refine ⟨l ++ m,u,rest,rfl,closed,kept ?_⟩
    intro action payload member
    have seen : Outward.event (.received action payload) ∈ (l ++ m).filterMap Event.outward :=
      List.mem_filterMap.mpr ⟨_,List.mem_of_ne_of_mem Event.noConfusion member,rfl⟩
    rw [closed.seen] at seen
    cases List.mem_singleton.mp seen
  | frame _ running split _ =>
    rw [missed running] at split
    contradiction
  | mistaken _ clash => exact absurd clash noticed

end GivingUp

structure Along (plain tls : List Arrival) (s t : State σ) : Prop where
  twins : Twins s t
  stream : isSocketActive t.connection → Inbox.stream plain = Inbox.stream tls

/- `SSL_read` takes the declared payload length; or the payload is not all there and its refusal is noticed. -/
def Unrefused : Op → List Arrival → State σ → Prop
  | .receive uninit, inbox, t => isSocketActive t.connection → t.connection.aliveCheckTimer.timeout = false →
      ∀ action rest, splitHeader uninit (Inbox.stream inbox) = some (action,rest) →
        Readable t.connection action.payloadLength.toNat ∨
        (rest.length < action.payloadLength.toNat ∧ ¬ Clash uninit inbox t)
  | .call _, _, _ => True

theorem Unrefused.noticed {uninit : GenericHeaderAction} {inbox : List Arrival} {t : State σ}
    (unrefused : Unrefused (.receive uninit) inbox t) (active : isSocketActive t.connection) : ¬ Clash uninit inbox t := by
  intro clash
  obtain ⟨tls,running,_,action,rest,header,size⟩ := id clash
  rcases unrefused active running action rest header with readable | ⟨_,noticed⟩
  · have := readable.resolve_left tls
    omega
  · exact noticed clash

theorem Unrefused.readable {uninit : GenericHeaderAction} {inbox : List Arrival} {t : State σ} {frame : Frame}
    {bytes : List UInt8} (unrefused : Unrefused (.receive uninit) inbox t) (active : isSocketActive t.connection)
    (running : t.connection.aliveCheckTimer.timeout = false)
    (split : splitFrame uninit (Inbox.stream inbox) = some (frame,bytes)) :
    Readable t.connection frame.action.payloadLength.toNat := by
  obtain ⟨action,rest,header,enough,rfl,_⟩ := splitFrameFrom split
  exact (unrefused active running action rest header).resolve_right (fun short => absurd enough (by omega))

theorem receiveTwinned (app : Application σ) {uninit : GenericHeaderAction} {plain tls : List Arrival} {s t : State σ}
    (along : Along plain tls s t) (active : isSocketActive t.connection)
    (unrefused : Unrefused (.receive uninit) tls t) :
    Agrees Event.outward (fun r r' s' t' => r.value = r'.value ∧ Along r.inbox r'.inbox s' t')
      (receiveTcpOrTlsMessage app uninit plain s) (receiveTcpOrTlsMessage app uninit tls t) := by
  obtain ⟨twins,same⟩ := along
  have sameTimer : s.connection.aliveCheckTimer = t.connection.aliveCheckTimer := by rw [twins.connection]
  have active' : isSocketActive s.connection := by rw [twins.connection]; exact active
  by_cases whole : t.connection.aliveCheckTimer.timeout = false ∧
      ∃ frame bytes, splitFrame uninit (Inbox.stream tls) = some (frame,bytes)
  · obtain ⟨running,frame,bytes,split⟩ := whole
    obtain ⟨m,rest',ran',next',events'⟩ := receivesWhole app (unrefused.readable active running split) running split
    rw [← same active] at split
    rw [← sameTimer] at running
    obtain ⟨l,rest,ran,next,events⟩ := receivesFrame app twins.plain running split
    have seen : (Event.receiving::l).filterMap Event.outward = (Event.receiving::m).filterMap Event.outward := by
      rw [List.filterMap_cons,List.filterMap_cons,readsUnseen events,readsUnseen events']
    rw [ran,ran']
    refine Agrees.prepend seen (InStep.next (messageReceivedTwinned app _ _) (fun sentBytes => ?_) s t twins)
    exact Agree.done (fun _ _ later => ⟨rfl,later,fun _ => next.trans next'.symm⟩)
  · have missed : t.connection.aliveCheckTimer.timeout = false → splitFrame uninit (Inbox.stream tls) = none := by
      intro running
      refine Option.eq_none_iff_forall_ne_some.mpr (fun found split => whole ⟨running,found.1,found.2,split⟩)
    have missed' : s.connection.aliveCheckTimer.timeout = false → splitFrame uninit (Inbox.stream plain) = none := by
      rw [sameTimer,same active]
      exact missed
    obtain ⟨m,t',rest',ran',closed',kept'⟩ := receiveClosed app active missed (unrefused.noticed active)
    obtain ⟨l,s',rest,ran,closed,kept⟩ := receiveClosed app active' missed' (fun clash => clash.1 twins.plain)
    obtain ⟨seen,later⟩ := twinsClosed twins closed closed' kept kept'
    rw [ran,ran']
    refine .returned ?_ ⟨rfl,later,fun stillActive => absurd ?_ stillActive⟩
    · rw [List.filterMap_cons,List.filterMap_cons,seen]
    · rw [closed'.connection]

def whileActive (app : Application σ) (op : Op) (inbox : List Arrival) : Doip σ (List Arrival) := match op with
  | .receive uninit => do
      let c ← connection
      if isSocketActive c then step app (.receive uninit) inbox else pure inbox
  | .call call => step app (.call call) inbox

def runWhileActive (app : Application σ) : List Op → List Arrival → Doip σ (List Arrival) :=
  Program.iterate (whileActive app)

theorem performStaysClosed {call : Call} {t : State σ} (closed : t.connection.clientSock = 0) :
    (perform call t).state.connection.clientSock = 0 :=
  (accounted.performMeets call t).socket.mpr (Or.inl closed)

theorem whileActiveTwinned (app : Application σ) (op : Op) {plain tls : List Arrival} {s t : State σ}
    (along : Along plain tls s t) (unrefused : Unrefused op tls t) :
    Agrees Event.outward Along (whileActive app op plain s) (whileActive app op tls t) := by
  cases op with
  | call call =>
    have called := performTwinned call s t along.twins
    have closed := @performStaysClosed σ call t
    simp only [whileActive,step,Program.bindApply]
    generalize perform call s = o at called
    generalize perform call t = p at called closed
    cases called with
    | returned seen holds =>
      refine .returned (by simpa using seen) ⟨holds.2,fun active => along.stream (fun inactive => active ?_)⟩
      exact closed inactive
    | stopped seen => exact .stopped seen
  | receive uninit =>
    simp only [whileActive,Program.bindApply,connectionApply,Outcome.andThenOk,Outcome.prependNil]
    by_cases active : isSocketActive t.connection
    · have active' : isSocketActive s.connection := by rw [along.twins.connection]; exact active
      rw [if_pos active,if_pos active']
      refine Agree.bindAt (receiveTwinned app along active unrefused) (fun r r' => ?_)
      exact Agree.done (fun _ _ later => later.2)
    · have inactive : ¬ isSocketActive s.connection := by rw [along.twins.connection]; exact active
      rw [if_neg active,if_neg inactive]
      exact .returned rfl along

theorem transportsAgree (app : Application σ) (ops : List Op) {plain tls : List Arrival} {s t : State σ}
    (twins : Twins s t) (same : Inbox.stream plain = Inbox.stream tls)
    (unrefused : Program.Each Unrefused (whileActive app) ops tls t) :
    (runWhileActive app ops plain s).log.filterMap Event.outward =
      (runWhileActive app ops tls t).log.filterMap Event.outward :=
  (Agree.iterate (fun op _ _ _ _ => whileActiveTwinned app op) ⟨twins,fun _ => same⟩ unrefused).seen

theorem transportsAgreeActivation :
    (runWhileActive (Application.answering true) [.receive ⟨.negativeAck,0,0⟩,.call (.sendDiagnosticAck 0x0E80 true 0)]
        [.data 0x02 [0xFD,0x00,0x05,0,0,0,7,0x0E,0x00,0,0,0,0,0]] (State.opened none)).log.filterMap Event.outward =
      (runWhileActive (Application.answering true) [.receive ⟨.negativeAck,0,0⟩,.call (.sendDiagnosticAck 0x0E80 true 0)]
        [.data 0x02 [0xFD],.data 0x00 [0x05,0,0,0,7,0x0E],.data 0x00 [0,0,0,0,0]]
        (State.opened (some 1))).log.filterMap Event.outward := by
  refine transportsAgree _ _ ⟨rfl,⟨rfl,rfl,rfl⟩,rfl,by decide⟩ rfl ⟨?_,fun _ _ => ⟨trivial,fun _ _ => trivial⟩⟩
  rintro _ _ action rest header
  cases header
  exact Or.inl (Or.inr (by decide))

theorem seenReceived {action : GenericHeaderAction} {payload : Option Buffer} {l : List Event} :
    Outward.event (.received action payload) ∈ l.filterMap Event.outward ↔ .received action payload ∈ l := by
  refine ⟨fun member => ?_,fun member => List.mem_filterMap.mpr ⟨_,member,rfl⟩⟩
  obtain ⟨e,member,seen⟩ := List.mem_filterMap.mp member
  cases e <;> cases seen
  exact member

theorem refusedNotDispatched (app : Application σ) {uninit : GenericHeaderAction} {inbox : List Arrival} {t : State σ}
    {frame : Frame} {bytes : List UInt8} (active : isSocketActive t.connection)
    (running : t.connection.aliveCheckTimer.timeout = false)
    (split : splitFrame uninit (Inbox.stream inbox) = some (frame,bytes))
    (refused : ¬ Readable t.connection frame.action.payloadLength.toNat) :
    .received frame.action frame.pointer ∉ (receiveTcpOrTlsMessage app uninit inbox t).log := by
  obtain ⟨action,after,header,enough,rfl,_⟩ := splitFrameFrom split
  obtain ⟨log,rest,ran,next,events⟩ := headerReceived app header running
  have received := receivePayloadReceived app (splitHeaderRules header) rest t
  have reading := readingWithoutDispatch (readsEffect events)
  rw [ran,Outcome.prependLog]
  generalize receivePayload app action rest t = o at received
  intro member
  rcases List.mem_append.mp member with before | after
  · exact reading _ _ before
  · cases received with
    | closed read _ _ shut =>
      have seen := seenReceived.mpr after
      rw [(readOutward read active shut).seen] at seen
      cases List.mem_singleton.mp seen
    | frame _ readable => exact refused readable
    | @mistaken l u _ read _ _ size =>
      rw [Outcome.prependLog,returnLog] at after
      rcases List.mem_append.mp after with earlier | later
      · exact readingWithoutDispatch read.effect _ _ (List.mem_cons_of_mem _ earlier)
      · have dispatched := mistakenDispatched app (splitHeaderRules header) size u
        exact Frame.pointerAssigned _ (by omega) ((dispatchedOnce dispatched _ _).mp later).2

theorem refusedApart (app : Application σ) {uninit : GenericHeaderAction} {plain tls : List Arrival} {s t : State σ}
    (twins : Twins s t) (same : Inbox.stream plain = Inbox.stream tls)
    (refused : ¬ Unrefused (.receive uninit) tls t) :
    (receiveTcpOrTlsMessage app uninit plain s).log.filterMap Event.outward ≠
      (receiveTcpOrTlsMessage app uninit tls t).log.filterMap Event.outward := by
  intro alike
  have dispatches : ∀ action payload, .received action payload ∈ (receiveTcpOrTlsMessage app uninit plain s).log ↔
      .received action payload ∈ (receiveTcpOrTlsMessage app uninit tls t).log := by
    intro action payload
    rw [← seenReceived,alike,seenReceived]
  simp only [Unrefused,Classical.not_forall,not_or] at refused
  obtain ⟨active,running,action,rest,header,unreadable,missed⟩ := refused
  have running' : s.connection.aliveCheckTimer.timeout = false := by rw [twins.connection]; exact running
  by_cases enough : action.payloadLength.toNat ≤ rest.length
  · obtain ⟨frame,bytes,split,rfl⟩ : ∃ frame bytes, splitFrame uninit (Inbox.stream tls) = some (frame,bytes) ∧
        frame.action = action := ⟨_,_,splitFrameWhole header enough,rfl⟩
    obtain ⟨l,rest',ran,_,_⟩ := receivesFrame app twins.plain running' (same ▸ split)
    refine refusedNotDispatched app active running split unreadable ((dispatches _ _).mp ?_)
    rw [ran,Outcome.prependLog,returnLog]
    exact List.mem_append_right _ (messageReceivedLogged app _ _ s)
  · have clash : Clash uninit tls t := Classical.not_not.mp (fun noticed => missed ⟨by omega,noticed⟩)
    have received := receives app uninit tls t
    have active' : isSocketActive s.connection := by rw [twins.connection]; exact active
    have short : splitFrame uninit (Inbox.stream plain) = none := by
      rw [same]
      exact splitFrameShort header (by omega)
    obtain ⟨l,u,_,ran,closed,_⟩ := receiveClosed app active' (fun _ => short) (fun clash => clash.1 twins.plain)
    rw [ran] at dispatches
    generalize receiveTcpOrTlsMessage app uninit tls t = o at received dispatches
    cases received with
    | closed _ _ noticed _ => exact noticed clash
    | frame _ _ _ noticed => exact noticed clash
    | @mistaken m t' action' rest' _ _ _ _ _ =>
      have dispatched := (dispatches action' (some (Buffer.alloc action'.payloadLength.toNat))).mpr (by
        rw [Outcome.prependLog,returnLog]
        exact List.mem_append_right _ (messageReceivedLogged app _ _ t'))
      have seen := seenReceived.mpr dispatched
      rw [List.filterMap_cons] at seen
      simp only [Event.outward,closed.seen] at seen
      simp at seen

theorem runWhileActiveOnce (app : Application σ) (uninit : GenericHeaderAction) (inbox : List Arrival) {s : State σ}
    (active : isSocketActive s.connection) :
    (runWhileActive app [.receive uninit] inbox s).log = (receiveTcpOrTlsMessage app uninit inbox s).log := by
  have once : (whileActive app (.receive uninit) inbox s).log = (receiveTcpOrTlsMessage app uninit inbox s).log := by
    simp only [whileActive,Program.bindApply,connectionApply,Outcome.andThenOk,Outcome.prependNil,if_pos active,step]
    exact returnLog Returned.inbox s
  exact (returnLog id s).trans once

/- 02 FD 80 02 FF FF FF FF: the header is all there is, and `SSL_read` refuses to be asked for -1 bytes. -/
theorem transportsDisagree : ¬ ∀ (ops : List Op) (plain tls : List Arrival) (s t : State Unit), Twins s t →
    Inbox.stream plain = Inbox.stream tls →
    (runWhileActive (Application.answering true) ops plain s).log.filterMap Event.outward =
      (runWhileActive (Application.answering true) ops tls t).log.filterMap Event.outward := by
  intro stated
  let inbox : List Arrival := [.data 0x02 [0xFD,0x80,0x02,0xFF,0xFF,0xFF,0xFF]]
  let s : State Unit := ⟨DoIPConnection.new 5 0x0E80 none 0 0,⟨[],[],[],[],0⟩,()⟩
  let t : State Unit := ⟨DoIPConnection.new 5 0x0E80 (some 1) 0 0,⟨[],[.ssl],[],[],0⟩,()⟩
  have twins : Twins s t := ⟨rfl,⟨rfl,rfl,rfl⟩,rfl,by decide⟩
  have clash : Clash ⟨.negativeAck,0,0⟩ inbox t := ⟨by decide,rfl,by decide,_,[],rfl,by decide⟩
  have refused : ¬ Unrefused (.receive ⟨.negativeAck,0,0⟩) inbox t :=
    fun unrefused => unrefused.noticed (by decide) clash
  have alike := stated [.receive ⟨.negativeAck,0,0⟩] inbox inbox s t twins rfl
  rw [runWhileActiveOnce _ _ _ (by decide),runWhileActiveOnce _ _ _ (by decide)] at alike
  exact refusedApart _ twins rfl refused alike

end LibDoip
