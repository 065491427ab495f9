import LibDoip.Reading

/-! `receiveTcpOrTlsMessage` as a whole: it closes the socket, it dispatches the next frame of the
stream, or it takes a failed read for a complete payload. -/
namespace LibDoip
open Library
variable {σ α : Type}

/- `SSL_read` is asked for -1 bytes, fails with a count of -1, and that is the declared length. -/
def Clash (uninit : GenericHeaderAction) (inbox : List Arrival) (s : State σ) : Prop :=
  s.connection.ssl ≠ none ∧ s.connection.aliveCheckTimer.timeout = false ∧ nextSslError s ≠ .zeroReturn ∧
    ∃ action rest, splitHeader uninit (Inbox.stream inbox) = some (action,rest) ∧
      action.payloadLength.toNat = 4294967295

inductive PayloadReceived (app : Application σ) (action : GenericHeaderAction) (rules : HeaderRules action)
    (inbox : List Arrival) (s : State σ) : Outcome Fault Event (State σ) Returned → Prop where
  | closed {l m : List Event} {t u : State σ} {rest : List Arrival}
      (reading : HasRead s l t)
      (missed : s.connection.ssl = none → (Inbox.stream inbox).length < action.payloadLength.toNat)
      (noticed : s.connection.ssl ≠ none → nextSslError s ≠ .zeroReturn → action.payloadLength.toNat ≠ 4294967295)
      (ran : closeSocket false t = ⟨m,u,.ok ()⟩) :
      PayloadReceived app action rules inbox s ⟨l ++ m,u,.ok ⟨0,rest⟩⟩
  | frame {l : List Event} {rest : List Arrival} (events : ∀ e ∈ l, ∃ n, e = readEvent s.connection n)
      (readable : Readable s.connection action.payloadLength.toNat)
      (enough : action.payloadLength.toNat ≤ (Inbox.stream inbox).length)
      (next : Inbox.stream rest = (Inbox.stream inbox).drop action.payloadLength.toNat) :
      PayloadReceived app action rules inbox s (((do
        let sentBytes ← messageReceived app action
          (Frame.cut action rules (Inbox.stream inbox) enough).pointer
        pure ⟨sentBytes,rest⟩ : Doip σ Returned) s).prepend l)
  | mistaken {l : List Event} {t : State σ} {rest : List Arrival}
      (reading : HasRead s l t) (tls : s.connection.ssl ≠ none)
      (next : nextSslError s ≠ .zeroReturn) (size : action.payloadLength.toNat = 4294967295) :
      PayloadReceived app action rules inbox s (((do
        let sentBytes ← messageReceived app action (some (Buffer.alloc action.payloadLength.toNat))
        pure ⟨sentBytes,rest⟩ : Doip σ Returned) t).prepend l)

theorem payloadLengthPositive (action : GenericHeaderAction) :
    0 < action.payloadLength ↔ 0 < action.payloadLength.toNat := by
  rw [UInt64.lt_iff_toNat_lt]
  rfl

theorem payloadComplete (app : Application σ) {action : GenericHeaderAction} (rules : HeaderRules action)
    {inbox : List Arrival} {s : State σ} (readable : Readable s.connection action.payloadLength.toNat)
    (enough : action.payloadLength.toNat ≤ (Inbox.stream inbox).length) :
    ∃ log rest, receivePayload app action inbox s = ((do
        let sentBytes ← messageReceived app action (Frame.cut action rules (Inbox.stream inbox) enough).pointer
        pure ⟨sentBytes,rest⟩ : Doip σ Returned) s).prepend log ∧
      Inbox.stream rest = (Inbox.stream inbox).drop action.payloadLength.toNat ∧
      ∀ e ∈ log, ∃ n, e = readEvent s.connection n := by
  by_cases positive : 0 < action.payloadLength.toNat
  · obtain ⟨log,rest,ran,next,events⟩ := receiveComplete rules.bound readable enough
    have exact : ¬ toUnsignedInt action.payloadLength.toNat ≠ action.payloadLength.toNat :=
      not_not_intro (toUnsignedIntSmall rules.bound)
    refine ⟨log,rest,?_,next,events⟩
    rw [Frame.pointerCut rules enough positive,receivePayload,if_pos ((payloadLengthPositive action).mpr positive)]
    simp only [Program.bindApply,ran,Outcome.andThenOk,if_neg exact]
  · have empty : action.payloadLength.toNat = 0 := by omega
    refine ⟨[],inbox,?_,by rw [empty]; rfl,by simp⟩
    rw [Frame.pointerEmpty rules enough empty,receivePayload,
      if_neg (mt (payloadLengthPositive action).mp positive),Outcome.prependNil]

theorem receivePayloadReceived (app : Application σ) {action : GenericHeaderAction} (rules : HeaderRules action)
    (inbox : List Arrival) (s : State σ) :
    PayloadReceived app action rules inbox s (receivePayload app action inbox s) := by
  have bound := rules.bound
  by_cases whole : Readable s.connection action.payloadLength.toNat ∧
      action.payloadLength.toNat ≤ (Inbox.stream inbox).length
  · obtain ⟨readable,enough⟩ := whole
    obtain ⟨log,rest,ran,next,events⟩ := payloadComplete app rules readable enough
    rw [ran]
    exact .frame events readable enough next
  · have fails : ¬ Readable s.connection action.payloadLength.toNat ∨
        (Inbox.stream inbox).length < action.payloadLength.toNat := by
      rcases Decidable.not_and_iff_not_or_not'.mp whole with refused | short
      · exact Or.inl refused
      · exact Or.inr (by omega)
    have positive : 0 < action.payloadLength.toNat := by
      rcases fails with refused | short
      · exact Nat.pos_of_ne_zero (fun empty => refused (Or.inr (by omega)))
      · omega
    rw [receivePayload,if_pos ((payloadLengthPositive action).mpr positive)]
    obtain ⟨l,t,r,ran,failed⟩ := receiveFails bound positive fails
    simp only [Program.bindApply,ran,Outcome.andThenOk]
    by_cases hidden : toUnsignedInt r.count = action.payloadLength.toNat
    · obtain ⟨tls,next,size⟩ := failed.mistaken.mp hidden
      have refused : ¬ Readable s.connection action.payloadLength.toNat := by
        intro readable
        have := readable.resolve_left tls
        omega
      rw [if_neg (not_not_intro hidden),failed.untouched refused]
      exact .mistaken failed.reading tls next size
    · obtain ⟨m,u,closed,_,_⟩ := closeSocketCloses false t
      rw [if_pos hidden]
      rw [Program.returnAfter closed,Outcome.prependMk]
      refine .closed failed.reading ?_ ?_ closed
      · exact fun plain => fails.resolve_left (not_not_intro (Or.inl plain))
      · exact fun tls next size => hidden (failed.mistaken.mpr ⟨tls,next,size⟩)

inductive Receives (app : Application σ) (uninit : GenericHeaderAction) (inbox : List Arrival) (s : State σ) :
    Outcome Fault Event (State σ) Returned → Prop where
  | closed {l m : List Event} {t u : State σ} {rest : List Arrival}
      (reading : HasRead s l t)
      (missed : s.connection.ssl = none → s.connection.aliveCheckTimer.timeout = false →
        splitFrame uninit (Inbox.stream inbox) = none)
      (noticed : ¬ Clash uninit inbox s) (ran : closeSocket false t = ⟨m,u,.ok ()⟩) :
      Receives app uninit inbox s ⟨.receiving::(l ++ m),u,.ok ⟨0,rest⟩⟩
  | frame {l : List Event} {frame : Frame} {rest : List Arrival}
      (events : ∀ e ∈ l, ∃ n, e = readEvent s.connection n)
      (running : s.connection.aliveCheckTimer.timeout = false)
      (split : splitFrame uninit (Inbox.stream inbox) = some (frame,Inbox.stream rest))
      (noticed : ¬ Clash uninit inbox s) :
      Receives app uninit inbox s (((do
        let sentBytes ← messageReceived app frame.action frame.pointer
        pure ⟨sentBytes,rest⟩ : Doip σ Returned) s).prepend (.receiving::l))
  | mistaken {l : List Event} {t : State σ} {action : GenericHeaderAction} {rest : List Arrival}
      (reading : HasRead s l t) (clash : Clash uninit inbox s)
      (header : ∃ bytes, splitHeader uninit (Inbox.stream inbox) = some (action,bytes))
      (rules : HeaderRules action) (size : action.payloadLength.toNat = 4294967295) :
      Receives app uninit inbox s (((do
        let sentBytes ← messageReceived app action (some (Buffer.alloc action.payloadLength.toNat))
        pure ⟨sentBytes,rest⟩ : Doip σ Returned) t).prepend (.receiving::l))

theorem receivesAfterHeader (app : Application σ) {uninit action : GenericHeaderAction}
    {inbox rest : List Arrival} {s : State σ} {log : List Event}
    (header : splitHeader uninit (Inbox.stream inbox) = some (action,Inbox.stream rest))
    (events : ∀ e ∈ log, ∃ n, e = readEvent s.connection n)
    (running : s.connection.aliveCheckTimer.timeout = false) :
    Receives app uninit inbox s ((receivePayload app action rest s).prepend (.receiving::log)) := by
  have rules := splitHeaderRules header
  have received := receivePayloadReceived app rules rest s
  generalize receivePayload app action rest s = o at received
  have only : ∀ {action' rest'}, splitHeader uninit (Inbox.stream inbox) = some (action',rest') →
      action' = action := fun found => congrArg Prod.fst (Option.some.inj (found.symm.trans header))
  cases received with
  | closed reading missed noticed ran =>
    rw [Outcome.prependMk,List.cons_append,← List.append_assoc]
    refine .closed (reading.after events) ?_ ?_ ran
    · exact fun tcp _ => splitFrameShort header (missed tcp)
    · rintro ⟨tls,_,next,action',rest',found,size⟩
      rw [only found] at size
      exact noticed tls next size
  | @frame l after later readable enough next =>
    rw [Outcome.prependPrepend,List.cons_append]
    refine @Receives.frame σ app uninit inbox s (log ++ l)
      (Frame.cut action rules (Inbox.stream rest) enough) after ?_ running ?_ ?_
    · intro e member
      rcases List.mem_append.mp member with front | back
      · exact events e front
      · exact later e back
    · rw [splitFrameWhole header enough,next]
    · rintro ⟨tls,_,_,action',rest',found,size⟩
      rw [only found] at size
      have := readable.resolve_left tls
      omega
  | mistaken reading tls next size =>
    rw [Outcome.prependPrepend,List.cons_append]
    exact .mistaken (reading.after events)
      ⟨tls,running,next,action,_,header,size⟩ ⟨_,header⟩ rules size

theorem headerReceived (app : Application σ) {uninit action : GenericHeaderAction} {inbox : List Arrival}
    {bytes : List UInt8} {s : State σ} (header : splitHeader uninit (Inbox.stream inbox) = some (action,bytes))
    (running : s.connection.aliveCheckTimer.timeout = false) :
    ∃ log rest, receiveTcpOrTlsMessage app uninit inbox s =
        (receivePayload app action rest s).prepend (.receiving::log) ∧
      Inbox.stream rest = bytes ∧ ∀ e ∈ log, ∃ n, e = readEvent s.connection n := by
  obtain ⟨b0,b1,b2,b3,b4,b5,b6,b7,stream,rfl⟩ := splitHeaderBytes header
  have enough : 8 ≤ (Inbox.stream inbox).length := by simp [stream]
  obtain ⟨log,rest,ran,next,events⟩ :=
    receiveComplete (by decide) (Or.inr (by decide) : Readable s.connection 8) enough
  rw [stream] at ran next
  have accepted : toUnsignedInt 8 = 8 ∧ s.connection.aliveCheckTimer.timeout = false := ⟨rfl,running⟩
  have parsed := @parsedHeader uninit b0 b1 b2 b3 b4 b5 b6 b7 [] genericHeaderLength (by decide)
  rw [List.append_nil] at parsed
  refine ⟨log,rest,?_,next,events⟩
  rw [receiveTcpOrTlsMessage,Program.bindApply,Program.emitApply,Outcome.andThenOk]
  simp only [Program.bindApply,ran,Outcome.andThenOk,
    connectionApply,Outcome.prependNil,if_pos accepted,List.take_succ_cons,List.take_zero,parsed,Program.liftOkBind]
  rw [Outcome.prependPrepend]
  rfl

theorem headerMissed (app : Application σ) (uninit : GenericHeaderAction) {inbox : List Arrival} {s t : State σ}
    {l : List Event} {header : Received}
    (ran : receiveFixedNumberOfBytesFromTcpOrTls 8 (Buffer.alloc 8) inbox s = ⟨l,t,.ok header⟩)
    (missed : ¬ (toUnsignedInt header.count = 8 ∧ t.connection.aliveCheckTimer.timeout = false)) :
    ∃ m u, closeSocket false t = ⟨m,u,.ok ()⟩ ∧
      receiveTcpOrTlsMessage app uninit inbox s = ⟨.receiving::(l ++ m),u,.ok ⟨0,header.inbox⟩⟩ := by
  obtain ⟨m,u,closed,_,_⟩ := closeSocketCloses false t
  refine ⟨m,u,closed,?_⟩
  rw [receiveTcpOrTlsMessage,Program.bindApply,Program.emitApply,Outcome.andThenOk,Program.bindApply,ran,
    Outcome.andThenOk,Program.bindApply,connectionApply,Outcome.andThenOk,if_neg missed,
    Program.returnAfter closed]
  rfl

theorem receives (app : Application σ) (uninit : GenericHeaderAction) (inbox : List Arrival) (s : State σ) :
    Receives app uninit inbox s (receiveTcpOrTlsMessage app uninit inbox s) := by
  by_cases enough : 8 ≤ (Inbox.stream inbox).length
  · obtain ⟨action,bytes,header⟩ := splitHeaderSome uninit enough
    by_cases running : s.connection.aliveCheckTimer.timeout = false
    · obtain ⟨log,rest,ran,next,events⟩ := headerReceived app header running
      subst next
      rw [ran]
      exact receivesAfterHeader app header events running
    · obtain ⟨log,rest,ran,_,events⟩ :=
        receiveComplete (by decide) (Or.inr (by decide) : Readable s.connection 8) enough
      have expired : ¬ (toUnsignedInt 8 = 8 ∧ s.connection.aliveCheckTimer.timeout = false) :=
        fun both => running both.2
      obtain ⟨m,u,closed,missed⟩ := headerMissed app uninit ran expired
      rw [missed]
      exact .closed (.reads events) (fun _ fine => absurd fine running)
        (fun clash => running clash.2.1) closed
  · have short : (Inbox.stream inbox).length < 8 := by omega
    obtain ⟨l,t,r,ran,failed⟩ := @receiveFails σ 8 s inbox (by decide) (by decide) (Or.inr short)
    have noticed : ¬ (toUnsignedInt r.count = 8 ∧ t.connection.aliveCheckTimer.timeout = false) := by
      intro both
      have impossible := (failed.mistaken.mp both.1).2.2
      contradiction
    have truncated := splitHeaderTruncated uninit short
    obtain ⟨m,u,closed,missed⟩ := headerMissed app uninit ran noticed
    rw [missed]
    refine .closed failed.reading (fun _ _ => splitFrameTruncated truncated) ?_ closed
    rintro ⟨_,_,_,action,rest,found,_⟩
    rw [truncated] at found
    contradiction

theorem receivesWhole (app : Application σ) {uninit : GenericHeaderAction} {inbox : List Arrival}
    {s : State σ} {frame : Frame} {bytes : List UInt8}
    (readable : Readable s.connection frame.action.payloadLength.toNat)
    (running : s.connection.aliveCheckTimer.timeout = false)
    (split : splitFrame uninit (Inbox.stream inbox) = some (frame,bytes)) :
    ∃ l rest, receiveTcpOrTlsMessage app uninit inbox s = ((do
        let sentBytes ← messageReceived app frame.action frame.pointer
        pure ⟨sentBytes,rest⟩ : Doip σ Returned) s).prepend (.receiving::l) ∧
      Inbox.stream rest = bytes ∧ ∀ e ∈ l, ∃ n, e = readEvent s.connection n := by
  obtain ⟨action,after,header,enough,rfl,rfl⟩ := splitFrameFrom split
  obtain ⟨log,rest,ran,stream,events⟩ := headerReceived app header running
  subst stream
  obtain ⟨log',rest',ran',next,events'⟩ := payloadComplete app (splitHeaderRules header) readable enough
  refine ⟨log ++ log',rest',?_,next,List.forall_mem_append.mpr ⟨events,events'⟩⟩
  rw [ran,ran',Outcome.prependPrepend,List.cons_append]
  rfl

theorem receivesFrame (app : Application σ) {uninit : GenericHeaderAction} {inbox : List Arrival}
    {s : State σ} {frame : Frame} {bytes : List UInt8} (plain : s.connection.ssl = none)
    (running : s.connection.aliveCheckTimer.timeout = false)
    (split : splitFrame uninit (Inbox.stream inbox) = some (frame,bytes)) :
    ∃ l rest, receiveTcpOrTlsMessage app uninit inbox s = ((do
        let sentBytes ← messageReceived app frame.action frame.pointer
        pure ⟨sentBytes,rest⟩ : Doip σ Returned) s).prepend (.receiving::l) ∧
      Inbox.stream rest = bytes ∧ ∀ e ∈ l, ∃ n, e = readEvent s.connection n :=
  receivesWhole app (Or.inl plain) running split

structure OnlyCompleteMessages (app : Application σ) (uninit : GenericHeaderAction) (inbox : List Arrival)
    (s : State σ) : Prop where
  complete : ∀ action payload,
    .received action payload ∈ (receiveTcpOrTlsMessage app uninit inbox s).log →
      ∃ frame rest, splitFrame uninit (Inbox.stream inbox) = some (frame,rest) ∧
        action = frame.action ∧ payload = frame.pointer
  otherwise : (∀ action payload,
    .received action payload ∉ (receiveTcpOrTlsMessage app uninit inbox s).log) →
      (∀ e ∈ (receiveTcpOrTlsMessage app uninit inbox s).log, e = .receiving ∨ e.OfReading) ∧
      (receiveTcpOrTlsMessage app uninit inbox s).state.connection.clientSock = 0 ∧
      ∃ rest, (receiveTcpOrTlsMessage app uninit inbox s).result = .ok ⟨0,rest⟩

theorem readingIsNotReceived {e : Event} (reading : e.OfReading) (action : GenericHeaderAction)
    (payload : Option Buffer) : e ≠ .received action payload := by
  rintro rfl
  exact reading

theorem dispatchedOnce {app : Application σ} {action : GenericHeaderAction} {payload : Option Buffer}
    {s : State σ} {o : Outcome Fault Event (State σ) Int} (h : Dispatched app action payload s o)
    (action' : GenericHeaderAction) (payload' : Option Buffer) :
    Event.received action' payload' ∈ o.log ↔ action' = action ∧ payload' = payload := by
  cases h with
  | @dispatched resets t o reset retimed reaction =>
    have before : Event.received action' payload' ∉ resets := by
      intro member
      obtain ⟨now,same⟩ := reset _ member
      cases same
    have after : Event.received action' payload' ∉ o.log := fun member => reaction.events _ member
    simp [before,after]

theorem returnLog {γ : Type} {x : Doip σ α} (f : α → γ) (s : State σ) :
    ((do
      let a ← x
      pure (f a) : Doip σ γ) s).log = (x s).log := by
  rw [Program.bindApply]
  generalize x s = o
  obtain ⟨l,t,r⟩ := o
  cases r <;> simp

theorem returnState {γ : Type} {x : Doip σ α} (f : α → γ) (s : State σ) :
    ((do
      let a ← x
      pure (f a) : Doip σ γ) s).state = (x s).state := by
  rw [Program.bindApply]
  generalize x s = o
  obtain ⟨l,t,r⟩ := o
  cases r <;> simp

theorem returnFault {γ : Type} {x : Doip σ α} (f : α → γ) (s : State σ) :
    ((do
      let a ← x
      pure (f a) : Doip σ γ) s).fault = (x s).fault := by
  rw [Program.bindApply]
  generalize x s = o
  obtain ⟨l,t,r⟩ := o
  cases r <;> rfl


theorem readingWithoutDispatch {s t : State σ} {l : List Event}
    (reading : Effect Event.OfReading (fun _ => False) s l t none) (action : GenericHeaderAction)
    (payload : Option Buffer) : Event.received action payload ∉ Event.receiving::l := by
  intro member
  rcases List.mem_cons.mp member with same | later
  · cases same
  · exact readingIsNotReceived (reading.events _ later) action payload rfl

theorem mistakenDispatched (app : Application σ) {action : GenericHeaderAction} (rules : HeaderRules action)
    (size : action.payloadLength.toNat = 4294967295) (t : State σ) :
    Dispatched app action (some (Buffer.alloc action.payloadLength.toNat)) t
      (messageReceived app action (some (Buffer.alloc action.payloadLength.toNat)) t) :=
  messageReceivedDispatched app (.unassigned action (rules.notActivation (by omega)) (by omega)) rules.bound t

theorem Frame.pointerAssigned (frame : Frame) {n : Nat} (positive : 0 < n) :
    frame.pointer ≠ some (Buffer.alloc n) := by
  intro same
  unfold Frame.pointer at same
  split at same
  · contradiction
  · exact Buffer.allocNotFilled positive _ (Option.some.inj same).symm

theorem clashNotComplete (app : Application σ) {uninit : GenericHeaderAction} {inbox : List Arrival}
    {s : State σ} (clash : Clash uninit inbox s) : ¬ OnlyCompleteMessages app uninit inbox s := by
  intro only
  have received := receives app uninit inbox s
  have complete := only.complete
  generalize receiveTcpOrTlsMessage app uninit inbox s = o at received complete
  cases received with
  | closed _ _ noticed _ => exact noticed clash
  | frame _ _ _ noticed => exact noticed clash
  | @mistaken l t action rest reading _ _ rules size =>
    obtain ⟨frame,_,_,_,same⟩ := complete action (some (Buffer.alloc action.payloadLength.toNat)) (by
      rw [Outcome.prependLog,returnLog]
      exact List.mem_append_right _ ((dispatchedOnce (mistakenDispatched app rules size t) _ _).mpr ⟨rfl,rfl⟩))
    exact frame.pointerAssigned (by omega) same.symm

theorem noticedComplete (app : Application σ) {uninit : GenericHeaderAction} {inbox : List Arrival}
    {s : State σ} (noticed : ¬ Clash uninit inbox s) : OnlyCompleteMessages app uninit inbox s := by
  have received := receives app uninit inbox s
  generalize ran : receiveTcpOrTlsMessage app uninit inbox s = o at received
  cases received with
  | @closed l m t u rest reading _ _ closed =>
    obtain ⟨m',u',closed',shut,closing⟩ := closeSocketCloses false t
    cases closed.symm.trans closed'
    have all := Effect.composable.trans reading.effect (closing.weaken (fun _ => Event.closingIsReading) (fun _ h => h))
    refine ⟨?_,fun _ => ⟨?_,by rw [ran]; exact shut,rest,by rw [ran]⟩⟩
    · intro action payload member
      rw [ran] at member
      exact absurd member (readingWithoutDispatch all action payload)
    · intro e member
      rw [ran] at member
      exact (List.mem_cons.mp member).imp id (all.events e)
  | @frame l frame rest events _ split _ =>
    have dispatched := messageReceivedDispatched app (.frame frame) frame.rules.bound s
    refine ⟨?_,fun none => ?_⟩
    · intro action payload member
      rw [ran,Outcome.prependLog,returnLog] at member
      rcases List.mem_append.mp member with before | after
      · exact absurd before (readingWithoutDispatch (readsEffect events) action payload)
      · obtain ⟨rfl,rfl⟩ := (dispatchedOnce dispatched _ _).mp after
        exact ⟨frame,_,split,rfl,rfl⟩
    · refine absurd ?_ (none frame.action frame.pointer)
      rw [ran,Outcome.prependLog,returnLog]
      exact List.mem_append_right _ ((dispatchedOnce dispatched _ _).mpr ⟨rfl,rfl⟩)
  | mistaken _ clash => exact absurd clash noticed

theorem onlyCompleteMessages (app : Application σ) (uninit : GenericHeaderAction) (inbox : List Arrival)
    (s : State σ) : OnlyCompleteMessages app uninit inbox s ↔ ¬ Clash uninit inbox s :=
  ⟨fun only clash => clashNotComplete app clash only,noticedComplete app⟩

/- 02 FD 80 02 FF FF FF FF over TLS, and the error behind the refused read is an I/O error. -/
theorem onlyCompleteMessagesFails : ¬ ∀ (inbox : List Arrival) (environment : Environment),
    OnlyCompleteMessages (Application.answering true) ⟨.negativeAck,0,0⟩ inbox
      ⟨DoIPConnection.new 5 0x0E80 (some 1) 0 0,environment,()⟩ := by
  intro stated
  have clash : Clash ⟨.negativeAck,0,0⟩ [.data 0x02 [0xFD,0x80,0x02,0xFF,0xFF,0xFF,0xFF]]
      (⟨DoIPConnection.new 5 0x0E80 (some 1) 0 0,⟨[],[.syscall],[],[],0⟩,()⟩ : State Unit) :=
    ⟨by decide,rfl,by decide,_,[],rfl,by decide⟩
  exact clashNotComplete _ clash (stated _ _)

end LibDoip
