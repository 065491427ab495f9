import LibDoip.ReadLoop

/-! Receiving one message. The read loop either fills its buffer with the next bytes of the
stream, however these are cut into pieces, or it fails; a failed read is then either noticed or,
for one declared length over TLS, taken for a complete one. -/
namespace LibDoip
open Library
variable {σ α : Type}

theorem receiveComplete {requested : Nat} {s : State σ} (bound : requested < 4294967296)
    (readable : Readable s.connection requested) {inbox : List Arrival}
    (enough : requested ≤ (Inbox.stream inbox).length) :
    ∃ log rest, receiveFixedNumberOfBytesFromTcpOrTls requested (Buffer.alloc requested) inbox s =
        ⟨log,s,.ok ⟨requested,Buffer.filled ((Inbox.stream inbox).take requested),rest⟩⟩ ∧
      Inbox.stream rest = (Inbox.stream inbox).drop requested ∧
      ∀ e ∈ log, ∃ n, e = readEvent s.connection n := by
  have allocated : requested ≤ (Buffer.alloc requested).length := by simp
  obtain ⟨v,log,_,ended,sound,ran,events⟩ := ReadLoop.reachesEnd bound allocated inbox s
  have counters := sound.counters
  have done : v.remainingPayload = 0 := by
    refine Decidable.byContradiction (fun more => ?_)
    have position := ReadLoop.failedAtEnd readable sound more (ended.resolve_left more)
    omega
  obtain ⟨bytes,length,stream,data⟩ := sound.stored
  have size : bytes.length = requested := by omega
  have full : v.receivedData = Buffer.filled bytes := by
    rw [data,List.drop_eq_nil_of_le (by simp [size]),List.append_nil]
  refine ⟨log,v.inbox,?_,?_,events⟩
  · rw [ran,ReadLoop.loopDone done,Outcome.prependMk,List.append_nil,full,← length,stream,List.take_left' size,size]
  · rw [stream,List.drop_left' size]

def SslError.Fatal (err : SslError) : Prop := err = .syscall ∨ err = .ssl
instance (err : SslError) : Decidable err.Fatal := by unfold SslError.Fatal; infer_instance

inductive ErrorHandled (s : State σ) : List Event → State σ → Prop where
  | noted {environment : Environment} (mild : ¬ (nextSslError s).Fatal) :
      ErrorHandled s [] {s with environment := environment}
  | closed {environment : Environment} {l : List Event} {t : State σ} (fatal : (nextSslError s).Fatal)
      (ran : closeSocket true {s with environment := environment} = ⟨l,t,.ok ()⟩) : ErrorHandled s l t

theorem ErrorHandled.effect {s t : State σ} {l : List Event} (h : ErrorHandled s l t) :
    Effect Event.OfClosing (fun _ => False) s l t none := by
  cases h with
  | noted _ => exact Effect.ofSame (by simp) (by simp) rfl rfl
  | @closed environment l t _ ran =>
    have asked : Effect Event.OfClosing (fun _ => False) s [] {s with environment := environment} none :=
      Effect.ofSame (by simp) (by simp) rfl rfl
    exact Effect.composable.trans asked (closeSocketClosed ran).2

theorem ErrorHandled.timer {s t : State σ} {l : List Event} (h : ErrorHandled s l t) :
    t.connection.aliveCheckTimer = s.connection.aliveCheckTimer := by
  cases h with
  | noted _ => rfl
  | @closed environment _ _ _ ran => exact @closeSocketTimer σ true {s with environment := environment} t l ran

theorem handleSslReadErrorHandles (ssl : Nat) (s : State σ) :
    ∃ l t, handleSslReadError ssl s = ⟨.sslError ssl (nextSslError s)::l,t,
        .ok (if nextSslError s = .zeroReturn then 0 else -1)⟩ ∧ ErrorHandled s l t := by
  obtain ⟨l,t,closed,_,_⟩ := closeSocketCloses true
    (s.setEnvironment (fun e => {e with sslErrors := e.sslErrors.tail}))
  have refused := Program.returnAfter closed (fun _ => (-1 : Int))
  rw [handleSslReadError,Program.bindApply,parseSslErrorApply,Outcome.andThenOk]
  cases next : nextSslError s with
  | zeroReturn => exact ⟨_,_,rfl,.noted (by simp [next,SslError.Fatal])⟩
  | other code => exact ⟨_,_,rfl,.noted (by simp [next,SslError.Fatal])⟩
  | syscall => exact ⟨l,t,congrArg (Outcome.prepend _) refused,.closed (Or.inl next) closed⟩
  | ssl => exact ⟨l,t,congrArg (Outcome.prepend _) refused,.closed (Or.inr next) closed⟩

/- A failed read over TCP leaves what was counted; over TLS the count is 0 or the largest there is. -/
inductive FailedRead (pos : Nat) (s : State σ) : Outcome Fault Event (State σ) Nat → Prop where
  | plain (plain : s.connection.ssl = none) : FailedRead pos s ⟨[],s,.ok pos⟩
  | tls {ssl : Nat} {l : List Event} {t : State σ} (tls : s.connection.ssl = some ssl)
      (handled : ErrorHandled s l t) :
      FailedRead pos s ⟨.sslError ssl (nextSslError s)::l,t,
        .ok (if nextSslError s = .zeroReturn then 0 else 18446744073709551615)⟩

theorem failedReadFails (pos : Nat) (s : State σ) : FailedRead pos s (failedRead pos s) := by
  unfold failedRead
  rw [Program.bindApply,connectionApply,Outcome.andThenOk,Outcome.prependNil]
  cases tls : s.connection.ssl with
  | none => exact .plain tls
  | some ssl =>
    obtain ⟨l,t,ran,handled⟩ := handleSslReadErrorHandles ssl s
    dsimp only
    rw [Program.returnAfter ran]
    have failed := @FailedRead.tls σ pos s ssl l t tls handled
    by_cases next : nextSslError s = .zeroReturn
    · rw [if_pos next] at failed ⊢
      exact failed
    · rw [if_neg next] at failed ⊢
      exact failed

def Event.OfReading : Event → Prop
  | .recv _ _ | .sslRead _ _ => True
  | e => OfClosing e

theorem Event.closingIsReading {e : Event} (h : e.OfClosing) : e.OfReading := by
  cases e <;> first | exact h | trivial

theorem readEventOfReading (c : DoIPConnection) (n : Nat) : (readEvent c n).OfReading := by
  unfold readEvent
  split <;> trivial

theorem readsEffect {s : State σ} {l : List Event} (events : ∀ e ∈ l, ∃ n, e = readEvent s.connection n) :
    Effect Event.OfReading (fun _ => False) s l s none := by
  refine Effect.ofSame ?_ (by simp) rfl rfl
  intro e member
  obtain ⟨n,rfl⟩ := events e member
  exact readEventOfReading s.connection n

inductive HasRead (s : State σ) : List Event → State σ → Prop where
  | reads {l : List Event} (events : ∀ e ∈ l, ∃ n, e = readEvent s.connection n) : HasRead s l s
  | failed {l m : List Event} {t : State σ} {ssl : Nat}
      (events : ∀ e ∈ l, ∃ n, e = readEvent s.connection n) (tls : s.connection.ssl = some ssl)
      (handled : ErrorHandled s m t) : HasRead s (l ++ .sslError ssl (nextSslError s)::m) t

theorem HasRead.effect {s t : State σ} {l : List Event} (h : HasRead s l t) :
    Effect Event.OfReading (fun _ => False) s l t none := by
  cases h with
  | reads events => exact readsEffect events
  | @failed l m t ssl events _ handled =>
    have error := @Effect.emits σ Event.OfReading (fun _ => False) (.sslError ssl (nextSslError s)) trivial s
    have closing := handled.effect.weaken (fun _ => Event.closingIsReading) (fun _ h => h)
    exact Effect.composable.trans (readsEffect events) (Effect.composable.trans error closing)

theorem HasRead.plain {s t : State σ} {l : List Event} (h : HasRead s l t)
    (plain : s.connection.ssl = none) : t = s ∧ ∀ e ∈ l, ∃ n, e = readEvent s.connection n := by
  cases h with
  | reads events => exact ⟨rfl,events⟩
  | failed _ tls _ => rw [plain] at tls; contradiction

theorem HasRead.after {s t : State σ} {l m : List Event} (events : ∀ e ∈ l, ∃ n, e = readEvent s.connection n)
    (h : HasRead s m t) : HasRead s (l ++ m) t := by
  cases h with
  | reads later => exact .reads (List.forall_mem_append.mpr ⟨events,later⟩)
  | failed later tls handled =>
    rw [← List.append_assoc]
    exact .failed (List.forall_mem_append.mpr ⟨events,later⟩) tls handled

structure Failed (requested : Nat) (s : State σ) (l : List Event) (t : State σ) (r : Received) : Prop where
  reading : HasRead s l t
  mistaken : toUnsignedInt r.count = requested ↔
    s.connection.ssl ≠ none ∧ nextSslError s ≠ .zeroReturn ∧ requested = 4294967295
  untouched : ¬ Readable s.connection requested → r.data = Buffer.alloc requested

theorem failedReadFailed {requested pos : Nat} {s : State σ} {l : List Event} {data : Buffer}
    (bound : requested < 4294967296) (short : pos < requested)
    (events : ∀ e ∈ l, ∃ n, e = readEvent s.connection n)
    (untouched : ¬ Readable s.connection requested → data = Buffer.alloc requested) (rest : List Arrival) :
    ∃ m t count, ((do
        let count ← failedRead pos
        pure ⟨count,data,rest⟩ : Doip σ Received) s).prepend l = ⟨m,t,.ok ⟨count,data,rest⟩⟩ ∧
      Failed requested s m t ⟨count,data,rest⟩ := by
  have failed := failedReadFails pos s
  generalize ran : failedRead pos s = o at failed
  cases failed with
  | plain plain =>
    rw [Program.returnAfter ran,Outcome.prependMk,List.append_nil]
    refine ⟨_,_,_,rfl,.reads events,?_,untouched⟩
    simp only [toUnsignedInt,plain,ne_eq,not_true_eq_false,false_and,iff_false]
    omega
  | tls tls handled =>
    rw [Program.returnAfter ran,Outcome.prependMk]
    refine ⟨_,_,_,rfl,.failed events tls handled,?_,untouched⟩
    have secure : s.connection.ssl ≠ none := by simp [tls]
    by_cases next : nextSslError s = .zeroReturn
    · simp only [toUnsignedInt,next,if_true,ne_eq,not_true_eq_false,false_and,and_false,iff_false]
      omega
    · simp only [toUnsignedInt,secure,next,if_false,ne_eq,not_false_eq_true,true_and]
      omega

theorem receiveFails {requested : Nat} {s : State σ} {inbox : List Arrival} (bound : requested < 4294967296)
    (positive : 0 < requested)
    (fails : ¬ Readable s.connection requested ∨ (Inbox.stream inbox).length < requested) :
    ∃ l t r, receiveFixedNumberOfBytesFromTcpOrTls requested (Buffer.alloc requested) inbox s =
      ⟨l,t,.ok r⟩ ∧ Failed requested s l t r := by
  have allocated : requested ≤ (Buffer.alloc requested).length := by simp
  obtain ⟨v,log,passes,ended,sound,ran,events⟩ := ReadLoop.reachesEnd bound allocated inbox s
  have counters := sound.counters
  obtain ⟨bytes,length,stream,_⟩ := sound.stored
  have untouched : ¬ Readable s.connection requested → v = ReadLoop.start requested (Buffer.alloc requested) inbox :=
    fun refused => ReadLoop.refusedAtOnce bound refused passes
  have more : v.remainingPayload ≠ 0 := by
    rcases fails with refused | short
    · rw [untouched refused]
      exact Nat.ne_of_gt positive
    · rw [stream,List.length_append] at short
      omega
  have short : v.payloadPos < requested := by omega
  rw [ReadLoop.loopFailed more (ended.resolve_left more),Outcome.prependPrepend] at ran
  have reads : ∀ e ∈ log ++ [readEvent s.connection v.remainingPayload], ∃ n, e = readEvent s.connection n :=
    List.forall_mem_append.mpr ⟨events,fun _ member => ⟨_,List.mem_singleton.mp member⟩⟩
  have data : ¬ Readable s.connection requested → v.receivedData = Buffer.alloc requested :=
    fun refused => congrArg ReadLoop.receivedData (untouched refused)
  obtain ⟨l,t,count,failed,facts⟩ := failedReadFailed bound short reads data (v.readBytes s.connection).rest
  exact ⟨l,t,_,ran.trans failed,facts⟩

end LibDoip
