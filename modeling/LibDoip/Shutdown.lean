import LibDoip.ConnectionRules
import LibDoip.Library.History

/-! Closing a TLS connection after an error. `SSL_shutdown` must not be called once a read or a write has
failed fatally. A failed read skips it; a failed write is not remembered, and the next close calls it. -/
namespace LibDoip
open Library
variable {σ : Type}

def Event.TransfersOn (ssl : Nat) : Event → Prop
  | .sslRead other _ | .sslWrite other _ => other = ssl
  | _ => False

def FatalError (ssl : Nat) (past : List Event) (e : Event) : Prop :=
  ∃ operation err, past.getLast? = some operation ∧ operation.TransfersOn ssl ∧ e = .sslError ssl err ∧ err.Fatal

def Unharmed (ssl : Nat) (past : List Event) : Prop := Always (fun before e => ¬ FatalError ssl before e) [] past

def ShutsDownUnharmed (past : List Event) (e : Event) : Prop := ∀ ssl, e = .sslShutdown ssl → Unharmed ssl past

def WriteSurvives (past : List Event) (e : Event) : Prop := ∀ ssl message err,
  past.getLast? = some (.sslWrite ssl message) → e = .sslError ssl err → ¬ err.Fatal

def shutdownRule : Contract Fault Event (State σ) where
  assumes := WriteSurvives
  keeps past l _ := Always ShutsDownUnharmed past l
  invariant past s := ∀ ssl, s.connection.ssl = some ssl → isSocketActive s.connection → Unharmed ssl past
  nil _ := trivial
  append first second := (Always.append _ _ _).mpr ⟨first,second⟩

theorem unharmedAppend {ssl : Nat} {past l : List Event} :
    Unharmed ssl (past ++ l) ↔ Unharmed ssl past ∧ Always (fun before e => ¬ FatalError ssl before e) past l :=
  Always.append [] past l

theorem unharmedLater {ssl : Nat} {past l : List Event} (unharmed : Unharmed ssl past)
    (errorless : ∀ e ∈ l, ∀ err, e ≠ .sslError ssl err) : Unharmed ssl (past ++ l) := by
  refine unharmedAppend.mpr ⟨unharmed,Always.ofForall (fun _ e member fatal => ?_) past⟩
  obtain ⟨_,err,_,_,found,_⟩ := fatal
  exact errorless e member err found

theorem noShutdown {l : List Event} (none : ∀ e ∈ l, ∀ ssl, e ≠ .sslShutdown ssl) (past : List Event) :
    Always ShutsDownUnharmed past l :=
  Always.ofForall (fun _ e member ssl found => absurd found (none e member ssl)) past

theorem shutdownsUnharmed {ssl : Nat} {l : List Event} (shutdowns : ∀ e ∈ l, e = .sslShutdown ssl) {past : List Event}
    (unharmed : Unharmed ssl past) : Always ShutsDownUnharmed past l := by
  induction l generalizing past with
  | nil => trivial
  | cons e rest ih =>
    obtain ⟨rfl,later⟩ := List.forall_mem_cons.mp shutdowns
    refine ⟨?_,ih later (unharmedLater unharmed (by simp))⟩
    rintro _ ⟨⟩
    exact unharmed

theorem sslShutdownApply (ssl : Nat) (s : State σ) : sslShutdown ssl s = ⟨[.sslShutdown ssl],
    s.setEnvironment (fun e => {e with shutdowns := e.shutdowns.tail}),.ok (s.environment.shutdowns.headD 1)⟩ := rfl

theorem shutdownSslShuts (ssl : Nat) (s : State σ) :
    ∃ retried errors t, shutdownSsl ssl s = ⟨.sslShutdown ssl::(retried ++ errors),t,.ok ()⟩ ∧
      (∀ e ∈ retried, e = .sslShutdown ssl) ∧ ∀ e ∈ errors, ∃ err, e = .sslError ssl err := by
  have looked : ∀ (ret : Int) (t : State σ), ∃ errors u, Program.when (ret ≠ 1) (do
      let _ ← parseSslError ssl
      pure ()) t = ⟨errors,u,.ok ()⟩ ∧ ∀ e ∈ errors, ∃ err, e = .sslError ssl err := by
    intro ret t
    by_cases clean : ret ≠ 1
    · rw [Program.whenTrue clean]
      exact ⟨_,_,rfl,by simp⟩
    · rw [Program.whenFalse clean]
      exact ⟨[],t,rfl,by simp⟩
  simp only [shutdownSsl,Program.bindApply,sslShutdownApply,Outcome.andThenOk]
  by_cases unacknowledged : s.environment.shutdowns.headD 1 = 0
  · rw [retryShutdown,if_pos unacknowledged,sslShutdownApply,Outcome.andThenOk]
    obtain ⟨errors,u,ran,only⟩ := looked _ _
    rw [ran]
    exact ⟨[.sslShutdown ssl],errors,u,rfl,by simp,only⟩
  · rw [retryShutdown,if_neg unacknowledged,Program.pureApply,Outcome.andThenOk]
    obtain ⟨errors,u,ran,only⟩ := looked _ _
    rw [ran]
    exact ⟨[],errors,u,rfl,by simp,only⟩

theorem closeSocketShutdown {skipShutdown : Bool} {s t : State σ} {l past : List Event}
    (ran : closeSocket skipShutdown s = ⟨l,t,.ok ()⟩)
    (unharmed : skipShutdown = false → ∀ ssl, s.connection.ssl = some ssl → isSocketActive s.connection →
      Unharmed ssl past) : Always ShutsDownUnharmed past l := by
  by_cases active : isSocketActive s.connection
  · cases tls : s.connection.ssl with
    | none =>
      cases ran.symm.trans (closePlain skipShutdown active tls)
      exact noShutdown (by simp) past
    | some ssl =>
      cases skipShutdown with
      | true =>
        have skipped : closeSocket true s = ⟨[.sslFree ssl,.close s.connection.clientSock],
            s.setConnection (fun c => {c with ssl := none, clientSock := 0}),.ok ()⟩ := by
          simp [closeSocket,Program.when,active,tls,closeTlsLayer,closeTcpLayer,State.setConnection]
        cases ran.symm.trans skipped
        exact noShutdown (by simp) past
      | false =>
        obtain ⟨retried,errors,u,shut,again,looked⟩ := shutdownSslShuts ssl s
        have closed : l = (.sslShutdown ssl::retried) ++ (errors ++ [.sslFree ssl,.close s.connection.clientSock]) := by
          simp [closeSocket,Program.when,active,tls,closeTlsLayer,closeTcpLayer,shut] at ran
          rw [← ran.1]
          simp
        rw [closed]
        refine (Always.append past _ _).mpr ⟨shutdownsUnharmed (List.forall_mem_cons.mpr ⟨rfl,again⟩)
          (unharmed rfl ssl tls active),noShutdown ?_ _⟩
        refine List.forall_mem_append.mpr ⟨fun e member => ?_,by simp⟩
        obtain ⟨err,rfl⟩ := looked e member
        exact fun _ => Event.noConfusion
  · cases ran.symm.trans (closeInactive skipShutdown (Decidable.not_not.mp active))
    trivial

def Event.Harmless : Event → Prop
  | .sslShutdown _ | .sslError _ _ => False
  | _ => True

theorem harmlessRelation {s t : State σ} {l : List Event} {f : Option Fault} (harmless : ∀ e ∈ l, e.Harmless)
    (ssl : t.connection.ssl = s.connection.ssl) (sock : t.connection.clientSock = s.connection.clientSock) :
    shutdownRule.relation s l t f := by
  intro past holds _
  refine ⟨noShutdown (fun e member ssl found => ?_) past,fun object tls active => ?_⟩
  · have same := harmless e member
    rwa [found] at same
  · have active' : isSocketActive s.connection := fun closed => active (sock.trans closed)
    refine unharmedLater (holds object (ssl.symm.trans tls) active') (fun e member err found => ?_)
    have same := harmless e member
    rwa [found] at same

theorem closedRelation {skipShutdown : Bool} {s t : State σ} {l past : List Event}
    (ran : closeSocket skipShutdown s = ⟨l,t,.ok ()⟩)
    (unharmed : skipShutdown = false → ∀ ssl, s.connection.ssl = some ssl → isSocketActive s.connection →
      Unharmed ssl past) :
    Always ShutsDownUnharmed past l ∧ ∀ ssl, t.connection.ssl = some ssl → isSocketActive t.connection →
      Unharmed ssl (past ++ l) := by
  exact ⟨closeSocketShutdown ran unharmed,fun ssl _ active => absurd (closeSocketClosed ran).1 active⟩

theorem errorsUnharmed {past tail : List Event} (ssl : Nat) (unread : ∀ ssl num, past.getLast? ≠ some (.sslRead ssl num))
    (errors : ∀ e ∈ tail, ∃ ssl err, e = .sslError ssl err) (survives : Always WriteSurvives past tail) :
    Always (fun before e => ¬ FatalError ssl before e) past tail := by
  induction tail generalizing past with
  | nil => trivial
  | cons e rest ih =>
    obtain ⟨⟨object,err,rfl⟩,later⟩ := List.forall_mem_cons.mp errors
    refine ⟨?_,ih (by simp) later survives.2⟩
    rintro ⟨operation,_,last,transfers,⟨⟩,fatal⟩
    cases operation with
    | sslRead other num => exact unread other num last
    | sslWrite other message =>
      cases transfers
      exact survives.1 _ message err last rfl fatal
    | _ => exact transfers

theorem shutdownRules : ConnectionRules (@shutdownRule σ).relation where
  composable := shutdownRule.composable
  stopped := harmlessRelation (by simp) rfl rfl
  inward inward := harmlessRelation (List.forall_mem_singleton.mpr (by
    rename_i e
    cases e <;> first | exact inward.elim | trivial)) rfl rfl
  asked := harmlessRelation (by simp) rfl rfl
  applied := harmlessRelation (by simp) rfl rfl
  timed _ := harmlessRelation (by simp) rfl rfl
  routed := harmlessRelation (by simp) rfl rfl
  sent {s bytes _} _ sends past holds survives := by
    obtain ⟨errors⟩ := sends
    rename_i tail environment value
    have errors' : ∀ e ∈ tail, ∃ ssl err, e = .sslError ssl err := by
      intro e member
      obtain ⟨ssl,err,found,_⟩ := errors e member
      exact ⟨ssl,err,found⟩
    have sending : ∀ ssl err num, sendEvent s.connection bytes ≠ .sslError ssl err ∧
        sendEvent s.connection bytes ≠ .sslShutdown ssl ∧ sendEvent s.connection bytes ≠ .sslRead ssl num := by
      unfold sendEvent
      split <;> simp
    refine ⟨noShutdown (List.forall_mem_cons.mpr ⟨fun ssl => (sending ssl .ssl 0).2.1,fun e member ssl found => ?_⟩) past,?_⟩
    · obtain ⟨_,_,rfl⟩ := errors' e member
      cases found
    · intro ssl tls active
      refine unharmedAppend.mpr ⟨holds ssl tls active,?_,errorsUnharmed ssl ?_ errors' survives.2⟩
      · rintro ⟨_,err,_,_,found,_⟩
        exact (sending ssl err 0).1 found
      · intro ssl num last
        rw [List.getLast?_concat] at last
        exact (sending ssl .ssl num).2.2 (Option.some.inj last)
  read {s l t} reading past holds survives := by
    have reads : ∀ {m : List Event}, (∀ e ∈ m, ∃ n, e = readEvent s.connection n) → ∀ e ∈ m, e.Harmless := by
      intro m events e member
      obtain ⟨n,rfl⟩ := events e member
      unfold readEvent
      split <;> trivial
    cases reading with
    | reads events => exact harmlessRelation (reads events) rfl rfl past holds survives
    | @failed l m t ssl events tls handled =>
      obtain ⟨first,unharmed⟩ := @harmlessRelation σ s s l none (reads events) rfl rfl past holds
        ((Always.append past l _).mp survives).1
      have noted : ∀ ssl', Event.sslError ssl (nextSslError s) ≠ .sslShutdown ssl' := fun _ => Event.noConfusion
      cases handled with
      | noted mild =>
        refine ⟨(Always.append past l _).mpr ⟨first,noShutdown (List.forall_mem_singleton.mpr noted) _⟩,?_⟩
        intro object tls active
        rw [← List.append_assoc]
        refine unharmedAppend.mpr ⟨unharmed object tls active,?_,trivial⟩
        rintro ⟨_,_,_,_,⟨⟩,fatal⟩
        exact mild fatal
      | closed fatal ran =>
        obtain ⟨last,closed⟩ := @closedRelation σ true _ t m (past ++ l ++ [.sslError ssl (nextSslError s)]) ran Bool.noConfusion
        refine ⟨(Always.append past l _).mpr ⟨first,fun ssl found => absurd found (noted ssl),last⟩,?_⟩
        intro object tls active
        simpa using closed object tls active
  closed ran past holds _ := closedRelation ran (fun _ => holds)
  expired {s l t now} ran past holds _ := by
    obtain ⟨last,closed⟩ := @closedRelation σ false _ t l (past ++ [.timeout now]) ran (fun _ ssl tls active =>
      unharmedLater (holds ssl tls active) (by simp))
    refine ⟨⟨fun _ => Event.noConfusion,(Always.append _ l _).mpr ⟨last,noShutdown (by simp) _⟩⟩,?_⟩
    intro ssl tls active
    have unharmed := unharmedLater (l := [.closeConnection]) (closed ssl tls active) (by simp)
    simpa using unharmed
  unbound := harmlessRelation (List.forall_mem_singleton.mpr trivial) rfl rfl
  triggered := harmlessRelation (List.forall_mem_cons.mpr ⟨trivial,List.forall_mem_singleton.mpr trivial⟩) rfl rfl

theorem shutsDownUnharmed (app : Application σ) (ops : List Op) (inbox : List Arrival) (s : State σ)
    (survives : Always WriteSurvives [] (run app ops inbox s).log) :
    Always ShutsDownUnharmed [] (run app ops inbox s).log :=
  (shutdownRules.runMeets app ops inbox s [] (fun _ _ _ => trivial) survives).1

section Scenario

def State.failing (writes : List Int) (sslErrors : List SslError) : State Unit :=
  ⟨DoIPConnection.new 5 0x0E80 (some 1) 0 0,⟨writes,sslErrors,[],[],0⟩,()⟩

def brokenInbox : List Arrival := [.data 0x02 [0xFF,0x00,0x05,0x00,0x00,0x00,0x00]]

theorem shutsDownUnharmedRead : Always ShutsDownUnharmed [] (run (Application.answering true)
    [.receive ⟨.negativeAck,0,0⟩,.receive ⟨.negativeAck,0,0⟩]
    [.data 0x02 [0xFD,0x00,0x09,0x00,0x00,0x00,0x00],.failure 1] (State.failing [-1] [.other 3,.syscall])).log := by
  refine shutsDownUnharmed _ _ _ _ ?_
  have log : (run (Application.answering true) [.receive ⟨.negativeAck,0,0⟩,.receive ⟨.negativeAck,0,0⟩]
      [.data 0x02 [0xFD,0x00,0x09,0x00,0x00,0x00,0x00],.failure 1] (State.failing [-1] [.other 3,.syscall])).log =
      [.receiving,.sslRead 1 8,.received ⟨.negativeAck,1,0⟩ none,.sslWrite 1 (negativeAckBytes 1),.sslError 1 (.other 3),
        .receiving,.sslRead 1 8,.sslError 1 .syscall,.sslFree 1,.close 5] := by decide +kernel
  have mild : ∀ err, SslError.other 3 = err → ¬ (err = .syscall ∨ err = .ssl) := by
    rintro _ rfl
    decide
  rw [log]
  simpa [WriteSurvives,SslError.Fatal] using fun _ _ err _ _ _ found => mild err found

/- The answer to a broken header fails fatally, and the close that follows it shuts the connection down. -/
theorem shutDownHarmed : ¬ ∀ (ops : List Op) (inbox : List Arrival) (s : State Unit), Fresh s →
    Always ShutsDownUnharmed [] (run (Application.answering true) ops inbox s).log := by
  intro stated
  have always := stated [.receive ⟨.negativeAck,0,0⟩] brokenInbox (State.failing [-1] [.syscall]) ⟨5,0x0E80,some 1,0,0,rfl⟩
  have log : (run (Application.answering true) [.receive ⟨.negativeAck,0,0⟩] brokenInbox
      (State.failing [-1] [.syscall])).log =
      [.receiving,.sslRead 1 8,.received ⟨.negativeAck,0,0⟩ none,.sslWrite 1 (negativeAckBytes 0),.sslError 1 .syscall] ++
        .sslShutdown 1::[.sslFree 1,.close 5] := by decide +kernel
  have unharmed : Unharmed 1 _ := always.split log 1 rfl
  exact unharmed.2.2.2.2.1 ⟨_,_,rfl,rfl,rfl,Or.inl rfl⟩

end Scenario
end LibDoip
