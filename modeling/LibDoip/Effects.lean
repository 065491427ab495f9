import LibDoip.Connection
import LibDoip.Library.History

/-! What the functions of a connection can do to it, said once for each of them: which events
they log, in which faults they stop, and which fields they leave as they were. -/
namespace LibDoip
open Library
variable {σ α : Type}

namespace Event

def OfShutdown : Event → Prop
  | .sslError _ _ | .sslShutdown _ => True
  | _ => False

def OfTlsClosing : Event → Prop
  | .sslError _ _ | .sslShutdown _ | .sslFree _ => True
  | _ => False

def OfClosing : Event → Prop
  | .close _ => True
  | e => OfTlsClosing e

def OfSending : Event → Prop
  | .write _ message | .sslWrite _ message => routedBy message = none
  | .sslError _ _ => True
  | _ => False

def OfTimer : Event → Prop
  | .timeout _ | .closeConnection => True
  | e => OfClosing e

def OfCall : Event → Prop
  | .called _ => True
  | e => OfTimer e ∨ OfSending e

theorem shutdownIsTlsClosing {e : Event} (h : e.OfShutdown) : e.OfTlsClosing := by
  cases e <;> first | exact h | trivial

theorem tlsClosingIsClosing {e : Event} (h : e.OfTlsClosing) : e.OfClosing := by
  cases e <;> first | exact h | trivial

theorem closingIsTimer {e : Event} (h : e.OfClosing) : e.OfTimer := by
  cases e <;> first | exact h | trivial

theorem timerIsCall {e : Event} (h : e.OfTimer) : e.OfCall := by
  cases e <;> first | exact Or.inl h | trivial

theorem closingIsCall {e : Event} (h : e.OfClosing) : e.OfCall := timerIsCall (closingIsTimer h)

theorem sendingIsCall {e : Event} (h : e.OfSending) : e.OfCall := by
  cases e <;> first | exact Or.inr h | trivial

end Event

@[simp] theorem connectionApply (s : State σ) : connection s = ⟨[],s,.ok s.connection⟩ := by
  simp [connection]

@[simp] theorem clockApply (s : State σ) :
    clock s = ⟨[],s.setEnvironment (fun e => {e with now := e.now + e.ticks.headD 0, ticks := e.ticks.tail}),
      .ok (s.environment.now + s.environment.ticks.headD 0)⟩ := (rfl)

@[simp] theorem writeResultApply (usual : Int) (s : State σ) :
    writeResult usual s = ⟨[],s.setEnvironment (fun e => {e with writes := e.writes.tail}),
      .ok (s.environment.writes.headD usual)⟩ := (rfl)

def nextSslError (s : State σ) : SslError := s.environment.sslErrors.headD .zeroReturn

@[simp] theorem parseSslErrorApply (ssl : Nat) (s : State σ) :
    parseSslError ssl s = ⟨[.sslError ssl (nextSslError s)],
      s.setEnvironment (fun e => {e with sslErrors := e.sslErrors.tail}),.ok (nextSslError s)⟩ := (rfl)

/- The fields of a connection between two calls: a closed one has no TLS object, and the timer has
fired only by closing. -/
structure Settled (s : State σ) : Prop where
  closed : s.connection.clientSock = 0 → s.connection.ssl = none
  expired : s.connection.aliveCheckTimer.timeout = true →
    s.connection.aliveCheckTimer.disabled = true ∧ s.connection.clientSock = 0

theorem Settled.same {s t : State σ} (h : Settled s)
    (sock : t.connection.clientSock = s.connection.clientSock) (ssl : t.connection.ssl = s.connection.ssl)
    (expired : t.connection.aliveCheckTimer.timeout = s.connection.aliveCheckTimer.timeout)
    (disabled : s.connection.aliveCheckTimer.disabled = true → t.connection.aliveCheckTimer.disabled = true) :
    Settled t := by
  refine ⟨fun closed => ssl.trans (h.closed (sock.symm.trans closed)),fun fired => ?_⟩
  obtain ⟨off,closed⟩ := h.expired (expired.symm.trans fired)
  exact ⟨disabled off,sock.trans closed⟩

structure Shuts (s t : State σ) (f : Option Fault) : Prop where
  ssl : t.connection.ssl = s.connection.ssl ∨ t.connection.ssl = none
  settled : f = none → Settled s → Settled t

theorem Shuts.trans {s t u : State σ} {f : Option Fault} (first : Shuts s t none) (second : Shuts t u f) :
    Shuts s u f := by
  refine ⟨?_,fun returned settled => second.settled returned (first.settled rfl settled)⟩
  rcases second.ssl with same | closed
  · rw [same]; exact first.ssl
  · exact Or.inr closed

theorem Shuts.same {s t : State σ} {f : Option Fault}
    (sock : t.connection.clientSock = s.connection.clientSock) (ssl : t.connection.ssl = s.connection.ssl)
    (expired : t.connection.aliveCheckTimer.timeout = s.connection.aliveCheckTimer.timeout)
    (disabled : s.connection.aliveCheckTimer.disabled = true → t.connection.aliveCheckTimer.disabled = true) :
    Shuts s t f :=
  ⟨Or.inl ssl,fun _ settled => settled.same sock ssl expired disabled⟩

structure Effect (q : Event → Prop) (r : Fault → Prop) (s : State σ) (l : List Event) (t : State σ)
    (f : Option Fault) : Prop where
  events : ∀ e ∈ l, q e
  faults : ∀ e, f = some e → r e
  shuts : Shuts s t f
  routed : t.connection.routedClientAddress = s.connection.routedClientAddress
  gateway : t.connection.logicalGatewayAddress = s.connection.logicalGatewayAddress
  active : t.connection.aliveCheckTimer.active = s.connection.aliveCheckTimer.active
  application : t.application = s.application

namespace Effect
variable {q : Event → Prop} {r : Fault → Prop}

theorem ofSame {s t : State σ} {l : List Event} {f : Option Fault} (events : ∀ e ∈ l, q e)
    (faults : ∀ e, f = some e → r e) (connection : t.connection = s.connection)
    (application : t.application = s.application) : Effect q r s l t f := by
  refine ⟨events,faults,.same ?_ ?_ ?_ ?_,?_,?_,?_,application⟩ <;> rw [connection]
  exact id

theorem composable : Program.Composable (@Effect σ q r) where
  refl s := ofSame (by simp) (by simp) rfl rfl
  trans := by
    intro s l t m u f first second
    refine ⟨?_,second.faults,first.shuts.trans second.shuts,second.routed.trans first.routed,
      second.gateway.trans first.gateway,second.active.trans first.active,
      second.application.trans first.application⟩
    intro e member
    rcases List.mem_append.mp member with left | right
    · exact first.events e left
    · exact second.events e right

theorem weaken {q' : Event → Prop} {r' : Fault → Prop} {s t : State σ} {l f} (h : Effect q r s l t f)
    (events : ∀ e, q e → q' e) (faults : ∀ e, r e → r' e) : Effect q' r' s l t f :=
  {h with events := fun e member => events e (h.events e member), faults := fun e stop => faults e (h.faults e stop)}

theorem emits {e : Event} (h : q e) : Program.Meets (Effect q r) (Program.emit e : Doip σ Unit) :=
  fun _ => ofSame (List.forall_mem_singleton.mpr h) (by simp [Program.emit]) rfl rfl

theorem reads : Program.Meets (Effect q r) (LibDoip.connection : Doip σ DoIPConnection) := by
  intro s
  rw [Program.At,connectionApply]
  exact composable.refl s

end Effect

structure Asks (q : Event → Prop) (s : State σ) (l : List Event) (t : State σ) (f : Option Fault) : Prop where
  events : ∀ e ∈ l, q e
  connection : t.connection = s.connection
  application : t.application = s.application
  returns : f = none

namespace Asks
variable {q : Event → Prop}

theorem composable : Program.Composable (@Asks σ q) where
  refl _ := ⟨by simp,rfl,rfl,rfl⟩
  trans first second := ⟨List.forall_mem_append.mpr ⟨first.events,second.events⟩,
    second.connection.trans first.connection,second.application.trans first.application,second.returns⟩

theorem emits {e : Event} (h : q e) : Program.Meets (Asks q) (Program.emit e : Doip σ Unit) :=
  fun _ => ⟨List.forall_mem_singleton.mpr h,rfl,rfl,rfl⟩

theorem environment (f : Environment → Environment) :
    Program.Meets (Asks q) (Program.modify (·.setEnvironment f) : Doip σ Unit) :=
  fun _ => ⟨by simp [Program.modify],rfl,rfl,rfl⟩

theorem effect {r : Fault → Prop} {x : Doip σ α} (h : Program.Meets (Asks q) x) :
    Program.Meets (Effect q r) x :=
  fun s => Effect.ofSame (h s).events (by simp [(h s).returns]) (h s).connection (h s).application

theorem returned {x : Doip σ α} (h : Program.Meets (Asks q) x) (s : State σ) :
    ∃ l t a, x s = ⟨l,t,.ok a⟩ ∧ (∀ e ∈ l, q e) ∧ t.connection = s.connection ∧
      t.application = s.application := by
  have asks := h s
  unfold Program.At at asks
  generalize x s = o at asks
  obtain ⟨l,t,result⟩ := o
  cases result with
  | error e => exact absurd asks.returns (by simp)
  | ok a => exact ⟨l,t,a,rfl,asks.events,asks.connection,asks.application⟩

end Asks

section Closing
open Program

theorem clockEffect {q : Event → Prop} {r : Fault → Prop} : Meets (Effect q r) (clock : Doip σ Nat) :=
  Asks.effect (meetsBind Asks.composable (Asks.environment _) (fun _ =>
    meetsBind Asks.composable (meetsGet Asks.composable) (fun _ => meetsPure Asks.composable _)))

theorem sslShutdownAsks (ssl : Nat) : Meets (Asks Event.OfShutdown) (sslShutdown ssl : Doip σ Int) :=
  meetsBind Asks.composable (Asks.emits trivial) (fun _ => meetsBind Asks.composable
    (meetsGet Asks.composable) (fun _ => meetsBind Asks.composable (Asks.environment _) (fun _ =>
      meetsPure Asks.composable _)))

theorem parseSslErrorAsks (ssl : Nat) :
    Meets (Asks Event.OfShutdown) (parseSslError ssl : Doip σ SslError) := by
  intro s
  rw [At,parseSslErrorApply]
  exact ⟨List.forall_mem_singleton.mpr trivial,rfl,rfl,rfl⟩

theorem shutdownSslAsks (ssl : Nat) : Meets (Asks Event.OfShutdown) (shutdownSsl ssl : Doip σ Unit) := by
  refine meetsBind Asks.composable (sslShutdownAsks ssl) (fun first => ?_)
  have retried : Meets (Asks Event.OfShutdown) (retryShutdown ssl first : Doip σ Int) := by
    unfold retryShutdown
    split
    · exact sslShutdownAsks ssl
    · exact meetsPure Asks.composable _
  refine meetsBind Asks.composable retried (fun ret => meetsWhen Asks.composable (fun _ => ?_))
  exact meetsBind Asks.composable (parseSslErrorAsks ssl) (fun _ => meetsPure Asks.composable _)

def freed : Option Nat → List Event
  | some ssl => [.sslFree ssl]
  | none => []

theorem freedOfTlsClosing {ssl : Option Nat} {e : Event} (member : e ∈ freed ssl) : e.OfTlsClosing := by
  cases ssl with
  | none => exact absurd member List.not_mem_nil
  | some ssl =>
    cases List.mem_singleton.mp member
    trivial

theorem closeTlsLayerCloses (skipShutdown : Bool) (s : State σ) :
    ∃ l t, closeTlsLayer skipShutdown s.connection.ssl s = ⟨l ++ freed s.connection.ssl,t,.ok ()⟩ ∧
      (∀ e ∈ l, e.OfShutdown) ∧ t.connection = {s.connection with ssl := none} ∧ t.application = s.application := by
  cases tls : s.connection.ssl with
  | none => exact ⟨[],s,rfl,by simp,by rw [← tls],rfl⟩
  | some ssl =>
    obtain ⟨l,t,⟨⟩,ran,events,connection,application⟩ := Asks.returned (meetsWhen Asks.composable
      (fun _ : skipShutdown = false => shutdownSslAsks ssl)) s
    refine ⟨l,t.setConnection (fun c => {c with ssl := none}),?_,events,?_,application⟩
    · simp [closeTlsLayer,ran,freed]
    · rw [← connection]
      rfl

theorem closeInactive {s : State σ} (skipShutdown : Bool) (closed : s.connection.clientSock = 0) :
    closeSocket skipShutdown s = ⟨[],s,.ok ()⟩ := by
  have inactive : ¬ isSocketActive s.connection := fun active => active closed
  simp [closeSocket,whenFalse inactive]

theorem closePlain {s : State σ} (skipShutdown : Bool) (active : isSocketActive s.connection)
    (plain : s.connection.ssl = none) :
    closeSocket skipShutdown s = ⟨[.close s.connection.clientSock],
      s.setConnection (fun c => {c with clientSock := 0}),.ok ()⟩ := by
  simp [closeSocket,whenTrue active,plain,closeTlsLayer,closeTcpLayer]

theorem closeSocketReleases (skipShutdown : Bool) {s : State σ} (active : isSocketActive s.connection) :
    ∃ l t, closeSocket skipShutdown s =
        ⟨l ++ freed s.connection.ssl ++ [.close s.connection.clientSock],t,.ok ()⟩ ∧
      (∀ e ∈ l, e.OfShutdown) ∧ t.connection = {s.connection with clientSock := 0, ssl := none} ∧
      t.application = s.application := by
  obtain ⟨l,t,tls,events,connection,application⟩ := closeTlsLayerCloses skipShutdown s
  refine ⟨l,t.setConnection (fun c => {c with clientSock := 0}),?_,events,?_,application⟩
  · simp [closeSocket,whenTrue active,tls,closeTcpLayer]
  · rw [State.setConnection,connection]

theorem closeSocketActive (skipShutdown : Bool) {s : State σ} (active : isSocketActive s.connection) :
    ∃ l t, closeSocket skipShutdown s = ⟨l ++ [.close s.connection.clientSock],t,.ok ()⟩ ∧
      (∀ e ∈ l, e.OfTlsClosing) ∧ t.connection = {s.connection with clientSock := 0, ssl := none} ∧
      t.application = s.application := by
  obtain ⟨l,t,ran,events,connection,application⟩ := closeSocketReleases skipShutdown active
  refine ⟨l ++ freed s.connection.ssl,t,ran,List.forall_mem_append.mpr ⟨fun e member => ?_,fun e member => ?_⟩,
    connection,application⟩
  · exact Event.shutdownIsTlsClosing (events e member)
  · exact freedOfTlsClosing member

theorem closeSocketCloses (skipShutdown : Bool) (s : State σ) :
    ∃ l t, closeSocket skipShutdown s = ⟨l,t,.ok ()⟩ ∧ t.connection.clientSock = 0 ∧
      Effect Event.OfClosing (fun _ => False) s l t none := by
  by_cases active : isSocketActive s.connection
  · obtain ⟨l,t,ran,events,connection,application⟩ := closeSocketActive skipShutdown active
    refine ⟨_,t,ran,by rw [connection],?_,by simp,⟨Or.inr (by rw [connection]),?_⟩,by rw [connection],
      by rw [connection],by rw [connection],application⟩
    · exact List.forall_mem_append.mpr ⟨fun e member => Event.tlsClosingIsClosing (events e member),
        List.forall_mem_singleton.mpr trivial⟩
    · intro _ settled
      refine ⟨fun _ => by rw [connection],fun fired => ?_⟩
      rw [connection] at fired ⊢
      exact ⟨(settled.expired fired).1,rfl⟩
  · have closed := Decidable.not_not.mp active
    exact ⟨[],s,closeInactive skipShutdown closed,closed,Effect.composable.refl s⟩

theorem closeSocketClosed {skipShutdown : Bool} {s t : State σ} {l : List Event}
    (ran : closeSocket skipShutdown s = ⟨l,t,.ok ()⟩) :
    t.connection.clientSock = 0 ∧ Effect Event.OfClosing (fun _ => False) s l t none := by
  obtain ⟨_,_,ran',closes⟩ := closeSocketCloses skipShutdown s
  cases ran.symm.trans ran'
  exact closes

theorem closeSocketTimer {skipShutdown : Bool} {s t : State σ} {l : List Event}
    (ran : closeSocket skipShutdown s = ⟨l,t,.ok ()⟩) :
    t.connection.aliveCheckTimer = s.connection.aliveCheckTimer := by
  by_cases active : isSocketActive s.connection
  · obtain ⟨m,u,ran',_,connection,_⟩ := closeSocketActive skipShutdown active
    cases ran.symm.trans ran'
    rw [connection]
  · rw [closeInactive skipShutdown (Decidable.not_not.mp active)] at ran
    cases ran
    rfl

theorem expiredSettled {s t : State σ} {l : List Event} (settled : Settled s)
    (ran : closeSocket false (s.setTimer (·.expire)) = ⟨l,t,.ok ()⟩) : Settled t := by
  by_cases active : isSocketActive s.connection
  · obtain ⟨m,u,ran',_,connection,_⟩ := @closeSocketActive σ false (s.setTimer (·.expire)) active
    cases ran.symm.trans ran'
    refine ⟨fun _ => by rw [connection],fun _ => ?_⟩
    rw [connection]
    exact ⟨rfl,rfl⟩
  · have closed := Decidable.not_not.mp active
    have idle := @closeInactive σ (s.setTimer (·.expire)) false closed
    cases ran.symm.trans idle
    exact ⟨settled.closed,fun _ => ⟨rfl,closed⟩⟩

end Closing
end LibDoip
