import LibDoip.ConnectionRules
import LibDoip.Library.Custody

/-! Which descriptor and which TLS object the calls on a connection use. A closed connection has neither; its fields
then select plain calls on descriptor 0, which is the standard input of the process. -/
namespace LibDoip
open Library
variable {σ : Type}

inductive Handle where
  | descriptor (fd : Int)
  | object (ssl : Nat)
  deriving DecidableEq, Repr

def Event.uses : Event → Option Handle
  | .recv fd _ | .write fd _ | .close fd => some (.descriptor fd)
  | .sslRead ssl _ | .sslWrite ssl _ | .sslError ssl _ | .sslShutdown ssl | .sslFree ssl => some (.object ssl)
  | _ => none

def Event.releases : Event → Bool
  | .close _ | .sslFree _ => true
  | _ => false

def DoIPConnection.Holds (c : DoIPConnection) : Handle → Prop
  | .descriptor fd => fd ≠ 0 ∧ c.clientSock = fd
  | .object ssl => c.ssl = some ssl

def handles : Handling Handle Event (State σ) := ⟨Event.uses,Event.releases,fun s => s.connection.Holds,(· = .descriptor 0)⟩

def Confined (s : State σ) (l : List Event) (t : State σ) (_ : Option Fault) : Prop := handles.Confined s l t

def DoIPConnection.HoldsNothing (c : DoIPConnection) : Prop := ∀ h, ¬ c.Holds h

structure Event.Own (c : DoIPConnection) (e : Event) : Prop where
  held : ∀ h, e.uses = some h → c.Holds h ∨ h = .descriptor 0 ∧ c.HoldsNothing
  keeps : e.releases = false

theorem ownConfined {s t : State σ} {l : List Event} {f : Option Fault} (own : ∀ e ∈ l, e.Own s.connection)
    (sock : t.connection.clientSock = s.connection.clientSock) (ssl : t.connection.ssl = s.connection.ssl) :
    Confined s l t f := by
  have spares : ∀ past h, (∀ e ∈ past, e.Own s.connection) → (@handles σ).Spares past h := by
    intro past h own e member freed
    have released : e.releases = true := freed.2
    rw [(own e member).keeps] at released
    cases released
  constructor
  · refine Always.ofSplit (fun before e after split h used => ?_)
    subst split
    have now := own e (by simp)
    rcases now.held h used with held | ⟨zero,nothing⟩
    · exact .own held (spares before h (fun e member => own e (by simp [member])))
    · exact .common zero now.keeps (fun g held => absurd held (nothing g))
  · intro h
    rw [and_iff_left (spares l h own)]
    cases h with
    | descriptor fd => simp only [handles,DoIPConnection.Holds,sock]
    | object object => simp only [handles,DoIPConnection.Holds,ssl]

theorem confinedComposable : Program.Composable (@Confined σ) where
  refl _ := ownConfined nofun rfl rfl
  trans first second := Handling.Confined.trans first second

theorem releaseConfined {s t : State σ} {e : Event} {h : Handle} {f : Option Fault} (used : e.uses = some h)
    (releases : e.releases = true) (held : s.connection.Holds h)
    (rest : ∀ g, t.connection.Holds g ↔ s.connection.Holds g ∧ g ≠ h) : Confined s [e] t f := by
  constructor
  · refine ⟨fun g uses => ?_,trivial⟩
    cases used.symm.trans uses
    exact .own held (Handling.sparesNil _)
  · intro g
    have spared : (@handles σ).Spares [e] g ↔ g ≠ h := by
      rw [Handling.Spares,List.forall_mem_singleton]
      constructor
      · rintro spares rfl
        exact spares ⟨used,releases⟩
      · rintro other ⟨uses,_⟩
        exact other (Option.some.inj (uses.symm.trans used))
    rw [spared]
    exact rest g

theorem inwardOwn (c : DoIPConnection) {e : Event} (inward : e.Inward) : e.Own c := by
  cases e <;> first | exact inward.elim | exact ⟨nofun,rfl⟩

/- A plain call uses the connection's descriptor, or, once it is closed, descriptor 0. -/
theorem plainHeld {c : DoIPConnection} (plain : c.ssl = none) :
    c.Holds (.descriptor c.clientSock) ∨ Handle.descriptor c.clientSock = .descriptor 0 ∧ c.HoldsNothing := by
  by_cases active : c.clientSock = 0
  · refine Or.inr ⟨congrArg _ active,fun h held => ?_⟩
    cases h with
    | descriptor fd => exact held.1 (held.2.symm.trans active)
    | object ssl => exact Option.some_ne_none ssl (held.symm.trans plain)
  · exact Or.inl ⟨active,rfl⟩

theorem sendOwn (c : DoIPConnection) (bytes : List UInt8) : (sendEvent c bytes).Own c := by
  unfold sendEvent
  split
  · rename_i plain
    refine ⟨fun h used => ?_,rfl⟩
    cases used
    exact plainHeld plain
  · rename_i ssl tls
    refine ⟨fun h used => ?_,rfl⟩
    cases used
    exact Or.inl tls

theorem errorOwn {c : DoIPConnection} {ssl : Nat} (tls : c.ssl = some ssl) (err : SslError) :
    (Event.sslError ssl err).Own c := by
  refine ⟨fun h used => ?_,rfl⟩
  cases used
  exact Or.inl tls

theorem shutdownOwn {c : DoIPConnection} {ssl : Nat} (tls : c.ssl = some ssl) : (Event.sslShutdown ssl).Own c := by
  refine ⟨fun h used => ?_,rfl⟩
  cases used
  exact Or.inl tls

theorem readOwn {c : DoIPConnection} {l : List Event} (events : ∀ e ∈ l, ∃ n, e = readEvent c n) : ∀ e ∈ l, e.Own c := by
  intro e member
  obtain ⟨n,rfl⟩ := events e member
  unfold readEvent
  split
  · rename_i ssl tls
    refine ⟨fun h used => ?_,rfl⟩
    cases used
    exact Or.inl tls
  · rename_i plain
    refine ⟨fun h used => ?_,rfl⟩
    cases used
    exact plainHeld plain

section Closing
open Program

theorem shutdownMeets {q : Event → Prop} {ssl : Nat} (shuts : q (.sslShutdown ssl)) (fails : ∀ err, q (.sslError ssl err)) :
    Meets (Asks q) (shutdownSsl ssl : Doip σ Unit) := by
  have once : Meets (Asks q) (sslShutdown ssl : Doip σ Int) :=
    meetsBind Asks.composable (Asks.emits shuts) (fun _ => meetsBind Asks.composable (meetsGet Asks.composable) (fun _ =>
      meetsBind Asks.composable (Asks.environment _) (fun _ => meetsPure Asks.composable _)))
  have failed : Meets (Asks q) (parseSslError ssl : Doip σ SslError) := by
    intro s
    rw [At,parseSslErrorApply]
    exact ⟨List.forall_mem_singleton.mpr (fails _),rfl,rfl,rfl⟩
  have retried : ∀ ret, Meets (Asks q) (retryShutdown ssl ret : Doip σ Int) := by
    intro ret
    unfold retryShutdown
    split
    · exact once
    · exact meetsPure Asks.composable _
  refine meetsBind Asks.composable once (fun first => meetsBind Asks.composable (retried first) (fun ret => ?_))
  refine meetsWhen Asks.composable (fun _ => ?_)
  exact meetsBind Asks.composable failed (fun _ => meetsPure Asks.composable _)

theorem closeTlsLayerConfined (skipShutdown : Bool) (s : State σ) :
    ∃ l t, closeTlsLayer skipShutdown s.connection.ssl s = ⟨l,t,.ok ()⟩ ∧ Confined s l t none ∧
      t.connection = {s.connection with ssl := none} := by
  cases tls : s.connection.ssl with
  | none =>
    refine ⟨[],s,rfl,confinedComposable.refl s,?_⟩
    rw [← tls]
  | some ssl =>
    obtain ⟨l,t,⟨⟩,ran,events,connection,_⟩ := Asks.returned (meetsWhen Asks.composable (fun _ : skipShutdown = false =>
      shutdownMeets (q := fun e => e.Own s.connection) (shutdownOwn tls) (errorOwn tls))) s
    have through : Confined s l t none := ownConfined events (by rw [connection]) (by rw [connection])
    have held : t.connection.Holds (.object ssl) := (congrArg DoIPConnection.ssl connection).trans tls
    have freed : Confined t [.sslFree ssl] (t.setConnection (fun c => {c with ssl := none})) none := by
      refine releaseConfined rfl rfl held (fun g => ?_)
      cases g with
      | descriptor fd => simp [State.setConnection,DoIPConnection.Holds]
      | object other =>
        have same : t.connection.ssl = some ssl := held
        simp [State.setConnection,DoIPConnection.Holds,same,eq_comm]
    refine ⟨l ++ [.sslFree ssl],t.setConnection (fun c => {c with ssl := none}),?_,confinedComposable.trans through freed,?_⟩
    · simp [closeTlsLayer,ran]
    · rw [← connection]
      rfl

theorem closeSocketConfined {skipShutdown : Bool} {s t : State σ} {l : List Event}
    (ran : closeSocket skipShutdown s = ⟨l,t,.ok ()⟩) : Confined s l t none := by
  by_cases active : isSocketActive s.connection
  · obtain ⟨m,u,tls,layer,connection⟩ := closeTlsLayerConfined skipShutdown s
    have held : u.connection.Holds (.descriptor s.connection.clientSock) := ⟨active,by rw [connection]⟩
    have closed : Confined u [.close s.connection.clientSock] (u.setConnection (fun c => {c with clientSock := 0})) none := by
      refine releaseConfined rfl rfl held (fun g => ?_)
      cases g with
      | descriptor fd =>
        simp only [State.setConnection,DoIPConnection.Holds,connection,ne_eq,Handle.descriptor.injEq]
        omega
      | object other => simp [State.setConnection,DoIPConnection.Holds]
    have whole : closeSocket skipShutdown s = ⟨m ++ [.close s.connection.clientSock],
        u.setConnection (fun c => {c with clientSock := 0}),.ok ()⟩ := by
      simp [closeSocket,Program.whenTrue active,tls,closeTcpLayer]
    cases ran.symm.trans whole
    exact confinedComposable.trans layer closed
  · cases ran.symm.trans (closeInactive skipShutdown (Decidable.not_not.mp active))
    exact confinedComposable.refl s

end Closing

theorem confined : ConnectionRules (@Confined σ) where
  composable := confinedComposable
  stopped := ownConfined nofun rfl rfl
  inward inward := ownConfined (List.forall_mem_singleton.mpr (inwardOwn _ inward)) rfl rfl
  asked := ownConfined nofun rfl rfl
  applied := ownConfined nofun rfl rfl
  timed _ := ownConfined nofun rfl rfl
  routed := ownConfined nofun rfl rfl
  sent {s bytes o} _ sends := by
    obtain ⟨errors⟩ := sends
    refine ownConfined (List.forall_mem_cons.mpr ⟨sendOwn _ _,fun e member => ?_⟩) rfl rfl
    obtain ⟨ssl,err,rfl,tls⟩ := errors e member
    exact errorOwn tls err
  read {s l t} reading := by
    cases reading with
    | reads events => exact ownConfined (readOwn events) rfl rfl
    | @failed before m _ ssl events tls handled =>
      have looked : Confined s (before ++ [.sslError ssl (nextSslError s)]) s none :=
        ownConfined (List.forall_mem_append.mpr ⟨readOwn events,List.forall_mem_singleton.mpr (errorOwn tls _)⟩) rfl rfl
      rw [List.append_cons]
      refine confinedComposable.trans looked ?_
      cases handled with
      | noted _ => exact ownConfined nofun rfl rfl
      | @closed environment _ _ _ ran =>
        have asked : Confined s [] {s with environment := environment} none := ownConfined nofun rfl rfl
        exact confinedComposable.trans asked (closeSocketConfined ran)
  closed ran := closeSocketConfined ran
  expired {s l t now} ran := by
    have noted : Confined s [.timeout now] (s.setTimer (·.expire)) none :=
      ownConfined (List.forall_mem_singleton.mpr ⟨nofun,rfl⟩) rfl rfl
    have notified : Confined t [.closeConnection] t none :=
      ownConfined (List.forall_mem_singleton.mpr ⟨nofun,rfl⟩) rfl rfl
    exact confinedComposable.trans (confinedComposable.trans noted (closeSocketConfined ran)) notified
  unbound := ownConfined (List.forall_mem_singleton.mpr ⟨nofun,rfl⟩) rfl rfl
  triggered := ownConfined (List.forall_mem_cons.mpr ⟨⟨nofun,rfl⟩,List.forall_mem_singleton.mpr ⟨nofun,rfl⟩⟩) rfl rfl

end LibDoip
