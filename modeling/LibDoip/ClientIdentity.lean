import LibDoip.ClientRequests

/-! Under which address a client speaks. The application chooses one, and the alive check responses
carry it; the routing activation and the diagnostic messages carry 0x0E00. -/
namespace LibDoip
open Library

def ClientOp.Speaks : ClientOp → Prop
  | .sendRoutingActivationRequest | .sendDiagnosticMessage _ _ | .sendAliveCheckResponse => True
  | _ => False

def spokenAddress (message : List UInt8) : Address := (message.getD 8 0,message.getD 9 0)

def ClientOp.spoken (sourceAddress : Address) : ClientOp → List UInt8
  | .sendRoutingActivationRequest => headerBytes 0x00 0x05 7 ++ activationRequestPayload
  | .sendDiagnosticMessage targetAddress userData => diagnosticMessageBytes 0x0E00 targetAddress userData
  | .sendAliveCheckResponse => headerBytes 0x00 0x08 2 ++ [sourceAddress.1,sourceAddress.2]
  | _ => []

def OneIdentity (address : Address) (ops : List ClientOp) (s : ClientSockets) : Prop :=
  ∀ e ∈ (clientRun (.setSourceAddress address::ops) s).log, ∀ message, e.sent = some message →
    spokenAddress message = address

theorem spoke {op : ClientOp} (speaks : op.Speaks) (s : ClientSockets) : clientStep op () s =
    ⟨[.write s.client.sockFd (op.spoken s.client.sourceAddress)],s,.ok ()⟩ := by
  cases op with
  | sendRoutingActivationRequest => simp [clientStep,overTcp,sendRoutingActivationRequestWrites,ClientOp.spoken]
  | sendDiagnosticMessage targetAddress userData =>
    simp [clientStep,overTcp,sendDiagnosticMessageWrites,ClientOp.spoken]
  | sendAliveCheckResponse => simp [clientStep,overTcp,sendAliveCheckResponseWrites,ClientOp.spoken]
  | _ => exact speaks.elim

theorem spokeAll {ops : List ClientOp} (speak : ∀ op ∈ ops, op.Speaks) (s : ClientSockets) : clientRun ops s =
    ⟨ops.map (fun op => .write s.client.sockFd (op.spoken s.client.sourceAddress)),s,.ok ()⟩ := by
  induction ops with
  | nil => rfl
  | cons op rest ih =>
    obtain ⟨first,later⟩ := List.forall_mem_cons.mp speak
    rw [clientRun,Program.iterate,Program.bindApply,spoke first,Outcome.andThenOk,← clientRun,ih later]
    rfl

theorem spokenBy {op : ClientOp} (speaks : op.Speaks) (address : Address) :
    spokenAddress (op.spoken address) = if op = .sendAliveCheckResponse then address else (0x0E,0x00) := by
  cases op with
  | sendRoutingActivationRequest => rfl
  | sendDiagnosticMessage targetAddress userData => rfl
  | sendAliveCheckResponse => rfl
  | _ => exact speaks.elim

theorem spokenAfterwards (address : Address) {ops : List ClientOp} (speak : ∀ op ∈ ops, op.Speaks) (s : ClientSockets) :
    OneIdentity address ops s ↔ ∀ op ∈ ops, spokenAddress (op.spoken address) = address := by
  have ran : (clientRun (.setSourceAddress address::ops) s).log =
      ops.map (fun op => .write s.client.sockFd (op.spoken address)) := by
    rw [clientRun,Program.iterate,Program.bindApply,clientStep,Program.modifyApply,Outcome.andThenOk,← clientRun,
      spokeAll speak]
    rfl
  rw [OneIdentity,ran]
  constructor
  · exact fun one op member => one _ (List.mem_map_of_mem member) _ rfl
  · intro each e member message sent
    obtain ⟨op,found,rfl⟩ := List.mem_map.mp member
    cases sent
    exact each op found

theorem oneIdentity (address : Address) {ops : List ClientOp} (speak : ∀ op ∈ ops, op.Speaks) (s : ClientSockets) :
    OneIdentity address ops s ↔ address = (0x0E,0x00) ∨ ∀ op ∈ ops, op = .sendAliveCheckResponse := by
  rw [spokenAfterwards address speak s]
  constructor
  · intro each
    refine Decidable.or_iff_not_imp_left.mpr (fun other op member => Decidable.byContradiction (fun names => ?_))
    have carried := each op member
    rw [spokenBy (speak op member),if_neg names] at carried
    exact other carried.symm
  · intro condition op member
    rw [spokenBy (speak op member)]
    rcases condition with rfl | alive
    · exact ite_self _
    · exact if_pos (alive op member)

def ClientSockets.opened : ClientSockets := ⟨⟨4,(0,0)⟩,5,⟨2,13400,0⟩⟩

def eachSend : List ClientOp :=
  [.sendRoutingActivationRequest,.sendAliveCheckResponse,.sendDiagnosticMessage (0xE0,0x00) ⟨[0x10,0x03],by decide⟩]

theorem oneIdentityEachSend : OneIdentity (0x0E,0x01) eachSend ClientSockets.opened ↔
    ((0x0E,0x01) : Address) = (0x0E,0x00) ∨ ∀ op ∈ eachSend, op = .sendAliveCheckResponse :=
  oneIdentity (0x0E,0x01) (by simp [eachSend,ClientOp.Speaks]) ClientSockets.opened

/- The application chooses 0x0E01 and asks for the activation: the request carries 0x0E00. -/
theorem otherIdentity : ¬ ∀ (address : Address) (ops : List ClientOp), (∀ op ∈ ops, op.Speaks) →
    OneIdentity address ops ClientSockets.opened := by
  intro stated
  have one := stated (0x0E,0x01) [.sendRoutingActivationRequest] (by simp [ClientOp.Speaks])
  rw [spokenAfterwards (0x0E,0x01) (by simp [ClientOp.Speaks])] at one
  have carried := one _ (List.mem_singleton_self _)
  exact absurd carried (by decide)

end LibDoip
