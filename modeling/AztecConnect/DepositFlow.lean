import AztecConnect.DepositController

/-!
# The deposit flow of a `DepositController`

A depositor drives a controller through calls: `approve` or a permit, `depositFundsToContract`,
`createProof`, then `sign` or `approveProof`, `send` and `awaitSettlement`. Between calls the
controller keeps the proofs `createProof` made, the signature `sign` put on the deposit proof,
the funds status, and the ids `send` got. Each method takes what the blockchain, the wallet and
the core SDK answer it as arguments; it raises where the code raises, and keeps what it had
assigned before raising. A run is any sequence of calls, with any answers.
-/

namespace AztecConnect

/-- A `ProofOutput` of the core SDK: the inputs it was made from, the id of its tx, the
`txRefNo` that groups a deposit with its fee-paying tx, and the signature `sign` put on it. -/
structure ProofOutput (α : Type) where
  input : α
  txId : Nat
  txRefNo : Nat
  signature : Option Nat
  deriving DecidableEq, Repr

/-- What the blockchain and the core SDK report to a call that reads the depositor's funds. -/
structure ChainView where
  pendingDeposit : Int
  pendingDepositTxs : List PendingDepositTx
  allowance : Int
  isContract : Bool
  hasPermitSupport : Bool

/-- A tx the controller has the depositor's wallet send to L1. -/
inductive L1Tx
  | approve (value : Int)
  | depositPendingFunds (value : Int) (proofHash : Option Nat)
  | depositPendingFundsPermit (value : Int) (permitArgs : PermitArgs)
  | depositPendingFundsPermitNonStandard (value : Int)
  | approveProof (proofHash : Nat)
  deriving DecidableEq, Repr

/-- The proof hash an L1 tx approves on chain: a contract wallet's deposit carries one, and so
does a proof approval. -/
def L1Tx.proofHash : L1Tx → Option Nat
  | .depositPendingFunds _ proofHash => proofHash
  | .approveProof proofHash => some proofHash
  | _ => none

/-- What a call does outside the controller: a tx it has the wallet send, or the proofs it
hands to `core.sendProofs`. -/
inductive Effect
  | l1 (tx : L1Tx)
  | sendProofs (proofs : ProofOutput DepositProofInput × Option (ProofOutput PaymentProofInput))
  deriving DecidableEq, Repr

namespace DepositFlow

/-- The fields of a `DepositController` that its methods assign. -/
structure State where
  proofOutput : Option (ProofOutput DepositProofInput)
  feeProofOutput : Option (ProofOutput PaymentProofInput)
  txIds : List Nat
  pendingFundsStatus : PendingFundsStatus
  deriving DecidableEq, Repr

/-- The fields of a new controller. -/
def State.initial : State := ⟨none, none, [], .initial⟩

/-- What a call returns or raises, the fields it leaves, and what it did outside. -/
structure Reply (α : Type) where
  result : Except String α
  state : State
  effects : List Effect

/-- The pending deposit on L1 that a status expects once its required funds are deposited:
what `awaitDepositFundsToContract`, and a contract wallet's `depositFundsToContract`, wait
for. -/
def expectedPendingDeposit (status : PendingFundsStatus) : Int :=
  status.pendingDeposit + status.requiredFunds

section Methods

variable (dc : DepositController) (st : State)

/-- `approve`, answered with the chain's view, the permit `createPermitArgs` signs, and the
outcome of the approval tx: its hash, or none when a contract wallet's allowance shows on chain
before the tx returns. -/
def approve (chain : ChainView) (permitArgs : Except String PermitArgs)
    (approveTx : Except String (Option Nat)) : Reply (Option Nat) :=
  let pendingFundsStatus :=
    dc.getPendingFundsStatus st.pendingFundsStatus chain.pendingDeposit chain.pendingDepositTxs
  let value := pendingFundsStatus.requiredFunds
  if value = 0 then ⟨.error "User has deposited enough funds.", st, []⟩
  else if value ≤ chain.allowance then ⟨.error "User has approved enough amount.", st, []⟩
  else if chain.hasPermitSupport && !chain.isContract then
    match permitArgs with
    | .error e => ⟨.error e, st, []⟩
    | .ok permitArgs =>
      ⟨.ok none, { st with pendingFundsStatus :=
        { pendingFundsStatus with permitArgs := some permitArgs } }, []⟩
  else
    match approveTx with
    | .error e => ⟨.error e, st, [.l1 (.approve value)]⟩
    | .ok approveTxHash =>
      ⟨.ok approveTxHash, { st with pendingFundsStatus :=
        { pendingFundsStatus with
          approvedFromContractWallet := chain.isContract && approveTxHash.isNone
          approveTxHash } }, [.l1 (.approve value)]⟩

/-- `awaitApprove`, answered with the outcome of waiting for the allowance on chain. -/
def awaitApprove (confirmed : Except String Unit) : Except String Unit :=
  if st.pendingFundsStatus.approvedFromContractWallet then .ok ()
  else if st.pendingFundsStatus.approveTxHash.isNone then .error "Call approve() first."
  else confirmed

/-- `getProofHash`: the id of the deposit proof's tx. -/
def getProofHash : Except String Nat :=
  match st.proofOutput with
  | none => .error "Call createProof() first."
  | some proofOutput => .ok proofOutput.txId

/-- `isProofApproved`, with the chain's proof approvals. -/
def isProofApproved (approvals : Nat → Bool) : Except String Bool :=
  (getProofHash st).map approvals

/-- The `depositFunds` closure of `depositFundsToContract`: the deposit tx of `value`, with the
stored permit or a new one when the asset supports permits and the allowance is short, and
otherwise, from a contract wallet, carrying the deposit proof's hash, so that the proof is
approved on chain with the funds. -/
def depositFunds (pendingFundsStatus : PendingFundsStatus) (isContract permitSupport : Bool)
    (allowance value : Int) (permitArgs : Except String PermitArgs) : Except String L1Tx :=
  if permitSupport ∧ allowance < value then
    let permitArgs : Except String PermitArgs :=
      match pendingFundsStatus.permitArgs with
      | some permitArgs => .ok permitArgs
      | none => permitArgs
    permitArgs.map (.depositPendingFundsPermit value)
  else if isContract then
    (getProofHash st).map fun proofHash => .depositPendingFunds value (some proofHash)
  else .ok (.depositPendingFunds value none)

/-- `depositFundsToContract`, answered with the chain's view, the permit `createPermitArgs`
signs if one is needed, and the outcome of the deposit tx: its hash, or none when a contract
wallet's deposit shows on chain before the tx returns. -/
def depositFundsToContract (chain : ChainView) (permitArgs : Except String PermitArgs)
    (depositTx : Except String (Option Nat)) : Reply (Option Nat) :=
  let pendingFundsStatus :=
    dc.getPendingFundsStatus st.pendingFundsStatus chain.pendingDeposit chain.pendingDepositTxs
  let value := pendingFundsStatus.requiredFunds
  if value = 0 then ⟨.error "User has deposited enough funds.", st, []⟩
  else
    let permitSupport := chain.hasPermitSupport && !chain.isContract
    let allowance := if dc.publicInput.assetId = 0 then value else chain.allowance
    if !permitSupport ∧ allowance < value then
      ⟨.error "Insufficient allowance. Call approve() first.", st, []⟩
    else
      match depositFunds st pendingFundsStatus chain.isContract permitSupport allowance value
        permitArgs with
      | .error e => ⟨.error e, st, []⟩
      | .ok tx =>
        match depositTx with
        | .error e => ⟨.error e, st, [.l1 tx]⟩
        | .ok txHash =>
          ⟨.ok txHash, { st with pendingFundsStatus :=
            { pendingFundsStatus with
              depositedFromContractWallet := chain.isContract && txHash.isNone
              txHash } }, [.l1 tx]⟩

/-- `depositFundsToContractWithNonStandardPermit`, answered with the chain's view, whether the
wallet signs the non-standard permit, and the outcome of the deposit tx. -/
def depositFundsToContractWithNonStandardPermit (chain : ChainView)
    (permit : Except String Unit) (depositTx : Except String Nat) : Reply Nat :=
  let pendingFundsStatus :=
    dc.getPendingFundsStatus st.pendingFundsStatus chain.pendingDeposit chain.pendingDepositTxs
  let value := pendingFundsStatus.requiredFunds
  if value = 0 then ⟨.error "User has deposited enough funds.", st, []⟩
  else if chain.isContract then
    ⟨.error "Permit flow not available for contract wallets.", st, []⟩
  else
    let deposit : Except String L1Tx :=
      if value ≤ chain.allowance then .ok (.depositPendingFunds value none)
      else permit.map fun _ => .depositPendingFundsPermitNonStandard value
    match deposit with
    | .error e => ⟨.error e, st, []⟩
    | .ok tx =>
      match depositTx with
      | .error e => ⟨.error e, st, [.l1 tx]⟩
      | .ok txHash =>
        ⟨.ok txHash, { st with pendingFundsStatus :=
          { pendingFundsStatus with txHash := some txHash } }, [.l1 tx]⟩

/-- `awaitDepositFundsToContract`, answered with the outcome of waiting for
`expectedPendingDeposit` on chain. -/
def awaitDepositFundsToContract (confirmed : Except String Unit) : Except String (Option Bool) :=
  if st.pendingFundsStatus.depositedFromContractWallet then .ok (some true)
  else if st.pendingFundsStatus.txHash.isNone then .error "Call depositFundsToContract() first."
  else confirmed.map fun _ => none

/-- `createProof`, answered with the `txRefNo` it is called with, the one `createTxRefNo` draws,
and the outcomes of `core.createDepositProof` and of the fee proof's awaited calls. The deposit
proof is assigned before the fee proof is made, so a failing fee proof leaves the new deposit
proof beside the previous fee proof. -/
def createProof (txRefNo newTxRefNo : Nat) (depositProof feeProof : Except String Nat) :
    Reply Unit :=
  let txRefNo := if dc.requireFeePayingTx ∧ txRefNo = 0 then newTxRefNo else txRefNo
  match depositProof with
  | .error e => ⟨.error e, st, []⟩
  | .ok txId =>
    let st := { st with proofOutput := some ⟨dc.createProof.1, txId, txRefNo, none⟩ }
    if h : dc.requireFeePayingTx then
      match feeProof with
      | .error e => ⟨.error e, st, []⟩
      | .ok feeTxId =>
        let feeProofOutput :=
          ⟨dc.createProof.2.get (dc.createProof_snd_isSome h), feeTxId, txRefNo, none⟩
        ⟨.ok (), { st with feeProofOutput := some feeProofOutput }, []⟩
    else ⟨.ok (), st, []⟩

/-- `approveProof`, answered with whether the depositor is a contract and the outcome of the
approval tx. -/
def approveProof (isContract : Bool) (approveTx : Except String (Option Nat)) :
    Reply (Option Nat) :=
  match getProofHash st with
  | .error e => ⟨.error e, st, []⟩
  | .ok proofHash =>
    match approveTx with
    | .error e => ⟨.error e, st, [.l1 (.approveProof proofHash)]⟩
    | .ok approveProofTxHash =>
      ⟨.ok approveProofTxHash, { st with pendingFundsStatus :=
        { st.pendingFundsStatus with
          proofApprovedFromContractWallet := isContract && approveProofTxHash.isNone
          approveProofTxHash } }, [.l1 (.approveProof proofHash)]⟩

/-- `awaitApproveProof`, answered with the outcome of waiting for the approval on chain. -/
def awaitApproveProof (confirmed : Except String Unit) : Except String (Option Bool) :=
  if st.pendingFundsStatus.proofApprovedFromContractWallet then .ok (some true)
  else if st.pendingFundsStatus.approveProofTxHash.isNone then .error "Call approveProof() first."
  else confirmed.map fun _ => none

/-- `getSigningData`: the deposit signing data of the deposit proof's tx, which its id
determines and stands for. -/
def getSigningData : Except String Nat :=
  match st.proofOutput with
  | none => .error "Call createProof() first."
  | some proofOutput => .ok proofOutput.txId

/-- `sign`, answered with the wallet's signature of the signing data. -/
def sign (signature : Except String Nat) : Reply Unit :=
  match st.proofOutput with
  | none => ⟨.error "Call createProof() first.", st, []⟩
  | some proofOutput =>
    match signature with
    | .error e => ⟨.error e, st, []⟩
    | .ok signature =>
      ⟨.ok (), { st with proofOutput := some { proofOutput with signature := some signature } },
        []⟩

/-- `isSignatureValid`, with `validateSignature` of a signature and signing data. -/
def isSignatureValid (validateSignature : Nat → Nat → Bool) : Except String Bool :=
  match st.proofOutput with
  | none => .error "Call createProof() and sign() first."
  | some proofOutput =>
    match proofOutput.signature with
    | none => .error "Call sign() first."
    | some signature => .ok (validateSignature signature proofOutput.txId)

/-- `getProofs`: the deposit proof, with the fee proof when there is one. -/
def getProofs :
    Except String (ProofOutput DepositProofInput × Option (ProofOutput PaymentProofInput)) :=
  match st.proofOutput with
  | none => .error "Call createProof() first."
  | some proofOutput => .ok (proofOutput, st.feeProofOutput)

/-- `send`, answered with the chain's proof approvals and the ids `core.sendProofs` returns. -/
def send (approvals : Nat → Bool) (sendProofs : Except String (List Nat)) : Reply (Option Nat) :=
  match st.proofOutput with
  | none => ⟨.error "Call createProof() first.", st, []⟩
  | some proofOutput =>
    if proofOutput.signature.isNone ∧ !approvals proofOutput.txId then
      ⟨.error "Call sign() or approveProof() first.", st, []⟩
    else
      match sendProofs with
      | .error e => ⟨.error e, st, [.sendProofs (proofOutput, st.feeProofOutput)]⟩
      | .ok txIds => ⟨.ok txIds.head?, { st with txIds }, [.sendProofs (proofOutput, st.feeProofOutput)]⟩

/-- `awaitSettlement`, answered with the outcome of awaiting every tx `send` got. -/
def awaitSettlement (settled : Except String Unit) : Except String Unit :=
  if st.txIds = [] then .error "Call send() first." else settled

end Methods

/-- A call of a method that assigns a field or acts outside the controller, with its answers.
The other methods only read the fields. -/
inductive Call
  | approve (chain : ChainView) (permitArgs : Except String PermitArgs)
      (approveTx : Except String (Option Nat))
  | depositFundsToContract (chain : ChainView) (permitArgs : Except String PermitArgs)
      (depositTx : Except String (Option Nat))
  | depositFundsToContractWithNonStandardPermit (chain : ChainView)
      (permit : Except String Unit) (depositTx : Except String Nat)
  | createProof (txRefNo newTxRefNo : Nat) (depositProof feeProof : Except String Nat)
  | approveProof (isContract : Bool) (approveTx : Except String (Option Nat))
  | sign (signature : Except String Nat)
  | send (approvals : Nat → Bool) (sendProofs : Except String (List Nat))

/-- Whether a call is a `createProof`. -/
def Call.isCreateProof : Call → Bool
  | .createProof .. => true
  | _ => false

/-- One call on the fields `st`: the fields it leaves and what it did outside. -/
def Call.step (dc : DepositController) (st : State) : Call → State × List Effect
  | .approve chain p t => let r := DepositFlow.approve dc st chain p t; (r.state, r.effects)
  | .depositFundsToContract chain p t =>
    let r := DepositFlow.depositFundsToContract dc st chain p t; (r.state, r.effects)
  | .depositFundsToContractWithNonStandardPermit chain p t =>
    let r := DepositFlow.depositFundsToContractWithNonStandardPermit dc st chain p t; (r.state, r.effects)
  | .createProof n m d f => let r := DepositFlow.createProof dc st n m d f; (r.state, r.effects)
  | .approveProof c t => let r := DepositFlow.approveProof st c t; (r.state, r.effects)
  | .sign s => let r := DepositFlow.sign st s; (r.state, r.effects)
  | .send a s => let r := DepositFlow.send st a s; (r.state, r.effects)

/-- The fields after `calls`, and everything they did outside, in order. -/
def run (dc : DepositController) : State → List Call → State × List Effect
  | st, [] => (st, [])
  | st, c :: calls =>
    let later := run dc (c.step dc st).1 calls
    (later.1, (c.step dc st).2 ++ later.2)

/-! ## What one call can change -/

section Step

variable {dc : DepositController} {st : State}

/-- A call that only updates the funds status and acts on L1. -/
def FundsReply (st : State) {α : Type} (r : Reply α) : Prop :=
  (∃ status, r.state = { st with pendingFundsStatus := status }) ∧ ∀ e ∈ r.effects, ∃ tx, e = .l1 tx

lemma approve_fundsReply (chain : ChainView) (p : Except String PermitArgs)
    (t : Except String (Option Nat)) : FundsReply st (approve dc st chain p t) := by
  simp only [approve]
  split_ifs
  repeat' split
  all_goals exact ⟨⟨_, rfl⟩, by simp⟩

lemma depositFundsToContract_fundsReply (chain : ChainView) (p : Except String PermitArgs)
    (t : Except String (Option Nat)) : FundsReply st (depositFundsToContract dc st chain p t) := by
  simp only [depositFundsToContract]
  split_ifs
  repeat' split
  all_goals exact ⟨⟨_, rfl⟩, by simp⟩

lemma depositFundsToContractWithNonStandardPermit_fundsReply (chain : ChainView)
    (p : Except String Unit) (t : Except String Nat) :
    FundsReply st (depositFundsToContractWithNonStandardPermit dc st chain p t) := by
  simp only [depositFundsToContractWithNonStandardPermit]
  split_ifs
  repeat' split
  all_goals exact ⟨⟨_, rfl⟩, by simp⟩

lemma approveProof_fundsReply (c : Bool) (t : Except String (Option Nat)) :
    FundsReply st (approveProof st c t) := by
  simp only [approveProof]
  repeat' split
  all_goals exact ⟨⟨_, rfl⟩, by simp⟩

lemma getProofs_eq_ok {proofs : ProofOutput DepositProofInput × Option (ProofOutput PaymentProofInput)} :
    getProofs st = .ok proofs ↔ st.proofOutput = some proofs.1 ∧ st.feeProofOutput = proofs.2 := by
  unfold getProofs
  split <;> simp_all [Prod.ext_iff, eq_comm]

lemma sign_spec (st : State) (s : Except String Nat) :
    (sign st s).effects = [] ∧ ((sign st s).state = st ∨ ∃ p sig, s = .ok sig ∧
      st.proofOutput = some p ∧
        (sign st s).state = { st with proofOutput := some { p with signature := some sig } }) := by
  unfold sign
  repeat' split
  all_goals simp_all

lemma send_spec (st : State) (a : Nat → Bool) (s : Except String (List Nat)) :
    (send st a s).state.proofOutput = st.proofOutput ∧
      (send st a s).state.feeProofOutput = st.feeProofOutput ∧
      ∀ e ∈ (send st a s).effects, ∃ proofs, getProofs st = .ok proofs ∧ e = .sendProofs proofs := by
  unfold send
  repeat' split
  all_goals simp_all [getProofs_eq_ok]

lemma createProof_spec (dc : DepositController) (st : State) (n m : Nat) (d f : Except String Nat) :
    (createProof dc st n m d f).effects = [] ∧
      ((createProof dc st n m d f).state.feeProofOutput = st.feeProofOutput ∨
        dc.requireFeePayingTx) := by
  unfold createProof
  repeat' split
  all_goals simp_all

lemma createProof_ok (dc : DepositController) (st : State) (n m txId feeTxId : Nat) :
    let ref := if dc.requireFeePayingTx ∧ n = 0 then m else n
    (createProof dc st n m (.ok txId) (.ok feeTxId)).state.proofOutput =
        some ⟨dc.createProof.1, txId, ref, none⟩ ∧
      (createProof dc st n m (.ok txId) (.ok feeTxId)).state.feeProofOutput =
        if dc.requireFeePayingTx then dc.createProof.2.map fun input => ⟨input, feeTxId, ref, none⟩
        else st.feeProofOutput := by
  by_cases h : dc.requireFeePayingTx
  · obtain ⟨input, hinput⟩ := Option.isSome_iff_exists.mp (dc.createProof_snd_isSome h)
    simp [createProof, h, hinput]
  · simp [createProof, h]

lemma createProof_feeProofFailure (dc : DepositController) (st : State) (n m txId : Nat)
    (e : String) :
    (dc.requireFeePayingTx → (createProof dc st n m (.ok txId) (.error e)).result = .error e) ∧
      (createProof dc st n m (.ok txId) (.error e)).state =
        { st with proofOutput := some ⟨dc.createProof.1, txId,
          if dc.requireFeePayingTx ∧ n = 0 then m else n, none⟩ } := by
  by_cases h : dc.requireFeePayingTx <;> simp [createProof, h]

lemma step_proofs (dc : DepositController) (st : State) (c : Call) (hc : c.isCreateProof = false) :
    (c.step dc st).1.feeProofOutput = st.feeProofOutput ∧
      ((c.step dc st).1.proofOutput = st.proofOutput ∨ ∃ p sig, c = .sign (.ok sig) ∧
        st.proofOutput = some p ∧
          (c.step dc st).1.proofOutput = some { p with signature := some sig }) := by
  have frame {α : Type} {r : Reply α} (h : FundsReply st r) :
      r.state.feeProofOutput = st.feeProofOutput ∧ r.state.proofOutput = st.proofOutput := by
    obtain ⟨⟨_, h⟩, -⟩ := h
    simp [h]
  cases c with
  | approve chain p t => exact (frame (approve_fundsReply chain p t)).imp_right .inl
  | depositFundsToContract chain p t =>
    exact (frame (depositFundsToContract_fundsReply chain p t)).imp_right .inl
  | depositFundsToContractWithNonStandardPermit chain p t =>
    exact (frame (depositFundsToContractWithNonStandardPermit_fundsReply chain p t)).imp_right .inl
  | createProof => cases hc
  | approveProof c t => exact (frame (approveProof_fundsReply c t)).imp_right .inl
  | sign s =>
    obtain ⟨-, h | ⟨p, sig, rfl, hp, h⟩⟩ := sign_spec st s
    · simp [Call.step, h]
    · simp [Call.step, h, hp]
  | send a s => exact ⟨(send_spec st a s).2.1, .inl (send_spec st a s).1⟩

lemma step_sendProofs (c : Call)
    {proofs : ProofOutput DepositProofInput × Option (ProofOutput PaymentProofInput)}
    (h : Effect.sendProofs proofs ∈ (c.step dc st).2) : getProofs st = .ok proofs := by
  have funds {α : Type} {r : Reply α} (hr : FundsReply st r) : Effect.sendProofs proofs ∉ r.effects :=
    fun hm => by simpa using hr.2 _ hm
  cases c with
  | approve chain p t => exact absurd h (funds (approve_fundsReply chain p t))
  | depositFundsToContract chain p t => exact absurd h (funds (depositFundsToContract_fundsReply chain p t))
  | depositFundsToContractWithNonStandardPermit chain p t =>
    exact absurd h (funds (depositFundsToContractWithNonStandardPermit_fundsReply chain p t))
  | createProof => simp [Call.step, (createProof_spec dc st _ _ _ _).1] at h
  | approveProof c t => exact absurd h (funds (approveProof_fundsReply c t))
  | sign s => simp [Call.step, (sign_spec st s).1] at h
  | send a s =>
    obtain ⟨_, hg, he⟩ := (send_spec st a s).2.2 _ h
    cases he
    exact hg

lemma getProofHash_eq_ok {h : Nat} :
    getProofHash st = .ok h ↔ ∃ p, st.proofOutput = some p ∧ p.txId = h := by
  unfold getProofHash
  split <;> simp_all

lemma depositFunds_eq_ok {status : PendingFundsStatus} {isContract permitSupport : Bool}
    {allowance value : Int} {p : Except String PermitArgs} {tx : L1Tx}
    (h : depositFunds st status isContract permitSupport allowance value p = .ok tx) :
    (∃ permitArgs, tx = .depositPendingFundsPermit value permitArgs) ∨
      (∃ proofHash, getProofHash st = .ok proofHash ∧
        tx = .depositPendingFunds value (some proofHash)) ∨
      tx = .depositPendingFunds value none := by
  unfold depositFunds at h
  split_ifs at h
  · left
    revert h
    split <;> cases p <;> simp [Except.map] <;> exact fun h => ⟨_, h.symm⟩
  · right; left
    revert h
    cases getProofHash st <;> simp [Except.map]
    exact fun h => h.symm
  · exact .inr (.inr (Except.ok.inj h).symm)

lemma step_proofHash (c : Call) {tx : L1Tx} {h : Nat} (he : Effect.l1 tx ∈ (c.step dc st).2)
    (hh : tx.proofHash = some h) : getProofHash st = .ok h := by
  cases c with
  | approve chain p t =>
    simp only [Call.step, approve] at he
    split_ifs at he <;> cases p <;> cases t <;> simp_all [L1Tx.proofHash]
  | depositFundsToContract chain p t =>
    simp only [Call.step, depositFundsToContract] at he
    split_ifs at he
    all_goals first
      | exact absurd he (by simp)
      | split at he
        · simp at he
        · rename_i tx' hd
          obtain rfl : tx = tx' := by cases t <;> simp_all
          rcases depositFunds_eq_ok hd with ⟨_, rfl⟩ | ⟨_, _, rfl⟩ | rfl <;>
            simp_all [L1Tx.proofHash]
  | depositFundsToContractWithNonStandardPermit chain p t =>
    simp only [Call.step, depositFundsToContractWithNonStandardPermit] at he
    split_ifs at he <;> cases p <;> cases t <;> simp_all [Except.map, L1Tx.proofHash]
  | createProof => simp [Call.step, (createProof_spec dc st _ _ _ _).1] at he
  | approveProof c t =>
    simp only [Call.step, approveProof] at he
    repeat' split at he
    all_goals simp_all [L1Tx.proofHash]
  | sign s => simp [Call.step, (sign_spec st s).1] at he
  | send a s =>
    obtain ⟨_, -, he⟩ := (send_spec st a s).2.2 _ he
    cases he

lemma send_approved {p : ProofOutput DepositProofInput} {approvals : Nat → Bool}
    (s : Except String (List Nat)) (hp : st.proofOutput = some p) (ha : approvals p.txId = true) :
    (send st approvals s).effects = [.sendProofs (p, st.feeProofOutput)] := by
  cases s <;> simp [send, hp, ha]

lemma depositFundsToContract_ok {chain : ChainView} {p : Except String PermitArgs}
    {t : Except String (Option Nat)} {txHash : Option Nat}
    (h : (depositFundsToContract dc st chain p t).result = .ok txHash) :
    let status :=
      dc.getPendingFundsStatus st.pendingFundsStatus chain.pendingDeposit chain.pendingDepositTxs
    status.requiredFunds ≠ 0 ∧
      (depositFundsToContract dc st chain p t).state = { st with pendingFundsStatus :=
        { status with depositedFromContractWallet := chain.isContract && txHash.isNone, txHash } } ∧
      ∃ tx, (depositFundsToContract dc st chain p t).effects = [.l1 tx] ∧
        ((∃ proofHash, tx = .depositPendingFunds status.requiredFunds proofHash) ∨
          ∃ permitArgs, tx = .depositPendingFundsPermit status.requiredFunds permitArgs) := by
  simp only [depositFundsToContract] at h ⊢
  split_ifs at h ⊢ with h0
  all_goals
    split at h
    · simp at h
    · rename_i tx hd
      cases t with
      | error => simp at h
      | ok txHash' =>
        obtain rfl : txHash' = txHash := Except.ok.inj h
        simp only [hd, true_and]
        refine ⟨h0, tx, rfl, ?_⟩
        rcases depositFunds_eq_ok hd with ⟨a, rfl⟩ | ⟨_, -, rfl⟩ | rfl
        exacts [.inr ⟨a, rfl⟩, .inl ⟨_, rfl⟩, .inl ⟨_, rfl⟩]

lemma funded_raises (chain : ChainView)
    (h : (dc.getPendingFundsStatus st.pendingFundsStatus chain.pendingDeposit
      chain.pendingDepositTxs).requiredFunds = 0) :
    (∀ p t, approve dc st chain p t = ⟨.error "User has deposited enough funds.", st, []⟩) ∧
      (∀ p t, depositFundsToContract dc st chain p t =
        ⟨.error "User has deposited enough funds.", st, []⟩) ∧
      ∀ p t, depositFundsToContractWithNonStandardPermit dc st chain p t =
        ⟨.error "User has deposited enough funds.", st, []⟩ := by
  simp [approve, depositFundsToContract, depositFundsToContractWithNonStandardPermit, h]

lemma requiredFunds_expectedPendingDeposit (status status' : PendingFundsStatus)
    (pendingDeposit : Int) (txs : List PendingDepositTx) :
    (dc.getPendingFundsStatus status'
      (expectedPendingDeposit (dc.getPendingFundsStatus status pendingDeposit txs))
        txs).requiredFunds = 0 := by
  simp only [DepositController.getPendingFundsStatus, expectedPendingDeposit]
  split_ifs <;> omega

/-- A `depositFundsToContract` that returns sent one deposit tx, of exactly what the deposit
still needed; and once L1 holds the pending deposit `awaitDepositFundsToContract` waits for,
with the same unsettled deposit txs, the controller is funded: `approve` and both deposit
methods raise that enough was deposited, changing nothing and sending nothing. -/
theorem depositFundsToContract_funds (dc : DepositController) (st : State) (chain chain' : ChainView)
    (permitArgs : Except String PermitArgs) (depositTx : Except String (Option Nat))
    (txHash : Option Nat)
    (hok : (depositFundsToContract dc st chain permitArgs depositTx).result = .ok txHash)
    (hpending : chain'.pendingDeposit = expectedPendingDeposit
      (depositFundsToContract dc st chain permitArgs depositTx).state.pendingFundsStatus)
    (htxs : chain'.pendingDepositTxs = chain.pendingDepositTxs) :
    let r := depositFundsToContract dc st chain permitArgs depositTx
    let status := r.state.pendingFundsStatus
    0 < status.requiredFunds ∧ status.pendingFunds + status.requiredFunds = dc.publicInput.value ∧
      (∃ tx, r.effects = [.l1 tx] ∧
        ((∃ proofHash, tx = .depositPendingFunds status.requiredFunds proofHash) ∨
          ∃ permitArgs, tx = .depositPendingFundsPermit status.requiredFunds permitArgs)) ∧
      (∀ p t, approve dc r.state chain' p t =
        ⟨.error "User has deposited enough funds.", r.state, []⟩) ∧
      (∀ p t, depositFundsToContract dc r.state chain' p t =
        ⟨.error "User has deposited enough funds.", r.state, []⟩) ∧
      ∀ p t, depositFundsToContractWithNonStandardPermit dc r.state chain' p t =
        ⟨.error "User has deposited enough funds.", r.state, []⟩ := by
  obtain ⟨h0, hstate, hsent⟩ := depositFundsToContract_ok hok
  obtain ⟨hnonneg, -, htop⟩ :=
    dc.getPendingFundsStatus_covers st.pendingFundsStatus chain.pendingDeposit chain.pendingDepositTxs
  have hshort : (dc.getPendingFundsStatus st.pendingFundsStatus chain.pendingDeposit
      chain.pendingDepositTxs).pendingFunds < dc.publicInput.value := by
    by_contra hge
    apply h0
    simp only [DepositController.getPendingFundsStatus] at hge ⊢
    rw [if_neg hge]
  dsimp only
  rw [hstate] at hpending ⊢
  refine ⟨by dsimp only; omega, htop hshort, hsent, funded_raises chain' ?_⟩
  rw [hpending, htxs]
  exact requiredFunds_expectedPendingDeposit st.pendingFundsStatus _ chain.pendingDeposit
    chain.pendingDepositTxs

/-- An ETH deposit of `5` with a fee of `1` paid from it: `depositFundsToContract` sends the `6`
required, and once L1 shows them the controller is funded. -/
theorem depositFundsToContract_funds_eth :
    let dc : DepositController := ⟨⟨0, 5⟩, ⟨0, 1⟩, 9, none, ⟨0, 6⟩, false, nofun⟩
    let chain : ChainView := ⟨0, [], 0, false, false⟩
    let chain' : ChainView := ⟨6, [], 0, false, false⟩
    let r := depositFundsToContract dc .initial chain (.error "rejected") (.ok (some 7))
    let status := r.state.pendingFundsStatus
    r.result = .ok (some 7) ∧ chain'.pendingDeposit = expectedPendingDeposit status ∧
      chain'.pendingDepositTxs = chain.pendingDepositTxs ∧
      0 < status.requiredFunds ∧ status.pendingFunds + status.requiredFunds = dc.publicInput.value ∧
      (∃ tx, r.effects = [.l1 tx] ∧
        ((∃ proofHash, tx = .depositPendingFunds status.requiredFunds proofHash) ∨
          ∃ permitArgs, tx = .depositPendingFundsPermit status.requiredFunds permitArgs)) ∧
      (∀ p t, approve dc r.state chain' p t =
        ⟨.error "User has deposited enough funds.", r.state, []⟩) ∧
      (∀ p t, depositFundsToContract dc r.state chain' p t =
        ⟨.error "User has deposited enough funds.", r.state, []⟩) ∧
      ∀ p t, depositFundsToContractWithNonStandardPermit dc r.state chain' p t =
        ⟨.error "User has deposited enough funds.", r.state, []⟩ :=
  ⟨rfl, rfl, rfl, depositFundsToContract_funds _ _ _ _ _ _ _ rfl rfl rfl⟩

end Step

/-! ## Runs -/

section Run

variable {dc : DepositController}

lemma run_append (st : State) (calls calls' : List Call) :
    run dc st (calls ++ calls') =
      ((run dc (run dc st calls).1 calls').1,
        (run dc st calls).2 ++ (run dc (run dc st calls).1 calls').2) := by
  induction calls generalizing st with
  | nil => rfl
  | cons c calls ih => simp [run, ih]

/-- What the allowed calls keep, and what each of them does outside when it holds, lift to
every run of allowed calls. -/
lemma run_safe (ok : Call → Prop) (P : State → Prop) (allowed : Effect → Prop)
    (preserves : ∀ st c, ok c → P st → P (c.step dc st).1)
    (emits : ∀ st c, ok c → P st → ∀ e ∈ (c.step dc st).2, allowed e) :
    ∀ calls st, (∀ c ∈ calls, ok c) → P st →
      P (run dc st calls).1 ∧ ∀ e ∈ (run dc st calls).2, allowed e
  | [], _, _, hp => ⟨hp, by simp [run]⟩
  | c :: calls, st, hok, hp => by
    obtain ⟨hfin, hlater⟩ := run_safe ok P allowed preserves emits calls _
      (fun c' h' => hok c' (List.mem_cons_of_mem c h')) (preserves st c (hok c (by simp)) hp)
    refine ⟨hfin, fun e he => ?_⟩
    rcases List.mem_append.mp he with he | he
    · exact emits st c (hok c (by simp)) hp e he
    · exact hlater e he

lemma run_feeProofOutput (dc : DepositController) (calls : List Call) (st : State)
    (h : st.feeProofOutput.isSome → dc.requireFeePayingTx) :
    (run dc st calls).1.feeProofOutput.isSome → dc.requireFeePayingTx := by
  refine (run_safe (fun _ => True) (fun st => st.feeProofOutput.isSome → dc.requireFeePayingTx)
    (fun _ => True) (fun st c _ hst => ?_) (by simp) calls st (by simp) h).1
  cases hc : c.isCreateProof
  · rw [(step_proofs dc st c hc).1]
    exact hst
  · cases c with
    | createProof n m d f =>
      rcases (createProof_spec dc st n m d f).2 with heq | hreq
      · simpa only [Call.step, heq] using hst
      · exact fun _ => hreq
    | _ => cases hc

/-- The proofs `proofs` are the deposit proof `p`, but for a signature that a `sign` of
`calls` returned, and the fee proof `fee`. -/
def KeepsProofs (p : ProofOutput DepositProofInput) (fee : Option (ProofOutput PaymentProofInput))
    (calls : List Call)
    (proofs : ProofOutput DepositProofInput × Option (ProofOutput PaymentProofInput)) : Prop :=
  proofs.2 = fee ∧ ∃ sig, proofs.1 = { p with signature := sig } ∧
    ∀ s, sig = some s → Call.sign (.ok s) ∈ calls

lemma step_keepsProofs {p : ProofOutput DepositProofInput}
    {fee : Option (ProofOutput PaymentProofInput)} {calls : List Call} {st : State} {c : Call}
    (hc : c.isCreateProof = false) (hmem : c ∈ calls)
    (h : ∃ proofs, getProofs st = .ok proofs ∧ KeepsProofs p fee calls proofs) :
    ∃ proofs, getProofs (c.step dc st).1 = .ok proofs ∧ KeepsProofs p fee calls proofs := by
  obtain ⟨proofs, hg, hfee, sig, hp, hsig⟩ := h
  rw [getProofs_eq_ok] at hg
  obtain ⟨hfee', hpo | ⟨p', s, rfl, hp', hpo⟩⟩ := step_proofs dc st c hc
  · exact ⟨proofs, getProofs_eq_ok.mpr ⟨hpo.trans hg.1, hfee'.trans hg.2⟩, hfee, sig, hp, hsig⟩
  · rw [hg.1, Option.some_inj] at hp'
    subst hp'
    refine ⟨({ p with signature := some s }, proofs.2),
      getProofs_eq_ok.mpr ⟨by rw [hpo, hp], hfee'.trans hg.2⟩, hfee, some s, rfl, ?_⟩
    rintro _ ⟨⟩
    exact hmem

lemma run_sendProofs {post : List Call} (hpost : ∀ c ∈ post, c.isCreateProof = false)
    {st : State} {p : ProofOutput DepositProofInput} (hp : st.proofOutput = some p)
    (hsig : p.signature = none) :
    ∀ proofs, Effect.sendProofs proofs ∈ (run dc st post).2 →
      KeepsProofs p st.feeProofOutput post proofs := fun proofs h =>
  (run_safe (fun c => c.isCreateProof = false ∧ c ∈ post)
    (fun s => ∃ proofs, getProofs s = .ok proofs ∧ KeepsProofs p st.feeProofOutput post proofs)
    (fun e => ∀ proofs, e = .sendProofs proofs → KeepsProofs p st.feeProofOutput post proofs)
    (fun _ _ hc => step_keepsProofs hc.1 hc.2)
    (fun _ c _ ⟨_, hg, hk⟩ _ he _ heq => by
      subst heq
      obtain rfl := Except.ok.inj ((step_sendProofs c he).symm.trans hg)
      exact hk)
    post st (fun c hc => ⟨hpost c hc, hc⟩)
    ⟨(p, st.feeProofOutput), getProofs_eq_ok.mpr ⟨hp, rfl⟩, rfl, p.signature, rfl,
      by simp [hsig]⟩).2 _ h proofs rfl

/-- After a `createProof` that returns, and until the next `createProof`, every proof set
`send` hands to the core is that call's deposit proof, of the values
`DepositController.createProof` computes, with no signature but one a later `sign` returned,
together with that call's fee proof exactly when a fee-paying tx is required; both carry the
call's `txRefNo`. -/
theorem sendProofs_of_createProof (dc : DepositController) (pre post : List Call)
    (txRefNo newTxRefNo txId feeTxId : Nat) (hpost : ∀ c ∈ post, c.isCreateProof = false) :
    let st := (run dc .initial (pre ++ [.createProof txRefNo newTxRefNo (.ok txId) (.ok feeTxId)])).1
    let ref := if dc.requireFeePayingTx ∧ txRefNo = 0 then newTxRefNo else txRefNo
    ∀ proofs, Effect.sendProofs proofs ∈ (run dc st post).2 →
      proofs.1.input = dc.createProof.1 ∧ proofs.1.txId = txId ∧ proofs.1.txRefNo = ref ∧
        (∀ s, proofs.1.signature = some s → Call.sign (.ok s) ∈ post) ∧
        proofs.2 = dc.createProof.2.map fun input => ⟨input, feeTxId, ref, none⟩ := by
  intro st ref proofs h
  let st₀ := (run dc .initial pre).1
  have hst : st = (createProof dc st₀ txRefNo newTxRefNo (.ok txId) (.ok feeTxId)).state := by
    simp [st, st₀, run_append, run, Call.step]
  obtain ⟨hpo, hfo⟩ := createProof_ok dc st₀ txRefNo newTxRefNo txId feeTxId
  have hfee : st.feeProofOutput = dc.createProof.2.map fun input => ⟨input, feeTxId, ref, none⟩ := by
    rw [hst, hfo]
    by_cases hreq : dc.requireFeePayingTx
    · rw [if_pos hreq]
    · rw [if_neg hreq]
      simpa [DepositController.createProof, hreq] using
        mt (run_feeProofOutput dc pre .initial (by simp [State.initial])) hreq
  obtain ⟨hfee', sig, hp, hsig⟩ := run_sendProofs hpost (hst ▸ hpo) rfl proofs h
  rw [hp]
  exact ⟨rfl, rfl, rfl, hsig, hfee'.trans hfee⟩

/-- A controller whose fee a fee payer pays in another asset: after a `createProof` that draws
the `txRefNo` `5`, a `sign` and a `send` hand the core the deposit proof with the fee proof. -/
theorem sendProofs_of_createProof_signed :
    let dc : DepositController := ⟨⟨0, 5⟩, ⟨1, 1⟩, 9, some ⟨5⟩, ⟨0, 5⟩, true, fun _ => rfl⟩
    let post := [Call.sign (.ok 3), .send (fun _ => false) (.ok [11, 12])]
    (∀ c ∈ post, c.isCreateProof = false) ∧
      ∀ proofs, Effect.sendProofs proofs ∈
          (run dc (run dc .initial [.createProof 0 5 (.ok 7) (.ok 8)]).1 post).2 →
        proofs.1.input = dc.createProof.1 ∧ proofs.1.txId = 7 ∧ proofs.1.txRefNo = 5 ∧
          (∀ s, proofs.1.signature = some s → Call.sign (.ok s) ∈ post) ∧
          proofs.2 = dc.createProof.2.map fun input => ⟨input, 8, 5, none⟩ :=
  ⟨by decide, sendProofs_of_createProof _ [] _ 0 5 7 8 (by decide)⟩

/-- A `createProof` whose deposit proof is made but whose fee proof fails raises, yet leaves
the controller sending, until the next `createProof`, its new deposit proof beside the fee
proof held before: one made for an earlier `txRefNo`, or none at all after a first attempt, so
that a deposit requiring a fee-paying tx is sent without one. -/
theorem sendProofs_of_feeProofFailure (dc : DepositController) (pre post : List Call)
    (txRefNo newTxRefNo txId : Nat) (e : String) (hpost : ∀ c ∈ post, c.isCreateProof = false) :
    let st₀ := (run dc .initial pre).1
    let st := (run dc .initial (pre ++ [.createProof txRefNo newTxRefNo (.ok txId) (.error e)])).1
    let ref := if dc.requireFeePayingTx ∧ txRefNo = 0 then newTxRefNo else txRefNo
    (dc.requireFeePayingTx →
      (createProof dc st₀ txRefNo newTxRefNo (.ok txId) (.error e)).result = .error e) ∧
      ∀ proofs, Effect.sendProofs proofs ∈ (run dc st post).2 →
        proofs.1.input = dc.createProof.1 ∧ proofs.1.txId = txId ∧ proofs.1.txRefNo = ref ∧
          (∀ s, proofs.1.signature = some s → Call.sign (.ok s) ∈ post) ∧
          proofs.2 = st₀.feeProofOutput := by
  intro st₀ st ref
  obtain ⟨hraise, hstate⟩ := createProof_feeProofFailure dc st₀ txRefNo newTxRefNo txId e
  have hst : st = { st₀ with proofOutput := some ⟨dc.createProof.1, txId, ref, none⟩ } := by
    simp [st, st₀, run_append, run, Call.step, hstate, ref]
  refine ⟨hraise, fun proofs h => ?_⟩
  obtain ⟨hfee, sig, hp, hsig⟩ :=
    run_sendProofs (p := ⟨dc.createProof.1, txId, ref, none⟩) hpost (by rw [hst]) rfl proofs h
  rw [hp]
  exact ⟨rfl, rfl, rfl, hsig, hfee.trans (by rw [hst])⟩

/-- A fee-paying deposit whose second `createProof` draws the `txRefNo` `6` and fails at its fee
proof: a `send` hands the core the new deposit proof `9` beside the fee proof of the first
call, made for the `txRefNo` `5`. -/
theorem sendProofs_of_feeProofFailure_retry :
    let dc : DepositController := ⟨⟨0, 5⟩, ⟨1, 1⟩, 9, some ⟨5⟩, ⟨0, 5⟩, true, fun _ => rfl⟩
    let pre := [Call.createProof 0 5 (.ok 7) (.ok 8)]
    let post := [Call.sign (.ok 3), .send (fun _ => false) (.ok [11, 12])]
    let st₀ := (run dc .initial pre).1
    (∀ c ∈ post, c.isCreateProof = false) ∧
      (dc.requireFeePayingTx →
        (createProof dc st₀ 0 6 (.ok 9) (.error "rejected")).result = .error "rejected") ∧
      ∀ proofs, Effect.sendProofs proofs ∈
          (run dc (run dc .initial (pre ++ [.createProof 0 6 (.ok 9) (.error "rejected")])).1
            post).2 →
        proofs.1.input = dc.createProof.1 ∧ proofs.1.txId = 9 ∧ proofs.1.txRefNo = 6 ∧
          (∀ s, proofs.1.signature = some s → Call.sign (.ok s) ∈ post) ∧
          proofs.2 = st₀.feeProofOutput :=
  ⟨by decide, sendProofs_of_feeProofFailure _ _ _ 0 6 9 "rejected" (by decide)⟩

/-- A proof hash the controller puts on L1, with a contract wallet's deposit or with
`approveProof`, is the id of the deposit proof in every proof set `send` hands the core until
the next `createProof`; and a `send` whose chain approvals hold that hash hands the core the
proofs, signed or not. -/
theorem approvedProofHash_sent (dc : DepositController) (st : State) (c : Call)
    (post : List Call) (hpost : ∀ c' ∈ post, c'.isCreateProof = false) (tx : L1Tx) (h : Nat)
    (htx : Effect.l1 tx ∈ (c.step dc st).2) (hh : tx.proofHash = some h) :
    (∀ proofs, Effect.sendProofs proofs ∈ (run dc (c.step dc st).1 post).2 → proofs.1.txId = h) ∧
      ∀ approvals sendProofs, approvals h = true →
        ∃ proofs, (send (run dc (c.step dc st).1 post).1 approvals sendProofs).effects =
          [.sendProofs proofs] ∧ proofs.1.txId = h := by
  have hc : c.isCreateProof = false := by
    cases c <;> first
      | rfl
      | simp [Call.step, (createProof_spec dc st _ _ _ _).1] at htx
  obtain ⟨p, hp, rfl⟩ := getProofHash_eq_ok.mp (step_proofHash c htx hh)
  -- the deposit proof keeps its id through every call but `createProof`
  have keeps : ∀ (s : State) (c : Call), c.isCreateProof = false →
      (∃ q, s.proofOutput = some q ∧ q.txId = p.txId) →
        ∃ q, (c.step dc s).1.proofOutput = some q ∧ q.txId = p.txId := by
    rintro s c hc ⟨q, hq, hid⟩
    rcases (step_proofs dc s c hc).2 with h' | ⟨q', sig, -, hq', h'⟩
    · exact ⟨q, h'.trans hq, hid⟩
    · rw [hq, Option.some_inj] at hq'
      exact ⟨_, h', hq' ▸ hid⟩
  obtain ⟨⟨q, hq, hid⟩, hsent⟩ := run_safe (fun c => c.isCreateProof = false)
    (fun s => ∃ q, s.proofOutput = some q ∧ q.txId = p.txId)
    (fun e => ∀ proofs, e = .sendProofs proofs → proofs.1.txId = p.txId)
    keeps
    (fun s c _ ⟨q, hq, hid⟩ e he proofs heq => by
      subst heq
      obtain ⟨hq', -⟩ := getProofs_eq_ok.mp (step_sendProofs c he)
      rw [hq, Option.some_inj] at hq'
      exact hq' ▸ hid)
    post _ hpost (keeps st c hc ⟨p, hp, rfl⟩)
  exact ⟨fun proofs he => hsent _ he proofs rfl, fun approvals s ha =>
    ⟨_, send_approved s hq (hid ▸ ha), hid⟩⟩

/-- A contract wallet deposits the `6` its deposit needs after `createProof`: the deposit
carries the deposit proof's id `7`, and a `send` the chain approves hands the core that
proof. -/
theorem approvedProofHash_sent_contractDeposit :
    let dc : DepositController := ⟨⟨0, 5⟩, ⟨0, 1⟩, 9, none, ⟨0, 6⟩, false, nofun⟩
    let st := (run dc .initial [.createProof 0 0 (.ok 7) (.error "unused")]).1
    let c := Call.depositFundsToContract ⟨0, [], 0, true, false⟩ (.error "no permit") (.ok none)
    let post := [Call.send (fun h => h == 7) (.ok [11])]
    (∀ c' ∈ post, c'.isCreateProof = false) ∧
      Effect.l1 (.depositPendingFunds 6 (some 7)) ∈ (c.step dc st).2 ∧
      (L1Tx.depositPendingFunds 6 (some 7)).proofHash = some 7 ∧
      (∀ proofs, Effect.sendProofs proofs ∈ (run dc (c.step dc st).1 post).2 →
        proofs.1.txId = 7) ∧
      ∀ approvals sendProofs, approvals 7 = true →
        ∃ proofs, (send (run dc (c.step dc st).1 post).1 approvals sendProofs).effects =
          [.sendProofs proofs] ∧ proofs.1.txId = 7 :=
  ⟨by decide, by decide, rfl,
    approvedProofHash_sent _ _ _ _ (by decide) (.depositPendingFunds 6 (some 7)) 7 (by decide) rfl⟩

end Run

end DepositFlow

end AztecConnect
