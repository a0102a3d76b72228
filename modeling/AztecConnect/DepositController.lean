import AztecConnect.Basic
import Mathlib.Algebra.BigOperators.Group.List

/-!
# The SDK's deposit controller

`DepositController` turns an L1 deposit of `assetValue` into a deposit proof, and pays the
`fee` either out of the deposit itself or, with a fee-paying tx, from a `feePayer`'s notes.
Its constructor decides which (`requireFeePayingTx`) and what the depositor must send to L1
(`publicInput`); `createProof` splits the public input into the deposit proof's private
output and the fee. Only the values are modelled here: keys, signatures and addresses are
left out, and the calls a depositor makes on a controller are modelled in the deposit flow.
-/

namespace AztecConnect

/-- A `FeePayer`: the account whose notes pay the fee. -/
structure FeePayer where
  userId : Nat
  deriving DecidableEq, Repr

/-- The value arguments of `core.createDepositProof`. -/
structure DepositProofInput where
  assetId : Nat
  publicInput : Int
  privateOutput : Int
  deriving DecidableEq, Repr

/-- The value arguments of `core.createPaymentProofInput`, in its order. -/
structure PaymentProofInput where
  userId : Nat
  assetId : Nat
  publicInput : Int
  publicOutput : Int
  privateInput : Int
  recipientPrivateOutput : Int
  senderPrivateOutput : Int
  deriving DecidableEq, Repr

/-- A constructed `DepositController`: a fee-paying tx is required only with a fee payer. -/
structure DepositController where
  assetValue : AssetValue
  fee : AssetValue
  depositor : Nat
  feePayer : Option FeePayer
  publicInput : AssetValue
  requireFeePayingTx : Bool
  feePayerProvided : requireFeePayingTx → feePayer.isSome

/-- The constructor of `DepositController`, with `blockchain.getAsset` as `isSupported`. -/
def newDepositController (isSupported : Nat → Bool) (assetValue fee : AssetValue) (depositor : Nat)
    (feePayer : Option FeePayer) : Except String DepositController :=
  if !isSupported assetValue.assetId then .error "Unsupported asset."
  else if assetValue.value = 0 ∧ fee.value = 0 then .error "Deposit value must be greater than 0."
  else
    let requireFeePayingTx :=
      decide (fee.value ≠ 0 ∧ (fee.assetId ≠ assetValue.assetId ∨ feePayer.isSome))
    if h : requireFeePayingTx ∧ feePayer.isNone then .error "Fee payer not provided."
    else .ok
      { assetValue, fee, depositor, feePayer
        publicInput := ⟨assetValue.assetId,
          assetValue.value + if fee.assetId = assetValue.assetId then fee.value else 0⟩
        requireFeePayingTx
        feePayerProvided := fun hr => by simpa [hr, Option.isSome_iff_ne_none] using h }

/-- A row of `core.getPendingDepositTxs()`. -/
structure PendingDepositTx where
  assetId : Nat
  publicOwner : Nat
  value : Int

/-- The `permitArgs` of `createPermitArgs`: the depositor's permit signature and its deadline. -/
structure PermitArgs where
  signature : Nat
  deadline : Nat
  deriving DecidableEq, Repr

/-- `this.pendingFundsStatus`: the funds last read from L1, and what `approve`,
`depositFundsToContract` and `approveProof` recorded. A flag the code leaves undefined is
`false`, as every read of it is a truth test. -/
structure PendingFundsStatus where
  pendingDeposit : Int
  pendingFunds : Int
  requiredFunds : Int
  permitArgs : Option PermitArgs
  approveTxHash : Option Nat
  approvedFromContractWallet : Bool
  txHash : Option Nat
  depositedFromContractWallet : Bool
  approveProofTxHash : Option Nat
  proofApprovedFromContractWallet : Bool
  deriving DecidableEq, Repr

/-- The status a controller starts with: no funds and nothing recorded. -/
def PendingFundsStatus.initial : PendingFundsStatus :=
  ⟨0, 0, 0, none, none, false, none, false, none, false⟩

namespace DepositController

/-- `createProof`: the deposit proof and, when a fee-paying tx is required, the fee payer's
payment proof of the fee. -/
def createProof (dc : DepositController) : DepositProofInput × Option PaymentProofInput :=
  let privateOutput :=
    if dc.requireFeePayingTx then dc.publicInput.value else dc.publicInput.value - dc.fee.value
  (⟨dc.publicInput.assetId, dc.publicInput.value, privateOutput⟩,
    if dc.requireFeePayingTx then
      dc.feePayer.map fun p => ⟨p.userId, dc.fee.assetId, 0, 0, dc.fee.value, 0, 0⟩
    else none)

lemma createProof_snd_isSome (dc : DepositController) (h : dc.requireFeePayingTx) :
    dc.createProof.2.isSome := by
  simpa [createProof, h] using dc.feePayerProvided h

/-- `getPendingFundsStatus`: the stored `status` with the funds recomputed from the depositor's
pending deposit on L1 and the SDK's unsettled deposit txs. -/
def getPendingFundsStatus (dc : DepositController) (status : PendingFundsStatus)
    (pendingDeposit : Int) (txs : List PendingDepositTx) : PendingFundsStatus :=
  let unsettledDeposit := (txs.filter fun tx =>
    tx.assetId = dc.publicInput.assetId ∧ tx.publicOwner = dc.depositor).foldl
      (fun sum tx => sum + tx.value) 0
  let pendingFunds := pendingDeposit - unsettledDeposit
  let requiredFunds :=
    if pendingFunds < dc.publicInput.value then dc.publicInput.value - pendingFunds else 0
  { status with pendingDeposit, pendingFunds, requiredFunds }

/-- What the deposit's value conservation asks of `createProof`: the deposit proof outputs
the deposit value, the fee it keeps plus the fee proof's input is the fee, the fee proof is
made exactly when a fee-paying tx is required, and the L1 amount is the deposit value plus
the fee the deposit proof keeps. -/
def ConservesValue (dc : DepositController) : Prop :=
  let deposit := dc.createProof.1
  let feeProof := dc.createProof.2
  deposit.privateOutput = dc.assetValue.value ∧
    (deposit.publicInput - deposit.privateOutput) + ((feeProof.map (·.privateInput)).getD 0) =
      dc.fee.value ∧
    feeProof.isSome = dc.requireFeePayingTx ∧
    dc.publicInput.value = dc.assetValue.value + (deposit.publicInput - deposit.privateOutput)

instance (dc : DepositController) : Decidable dc.ConservesValue :=
  inferInstanceAs (Decidable (_ ∧ _))

lemma newDepositController_ok {isSupported : Nat → Bool} {assetValue fee : AssetValue}
    {depositor : Nat} {feePayer : Option FeePayer} {dc : DepositController}
    (h : newDepositController isSupported assetValue fee depositor feePayer = .ok dc) :
    isSupported assetValue.assetId ∧ ¬(assetValue.value = 0 ∧ fee.value = 0) ∧
      dc.assetValue = assetValue ∧ dc.fee = fee ∧ dc.feePayer = feePayer ∧
      dc.publicInput = ⟨assetValue.assetId,
        assetValue.value + if fee.assetId = assetValue.assetId then fee.value else 0⟩ ∧
      dc.requireFeePayingTx =
        decide (fee.value ≠ 0 ∧ (fee.assetId ≠ assetValue.assetId ∨ feePayer.isSome)) := by
  unfold newDepositController at h
  split at h
  · cases h
  · split at h
    · cases h
    · dsimp only at h
      split at h
      · cases h
      · cases h
        simp_all

lemma getPendingFundsStatus_covers (dc : DepositController) (status : PendingFundsStatus)
    (pendingDeposit : Int) (txs : List PendingDepositTx) :
    let status := dc.getPendingFundsStatus status pendingDeposit txs
    0 ≤ status.requiredFunds ∧ dc.publicInput.value ≤ status.pendingFunds + status.requiredFunds ∧
      (status.pendingFunds < dc.publicInput.value →
        status.pendingFunds + status.requiredFunds = dc.publicInput.value) := by
  simp only [getPendingFundsStatus]
  split <;> omega

/-- A constructed controller conserves value exactly unless the fee is paid in the deposit's
asset by a fee payer: then the deposit proof keeps the fee in its private output while the
fee payer pays it too. -/
theorem conservesValue_iff {isSupported : Nat → Bool} {assetValue fee : AssetValue}
    {depositor : Nat} {feePayer : Option FeePayer} {dc : DepositController}
    (h : newDepositController isSupported assetValue fee depositor feePayer = .ok dc) :
    dc.ConservesValue ↔ ¬(fee.value ≠ 0 ∧ fee.assetId = assetValue.assetId ∧ feePayer.isSome) := by
  obtain ⟨-, -, hav, hfee, hfp, hpub, hreq⟩ := newDepositController_ok h
  have hprov := dc.feePayerProvided
  rw [hreq, hfp] at hprov
  simp only [ConservesValue, createProof, hav, hfee, hfp, hpub, hreq]
  by_cases hf : fee.value = 0
  · simp [hf]
  · by_cases ha : fee.assetId = assetValue.assetId
    · cases feePayer <;> simp [hf, ha]
    · obtain ⟨p, rfl⟩ := Option.isSome_iff_exists.mp (hprov (by simp [hf, ha]))
      simp [hf, ha]

/-- A deposit of `5` in asset `0` whose fee of `1` in asset `1` a fee payer pays. -/
theorem conservesValue_iff_feeInOtherAsset :
    ∃ dc, newDepositController (fun _ => true) ⟨0, 5⟩ ⟨1, 1⟩ 9 (some ⟨5⟩) = .ok dc ∧
      (dc.ConservesValue ↔ ¬((1 : Int) ≠ 0 ∧ 1 = 0 ∧ (some (⟨5⟩ : FeePayer)).isSome)) :=
  ⟨_, rfl, @conservesValue_iff (fun _ => true) ⟨0, 5⟩ ⟨1, 1⟩ 9 (some ⟨5⟩) _ rfl⟩

end DepositController

/-- A deposit of `1` in asset `0` with a fee of `1` in asset `0` and a fee payer: the deposit
proof outputs `2`, the fee payer's proof pays the fee `1` as well, and value is not
conserved. -/
theorem createProof_feePayer_same_asset :
    ∃ dc, newDepositController (fun _ => true) ⟨0, 1⟩ ⟨0, 1⟩ 9 (some ⟨5⟩) = .ok dc ∧
      dc.createProof = (⟨0, 2, 2⟩, some ⟨5, 0, 0, 0, 1, 0, 0⟩) ∧ ¬ dc.ConservesValue :=
  ⟨_, rfl, rfl, by decide⟩


end AztecConnect
