import Mathlib.Data.List.Nodup

/-!
# Pending transactions and rollup resources

The data the falafel `RollupCoordinator` reads from a pending transaction: its `TxType`,
the public inputs `ProofData` decodes from its proof, and the `RollupTx` wrapper built when
the tx is considered for a rollup. `RollupResources` is the accumulator that
`getNextTxsToRollup` threads through its selection loop, and `RollupCoordinator` holds the
constructor arguments that selection and publication read.
-/

namespace AztecConnect

/-- `TxType` of `@aztec/barretenberg/blockchain`. -/
inductive TxType
  | deposit | transfer | withdrawLowGas | withdrawHighGas | account | defiDeposit | defiClaim
  deriving DecidableEq, Repr

/-- `isAccountTx` of `@aztec/barretenberg/blockchain`. -/
def isAccountTx (txType : TxType) : Bool := txType = .account

/-- `isDefiDepositTx` of `@aztec/barretenberg/blockchain`. -/
def isDefiDepositTx (txType : TxType) : Bool := txType = .defiDeposit

/-- The public inputs of a client proof as `ProofData` (and `DefiDepositProofData`, for the
bridge) decode them from `tx.proofData`. A 32-byte field is read as its big-endian number,
so the all-zero `Buffer.alloc(32)` is `0`. -/
structure ProofData where
  feeAssetId : Nat
  txFee : Nat
  noteCommitment1 : Nat
  noteCommitment2 : Nat
  backwardLink : Nat
  bridgeCallData : Nat
  deriving DecidableEq, Repr

/-- The columns of a pending `TxDao` row that the coordinator reads; `created` is in
milliseconds and `proofData` is already decoded. -/
structure TxDao where
  id : Nat
  txType : TxType
  created : Nat
  excessGas : Int
  proofData : ProofData
  deriving DecidableEq, Repr

/-- `AssetValue` of `@aztec/barretenberg/asset`; the value is a `bigint`. -/
structure AssetValue where
  assetId : Nat
  value : Int
  deriving DecidableEq, Repr

/-- `RollupTx` of `bridge_tx_queue.ts`: a pending tx with its fee and, for a DeFi deposit,
the bridge it calls. -/
structure RollupTx where
  tx : TxDao
  fee : AssetValue
  bridgeCallData : Option Nat
  excessGas : Int
  deriving DecidableEq, Repr

/-- Modelled from the spec: `createRollupTx` of `bridge_tx_queue.ts` (absent from src) wraps
a tx with the fee its proof pays and no bridge. -/
def createRollupTx (tx : TxDao) (proof : ProofData) : RollupTx :=
  ⟨tx, ⟨proof.feeAssetId, proof.txFee⟩, none, tx.excessGas⟩

/-- Modelled from the spec: `createDefiRollupTx` of `bridge_tx_queue.ts` (absent from src)
wraps a DeFi deposit with the fee its proof pays and the bridge it calls. -/
def createDefiRollupTx (tx : TxDao) (proof : ProofData) : RollupTx :=
  ⟨tx, ⟨proof.feeAssetId, proof.txFee⟩, some proof.bridgeCallData, tx.excessGas⟩

@[simp] lemma createRollupTx_tx (tx : TxDao) (p : ProofData) : (createRollupTx tx p).tx = tx := rfl
@[simp] lemma createRollupTx_fee (tx : TxDao) (p : ProofData) :
    (createRollupTx tx p).fee = ⟨p.feeAssetId, p.txFee⟩ := rfl
@[simp] lemma createRollupTx_bridgeCallData (tx : TxDao) (p : ProofData) :
    (createRollupTx tx p).bridgeCallData = none := rfl
@[simp] lemma createDefiRollupTx_tx (tx : TxDao) (p : ProofData) :
    (createDefiRollupTx tx p).tx = tx := rfl
@[simp] lemma createDefiRollupTx_fee (tx : TxDao) (p : ProofData) :
    (createDefiRollupTx tx p).fee = ⟨p.feeAssetId, p.txFee⟩ := rfl
@[simp] lemma createDefiRollupTx_bridgeCallData (tx : TxDao) (p : ProofData) :
    (createDefiRollupTx tx p).bridgeCallData = some p.bridgeCallData := rfl

/-- A JavaScript `Set<number>`: its elements in insertion order, each once. -/
@[ext] structure AssetIds where
  ids : List Nat
  nodup : ids.Nodup

namespace AssetIds

/-- `new Set<number>()`. -/
def empty : AssetIds := ⟨[], List.nodup_nil⟩

/-- `Set.prototype.has`. -/
def has (s : AssetIds) (a : Nat) : Bool := a ∈ s.ids

/-- `Set.prototype.size`. -/
def size (s : AssetIds) : Nat := s.ids.length

/-- `Set.prototype.add`: appends an element that is not yet present. -/
def add (s : AssetIds) (a : Nat) : AssetIds :=
  if h : a ∈ s.ids then s
  else ⟨s.ids ++ [a], s.nodup.append (List.nodup_singleton a) (by simpa using h)⟩

@[simp] lemma has_eq (s : AssetIds) (a : Nat) : s.has a = decide (a ∈ s.ids) := rfl

@[simp] lemma ids_empty : empty.ids = [] := rfl

@[simp] lemma size_empty : empty.size = 0 := rfl

@[simp] lemma mem_add {s : AssetIds} {a b : Nat} : b ∈ (s.add a).ids ↔ b = a ∨ b ∈ s.ids := by
  unfold add
  split <;> simp_all [or_comm]

lemma size_add (s : AssetIds) (a : Nat) :
    (s.add a).size = if a ∈ s.ids then s.size else s.size + 1 := by
  unfold add size
  split <;> simp_all

end AssetIds

/-- The `TxFeeResolver` queries the coordinator makes. Gas and calldata figures are
JavaScript numbers, so the differences the coordinator takes of them may be negative. They are
integers here: the model agrees with the code's doubles while every figure and every total the
coordinator forms stays below `2^53`, where doubles hold integers exactly. -/
structure TxFeeResolver where
  getUnadjustedBaseVerificationGas : Int
  getUnadjustedTxGas : Nat → TxType → Int
  getTxCallData : TxType → Int
  getFullBridgeGasFromContract : Nat → Int
  isFeePayingAsset : Nat → Bool
  getMaxUnadjustedGas : Int
  getMaxTxCallData : Int

/-- `RollupResources` of `bridge_tx_queue.ts`: gas and calldata used so far, the bridges
of the rollup in order of admission, and the fee-paying assets of its txs. The gas and calldata
totals are JavaScript numbers in the code and integers here, which agree below `2^53`. -/
structure RollupResources where
  gasUsed : Int
  callDataUsed : Int
  bridgeCallDatas : List Nat
  assetIds : AssetIds

/-- The constructor arguments of `RollupCoordinator` that selection and publication read,
with `RollupProofData.NUMBER_OF_ASSETS` and `RollupProofData.NUM_BRIDGE_CALLS_PER_BLOCK`,
fixed per deployment and not part of src. -/
structure RollupCoordinator where
  numInnerRollupTxs : Nat
  numOuterRollupProofs : Nat
  maxGasForRollup : Int
  maxCallDataForRollup : Int
  feeResolver : TxFeeResolver
  numberOfAssets : Nat
  numBridgeCallsPerBlock : Nat

/-- `this.totalSlots`, set in the constructor. -/
def RollupCoordinator.totalSlots (c : RollupCoordinator) : Nat :=
  c.numOuterRollupProofs * c.numInnerRollupTxs

end AztecConnect
