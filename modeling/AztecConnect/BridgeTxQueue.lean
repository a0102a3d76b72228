import AztecConnect.Basic
import Mathlib.Data.List.Perm.Subperm
import Mathlib.Tactic.Ring
import Mathlib.Algebra.BigOperators.Group.List

/-!
# Bridge transaction queues

`BridgeTxQueue` holds the DeFi deposits of one bridge that are waiting for the bridge to
become profitable or to time out. Its module, `bridge_tx_queue.ts`, is not part of src:
the coordinator only calls it. The queue is modelled from the spec, and what the coordinator
relies on of `getTxsToRollup` is stated as three contracts: it returns only queued txs, it keeps
within the limits it is given, and it reports the resources of what it returns.
`getTxsToRollup` below, the spec's greedy decision, meets all three.
-/

namespace AztecConnect

/-- `Timeout` of `publish_time_manager.ts`: a deadline in milliseconds and its rollup number. -/
structure Timeout where
  timeout : Nat
  rollupNumber : Nat
  deriving DecidableEq, Repr

/-- `RollupTimeouts` of `publish_time_manager.ts`; the bridge timeouts are a `Map`. -/
structure RollupTimeouts where
  baseTimeout : Option Timeout
  bridgeTimeouts : Nat → Option Timeout

/-- `BridgeConfig` of `@aztec/barretenberg/rollup_provider`; the coordinator reads only the
bridge of each config. -/
structure BridgeConfig where
  bridgeCallData : Nat
  deriving DecidableEq, Repr

/-- Modelled from the spec: `BridgeTxQueue`, the queued txs of one bridge in insertion
order and the bridge's timeout, if it has one. -/
structure BridgeTxQueue where
  bridgeCallData : Nat
  bridgeTimeout : Option Timeout
  txQueue : List RollupTx

namespace BridgeTxQueue

/-- `new BridgeTxQueue(bridgeCallData, feeResolver, bridgeTimeout)`. -/
def new (bridgeCallData : Nat) (bridgeTimeout : Option Timeout) : BridgeTxQueue :=
  ⟨bridgeCallData, bridgeTimeout, []⟩

/-- Modelled from the spec: `addDefiTx` appends. -/
def addDefiTx (q : BridgeTxQueue) (tx : RollupTx) : BridgeTxQueue :=
  { q with txQueue := q.txQueue ++ [tx] }

/-- Modelled from the spec: a tx has timed out when the queue has a timeout and the tx was
created before it. -/
def transactionHasTimedOut (q : BridgeTxQueue) (tx : RollupTx) : Bool :=
  match q.bridgeTimeout with
  | none => false
  | some t => decide (tx.tx.created < t.timeout)

@[simp] lemma new_bridgeCallData (b : Nat) (t : Option Timeout) : (new b t).bridgeCallData = b := rfl
@[simp] lemma new_txQueue (b : Nat) (t : Option Timeout) : (new b t).txQueue = [] := rfl
@[simp] lemma addDefiTx_bridgeCallData (q : BridgeTxQueue) (tx : RollupTx) :
    (q.addDefiTx tx).bridgeCallData = q.bridgeCallData := rfl
@[simp] lemma addDefiTx_txQueue (q : BridgeTxQueue) (tx : RollupTx) :
    (q.addDefiTx tx).txQueue = q.txQueue ++ [tx] := rfl

end BridgeTxQueue

/-- `resourcesConsumed` of a `getTxsToRollup` result; the coordinator reads these two fields. -/
structure ResourcesConsumed where
  gasUsed : Int
  callDataUsed : Int

/-- The result of `getTxsToRollup`. -/
structure TxsToRollup where
  txsToRollup : List RollupTx
  resourcesConsumed : ResourcesConsumed

/-- `bridgeQueue.getTxsToRollup(slotsRemaining, currentAssetIds, maxAssets, gasRemaining,
callDataRemaining)`, as a function of the queue. -/
abbrev GetTxsToRollup := BridgeTxQueue → Nat → AssetIds → Nat → Int → Int → TxsToRollup

/-- The gas a DeFi deposit adds above the base verification gas already reserved for its
slot, as `verifyResourceLimits` sums it. -/
def defiTxGas (fee : TxFeeResolver) (t : RollupTx) : Int :=
  fee.getUnadjustedTxGas t.fee.assetId .defiDeposit - fee.getUnadjustedBaseVerificationGas

/-- The fee asset `addTxs` records for an admitted DeFi tx: only a non-zero fee in a
fee-paying asset. -/
def admitFeeAsset (fee : TxFeeResolver) (ids : AssetIds) (t : RollupTx) : AssetIds :=
  if t.fee.value ≠ 0 ∧ fee.isFeePayingAsset t.fee.assetId then ids.add t.fee.assetId else ids

/-- The asset set after `addTxs` admits `ts`. -/
def admitFeeAssets (fee : TxFeeResolver) (ids : AssetIds) (ts : List RollupTx) : AssetIds :=
  ts.foldl (admitFeeAsset fee) ids

@[simp] lemma admitFeeAssets_nil (fee : TxFeeResolver) (ids : AssetIds) :
    admitFeeAssets fee ids [] = ids := rfl

@[simp] lemma admitFeeAssets_cons (fee : TxFeeResolver) (ids : AssetIds) (t : RollupTx)
    (ts : List RollupTx) :
    admitFeeAssets fee ids (t :: ts) = admitFeeAssets fee (admitFeeAsset fee ids t) ts := rfl

@[simp] lemma admitFeeAssets_append (fee : TxFeeResolver) (ids : AssetIds) (ts us : List RollupTx) :
    admitFeeAssets fee ids (ts ++ us) = admitFeeAssets fee (admitFeeAssets fee ids ts) us := by
  simp [admitFeeAssets]

/-! ## The contracts of `getTxsToRollup` -/

/-- The queue returns some of its own queued txs, each at most as often as it holds it. -/
def TxsFromQueue (getTxsToRollup : GetTxsToRollup) : Prop :=
  ∀ q n ids m g d, (getTxsToRollup q n ids m g d).txsToRollup.Subperm q.txQueue

/-- The queue respects the limits it is given: at most `slotsRemaining` txs, the current
assets with the fee assets it admits within `maxAssets`, and the resources it reports within
the gas and calldata remaining. -/
structure TxsToRollupWithinLimits (fee : TxFeeResolver) (getTxsToRollup : GetTxsToRollup) :
    Prop where
  slots : ∀ q n ids m g d, (getTxsToRollup q n ids m g d).txsToRollup.length ≤ n
  assets : ∀ q n ids m g d, ids.size ≤ m →
    (admitFeeAssets fee ids (getTxsToRollup q n ids m g d).txsToRollup).size ≤ m
  gas : ∀ q n ids m g d, 0 ≤ g → (getTxsToRollup q n ids m g d).resourcesConsumed.gasUsed ≤ g
  callData : ∀ q n ids m g d, 0 ≤ d →
    (getTxsToRollup q n ids m g d).resourcesConsumed.callDataUsed ≤ d

/-- The queue reports what `verifyResourceLimits` would charge for the txs it returns: the
full bridge gas once, when it returns any, and each tx's gas and calldata. -/
structure TxsToRollupCharges (fee : TxFeeResolver) (getTxsToRollup : GetTxsToRollup) :
    Prop where
  gas : ∀ q n ids m g d, (getTxsToRollup q n ids m g d).resourcesConsumed.gasUsed =
    (if (getTxsToRollup q n ids m g d).txsToRollup = [] then 0
      else fee.getFullBridgeGasFromContract q.bridgeCallData) +
    ((getTxsToRollup q n ids m g d).txsToRollup.map (defiTxGas fee)).sum
  callData : ∀ q n ids m g d, (getTxsToRollup q n ids m g d).resourcesConsumed.callDataUsed =
    (getTxsToRollup q n ids m g d).txsToRollup.length * fee.getTxCallData .defiDeposit

/-! ## The spec's selection decision -/

/-- The txs the greedy pass of `getTxsToRollup` has taken so far, with the asset set and the
gas and calldata they consume. -/
structure Taken where
  txs : List RollupTx
  assetIds : AssetIds
  gasUsed : Int
  callDataUsed : Int

section Greedy

variable (fee : TxFeeResolver) (bridgeGas : Int) (slotsRemaining maxAssets : Nat)
  (gasRemaining callDataRemaining : Int)

/-- Takes one more queued tx; the full bridge gas is charged with the first. -/
def Taken.push (a : Taken) (t : RollupTx) : Taken :=
  ⟨a.txs ++ [t], admitFeeAsset fee a.assetIds t,
    a.gasUsed + (if a.txs = [] then bridgeGas else 0) + defiTxGas fee t,
    a.callDataUsed + fee.getTxCallData .defiDeposit⟩

/-- The limits of one call of `getTxsToRollup`. -/
def Taken.Within (a : Taken) : Prop :=
  a.txs.length ≤ slotsRemaining ∧ a.assetIds.size ≤ maxAssets ∧ a.gasUsed ≤ gasRemaining ∧
    a.callDataUsed ≤ callDataRemaining

/-- Takes queued txs in order while the next one fits, and stops at the first that does not. -/
def takeFitting : Taken → List RollupTx → Taken
  | a, [] => a
  | a, t :: rest =>
    if a.txs.length < slotsRemaining ∧ (a.push fee bridgeGas t).assetIds.size ≤ maxAssets ∧
        (a.push fee bridgeGas t).gasUsed ≤ gasRemaining ∧
        (a.push fee bridgeGas t).callDataUsed ≤ callDataRemaining then
      takeFitting (a.push fee bridgeGas t) rest
    else a

lemma takeFitting_induction (P : Taken → Prop)
    (hpush : ∀ a t, P a → a.txs.length < slotsRemaining →
      (a.push fee bridgeGas t).Within slotsRemaining maxAssets gasRemaining callDataRemaining →
      P (a.push fee bridgeGas t)) :
    ∀ a l, P a →
      P (takeFitting fee bridgeGas slotsRemaining maxAssets gasRemaining callDataRemaining a l) := by
  intro a l ha
  induction l generalizing a with
  | nil => exact ha
  | cons t l ih =>
    simp only [takeFitting]
    split
    · rename_i h
      exact ih _ (hpush a t ha h.1 ⟨by simp [Taken.push]; omega, h.2⟩)
    · exact ha

lemma takeFitting_txs (a : Taken) (l : List RollupTx) : ∃ p, p <+: l ∧
    (takeFitting fee bridgeGas slotsRemaining maxAssets gasRemaining callDataRemaining a l).txs =
      a.txs ++ p := by
  induction l generalizing a with
  | nil => exact ⟨[], List.nil_prefix, by simp [takeFitting]⟩
  | cons t l ih =>
    simp only [takeFitting]
    split
    · obtain ⟨p, hp, he⟩ := ih (a.push fee bridgeGas t)
      exact ⟨t :: p, List.cons_prefix_cons.mpr ⟨rfl, hp⟩, by rw [he]; simp [Taken.push]⟩
    · exact ⟨[], List.nil_prefix, by simp⟩

end Greedy

/-- Modelled from the spec (4.2): `BridgeTxQueue.getTxsToRollup`. The bridge may enter the
rollup when the excess gas of its queued txs covers the full bridge gas or when the head of
its queue has timed out; its queued txs are then taken in insertion order while each fits
the slots, the asset set and the remaining gas and calldata. -/
def BridgeTxQueue.getTxsToRollup (fee : TxFeeResolver) : GetTxsToRollup :=
  fun q slotsRemaining currentAssetIds maxAssets gasRemaining callDataRemaining =>
    let bridgeGas := fee.getFullBridgeGasFromContract q.bridgeCallData
    let profitable := decide (bridgeGas ≤ (q.txQueue.map (·.excessGas)).sum)
    let deadlined := (q.txQueue.head?.map q.transactionHasTimedOut).getD false
    if profitable || deadlined then
      let taken := takeFitting fee bridgeGas slotsRemaining maxAssets gasRemaining
        callDataRemaining ⟨[], currentAssetIds, 0, 0⟩ q.txQueue
      ⟨taken.txs, ⟨taken.gasUsed, taken.callDataUsed⟩⟩
    else ⟨[], ⟨0, 0⟩⟩

namespace BridgeTxQueue

variable (fee : TxFeeResolver) (q : BridgeTxQueue) (n : Nat) (ids : AssetIds) (m : Nat) (g d : Int)

/-- The greedy pass of one call, from nothing taken. -/
def taken : Taken :=
  takeFitting fee (fee.getFullBridgeGasFromContract q.bridgeCallData) n m g d ⟨[], ids, 0, 0⟩
    q.txQueue

lemma getTxsToRollup_cases (P : TxsToRollup → Prop) (hnil : P ⟨[], ⟨0, 0⟩⟩)
    (htaken : P ⟨(taken fee q n ids m g d).txs,
      ⟨(taken fee q n ids m g d).gasUsed, (taken fee q n ids m g d).callDataUsed⟩⟩) :
    P (getTxsToRollup fee q n ids m g d) := by
  unfold getTxsToRollup
  dsimp only
  split
  · exact htaken
  · exact hnil

lemma taken_slots : (taken fee q n ids m g d).txs.length ≤ n :=
  takeFitting_induction fee _ n m g d (fun a => a.txs.length ≤ n) (fun _ _ _ _ h => h.1) _ _
    (Nat.zero_le _)

lemma taken_assets (hm : ids.size ≤ m) : (taken fee q n ids m g d).assetIds.size ≤ m :=
  takeFitting_induction fee _ n m g d (fun a => a.assetIds.size ≤ m) (fun _ _ _ _ h => h.2.1) _ _ hm

lemma taken_gas (hg : 0 ≤ g) : (taken fee q n ids m g d).gasUsed ≤ g :=
  takeFitting_induction fee _ n m g d (fun a => a.gasUsed ≤ g) (fun _ _ _ _ h => h.2.2.1) _ _ hg

lemma taken_callData (hd : 0 ≤ d) : (taken fee q n ids m g d).callDataUsed ≤ d :=
  takeFitting_induction fee _ n m g d (fun a => a.callDataUsed ≤ d) (fun _ _ _ _ h => h.2.2.2) _ _
    hd

lemma taken_charged :
    (taken fee q n ids m g d).assetIds = admitFeeAssets fee ids (taken fee q n ids m g d).txs ∧
    (taken fee q n ids m g d).gasUsed = (if (taken fee q n ids m g d).txs = [] then 0
      else fee.getFullBridgeGasFromContract q.bridgeCallData) +
      ((taken fee q n ids m g d).txs.map (defiTxGas fee)).sum ∧
    (taken fee q n ids m g d).callDataUsed =
      (taken fee q n ids m g d).txs.length * fee.getTxCallData .defiDeposit := by
  refine takeFitting_induction fee _ n m g d (fun a => a.assetIds = admitFeeAssets fee ids a.txs ∧
    a.gasUsed = (if a.txs = [] then 0 else fee.getFullBridgeGasFromContract q.bridgeCallData) +
      (a.txs.map (defiTxGas fee)).sum ∧ a.callDataUsed = a.txs.length * fee.getTxCallData .defiDeposit)
    ?_ _ _ ⟨rfl, by simp, by simp⟩
  rintro a t ⟨h1, h2, h3⟩ - -
  refine ⟨by simp [Taken.push, h1], ?_, by simp [Taken.push, h3]; ring⟩
  by_cases h : a.txs = [] <;> simp [Taken.push, h2, h]
  ring

theorem getTxsToRollup_fromQueue : TxsFromQueue (getTxsToRollup fee) := by
  intro q n ids m g d
  apply getTxsToRollup_cases (P := fun r => r.txsToRollup.Subperm q.txQueue) <;> dsimp only
  · exact List.nil_subperm
  · obtain ⟨p, hp, he⟩ := takeFitting_txs fee (fee.getFullBridgeGasFromContract q.bridgeCallData)
      n m g d ⟨[], ids, 0, 0⟩ q.txQueue
    rw [taken, he]
    exact hp.sublist.subperm

theorem getTxsToRollup_withinLimits : TxsToRollupWithinLimits fee (getTxsToRollup fee) where
  slots q n ids m g d := getTxsToRollup_cases fee q n ids m g d
    (fun r => r.txsToRollup.length ≤ n) (Nat.zero_le _) (taken_slots fee q n ids m g d)
  assets q n ids m g d hm := getTxsToRollup_cases fee q n ids m g d
    (fun r => (admitFeeAssets fee ids r.txsToRollup).size ≤ m) hm
    (by simpa only [← (taken_charged fee q n ids m g d).1] using taken_assets fee q n ids m g d hm)
  gas q n ids m g d hg := getTxsToRollup_cases fee q n ids m g d
    (fun r => r.resourcesConsumed.gasUsed ≤ g) hg (taken_gas fee q n ids m g d hg)
  callData q n ids m g d hd := getTxsToRollup_cases fee q n ids m g d
    (fun r => r.resourcesConsumed.callDataUsed ≤ d) hd (taken_callData fee q n ids m g d hd)

theorem getTxsToRollup_charges : TxsToRollupCharges fee (getTxsToRollup fee) where
  gas q n ids m g d := getTxsToRollup_cases fee q n ids m g d
    (fun r => r.resourcesConsumed.gasUsed = (if r.txsToRollup = [] then 0
      else fee.getFullBridgeGasFromContract q.bridgeCallData) + (r.txsToRollup.map (defiTxGas fee)).sum)
    (by simp) (taken_charged fee q n ids m g d).2.1
  callData q n ids m g d := getTxsToRollup_cases fee q n ids m g d
    (fun r => r.resourcesConsumed.callDataUsed = r.txsToRollup.length * fee.getTxCallData .defiDeposit)
    (by simp) (taken_charged fee q n ids m g d).2.2

end BridgeTxQueue

end AztecConnect
