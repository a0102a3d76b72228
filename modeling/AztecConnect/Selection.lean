import AztecConnect.BridgeTxQueue
import AztecConnect.PreSort

/-!
# Selecting the txs of the next rollup

`getNextTxsToRollup` walks the pre-sorted pending txs once. An account tx is taken when
its gas and calldata fit. Any other tx is discarded (its note commitments recorded, so that
txs chained to it are discarded too) when its fee asset would overflow the asset set, when
it chains off a discarded tx, or, outside DeFi, when it does not fit. A DeFi deposit goes
through `handleNewDefiTx`, which takes it at once, leaves it out, or queues it and asks the
bridge's queue which of its txs may enter. The loop state is `Selection`; every function of
the source is one definition below, under its name.
-/

namespace AztecConnect

/-- The state of the selection loop of `getNextTxsToRollup`: the selected `txs`, the
`resourceConsumption` accumulator, the `discardedCommitments`, and `this.bridgeQueues`. -/
structure Selection where
  txs : List RollupTx
  resources : RollupResources
  discardedCommitments : List Nat
  bridgeQueues : Nat → Option BridgeTxQueue

/-- `bridgeQueues.set(bridgeCallData, queue)` on the `Map` of queues. -/
def setQueue (queues : Nat → Option BridgeTxQueue) (bridgeCallData : Nat) (q : BridgeTxQueue) :
    Nat → Option BridgeTxQueue :=
  fun b => if b = bridgeCallData then some q else queues b

/-- `initialiseBridgeQueues`: an empty queue for each configured bridge, with its timeout. -/
def initialiseBridgeQueues (configs : List BridgeConfig) (rollupTimeouts : RollupTimeouts) :
    Nat → Option BridgeTxQueue :=
  configs.foldl (fun queues cfg => setQueue queues cfg.bridgeCallData
    (BridgeTxQueue.new cfg.bridgeCallData (rollupTimeouts.bridgeTimeouts cfg.bridgeCallData)))
    (fun _ => none)

/-- The object `verifyResourceLimits` returns. -/
structure NewConsumption where
  breach : Bool
  totalGasUsedInRollup : Int
  totalCallDataUsedInRollup : Int

section Selection

variable (c : RollupCoordinator) (getTxsToRollup : GetTxsToRollup)

/-- `validateAndUpdateRollupResources`: the consumption with the tx's gas and calldata
added, or `none` where the code returns `false` and leaves the consumption untouched. -/
def validateAndUpdateRollupResources (txType : TxType) (feeAssetId : Nat) (r : RollupResources) :
    Option RollupResources :=
  let gasUsedByTx := c.feeResolver.getUnadjustedTxGas feeAssetId txType -
    c.feeResolver.getUnadjustedBaseVerificationGas
  let callDataUsedByTx := c.feeResolver.getTxCallData txType
  let newGasUsed := gasUsedByTx + r.gasUsed
  let newCallDataUsed := callDataUsedByTx + r.callDataUsed
  if newGasUsed > c.maxGasForRollup ∨ newCallDataUsed > c.maxCallDataForRollup then none
  else some { r with callDataUsed := newCallDataUsed, gasUsed := newGasUsed }

/-- One tx of the `addTxs` closure of `handleNewDefiTx`: it is pushed, its fee asset is
recorded, and its bridge is pushed unless the incoming tx's `bridgeCallData` is listed. -/
def addTxsStep (bridgeCallData : Nat) (s : Selection) (t : RollupTx) : Selection :=
  { s with
    txs := s.txs ++ [t]
    resources := { s.resources with
      assetIds := admitFeeAsset c.feeResolver s.resources.assetIds t
      bridgeCallDatas :=
        if bridgeCallData ∈ s.resources.bridgeCallDatas then s.resources.bridgeCallDatas
        else s.resources.bridgeCallDatas ++ [t.bridgeCallData.getD 0] } }

/-- The `addTxs` closure of `handleNewDefiTx`. -/
def addTxs (bridgeCallData : Nat) (ts : List RollupTx) (s : Selection) : Selection :=
  ts.foldl (addTxsStep c bridgeCallData) s

/-- The `verifyResourceLimits` closure of `handleNewDefiTx`: the full bridge gas is charged
unless the bridge is already in the rollup. -/
def verifyResourceLimits (bridgeCallData : Nat) (bridgeAlreadyPresentInRollup : Bool)
    (r : RollupResources) (ts : List RollupTx) : NewConsumption :=
  let totalGasUsedInRollup := r.gasUsed +
    (if bridgeAlreadyPresentInRollup then 0
      else c.feeResolver.getFullBridgeGasFromContract bridgeCallData) +
    (ts.map (defiTxGas c.feeResolver)).sum
  let totalCallDataUsedInRollup :=
    r.callDataUsed + ts.length * c.feeResolver.getTxCallData .defiDeposit
  ⟨decide (totalGasUsedInRollup > c.maxGasForRollup ∨
      totalCallDataUsedInRollup > c.maxCallDataForRollup),
    totalGasUsedInRollup, totalCallDataUsedInRollup⟩

/-- The `checkAndAddTxs` closure of `handleNewDefiTx`: it checks `ts` and adds the incoming
`rollupTx`. -/
def checkAndAddTxs (rollupTx : RollupTx) (bridgeCallData : Nat)
    (bridgeAlreadyPresentInRollup : Bool) (ts : List RollupTx) (s : Selection) : Selection :=
  let newConsumption :=
    verifyResourceLimits c bridgeCallData bridgeAlreadyPresentInRollup s.resources ts
  if newConsumption.breach then s
  else
    let s := addTxs c bridgeCallData [rollupTx] s
    { s with resources := { s.resources with
        callDataUsed := newConsumption.totalCallDataUsedInRollup
        gasUsed := newConsumption.totalGasUsedInRollup } }

/-- `handleNewDefiTx`. -/
def handleNewDefiTx (tx : TxDao) (remainingTxSlots : Nat) (flush : Bool) (s : Selection) :
    Selection :=
  let rollupTx := createDefiRollupTx tx tx.proofData
  let bridgeCallData := rollupTx.bridgeCallData.getD 0
  let bridgeAlreadyPresentInRollup := decide (bridgeCallData ∈ s.resources.bridgeCallDatas)
  if bridgeAlreadyPresentInRollup then
    checkAndAddTxs c rollupTx bridgeCallData bridgeAlreadyPresentInRollup [rollupTx] s
  else if s.resources.bridgeCallDatas.length = c.numBridgeCallsPerBlock then s
  else if flush then
    checkAndAddTxs c rollupTx bridgeCallData bridgeAlreadyPresentInRollup [rollupTx] s
  else
    let bridgeQueue := (s.bridgeQueues bridgeCallData).getD (BridgeTxQueue.new bridgeCallData none)
    let s := { s with bridgeQueues := setQueue s.bridgeQueues bridgeCallData bridgeQueue }
    if bridgeQueue.transactionHasTimedOut rollupTx then
      checkAndAddTxs c rollupTx bridgeCallData bridgeAlreadyPresentInRollup [rollupTx] s
    else
      let bridgeQueue := bridgeQueue.addDefiTx rollupTx
      let s := { s with bridgeQueues := setQueue s.bridgeQueues bridgeCallData bridgeQueue }
      let bridgeQueueResult := getTxsToRollup bridgeQueue remainingTxSlots s.resources.assetIds
        c.numberOfAssets (c.maxGasForRollup - s.resources.gasUsed)
        (c.maxCallDataForRollup - s.resources.callDataUsed)
      let s := addTxs c bridgeCallData bridgeQueueResult.txsToRollup s
      { s with resources := { s.resources with
          callDataUsed := s.resources.callDataUsed + bridgeQueueResult.resourcesConsumed.callDataUsed
          gasUsed := s.resources.gasUsed + bridgeQueueResult.resourcesConsumed.gasUsed } }

/-- The body of the selection loop of `getNextTxsToRollup` for one pending tx. -/
def selectTx (flush : Bool) (s : Selection) (tx : TxDao) : Selection :=
  let proofData := tx.proofData
  let assetId := proofData.feeAssetId
  if isAccountTx tx.txType then
    match validateAndUpdateRollupResources c .account 0 s.resources with
    | some r => { s with resources := r, txs := s.txs ++ [createRollupTx tx proofData] }
    | none => s
  else
    let discardTx : Selection := { s with discardedCommitments :=
      s.discardedCommitments ++ [proofData.noteCommitment1, proofData.noteCommitment2] }
    if c.feeResolver.isFeePayingAsset assetId ∧ ¬s.resources.assetIds.has assetId ∧
        s.resources.assetIds.size = c.numberOfAssets then discardTx
    else if proofData.backwardLink ≠ 0 ∧ proofData.backwardLink ∈ s.discardedCommitments then
      discardTx
    else if ¬isDefiDepositTx tx.txType then
      match validateAndUpdateRollupResources c tx.txType assetId s.resources with
      | none => discardTx
      | some r =>
        { s with
          resources := { r with assetIds :=
            if c.feeResolver.isFeePayingAsset assetId then r.assetIds.add assetId else r.assetIds }
          txs := s.txs ++ [createRollupTx tx proofData] }
    else handleNewDefiTx c getTxsToRollup tx (c.totalSlots - s.txs.length) flush s

/-- The selection loop: it runs while pending txs remain and a slot is free. -/
def selectTxs (flush : Bool) : Selection → List TxDao → Selection
  | s, [] => s
  | s, tx :: rest =>
    if s.txs.length < c.totalSlots then selectTxs flush (selectTx c getTxsToRollup flush s tx) rest
    else s

/-- The initial `resourceConsumption`: the base verification gas of every slot. -/
def initialResources : RollupResources :=
  ⟨c.totalSlots * c.feeResolver.getUnadjustedBaseVerificationGas, 0, [], AssetIds.empty⟩

/-- The loop state before the first pending tx. -/
def initialSelection (bridgeQueues : Nat → Option BridgeTxQueue) : Selection :=
  ⟨[], initialResources c, [], bridgeQueues⟩

/-- `getNextTxsToRollup`, with the engine's `sort` for the claim-first pre-sort. -/
def getNextTxsToRollup (sort : ArraySort) (bridgeQueues : Nat → Option BridgeTxQueue)
    (pendingTxs : List TxDao) (flush : Bool) : Selection :=
  selectTxs c getTxsToRollup flush (initialSelection c bridgeQueues) (sort claimFirst pendingTxs)

/-! ## One lemma per closure -/

@[simp] lemma setQueue_apply (queues : Nat → Option BridgeTxQueue) (b b' : Nat) (q : BridgeTxQueue) :
    setQueue queues b q b' = if b' = b then some q else queues b' := rfl

@[simp] lemma setQueue_setQueue (queues : Nat → Option BridgeTxQueue) (b : Nat) (q q' : BridgeTxQueue) :
    setQueue (setQueue queues b q) b q' = setQueue queues b q' := by
  funext b'
  by_cases h : b' = b <;> simp [h]

@[simp] lemma addTxs_nil (b : Nat) (s : Selection) : addTxs c b [] s = s := rfl

lemma addTxs_cons (b : Nat) (t : RollupTx) (ts : List RollupTx) (s : Selection) :
    addTxs c b (t :: ts) s = addTxs c b ts (addTxsStep c b s t) := rfl

@[simp] lemma addTxs_txs (b : Nat) (ts : List RollupTx) (s : Selection) :
    (addTxs c b ts s).txs = s.txs ++ ts := by
  induction ts generalizing s <;> simp_all [addTxs_cons, addTxsStep]

lemma addTxs_frame (b : Nat) (ts : List RollupTx) (s : Selection) :
    (addTxs c b ts s).resources.gasUsed = s.resources.gasUsed ∧
    (addTxs c b ts s).resources.callDataUsed = s.resources.callDataUsed ∧
    (addTxs c b ts s).discardedCommitments = s.discardedCommitments ∧
    (addTxs c b ts s).bridgeQueues = s.bridgeQueues := by
  induction ts generalizing s with
  | nil => simp
  | cons t ts ih => simpa [addTxs_cons, addTxsStep] using ih (addTxsStep c b s t)

@[simp] lemma addTxs_gasUsed (b : Nat) (ts : List RollupTx) (s : Selection) :
    (addTxs c b ts s).resources.gasUsed = s.resources.gasUsed := (addTxs_frame c b ts s).1

@[simp] lemma addTxs_callDataUsed (b : Nat) (ts : List RollupTx) (s : Selection) :
    (addTxs c b ts s).resources.callDataUsed = s.resources.callDataUsed := (addTxs_frame c b ts s).2.1

@[simp] lemma addTxs_discardedCommitments (b : Nat) (ts : List RollupTx) (s : Selection) :
    (addTxs c b ts s).discardedCommitments = s.discardedCommitments := (addTxs_frame c b ts s).2.2.1

@[simp] lemma addTxs_bridgeQueues (b : Nat) (ts : List RollupTx) (s : Selection) :
    (addTxs c b ts s).bridgeQueues = s.bridgeQueues := (addTxs_frame c b ts s).2.2.2

@[simp] lemma addTxs_assetIds (b : Nat) (ts : List RollupTx) (s : Selection) :
    (addTxs c b ts s).resources.assetIds = admitFeeAssets c.feeResolver s.resources.assetIds ts := by
  induction ts generalizing s <;> simp_all [addTxs_cons, addTxsStep]

lemma addTxs_bridgeCallDatas (b : Nat) (ts : List RollupTx) (s : Selection)
    (hts : ∀ t ∈ ts, t.bridgeCallData = some b) :
    (addTxs c b ts s).resources.bridgeCallDatas =
      if ts = [] ∨ b ∈ s.resources.bridgeCallDatas then s.resources.bridgeCallDatas
      else s.resources.bridgeCallDatas ++ [b] := by
  induction ts generalizing s with
  | nil => simp
  | cons t ts ih =>
    rw [addTxs_cons, ih _ (fun u hu => hts u (List.mem_cons_of_mem t hu))]
    by_cases hb : b ∈ s.resources.bridgeCallDatas <;> simp [addTxsStep, hb, hts t (List.mem_cons_self t ts)]

lemma validateAndUpdateRollupResources_some {txType : TxType} {feeAssetId : Nat}
    {r r' : RollupResources} (h : validateAndUpdateRollupResources c txType feeAssetId r = some r') :
    r' = { r with
      gasUsed := c.feeResolver.getUnadjustedTxGas feeAssetId txType -
        c.feeResolver.getUnadjustedBaseVerificationGas + r.gasUsed
      callDataUsed := c.feeResolver.getTxCallData txType + r.callDataUsed } ∧
    r'.gasUsed ≤ c.maxGasForRollup ∧ r'.callDataUsed ≤ c.maxCallDataForRollup := by
  simp only [validateAndUpdateRollupResources, gt_iff_lt] at h
  split at h
  · cases h
  · cases h
    simp only [not_or, not_lt] at *
    exact ⟨trivial, by omega, by omega⟩

lemma checkAndAddTxs_of_fits {rollupTx : RollupTx} {b : Nat} {p : Bool} {ts : List RollupTx}
    {s : Selection} (h : (verifyResourceLimits c b p s.resources ts).breach = false) :
    checkAndAddTxs c rollupTx b p ts s =
      { addTxs c b [rollupTx] s with resources := { (addTxs c b [rollupTx] s).resources with
        callDataUsed := (verifyResourceLimits c b p s.resources ts).totalCallDataUsedInRollup
        gasUsed := (verifyResourceLimits c b p s.resources ts).totalGasUsedInRollup } } := by
  simp only [checkAndAddTxs, h]
  rfl

lemma verifyResourceLimits_fits {b : Nat} {p : Bool} {r : RollupResources} {ts : List RollupTx}
    (h : (verifyResourceLimits c b p r ts).breach = false) :
    (verifyResourceLimits c b p r ts).totalGasUsedInRollup ≤ c.maxGasForRollup ∧
    (verifyResourceLimits c b p r ts).totalCallDataUsedInRollup ≤ c.maxCallDataForRollup := by
  simp only [verifyResourceLimits, gt_iff_lt, decide_eq_false_iff_not, not_or, not_lt] at h ⊢
  exact h

/-! ## What one iteration can do -/

/-- The queue `handleNewDefiTx` works with for bridge `b`: the stored one, or a new one. -/
def Selection.queueOf (s : Selection) (b : Nat) : BridgeTxQueue :=
  (s.bridgeQueues b).getD (BridgeTxQueue.new b none)

lemma queueOf_of_bridgeQueues {s s' : Selection} (h : s'.bridgeQueues = s.bridgeQueues) :
    s'.queueOf = s.queueOf := by
  unfold Selection.queueOf
  rw [h]

@[simp] lemma queueOf_setQueue (s : Selection) (b b' : Nat) (q : BridgeTxQueue) :
    Selection.queueOf { s with bridgeQueues := setQueue s.bridgeQueues b q } b' =
      if b' = b then q else s.queueOf b' := by
  unfold Selection.queueOf
  split <;> simp [*]

@[simp] lemma addTxs_queueOf (c : RollupCoordinator) (b : Nat) (ts : List RollupTx) (s : Selection) :
    (addTxs c b ts s).queueOf = s.queueOf :=
  queueOf_of_bridgeQueues (addTxs_bridgeQueues c b ts s)

@[simp] lemma queueOf_setQueue_queueOf (s : Selection) (b : Nat) :
    Selection.queueOf { s with bridgeQueues := setQueue s.bridgeQueues b (s.queueOf b) } =
      s.queueOf := by
  funext b'
  rw [queueOf_setQueue]
  split <;> simp [*]

/-- The first discard test of the loop: a fee-paying asset that the full asset set lacks. -/
def Selection.AssetSetFull (s : Selection) (assetId : Nat) : Prop :=
  c.feeResolver.isFeePayingAsset assetId ∧ assetId ∉ s.resources.assetIds.ids ∧
    s.resources.assetIds.size = c.numberOfAssets

/-- The second discard test of the loop: the tx chains off a discarded tx. -/
def Selection.ChainsOffDiscarded (s : Selection) (proofData : ProofData) : Prop :=
  proofData.backwardLink ≠ 0 ∧ proofData.backwardLink ∈ s.discardedCommitments

/-- Every outcome of one iteration of the selection loop on a pending tx. -/
inductive SelectStep (tx : TxDao) (s : Selection) : Selection → Prop
  /-- An account tx or a DeFi deposit is left out and nothing changes. -/
  | skip : tx.txType = .account ∨ tx.txType = .defiDeposit → SelectStep tx s s
  /-- A timed-out DeFi deposit that does not fit: only its bridge's queue is stored. -/
  | store : tx.txType = .defiDeposit →
      SelectStep tx s { s with
        bridgeQueues := setQueue s.bridgeQueues tx.proofData.bridgeCallData
          (s.queueOf tx.proofData.bridgeCallData) }
  /-- The tx is discarded: its note commitments are recorded. -/
  | discard : tx.txType ≠ .account →
      SelectStep tx s { s with discardedCommitments :=
        s.discardedCommitments ++ [tx.proofData.noteCommitment1, tx.proofData.noteCommitment2] }
  /-- An account tx is taken. -/
  | account (r : RollupResources) : tx.txType = .account →
      validateAndUpdateRollupResources c .account 0 s.resources = some r →
      SelectStep tx s { s with resources := r, txs := s.txs ++ [createRollupTx tx tx.proofData] }
  /-- A tx other than an account tx or a DeFi deposit is taken. -/
  | nonDefi (r : RollupResources) : tx.txType ≠ .account → tx.txType ≠ .defiDeposit →
      ¬s.AssetSetFull c tx.proofData.feeAssetId → ¬s.ChainsOffDiscarded tx.proofData →
      validateAndUpdateRollupResources c tx.txType tx.proofData.feeAssetId s.resources = some r →
      SelectStep tx s { s with
        resources := { r with
          assetIds := if c.feeResolver.isFeePayingAsset tx.proofData.feeAssetId then
            r.assetIds.add tx.proofData.feeAssetId else r.assetIds }
        txs := s.txs ++ [createRollupTx tx tx.proofData] }
  /-- A DeFi deposit is taken at once: its bridge is in the rollup already, or the tick
  flushes, or it timed out (and its queue is stored). -/
  | direct (s₀ : Selection) : tx.txType = .defiDeposit → ¬s.AssetSetFull c tx.proofData.feeAssetId →
      ¬s.ChainsOffDiscarded tx.proofData →
      (tx.proofData.bridgeCallData ∈ s.resources.bridgeCallDatas ∨
        s.resources.bridgeCallDatas.length ≠ c.numBridgeCallsPerBlock) →
      (s₀ = s ∨ s₀ = { s with
        bridgeQueues := setQueue s.bridgeQueues tx.proofData.bridgeCallData
          (s.queueOf tx.proofData.bridgeCallData) }) →
      (verifyResourceLimits c tx.proofData.bridgeCallData
        (decide (tx.proofData.bridgeCallData ∈ s.resources.bridgeCallDatas)) s.resources
        [createDefiRollupTx tx tx.proofData]).breach = false →
      SelectStep tx s (checkAndAddTxs c (createDefiRollupTx tx tx.proofData)
        tx.proofData.bridgeCallData (decide (tx.proofData.bridgeCallData ∈ s.resources.bridgeCallDatas))
        [createDefiRollupTx tx tx.proofData] s₀)
  /-- A DeFi deposit of a bridge not yet in the rollup is queued, and the queue says which
  of its txs enter. -/
  | queued : tx.txType = .defiDeposit → ¬s.AssetSetFull c tx.proofData.feeAssetId →
      ¬s.ChainsOffDiscarded tx.proofData →
      tx.proofData.bridgeCallData ∉ s.resources.bridgeCallDatas →
      s.resources.bridgeCallDatas.length ≠ c.numBridgeCallsPerBlock →
      SelectStep tx s
        (let q := (s.queueOf tx.proofData.bridgeCallData).addDefiTx (createDefiRollupTx tx tx.proofData)
        let result := getTxsToRollup q (c.totalSlots - s.txs.length) s.resources.assetIds
          c.numberOfAssets (c.maxGasForRollup - s.resources.gasUsed)
          (c.maxCallDataForRollup - s.resources.callDataUsed)
        let s₁ := addTxs c tx.proofData.bridgeCallData result.txsToRollup
          { s with bridgeQueues := setQueue s.bridgeQueues tx.proofData.bridgeCallData q }
        { s₁ with resources := { s₁.resources with
            callDataUsed := s₁.resources.callDataUsed + result.resourcesConsumed.callDataUsed
            gasUsed := s₁.resources.gasUsed + result.resourcesConsumed.gasUsed } })

variable {c getTxsToRollup}

/-- The state a direct admission starts from differs from the loop state at most in storing a
queue the loop already sees. -/
lemma frame_of_direct {s s₀ : Selection} {b : Nat}
    (h₀ : s₀ = s ∨ s₀ = { s with bridgeQueues := setQueue s.bridgeQueues b (s.queueOf b) }) :
    s₀.txs = s.txs ∧ s₀.resources = s.resources ∧
      s₀.discardedCommitments = s.discardedCommitments ∧ s₀.queueOf = s.queueOf := by
  rcases h₀ with rfl | rfl
  · exact ⟨rfl, rfl, rfl, rfl⟩
  · exact ⟨rfl, rfl, rfl, queueOf_setQueue_queueOf s _⟩

lemma SelectStep.ofCheckAndAddTxs {tx : TxDao} {s s₀ : Selection} (htype : tx.txType = .defiDeposit)
    (hasset : ¬s.AssetSetFull c tx.proofData.feeAssetId) (hchain : ¬s.ChainsOffDiscarded tx.proofData)
    (hslot : tx.proofData.bridgeCallData ∈ s.resources.bridgeCallDatas ∨
      s.resources.bridgeCallDatas.length ≠ c.numBridgeCallsPerBlock)
    (h₀ : s₀ = s ∨ s₀ = { s with
      bridgeQueues := setQueue s.bridgeQueues tx.proofData.bridgeCallData
        (s.queueOf tx.proofData.bridgeCallData) }) :
    SelectStep c getTxsToRollup tx s (checkAndAddTxs c (createDefiRollupTx tx tx.proofData)
      tx.proofData.bridgeCallData (decide (tx.proofData.bridgeCallData ∈ s.resources.bridgeCallDatas))
      [createDefiRollupTx tx tx.proofData] s₀) := by
  have hr := (frame_of_direct h₀).2.1
  cases hb : (verifyResourceLimits c tx.proofData.bridgeCallData
      (decide (tx.proofData.bridgeCallData ∈ s.resources.bridgeCallDatas)) s.resources
      [createDefiRollupTx tx tx.proofData]).breach with
  | false => exact .direct s₀ htype hasset hchain hslot h₀ hb
  | true =>
    have : checkAndAddTxs c (createDefiRollupTx tx tx.proofData) tx.proofData.bridgeCallData
        (decide (tx.proofData.bridgeCallData ∈ s.resources.bridgeCallDatas))
        [createDefiRollupTx tx tx.proofData] s₀ = s₀ := by simp [checkAndAddTxs, hr, hb]
    rw [this]
    rcases h₀ with rfl | rfl
    · exact .skip (.inr htype)
    · exact .store htype

/-- The inversion lemma of the loop body: every iteration is one of the `SelectStep`s. -/
theorem selectTx_step (flush : Bool) (s : Selection) (tx : TxDao) :
    SelectStep c getTxsToRollup tx s (selectTx c getTxsToRollup flush s tx) := by
  unfold selectTx
  dsimp only
  split
  · rename_i hacc
    have hacc : tx.txType = .account := by simpa [isAccountTx] using hacc
    split
    · exact .account _ hacc ‹_›
    · exact .skip (.inl hacc)
  · rename_i hacc
    have hacc : tx.txType ≠ .account := by simpa [isAccountTx] using hacc
    split
    · exact .discard hacc
    · rename_i hfull
      have hasset : ¬s.AssetSetFull c tx.proofData.feeAssetId := by
        simpa [Selection.AssetSetFull] using hfull
      split
      · exact .discard hacc
      · rename_i hchain
        split
        · rename_i hdefi
          have hdefi : tx.txType ≠ .defiDeposit := by simpa [isDefiDepositTx] using hdefi
          split
          · exact .discard hacc
          · exact .nonDefi _ hacc hdefi hasset hchain ‹_›
        · rename_i hdefi
          have hdefi : tx.txType = .defiDeposit := by simpa [isDefiDepositTx] using hdefi
          unfold handleNewDefiTx
          simp only [createDefiRollupTx_bridgeCallData, Option.getD_some]
          split
          · rename_i hp
            exact .ofCheckAndAddTxs hdefi hasset hchain (.inl (by simpa using hp)) (.inl rfl)
          · rename_i hp
            have hp : tx.proofData.bridgeCallData ∉ s.resources.bridgeCallDatas := by simpa using hp
            split
            · exact .skip (.inr hdefi)
            · rename_i hlen
              split
              · exact .ofCheckAndAddTxs hdefi hasset hchain (.inr hlen) (.inl rfl)
              · split
                · exact .ofCheckAndAddTxs hdefi hasset hchain (.inr hlen) (.inr rfl)
                · simp only [setQueue_setQueue]
                  exact .queued hdefi hasset hchain hp hlen

/-- The run lemma: a property of the loop state that every iteration keeps while a slot is
free holds after the loop, from any state where it holds. -/
theorem selectTxs_induction (P : Selection → Prop) (flush : Bool)
    (hstep : ∀ s tx s', s.txs.length < c.totalSlots → P s → SelectStep c getTxsToRollup tx s s' →
      P s') :
    ∀ (l : List TxDao) (s : Selection), P s → P (selectTxs c getTxsToRollup flush s l)
  | [], _, h => h
  | tx :: rest, s, h => by
    simp only [selectTxs]
    split
    · exact selectTxs_induction P flush hstep rest _ (hstep s tx _ ‹_› h (selectTx_step flush s tx))
    · exact h

/-- The run lemma with the processed txs: a property of the processed prefix of the list
and the loop state, kept by every iteration while a slot is free, gives what holds of the
loop state for each processed prefix, after the loop. -/
theorem selectTxs_induction_processed (L : List TxDao) (P : List TxDao → Selection → Prop)
    (Q : Selection → Prop) (flush : Bool)
    (hstep : ∀ done tx s s', done ++ [tx] <+: L → s.txs.length < c.totalSlots → P done s →
      SelectStep c getTxsToRollup tx s s' → P (done ++ [tx]) s')
    (hstop : ∀ done s, done <+: L → P done s → Q s) :
    ∀ (rest done : List TxDao) (s : Selection), done ++ rest = L → P done s →
      Q (selectTxs c getTxsToRollup flush s rest)
  | [], done, s, hL, h => hstop done s ⟨[], hL⟩ h
  | tx :: rest, done, s, hL, h => by
    simp only [selectTxs]
    split
    · exact selectTxs_induction_processed L P Q flush hstep hstop rest (done ++ [tx]) _
        (by simpa using hL) (hstep done tx s _ ⟨rest, by simpa using hL⟩ ‹_› h (selectTx_step flush s tx))
    · exact hstop done s ⟨tx :: rest, hL⟩ h

lemma not_mem_of_processed {L done : List TxDao} {tx : TxDao} (hnd : L.Nodup) (h : done ++ [tx] <+: L) :
    tx ∉ done :=
  fun hm => (List.nodup_append.mp (h.sublist.nodup hnd)).2.2 hm (List.mem_singleton_self tx)

/-! ## The queues -/

/-- A DeFi deposit of bridge `b`, wrapped as `handleNewDefiTx` wraps it. -/
def QueuedFor (b : Nat) (t : RollupTx) : Prop :=
  t.tx.txType = .defiDeposit ∧ t.tx.proofData.bridgeCallData = b ∧
    t = createDefiRollupTx t.tx t.tx.proofData

/-- Each stored queue is the queue of its key and holds only that bridge's DeFi deposits. -/
def QueuesWellFormed (queues : Nat → Option BridgeTxQueue) : Prop :=
  ∀ b q, queues b = some q → q.bridgeCallData = b ∧ ∀ t ∈ q.txQueue, QueuedFor b t

lemma QueuedFor.bridgeCallData {b : Nat} {t : RollupTx} (h : QueuedFor b t) :
    t.bridgeCallData = some b := by
  rw [h.2.2, createDefiRollupTx_bridgeCallData, h.2.1]

lemma queuedFor_createDefiRollupTx {tx : TxDao} (h : tx.txType = .defiDeposit) :
    QueuedFor tx.proofData.bridgeCallData (createDefiRollupTx tx tx.proofData) :=
  ⟨h, rfl, rfl⟩

lemma QueuesWellFormed.setQueue {queues : Nat → Option BridgeTxQueue} (h : QueuesWellFormed queues)
    {b : Nat} {q : BridgeTxQueue} (hb : q.bridgeCallData = b) (hq : ∀ t ∈ q.txQueue, QueuedFor b t) :
    QueuesWellFormed (AztecConnect.setQueue queues b q) := by
  intro b' q' h'
  simp only [setQueue_apply] at h'
  split at h'
  · cases h'
    subst b'
    exact ⟨hb, hq⟩
  · exact h b' q' h'

lemma QueuesWellFormed.queueOf {s : Selection} (h : QueuesWellFormed s.bridgeQueues) (b : Nat) :
    (s.queueOf b).bridgeCallData = b ∧ ∀ t ∈ (s.queueOf b).txQueue, QueuedFor b t := by
  unfold Selection.queueOf
  cases hq : s.bridgeQueues b with
  | none => simp
  | some q => exact h b q hq

lemma initialiseBridgeQueues_eq_some {configs : List BridgeConfig} {timeouts : RollupTimeouts}
    {b : Nat} {q : BridgeTxQueue} (h : initialiseBridgeQueues configs timeouts b = some q) :
    q = BridgeTxQueue.new b (timeouts.bridgeTimeouts b) := by
  unfold initialiseBridgeQueues at h
  suffices ∀ (l : List BridgeConfig) (m : Nat → Option BridgeTxQueue),
      (∀ b q, m b = some q → q = BridgeTxQueue.new b (timeouts.bridgeTimeouts b)) →
      ∀ b q, l.foldl (fun queues cfg => AztecConnect.setQueue queues cfg.bridgeCallData
        (BridgeTxQueue.new cfg.bridgeCallData (timeouts.bridgeTimeouts cfg.bridgeCallData))) m b =
        some q → q = BridgeTxQueue.new b (timeouts.bridgeTimeouts b) from
    this configs _ (fun _ _ h => by cases h) b q h
  intro l
  induction l with
  | nil => exact fun _ h => h
  | cons cfg l ih =>
    refine fun m hm => ih _ fun b' q' h' => ?_
    simp only [setQueue_apply] at h'
    split at h'
    · cases h'
      subst b'
      rfl
    · exact hm b' q' h'

lemma initialiseBridgeQueues_wellFormed (configs : List BridgeConfig) (timeouts : RollupTimeouts) :
    QueuesWellFormed (initialiseBridgeQueues configs timeouts) := fun b q h => by
  rw [initialiseBridgeQueues_eq_some h]
  exact ⟨rfl, by simp⟩

@[simp] lemma checkAndAddTxs_bridgeQueues (rollupTx : RollupTx) (b : Nat) (p : Bool)
    (ts : List RollupTx) (s : Selection) :
    (checkAndAddTxs c rollupTx b p ts s).bridgeQueues = s.bridgeQueues := by
  simp only [checkAndAddTxs]
  split <;> simp

lemma QueuesWellFormed.addDefiTx {s : Selection} (h : QueuesWellFormed s.bridgeQueues) {tx : TxDao}
    (htype : tx.txType = .defiDeposit) :
    ∀ t ∈ ((s.queueOf tx.proofData.bridgeCallData).addDefiTx
      (createDefiRollupTx tx tx.proofData)).txQueue, QueuedFor tx.proofData.bridgeCallData t := by
  simp only [BridgeTxQueue.addDefiTx_txQueue, List.mem_append, List.mem_singleton]
  rintro t (ht | rfl)
  · exact (h.queueOf _).2 t ht
  · exact queuedFor_createDefiRollupTx htype

lemma SelectStep.queuesWellFormed {tx : TxDao} {s s' : Selection}
    (hstep : SelectStep c getTxsToRollup tx s s') (h : QueuesWellFormed s.bridgeQueues) :
    QueuesWellFormed s'.bridgeQueues := by
  cases hstep with
  | skip => exact h
  | store => exact h.setQueue (h.queueOf _).1 (h.queueOf _).2
  | discard => exact h
  | account => exact h
  | nonDefi => exact h
  | direct s₀ _ _ _ _ h₀ =>
    rw [checkAndAddTxs_bridgeQueues]
    rcases h₀ with rfl | rfl
    · exact h
    · exact h.setQueue (h.queueOf _).1 (h.queueOf _).2
  | queued htype =>
    simp only [addTxs_bridgeQueues]
    exact h.setQueue (h.queueOf _).1 (h.addDefiTx htype)

end Selection

end AztecConnect
