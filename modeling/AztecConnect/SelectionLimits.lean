import AztecConnect.Publish

/-!
# The selection stays within the rollup's limits

Every iteration of the selection loop keeps the selected txs within the slots, the bridge
list without repeats and within the bridge slots, the asset set within its size, and the
gas and calldata within the rollup's limits, whichever of the admission paths takes the
tx. Of the bridge queue only the limits it is given are assumed. So `aggregateAndPublish`
never finds more txs than slots, and the bridge list always pads to its fixed size.
-/

namespace AztecConnect

/-- The limits of a rollup, on a loop state of the selection. -/
structure WithinLimits (c : RollupCoordinator) (s : Selection) : Prop where
  slots : s.txs.length ≤ c.totalSlots
  bridgesNodup : s.resources.bridgeCallDatas.Nodup
  bridges : s.resources.bridgeCallDatas.length ≤ c.numBridgeCallsPerBlock
  assets : s.resources.assetIds.size ≤ c.numberOfAssets
  gas : s.resources.gasUsed ≤ c.maxGasForRollup
  callData : s.resources.callDataUsed ≤ c.maxCallDataForRollup

section Limits

variable {c : RollupCoordinator} {getTxsToRollup : GetTxsToRollup}

lemma WithinLimits.congr {s s' : Selection} (h : WithinLimits c s) (htxs : s'.txs = s.txs)
    (hres : s'.resources = s.resources) : WithinLimits c s' := by
  obtain ⟨h1, h2, h3, h4, h5, h6⟩ := h
  exact ⟨htxs ▸ h1, hres ▸ h2, hres ▸ h3, hres ▸ h4, hres ▸ h5, hres ▸ h6⟩

lemma size_add_le_of_not_full {s : Selection} {a : Nat} (hfull : ¬s.AssetSetFull c a)
    (hfp : c.feeResolver.isFeePayingAsset a) (hle : s.resources.assetIds.size ≤ c.numberOfAssets) :
    (s.resources.assetIds.add a).size ≤ c.numberOfAssets := by
  rw [AssetIds.size_add]
  split
  · exact hle
  · have : s.resources.assetIds.size ≠ c.numberOfAssets := fun h => hfull ⟨hfp, ‹_›, h⟩
    omega

lemma bridges_push_within {bcds : List Nat} {b N : Nat} {p : Prop} [Decidable p]
    (hnd : bcds.Nodup) (hle : bcds.length ≤ N) (hslot : b ∈ bcds ∨ bcds.length ≠ N)
    (hp : b ∈ bcds → p) :
    (if p then bcds else bcds ++ [b]).Nodup ∧ (if p then bcds else bcds ++ [b]).length ≤ N := by
  split
  · exact ⟨hnd, hle⟩
  · rename_i hnp
    have hb : b ∉ bcds := fun hb => hnp (hp hb)
    refine ⟨hnd.append (List.nodup_singleton b) (by simpa using hb), ?_⟩
    simp only [List.length_append, List.length_singleton]
    have := hslot.resolve_left hb
    omega

lemma WithinLimits.checkAndAddTxs {tx : TxDao} {s : Selection} {p : Bool} (h : WithinLimits c s)
    (hslot : s.txs.length < c.totalSlots) (hfull : ¬s.AssetSetFull c tx.proofData.feeAssetId)
    (hbridge : tx.proofData.bridgeCallData ∈ s.resources.bridgeCallDatas ∨
      s.resources.bridgeCallDatas.length ≠ c.numBridgeCallsPerBlock)
    (hfit : (verifyResourceLimits c tx.proofData.bridgeCallData p s.resources
      [createDefiRollupTx tx tx.proofData]).breach = false) :
    WithinLimits c (checkAndAddTxs c (createDefiRollupTx tx tx.proofData)
      tx.proofData.bridgeCallData p [createDefiRollupTx tx tx.proofData] s) := by
  rw [checkAndAddTxs_of_fits c hfit]
  obtain ⟨hg, hd⟩ := verifyResourceLimits_fits c hfit
  have hb := bridges_push_within (p := [createDefiRollupTx tx tx.proofData] = [] ∨ _)
    h.bridgesNodup h.bridges hbridge Or.inr
  rw [← addTxs_bridgeCallDatas c _ _ _ (by simp)] at hb
  refine ⟨by simp; omega, hb.1, hb.2, ?_, hg, hd⟩
  simp only [addTxs_assetIds, admitFeeAssets_cons, admitFeeAssets_nil, admitFeeAsset]
  split
  · exact size_add_le_of_not_full hfull (by simpa using (‹_› : _ ∧ _).2) h.assets
  · exact h.assets

lemma WithinLimits.addQueued {s : Selection} {b : Nat} (h : WithinLimits c s)
    (hlen : s.resources.bridgeCallDatas.length ≠ c.numBridgeCallsPerBlock) (result : TxsToRollup)
    (hbridge : ∀ t ∈ result.txsToRollup, t.bridgeCallData = some b)
    (hslots : result.txsToRollup.length ≤ c.totalSlots - s.txs.length)
    (hassets : (admitFeeAssets c.feeResolver s.resources.assetIds result.txsToRollup).size ≤
      c.numberOfAssets)
    (hgas : result.resourcesConsumed.gasUsed ≤ c.maxGasForRollup - s.resources.gasUsed)
    (hcd : result.resourcesConsumed.callDataUsed ≤ c.maxCallDataForRollup - s.resources.callDataUsed) :
    WithinLimits c
      (let s₁ := addTxs c b result.txsToRollup s
      { s₁ with resources := { s₁.resources with
          callDataUsed := s₁.resources.callDataUsed + result.resourcesConsumed.callDataUsed
          gasUsed := s₁.resources.gasUsed + result.resourcesConsumed.gasUsed } }) := by
  have hbs := bridges_push_within (b := b) (p := result.txsToRollup = [] ∨ _) h.bridgesNodup
    h.bridges (.inr hlen) Or.inr
  rw [← addTxs_bridgeCallDatas c _ _ _ hbridge] at hbs
  have := h.slots
  refine ⟨?_, hbs.1, hbs.2, by simpa using hassets, ?_, ?_⟩ <;> simp <;> omega

lemma SelectStep.withinLimits (hq : TxsFromQueue getTxsToRollup)
    (hl : TxsToRollupWithinLimits c.feeResolver getTxsToRollup) {tx : TxDao} {s s' : Selection}
    (hstep : SelectStep c getTxsToRollup tx s s') (hslot : s.txs.length < c.totalSlots)
    (hwf : QueuesWellFormed s.bridgeQueues) (h : WithinLimits c s) : WithinLimits c s' := by
  cases hstep with
  | skip => exact h
  | store => exact h.congr rfl rfl
  | discard => exact h.congr rfl rfl
  | account r _ hr =>
    obtain ⟨rfl, hg, hd⟩ := validateAndUpdateRollupResources_some c hr
    exact ⟨by simp; omega, h.bridgesNodup, h.bridges, h.assets, hg, hd⟩
  | nonDefi r _ _ hfull _ hr =>
    obtain ⟨rfl, hg, hd⟩ := validateAndUpdateRollupResources_some c hr
    refine ⟨by simp; omega, h.bridgesNodup, h.bridges, ?_, hg, hd⟩
    dsimp only
    split
    · exact size_add_le_of_not_full hfull ‹_› h.assets
    · exact h.assets
  | direct s₀ _ hfull _ hslot' h₀ hfit =>
    rcases h₀ with rfl | rfl
    · exact h.checkAndAddTxs hslot hfull hslot' hfit
    · exact WithinLimits.checkAndAddTxs (h.congr rfl rfl) hslot hfull hslot' hfit
  | queued htype _ _ _ hlen =>
    apply WithinLimits.addQueued
    case h => exact h.congr rfl rfl
    case hlen => exact hlen
    case hbridge => exact fun t ht => (hwf.addDefiTx htype t ((hq _ _ _ _ _ _).subset ht)).bridgeCallData
    case hslots => exact hl.slots _ _ _ _ _ _
    case hassets => exact hl.assets _ _ _ _ _ _ h.assets
    case hgas => exact hl.gas _ _ _ _ _ _ (by have := h.gas; omega)
    case hcd => exact hl.callData _ _ _ _ _ _ (by have := h.callData; omega)

/-- The run lemma for the limits: from a state within them, with well-formed queues, every
run of the loop stays within them. -/
lemma selectTxs_withinLimits (hq : TxsFromQueue getTxsToRollup)
    (hl : TxsToRollupWithinLimits c.feeResolver getTxsToRollup) (flush : Bool) (l : List TxDao)
    {s : Selection} (hwf : QueuesWellFormed s.bridgeQueues) (h : WithinLimits c s) :
    WithinLimits c (selectTxs c getTxsToRollup flush s l) :=
  (selectTxs_induction (fun s => QueuesWellFormed s.bridgeQueues ∧ WithinLimits c s) flush
    (fun _ _ _ hslot hs hstep => ⟨hstep.queuesWellFormed hs.1, hstep.withinLimits hq hl hslot hs.1 hs.2⟩)
    l s ⟨hwf, h⟩).2

lemma initialSelection_withinLimits
    (hgas : c.totalSlots * c.feeResolver.getUnadjustedBaseVerificationGas ≤ c.maxGasForRollup)
    (hcd : 0 ≤ c.maxCallDataForRollup) (queues : Nat → Option BridgeTxQueue) :
    WithinLimits c (initialSelection c queues) :=
  ⟨Nat.zero_le _, List.nodup_nil, Nat.zero_le _, Nat.zero_le _, hgas, hcd⟩

lemma padBridgeCallDatas_ok {bcds : List Nat} {N : Nat} (h : bcds.length ≤ N) :
    ∃ padded, padBridgeCallDatas N bcds = .ok padded ∧ padded.length = N ∧ bcds <+: padded :=
  ⟨bcds ++ List.replicate (N - bcds.length) 0, by simp [padBridgeCallDatas, h], by simp; omega,
    List.prefix_append _ _⟩

/-- After every iteration of the selection loop the rollup is within its limits, so
`aggregateAndPublish` never finds more txs than slots and pads the bridge list to its size. -/
theorem getNextTxsToRollup_withinLimits (hq : TxsFromQueue getTxsToRollup)
    (hl : TxsToRollupWithinLimits c.feeResolver getTxsToRollup)
    (hgas : c.totalSlots * c.feeResolver.getUnadjustedBaseVerificationGas ≤ c.maxGasForRollup)
    (hcd : 0 ≤ c.maxCallDataForRollup) (sort : ArraySort) (configs : List BridgeConfig)
    (rollupTimeouts : RollupTimeouts) (pendingTxs : List TxDao) (flush : Bool) :
    (∀ k, WithinLimits c (selectTxs c getTxsToRollup flush
      (initialSelection c (initialiseBridgeQueues configs rollupTimeouts))
      ((sort claimFirst pendingTxs).take k))) ∧
    let s := getNextTxsToRollup c getTxsToRollup sort (initialiseBridgeQueues configs rollupTimeouts)
      pendingTxs flush
    ¬ s.txs.length > c.totalSlots ∧
      ∃ padded, padBridgeCallDatas c.numBridgeCallsPerBlock s.resources.bridgeCallDatas = .ok padded ∧
        padded.length = c.numBridgeCallsPerBlock ∧ s.resources.bridgeCallDatas <+: padded := by
  have hrun := fun l => selectTxs_withinLimits hq hl flush l
    (initialiseBridgeQueues_wellFormed configs rollupTimeouts) (initialSelection_withinLimits hgas hcd _)
  have h := hrun (sort claimFirst pendingTxs)
  exact ⟨fun k => hrun _, Nat.not_lt.mpr h.slots, padBridgeCallDatas_ok h.bridges⟩

/-- Two bridges, the second with a timeout its deposit has passed: a deposit of bridge `7`
waits in its queue, the deposit of bridge `8` is admitted directly, a transfer follows, and a
second deposit of bridge `7` makes its queue profitable, so that both are taken from it. -/
theorem getNextTxsToRollup_withinLimits_specQueue :
    let c : RollupCoordinator :=
      ⟨2, 2, 1000, 1000, ⟨10, fun _ _ => 20, fun _ => 5, fun _ => 30, fun _ => true, 0, 0⟩, 2, 2⟩
    let fee := c.feeResolver
    let configs : List BridgeConfig := [⟨7⟩, ⟨8⟩]
    let timeouts : RollupTimeouts := ⟨none, fun b => if b = 8 then some ⟨100, 1⟩ else none⟩
    let sort : ArraySort := fun _ l => l
    let pendingTxs : List TxDao := [⟨1, .defiDeposit, 200, 0, ⟨0, 1, 11, 12, 0, 7⟩⟩,
      ⟨2, .defiDeposit, 50, 0, ⟨0, 1, 13, 14, 0, 8⟩⟩, ⟨3, .transfer, 0, 0, ⟨0, 1, 15, 16, 0, 0⟩⟩,
      ⟨4, .defiDeposit, 300, 40, ⟨0, 1, 17, 18, 0, 7⟩⟩]
    let s := getNextTxsToRollup c (BridgeTxQueue.getTxsToRollup fee) sort
      (initialiseBridgeQueues configs timeouts) pendingTxs false
    TxsFromQueue (BridgeTxQueue.getTxsToRollup fee) ∧
      TxsToRollupWithinLimits fee (BridgeTxQueue.getTxsToRollup fee) ∧
      c.totalSlots * fee.getUnadjustedBaseVerificationGas ≤ c.maxGasForRollup ∧
      0 ≤ c.maxCallDataForRollup ∧
      s.txs.map (·.tx.id) = [2, 3, 1, 4] ∧ s.resources.bridgeCallDatas = [8, 7] ∧
      ((∀ k, WithinLimits c (selectTxs c (BridgeTxQueue.getTxsToRollup fee) false
        (initialSelection c (initialiseBridgeQueues configs timeouts))
        ((sort claimFirst pendingTxs).take k))) ∧
      ¬ s.txs.length > c.totalSlots ∧
        ∃ padded, padBridgeCallDatas c.numBridgeCallsPerBlock s.resources.bridgeCallDatas = .ok padded ∧
          padded.length = c.numBridgeCallsPerBlock ∧ s.resources.bridgeCallDatas <+: padded) := by
  refine ⟨BridgeTxQueue.getTxsToRollup_fromQueue _, BridgeTxQueue.getTxsToRollup_withinLimits _,
    ?_, ?_, ?_, ?_, getNextTxsToRollup_withinLimits (BridgeTxQueue.getTxsToRollup_fromQueue _)
      (BridgeTxQueue.getTxsToRollup_withinLimits _) ?_ ?_ (fun _ l => l) _ _ _ _⟩ <;> decide

/-- A negative calldata limit is exceeded after the first iteration: the empty rollup's
calldata `0` is already above it, and nothing is admitted to lower it. -/
theorem selectTxs_negative_callData_limit :
    let c : RollupCoordinator :=
      ⟨1, 1, 100, -1, ⟨10, fun _ _ => 20, fun _ => 5, fun _ => 30, fun _ => true, 0, 0⟩, 1, 1⟩
    let fee := c.feeResolver
    let tx : TxDao := ⟨1, .account, 0, 0, ⟨0, 0, 1, 2, 0, 0⟩⟩
    TxsFromQueue (BridgeTxQueue.getTxsToRollup fee) ∧
      TxsToRollupWithinLimits fee (BridgeTxQueue.getTxsToRollup fee) ∧
      c.totalSlots * fee.getUnadjustedBaseVerificationGas ≤ c.maxGasForRollup ∧
      (selectTxs c (BridgeTxQueue.getTxsToRollup fee) false
        (initialSelection c (initialiseBridgeQueues [] ⟨none, fun _ => none⟩)) ([tx].take 1)).resources.callDataUsed >
        c.maxCallDataForRollup :=
  ⟨BridgeTxQueue.getTxsToRollup_fromQueue _, BridgeTxQueue.getTxsToRollup_withinLimits _, by decide,
    by decide⟩

end Limits

end AztecConnect
