import AztecConnect.Selection

/-!
# The accumulator is a summary of the selected txs

`getNextTxsToRollup` returns its `resourceConsumption` next to the selected txs, and
`aggregateAndPublish` hands both on to the circuits. Here `summarise` computes, from the
selected txs alone, what the accumulator should be: the base verification gas of every slot
plus each tx's gas and the full gas of each bridge once, each tx's calldata, the bridges in
order of first admission, and the fee assets the txs record. Every iteration of the loop,
through any of its admission paths, keeps `resources = summarise txs`, when the bridge queue
charges what `verifyResourceLimits` would.
-/

namespace AztecConnect

/-- The gas a selected tx adds above the base verification gas of its slot: an account tx is
priced in asset `0`. -/
def txGas (fee : TxFeeResolver) (t : RollupTx) : Int :=
  fee.getUnadjustedTxGas (if t.tx.txType = .account then 0 else t.fee.assetId) t.tx.txType -
    fee.getUnadjustedBaseVerificationGas

/-- Whether a selected tx records its fee asset in the asset set: a fee-paying asset of a tx
other than an account tx, and for a DeFi deposit only when its fee is non-zero. -/
def recordsFeeAsset (fee : TxFeeResolver) (t : RollupTx) : Bool :=
  decide (t.tx.txType ≠ .account ∧ fee.isFeePayingAsset t.fee.assetId ∧
    (t.tx.txType = .defiDeposit → t.fee.value ≠ 0))

/-- Appends an element that is not yet listed, as `Set.prototype.add` and the bridge push of
`addTxs` do. -/
def insertNew (l : List Nat) (b : Nat) : List Nat :=
  if b ∈ l then l else l ++ [b]

/-- The elements of a list in order of first occurrence, each once. -/
def firstOccurrences (l : List Nat) : List Nat :=
  l.foldl insertNew []

/-- What admitting one more tx should do to the accumulator. -/
def summariseStep (c : RollupCoordinator) (r : RollupResources) (t : RollupTx) : RollupResources :=
  ⟨r.gasUsed + txGas c.feeResolver t +
      (match t.bridgeCallData with
        | some b => if b ∈ r.bridgeCallDatas then 0 else c.feeResolver.getFullBridgeGasFromContract b
        | none => 0),
    r.callDataUsed + c.feeResolver.getTxCallData t.tx.txType,
    (match t.bridgeCallData with
      | some b => insertNew r.bridgeCallDatas b
      | none => r.bridgeCallDatas),
    if recordsFeeAsset c.feeResolver t then r.assetIds.add t.fee.assetId else r.assetIds⟩

/-- The accumulator of a rollup whose selected txs are `txs`. -/
def summarise (c : RollupCoordinator) (txs : List RollupTx) : RollupResources :=
  txs.foldl (summariseStep c) (initialResources c)

/-- A selected tx calls a bridge exactly when it is a DeFi deposit, the one its proof names. -/
def RollupTx.BridgeFromProof (t : RollupTx) : Prop :=
  t.bridgeCallData = if t.tx.txType = .defiDeposit then some t.tx.proofData.bridgeCallData else none

section Summary

variable (c : RollupCoordinator)

@[simp] lemma summarise_nil : summarise c [] = initialResources c := rfl

lemma summarise_append (txs ts : List RollupTx) :
    summarise c (txs ++ ts) = ts.foldl (summariseStep c) (summarise c txs) :=
  List.foldl_append _ _ _ _

@[simp] lemma insertNew_of_mem {l : List Nat} {b : Nat} (h : b ∈ l) : insertNew l b = l := if_pos h

@[simp] lemma mem_insertNew {l : List Nat} {a b : Nat} : a ∈ insertNew l b ↔ a ∈ l ∨ a = b := by
  unfold insertNew
  split
  · exact (or_iff_left_of_imp (· ▸ ‹b ∈ l›)).symm
  · simp

@[simp] lemma AssetIds.add_ids (s : AssetIds) (a : Nat) : (s.add a).ids = insertNew s.ids a := by
  unfold AssetIds.add insertNew
  split <;> rfl

lemma mem_foldl_insertNew {a : Nat} (l acc : List Nat) :
    a ∈ l.foldl insertNew acc ↔ a ∈ acc ∨ a ∈ l := by
  induction l generalizing acc with
  | nil => simp
  | cons b l ih => simp only [List.foldl_cons, ih, mem_insertNew, List.mem_cons, or_assoc, @eq_comm _ a b]

lemma nodup_foldl_insertNew (l : List Nat) {acc : List Nat} (h : acc.Nodup) :
    (l.foldl insertNew acc).Nodup := by
  induction l generalizing acc with
  | nil => exact h
  | cons b l ih =>
    refine ih ?_
    unfold insertNew
    split
    · exact h
    · exact h.append (List.nodup_singleton b) (by simpa)

lemma sum_map_insertNew (f : Nat → Int) (l : List Nat) (b : Nat) :
    ((insertNew l b).map f).sum = (l.map f).sum + if b ∈ l then 0 else f b := by
  unfold insertNew
  split <;> simp

lemma summariseStep_of_none {r : RollupResources} {t : RollupTx} (h : t.bridgeCallData = none) :
    summariseStep c r t = ⟨r.gasUsed + txGas c.feeResolver t,
      r.callDataUsed + c.feeResolver.getTxCallData t.tx.txType, r.bridgeCallDatas,
      if recordsFeeAsset c.feeResolver t then r.assetIds.add t.fee.assetId else r.assetIds⟩ := by
  simp [summariseStep, h]

/-- Admitting DeFi deposits of one bridge `b`: the full bridge gas is charged, and `b` listed,
once, unless `b` is listed already. This is what `addTxs` with `verifyResourceLimits` or the
queue's charges do. -/
lemma foldl_summariseStep_of_bridge {b : Nat} (ts : List RollupTx)
    (hts : ∀ t ∈ ts, t.tx.txType = .defiDeposit ∧ t.bridgeCallData = some b) (r : RollupResources) :
    ts.foldl (summariseStep c) r =
      ⟨r.gasUsed + (if ts = [] ∨ b ∈ r.bridgeCallDatas then 0
          else c.feeResolver.getFullBridgeGasFromContract b) +
          (ts.map (defiTxGas c.feeResolver)).sum,
        r.callDataUsed + ts.length * c.feeResolver.getTxCallData .defiDeposit,
        if ts = [] ∨ b ∈ r.bridgeCallDatas then r.bridgeCallDatas else r.bridgeCallDatas ++ [b],
        admitFeeAssets c.feeResolver r.assetIds ts⟩ := by
  induction ts generalizing r with
  | nil => simp
  | cons t ts ih =>
    obtain ⟨htype, hb⟩ := hts t (List.mem_cons_self t ts)
    rw [List.foldl_cons, ih (fun u hu => hts u (List.mem_cons_of_mem t hu))]
    have hgas : txGas c.feeResolver t = defiTxGas c.feeResolver t := by simp [txGas, defiTxGas, htype]
    have hasset : (if recordsFeeAsset c.feeResolver t then r.assetIds.add t.fee.assetId
        else r.assetIds) = admitFeeAsset c.feeResolver r.assetIds t := by
      unfold recordsFeeAsset admitFeeAsset
      by_cases h : t.fee.value = 0 <;> simp [h, htype, and_comm]
    by_cases hmem : b ∈ r.bridgeCallDatas <;>
      simp [summariseStep, hb, hmem, htype, hgas, hasset, insertNew, add_mul] <;> omega

lemma bridgeFromProof_createRollupTx {tx : TxDao} (h : tx.txType ≠ .defiDeposit) :
    (createRollupTx tx tx.proofData).BridgeFromProof := by
  simp [RollupTx.BridgeFromProof, h]

lemma QueuedFor.bridgeFromProof {b : Nat} {t : RollupTx} (h : QueuedFor b t) : t.BridgeFromProof := by
  rw [RollupTx.BridgeFromProof, if_pos h.1, h.2.2]
  rfl

/-- The loop state agrees with the abstract accumulator of its selected txs. -/
structure Summarises (s : Selection) : Prop where
  bridges : ∀ t ∈ s.txs, t.BridgeFromProof
  resources : s.resources = summarise c s.txs

variable {c}

lemma Summarises.congr {s s' : Selection} (h : Summarises c s) (htxs : s'.txs = s.txs)
    (hres : s'.resources = s.resources) : Summarises c s' :=
  ⟨htxs ▸ h.bridges, by rw [hres, htxs]; exact h.resources⟩

lemma Summarises.addBridgeTxs {s : Selection} {b : Nat} (h : Summarises c s) (ts : List RollupTx)
    (hts : ∀ t ∈ ts, QueuedFor b t) (gas callData : Int)
    (hgas : gas = s.resources.gasUsed + (if ts = [] ∨ b ∈ s.resources.bridgeCallDatas then 0
      else c.feeResolver.getFullBridgeGasFromContract b) + (ts.map (defiTxGas c.feeResolver)).sum)
    (hcd : callData = s.resources.callDataUsed + ts.length * c.feeResolver.getTxCallData .defiDeposit) :
    Summarises c
      { addTxs c b ts s with resources := { (addTxs c b ts s).resources with
          callDataUsed := callData
          gasUsed := gas } } := by
  have hts' : ∀ t ∈ ts, t.tx.txType = .defiDeposit ∧ t.bridgeCallData = some b :=
    fun t ht => ⟨(hts t ht).1, (hts t ht).bridgeCallData⟩
  refine ⟨?_, ?_⟩
  · simp only [addTxs_txs, List.mem_append]
    rintro t (ht | ht)
    · exact h.bridges t ht
    · exact (hts t ht).bridgeFromProof
  · simp only [addTxs_txs, summarise_append, ← h.resources, foldl_summariseStep_of_bridge c ts hts',
      addTxs_bridgeCallDatas c b ts s (fun t ht => (hts' t ht).2), addTxs_assetIds, hgas, hcd]

lemma Summarises.addPlain {s : Selection} (h : Summarises c s) (tx : TxDao)
    (hdefi : tx.txType ≠ .defiDeposit) (assetId : Nat)
    (hid : assetId = if tx.txType = .account then 0 else tx.proofData.feeAssetId) {r : RollupResources}
    (hr : validateAndUpdateRollupResources c tx.txType assetId s.resources = some r)
    (assetIds : AssetIds)
    (hasset : assetIds = if recordsFeeAsset c.feeResolver (createRollupTx tx tx.proofData) then
      r.assetIds.add tx.proofData.feeAssetId else r.assetIds) :
    Summarises c
      { s with
        resources := { r with assetIds := assetIds }
        txs := s.txs ++ [createRollupTx tx tx.proofData] } := by
  obtain ⟨rfl, -, -⟩ := validateAndUpdateRollupResources_some c hr
  refine ⟨?_, ?_⟩
  · simp only [List.mem_append, List.mem_singleton]
    rintro t (ht | rfl)
    · exact h.bridges t ht
    · exact bridgeFromProof_createRollupTx hdefi
  · rw [summarise_append, List.foldl_cons, List.foldl_nil, ← h.resources,
      summariseStep_of_none c (createRollupTx_bridgeCallData _ _), hasset, hid]
    simp only [txGas, createRollupTx_tx, createRollupTx_fee, RollupResources.mk.injEq]
    exact ⟨by omega, by omega, trivial, trivial⟩

variable {getTxsToRollup : GetTxsToRollup}

lemma SelectStep.summarises (hq : TxsFromQueue getTxsToRollup)
    (hch : TxsToRollupCharges c.feeResolver getTxsToRollup) {tx : TxDao} {s s' : Selection}
    (hstep : SelectStep c getTxsToRollup tx s s') (hwf : QueuesWellFormed s.bridgeQueues)
    (h : Summarises c s) : Summarises c s' := by
  cases hstep with
  | skip => exact h
  | store => exact h.congr rfl rfl
  | discard => exact h.congr rfl rfl
  | account r hacc hr =>
    refine h.addPlain tx (by simp [hacc]) 0 (by simp [hacc]) (by rw [hacc]; exact hr) _ ?_
    simp [recordsFeeAsset, hacc]
  | nonDefi r hacc hdefi _ _ hr =>
    refine h.addPlain tx hdefi _ (by simp [hacc]) hr _ ?_
    simp [recordsFeeAsset, hacc, hdefi]
  | direct s₀ htype _ _ _ h₀ hfit =>
    obtain ⟨htxs, hres, -, -⟩ := frame_of_direct h₀
    have h₀' : Summarises c s₀ := h.congr htxs hres
    rw [checkAndAddTxs_of_fits c (hres ▸ hfit)]
    refine h₀'.addBridgeTxs _ (by simpa using queuedFor_createDefiRollupTx htype) _ _ ?_ ?_ <;>
      simp [verifyResourceLimits, hres, defiTxGas]
  | queued htype _ _ hb _ =>
    apply Summarises.addBridgeTxs
    case h => exact h.congr rfl rfl
    case hts => exact fun t ht => hwf.addDefiTx htype t ((hq _ _ _ _ _ _).subset ht)
    case hgas =>
      simp only [addTxs_gasUsed, hch.gas, BridgeTxQueue.addDefiTx_bridgeCallData,
        (hwf.queueOf _).1, hb, or_false]
      omega
    case hcd => simp only [addTxs_callDataUsed, hch.callData]

/-! ## What the summary says -/

lemma foldl_summariseStep_bridgeCallDatas (txs : List RollupTx) (r : RollupResources) :
    (txs.foldl (summariseStep c) r).bridgeCallDatas =
      (txs.filterMap (·.bridgeCallData)).foldl insertNew r.bridgeCallDatas := by
  induction txs generalizing r with
  | nil => rfl
  | cons t txs ih =>
    rw [List.foldl_cons, ih]
    cases hb : t.bridgeCallData <;> simp [summariseStep, hb, List.filterMap_cons]

lemma foldl_summariseStep_assetIds (txs : List RollupTx) (r : RollupResources) :
    (txs.foldl (summariseStep c) r).assetIds.ids =
      ((txs.filter (recordsFeeAsset c.feeResolver)).map (·.fee.assetId)).foldl insertNew r.assetIds.ids := by
  induction txs generalizing r with
  | nil => rfl
  | cons t txs ih =>
    rw [List.foldl_cons, ih]
    cases ha : recordsFeeAsset c.feeResolver t <;> simp [summariseStep, ha, List.filter_cons]

lemma foldl_summariseStep_gasUsed (txs : List RollupTx) (r : RollupResources) :
    (txs.foldl (summariseStep c) r).gasUsed -
        ((txs.foldl (summariseStep c) r).bridgeCallDatas.map
          c.feeResolver.getFullBridgeGasFromContract).sum =
      r.gasUsed - (r.bridgeCallDatas.map c.feeResolver.getFullBridgeGasFromContract).sum +
        (txs.map (txGas c.feeResolver)).sum := by
  induction txs generalizing r with
  | nil => simp
  | cons t txs ih =>
    rw [List.foldl_cons, ih, List.map_cons, List.sum_cons]
    cases hb : t.bridgeCallData with
    | none => simp only [summariseStep, hb]; omega
    | some b => simp only [summariseStep, hb, sum_map_insertNew]; split <;> omega

lemma foldl_summariseStep_callDataUsed (txs : List RollupTx) (r : RollupResources) :
    (txs.foldl (summariseStep c) r).callDataUsed =
      r.callDataUsed + (txs.map (fun t => c.feeResolver.getTxCallData t.tx.txType)).sum := by
  induction txs generalizing r with
  | nil => simp
  | cons t txs ih =>
    rw [List.foldl_cons, ih, List.map_cons, List.sum_cons]
    simp only [summariseStep]
    omega

lemma filterMap_bridgeCallData {txs : List RollupTx} (h : ∀ t ∈ txs, t.BridgeFromProof) :
    txs.filterMap (·.bridgeCallData) =
      (txs.filter (·.tx.txType = .defiDeposit)).map (·.tx.proofData.bridgeCallData) := by
  induction txs with
  | nil => rfl
  | cons t txs ih =>
    have ht := h t (List.mem_cons_self t txs)
    rw [List.filterMap_cons, ih (fun u hu => h u (List.mem_cons_of_mem t hu)), ht]
    by_cases hd : t.tx.txType = .defiDeposit <;> simp [hd, List.filter_cons]

lemma nodup_firstOccurrences (l : List Nat) : (firstOccurrences l).Nodup :=
  nodup_foldl_insertNew l List.nodup_nil

@[simp] lemma mem_firstOccurrences {a : Nat} {l : List Nat} : a ∈ firstOccurrences l ↔ a ∈ l := by
  simp [firstOccurrences, mem_foldl_insertNew]

lemma summarise_bridgeCallDatas {txs : List RollupTx} (h : ∀ t ∈ txs, t.BridgeFromProof) :
    (summarise c txs).bridgeCallDatas =
      firstOccurrences ((txs.filter (·.tx.txType = .defiDeposit)).map (·.tx.proofData.bridgeCallData)) := by
  rw [← filterMap_bridgeCallData h]
  exact foldl_summariseStep_bridgeCallDatas _ _

lemma mem_summarise_assetIds {txs : List RollupTx} {a : Nat} :
    a ∈ (summarise c txs).assetIds.ids ↔
      ∃ t ∈ txs, recordsFeeAsset c.feeResolver t ∧ t.fee.assetId = a := by
  rw [summarise, foldl_summariseStep_assetIds, mem_foldl_insertNew]
  simp [initialResources, and_assoc]

lemma summarise_gasUsed (txs : List RollupTx) :
    (summarise c txs).gasUsed = c.totalSlots * c.feeResolver.getUnadjustedBaseVerificationGas +
      (txs.map (txGas c.feeResolver)).sum +
      ((summarise c txs).bridgeCallDatas.map c.feeResolver.getFullBridgeGasFromContract).sum := by
  have := foldl_summariseStep_gasUsed (c := c) txs (initialResources c)
  simp only [initialResources, List.map_nil, List.sum_nil] at this
  rw [summarise, initialResources]
  omega

lemma summarise_callDataUsed (txs : List RollupTx) :
    (summarise c txs).callDataUsed = (txs.map (fun t => c.feeResolver.getTxCallData t.tx.txType)).sum := by
  rw [summarise, foldl_summariseStep_callDataUsed]
  simp [initialResources]

/-! ## Over the whole loop -/

variable {getTxsToRollup : GetTxsToRollup}

lemma initialSelection_summarises (queues : Nat → Option BridgeTxQueue) :
    Summarises c (initialSelection c queues) :=
  ⟨fun _ h => absurd h (List.not_mem_nil _), rfl⟩

/-- The run lemma for the summary: from a summarised state with well-formed queues, every run
of the loop ends summarised. -/
lemma selectTxs_summarises (hq : TxsFromQueue getTxsToRollup)
    (hch : TxsToRollupCharges c.feeResolver getTxsToRollup) (flush : Bool) (l : List TxDao)
    {s : Selection} (hwf : QueuesWellFormed s.bridgeQueues) (h : Summarises c s) :
    Summarises c (selectTxs c getTxsToRollup flush s l) :=
  (selectTxs_induction (fun s => QueuesWellFormed s.bridgeQueues ∧ Summarises c s) flush
    (fun _ _ _ _ hs hstep => ⟨hstep.queuesWellFormed hs.1, hstep.summarises hq hch hs.1 hs.2⟩)
    l s ⟨hwf, h⟩).2

/-- The accumulator `getNextTxsToRollup` returns is an exact summary of the selected txs: the
bridges of the selected DeFi deposits once each in order of first admission, the fee assets
they record, the base gas of every slot with each tx's gas and each bridge's full gas once,
and each tx's calldata. So an iteration that selects nothing changes none of the four. -/
theorem getNextTxsToRollup_summarises (hq : TxsFromQueue getTxsToRollup)
    (hch : TxsToRollupCharges c.feeResolver getTxsToRollup) (sort : ArraySort)
    (configs : List BridgeConfig) (rollupTimeouts : RollupTimeouts) (pendingTxs : List TxDao)
    (flush : Bool) :
    let fee := c.feeResolver
    let run := fun k => selectTxs c getTxsToRollup flush
      (initialSelection c (initialiseBridgeQueues configs rollupTimeouts))
      ((sort claimFirst pendingTxs).take k)
    let s := getNextTxsToRollup c getTxsToRollup sort (initialiseBridgeQueues configs rollupTimeouts)
      pendingTxs flush
    s.resources.bridgeCallDatas = firstOccurrences
        ((s.txs.filter (·.tx.txType = .defiDeposit)).map (·.tx.proofData.bridgeCallData)) ∧
      s.resources.bridgeCallDatas.Nodup ∧
      (∀ b, b ∈ s.resources.bridgeCallDatas ↔
        ∃ t ∈ s.txs, t.tx.txType = .defiDeposit ∧ t.tx.proofData.bridgeCallData = b) ∧
      (∀ t ∈ s.txs, t.tx.txType ≠ .account → t.fee.value ≠ 0 → fee.isFeePayingAsset t.fee.assetId →
        t.fee.assetId ∈ s.resources.assetIds.ids) ∧
      (∀ a ∈ s.resources.assetIds.ids, ∃ t ∈ s.txs, t.tx.txType ≠ .account ∧ t.fee.assetId = a) ∧
      s.resources.gasUsed = c.totalSlots * fee.getUnadjustedBaseVerificationGas +
        (s.txs.map (txGas fee)).sum +
        (s.resources.bridgeCallDatas.map fee.getFullBridgeGasFromContract).sum ∧
      s.resources.callDataUsed = (s.txs.map (fun t => fee.getTxCallData t.tx.txType)).sum ∧
      ∀ k, (run (k + 1)).txs = (run k).txs → (run (k + 1)).resources = (run k).resources := by
  intro fee run s
  have hrun : ∀ l, Summarises c (selectTxs c getTxsToRollup flush
      (initialSelection c (initialiseBridgeQueues configs rollupTimeouts)) l) := fun l =>
    selectTxs_summarises hq hch flush l (initialiseBridgeQueues_wellFormed configs rollupTimeouts)
      (initialSelection_summarises _)
  obtain ⟨hbridges, hres⟩ : Summarises c s := hrun _
  have hbcds := summarise_bridgeCallDatas (c := c) hbridges
  rw [hres]
  refine ⟨hbcds, hbcds ▸ nodup_firstOccurrences _, fun b => by simp [hbcds, and_assoc],
    fun t ht hacc hv hfp => ?_, fun a ha => ?_, summarise_gasUsed _, summarise_callDataUsed _,
    fun k htxs => by rw [(hrun _).resources, (hrun _).resources, htxs]⟩
  · exact mem_summarise_assetIds.mpr ⟨t, ht, by simpa [recordsFeeAsset, hacc, hv] using hfp, rfl⟩
  · obtain ⟨t, ht, hrec, rfl⟩ := mem_summarise_assetIds.mp ha
    exact ⟨t, ht, (of_decide_eq_true hrec).1, rfl⟩

/-- Two bridges, the second with a timeout its deposit has passed: the deposit of bridge `8` is
admitted directly and both deposits of bridge `7` from its queue once it is profitable, so the
summary counts the full gas of both bridges. -/
theorem getNextTxsToRollup_summarises_specQueue :
    let c : RollupCoordinator :=
      ⟨2, 2, 1000, 1000, ⟨10, fun _ _ => 20, fun _ => 5, fun _ => 30, fun _ => true, 0, 0⟩, 2, 2⟩
    let fee := c.feeResolver
    let getTxsToRollup := BridgeTxQueue.getTxsToRollup fee
    let sort : ArraySort := fun _ l => l
    let queues := initialiseBridgeQueues [⟨7⟩, ⟨8⟩]
      ⟨none, fun b => if b = 8 then some ⟨100, 1⟩ else none⟩
    let pendingTxs : List TxDao := [⟨1, .defiDeposit, 200, 0, ⟨0, 1, 11, 12, 0, 7⟩⟩,
      ⟨2, .defiDeposit, 50, 0, ⟨0, 1, 13, 14, 0, 8⟩⟩, ⟨3, .transfer, 0, 0, ⟨0, 1, 15, 16, 0, 0⟩⟩,
      ⟨4, .defiDeposit, 300, 40, ⟨0, 1, 17, 18, 0, 7⟩⟩]
    let run := fun k => selectTxs c getTxsToRollup false (initialSelection c queues)
      ((sort claimFirst pendingTxs).take k)
    let s := getNextTxsToRollup c getTxsToRollup sort queues pendingTxs false
    TxsFromQueue getTxsToRollup ∧ TxsToRollupCharges fee getTxsToRollup ∧
    s.txs.map (·.tx.id) = [2, 3, 1, 4] ∧ s.resources.gasUsed = 140 ∧
    (s.resources.bridgeCallDatas = firstOccurrences
        ((s.txs.filter (·.tx.txType = .defiDeposit)).map (·.tx.proofData.bridgeCallData)) ∧
      s.resources.bridgeCallDatas.Nodup ∧
      (∀ b, b ∈ s.resources.bridgeCallDatas ↔
        ∃ t ∈ s.txs, t.tx.txType = .defiDeposit ∧ t.tx.proofData.bridgeCallData = b) ∧
      (∀ t ∈ s.txs, t.tx.txType ≠ .account → t.fee.value ≠ 0 → fee.isFeePayingAsset t.fee.assetId →
        t.fee.assetId ∈ s.resources.assetIds.ids) ∧
      (∀ a ∈ s.resources.assetIds.ids, ∃ t ∈ s.txs, t.tx.txType ≠ .account ∧ t.fee.assetId = a) ∧
      s.resources.gasUsed = c.totalSlots * fee.getUnadjustedBaseVerificationGas +
        (s.txs.map (txGas fee)).sum +
        (s.resources.bridgeCallDatas.map fee.getFullBridgeGasFromContract).sum ∧
      s.resources.callDataUsed = (s.txs.map (fun t => fee.getTxCallData t.tx.txType)).sum ∧
      ∀ k, (run (k + 1)).txs = (run k).txs → (run (k + 1)).resources = (run k).resources) := by
  refine ⟨BridgeTxQueue.getTxsToRollup_fromQueue _, BridgeTxQueue.getTxsToRollup_charges _, ?_, ?_,
    getNextTxsToRollup_summarises (BridgeTxQueue.getTxsToRollup_fromQueue _)
      (BridgeTxQueue.getTxsToRollup_charges _) (fun _ l => l) _ _ _ _⟩ <;> decide

end Summary

end AztecConnect
