import AztecConnect.Selection

/-!
# No tx is selected twice

A pending tx can reach the selected list on its own iteration, or later, from its bridge's
queue, when a DeFi deposit of the same bridge asks the queue for bulk entry. The queue of a
bridge is asked only while the bridge is not in the rollup, and a non-empty answer lists the
bridge; so the txs waiting in the queue of an unlisted bridge are never selected, and no tx
enters twice. The invariant below tracks the txs processed so far.
-/

namespace AztecConnect

/-- The loop state after processing `done`: the selected txs are distinct processed txs, and
each queue holds distinct processed txs, none selected while its bridge is not listed. -/
structure Distinct (done : List TxDao) (s : Selection) : Prop where
  nodup : (s.txs.map (·.tx)).Nodup
  selected : ∀ t ∈ s.txs, t.tx ∈ done
  queued : ∀ b, ∀ t ∈ (s.queueOf b).txQueue, t.tx ∈ done
  queueNodup : ∀ b, ((s.queueOf b).txQueue.map (·.tx)).Nodup
  waiting : ∀ b, b ∉ s.resources.bridgeCallDatas →
    ∀ t ∈ (s.queueOf b).txQueue, ∀ u ∈ s.txs, u.tx ≠ t.tx

section Distinct

variable {c : RollupCoordinator} {getTxsToRollup : GetTxsToRollup}

lemma nodup_map_of_subperm {α β : Type} {f : α → β} {l l' : List α} (h : l.Subperm l')
    (hn : (l'.map f).Nodup) : (l.map f).Nodup := by
  obtain ⟨k, hperm, hsub⟩ := h
  exact (hperm.map f).nodup_iff.mp ((hsub.map f).nodup hn)

lemma Distinct.mono {done : List TxDao} {s : Selection} (h : Distinct done s) (rest : List TxDao) :
    Distinct (done ++ rest) s :=
  ⟨h.nodup, fun t ht => List.mem_append_left _ (h.selected t ht),
    fun b t ht => List.mem_append_left _ (h.queued b t ht), h.queueNodup, h.waiting⟩

lemma Distinct.unchanged {done : List TxDao} {s s' : Selection} (h : Distinct done s) (tx : TxDao)
    (htxs : s'.txs = s.txs) (hq : s'.queueOf = s.queueOf)
    (hb : s'.resources.bridgeCallDatas = s.resources.bridgeCallDatas) :
    Distinct (done ++ [tx]) s' := by
  obtain ⟨h1, h2, h3, h4, h5⟩ := h.mono [tx]
  exact ⟨htxs ▸ h1, htxs ▸ h2, hq ▸ h3, hq ▸ h4, by rw [hq, htxs, hb]; exact h5⟩

lemma Distinct.push {done : List TxDao} {s s' : Selection} (h : Distinct done s) {tx : TxDao}
    (hnew : tx ∉ done) (u : RollupTx) (hu : u.tx = tx) (htxs : s'.txs = s.txs ++ [u])
    (hq : s'.queueOf = s.queueOf)
    (hb : s.resources.bridgeCallDatas ⊆ s'.resources.bridgeCallDatas) :
    Distinct (done ++ [tx]) s' := by
  refine ⟨?_, ?_, fun b t ht => List.mem_append_left _ (h.queued b t (hq ▸ ht)),
    fun b => hq ▸ h.queueNodup b, ?_⟩
  · rw [htxs, List.map_append, List.nodup_append]
    refine ⟨h.nodup, List.nodup_singleton _, ?_⟩
    simp only [List.map_cons, List.map_nil, List.disjoint_singleton, List.mem_map, not_exists,
      not_and, hu]
    exact fun t ht heq => hnew (heq ▸ h.selected t ht)
  · rw [htxs]
    intro t ht
    rcases List.mem_append.mp ht with ht | ht
    · exact List.mem_append_left _ (h.selected t ht)
    · simp [List.mem_singleton.mp ht, hu]
  · intro b hb' t ht v hv
    rw [hq] at ht
    rw [htxs, List.mem_append, List.mem_singleton] at hv
    rcases hv with hv | rfl
    · exact h.waiting b (fun hm => hb' (hb hm)) t ht v hv
    · rw [hu]
      exact fun heq => hnew (heq ▸ h.queued b t ht)

lemma Distinct.addQueued {done : List TxDao} {s s' : Selection} (h : Distinct done s)
    (hwf : QueuesWellFormed s.bridgeQueues) {tx : TxDao} (hnew : tx ∉ done)
    (htype : tx.txType = .defiDeposit)
    (hb : tx.proofData.bridgeCallData ∉ s.resources.bridgeCallDatas) (ts : List RollupTx)
    (hts : ts.Subperm ((s.queueOf tx.proofData.bridgeCallData).addDefiTx
      (createDefiRollupTx tx tx.proofData)).txQueue)
    (htxs : s'.txs = s.txs ++ ts)
    (hqueue : ∀ b, s'.queueOf b = if b = tx.proofData.bridgeCallData then
      (s.queueOf tx.proofData.bridgeCallData).addDefiTx (createDefiRollupTx tx tx.proofData)
      else s.queueOf b)
    (hbcds : s'.resources.bridgeCallDatas = if ts = [] ∨ tx.proofData.bridgeCallData ∈
      s.resources.bridgeCallDatas then s.resources.bridgeCallDatas
      else s.resources.bridgeCallDatas ++ [tx.proofData.bridgeCallData]) :
    Distinct (done ++ [tx]) s' := by
  set b := tx.proofData.bridgeCallData
  set q := (s.queueOf b).addDefiTx (createDefiRollupTx tx tx.proofData)
  have hQcases : ∀ t ∈ q.txQueue, t ∈ (s.queueOf b).txQueue ∨ t = createDefiRollupTx tx tx.proofData := by
    simp [q]
  have hQmem : ∀ t ∈ q.txQueue, t.tx ∈ done ++ [tx] := fun t ht => by
    rcases hQcases t ht with ht | rfl
    · exact List.mem_append_left _ (h.queued b t ht)
    · simp
  have hQdisj : ∀ t ∈ q.txQueue, ∀ u ∈ s.txs, u.tx ≠ t.tx := fun t ht u hu => by
    rcases hQcases t ht with ht | rfl
    · exact h.waiting b hb t ht u hu
    · exact fun heq => hnew (createDefiRollupTx_tx tx tx.proofData ▸ heq ▸ h.selected u hu)
  have hQ : (q.txQueue.map (·.tx)).Nodup := by
    simp only [q, BridgeTxQueue.addDefiTx_txQueue, List.map_append, List.nodup_append]
    refine ⟨h.queueNodup b, List.nodup_singleton _, ?_⟩
    simp only [List.map_cons, List.map_nil, List.disjoint_singleton, List.mem_map, not_exists,
      not_and, createDefiRollupTx_tx]
    exact fun t ht heq => hnew (heq ▸ h.queued b t ht)
  have hsub : s.resources.bridgeCallDatas ⊆ s'.resources.bridgeCallDatas := by
    rw [hbcds]; split <;> simp
  refine ⟨?_, ?_, ?_, ?_, ?_⟩
  · rw [htxs, List.map_append, List.nodup_append]
    refine ⟨h.nodup, nodup_map_of_subperm hts hQ, ?_⟩
    intro x hx hx'
    obtain ⟨u, hu, rfl⟩ := List.mem_map.mp hx
    obtain ⟨t, ht, heq⟩ := List.mem_map.mp hx'
    exact hQdisj t (hts.subset ht) u hu heq.symm
  · rw [htxs]
    intro t ht
    rcases List.mem_append.mp ht with ht | ht
    · exact List.mem_append_left _ (h.selected t ht)
    · exact hQmem t (hts.subset ht)
  · intro b' t ht
    rw [hqueue] at ht
    split at ht
    · exact hQmem t ht
    · exact List.mem_append_left _ (h.queued b' t ht)
  · intro b'
    rw [hqueue]
    split
    · exact hQ
    · exact h.queueNodup b'
  · intro b' hb' t ht v hv
    rw [hqueue] at ht
    rw [htxs] at hv
    split at ht
    · have hnil : ts = [] := by
        by_contra hne
        subst b'
        exact hb' (by rw [hbcds]; simp [hne, hb])
      rw [hnil, List.append_nil] at hv
      exact hQdisj t ht v hv
    · rcases List.mem_append.mp hv with hv | hv
      · exact h.waiting b' (fun hm => hb' (hsub hm)) t ht v hv
      · intro heq
        have hvb := (hwf.addDefiTx htype v (hts.subset hv)).2.1
        have htb := ((hwf.queueOf b').2 t ht).2.1
        rw [heq, htb] at hvb
        exact ‹¬b' = b› hvb

lemma SelectStep.distinct (hq : TxsFromQueue getTxsToRollup) {done : List TxDao} {tx : TxDao}
    {s s' : Selection} (hstep : SelectStep c getTxsToRollup tx s s') (hnew : tx ∉ done)
    (hwf : QueuesWellFormed s.bridgeQueues) (h : Distinct done s) : Distinct (done ++ [tx]) s' := by
  cases hstep with
  | skip => exact h.unchanged tx rfl rfl rfl
  | store => exact h.unchanged tx rfl (queueOf_setQueue_queueOf s _) rfl
  | discard => exact h.unchanged tx rfl rfl rfl
  | account r _ hr =>
    obtain ⟨rfl, -, -⟩ := validateAndUpdateRollupResources_some c hr
    exact h.push hnew _ rfl rfl rfl (List.Subset.refl _)
  | nonDefi r _ _ _ _ hr =>
    obtain ⟨rfl, -, -⟩ := validateAndUpdateRollupResources_some c hr
    exact h.push hnew _ rfl rfl rfl (List.Subset.refl _)
  | direct s₀ _ _ _ _ h₀ hfit =>
    obtain ⟨htxs, hres, -, hq₀⟩ := frame_of_direct h₀
    rw [checkAndAddTxs_of_fits c (hres ▸ hfit)]
    refine h.push hnew (createDefiRollupTx tx tx.proofData) rfl (by simp [htxs])
      (by rw [← hq₀]; exact queueOf_of_bridgeQueues (by simp)) ?_
    rw [addTxs_bridgeCallDatas c _ _ _ (by simp), hres]
    split <;> simp
  | queued htype _ _ hb _ =>
    apply h.addQueued hwf hnew htype hb
    case htxs => exact addTxs_txs c _ _ _
    case hts => exact hq _ _ _ _ _ _
    case hqueue => exact fun b => (congrFun (addTxs_queueOf c _ _ _) b).trans (queueOf_setQueue s _ b _)
    case hbcds =>
      exact addTxs_bridgeCallDatas c _ _ _
        (fun t ht => (hwf.addDefiTx htype t ((hq _ _ _ _ _ _).subset ht)).bridgeCallData)

lemma initialSelection_distinct (configs : List BridgeConfig) (rollupTimeouts : RollupTimeouts) :
    Distinct [] (initialSelection c (initialiseBridgeQueues configs rollupTimeouts)) := by
  have hempty : ∀ b, ((initialSelection c (initialiseBridgeQueues configs rollupTimeouts)).queueOf b).txQueue = [] := by
    intro b
    simp only [initialSelection, Selection.queueOf]
    cases hq : initialiseBridgeQueues configs rollupTimeouts b with
    | none => rfl
    | some q => simp [initialiseBridgeQueues_eq_some hq]
  exact ⟨List.nodup_nil, fun _ h => absurd h (List.not_mem_nil _), fun b t ht => by simp [hempty b] at ht,
    fun b => by simp [hempty b], fun b _ t ht => by simp [hempty b] at ht⟩

/-- The selected list holds no tx twice and only pending txs, for an engine whose sort keeps
the ECMA-262 contract and a queue that returns some of its own txs. -/
theorem getNextTxsToRollup_distinct (hq : TxsFromQueue getTxsToRollup) (sort : ArraySort)
    (hsort : sort.Conforms) (configs : List BridgeConfig) (rollupTimeouts : RollupTimeouts)
    (pendingTxs : List TxDao) (hnd : pendingTxs.Nodup) (flush : Bool) :
    let s := getNextTxsToRollup c getTxsToRollup sort (initialiseBridgeQueues configs rollupTimeouts)
      pendingTxs flush
    (s.txs.map (·.tx)).Nodup ∧ ∀ t ∈ s.txs, t.tx ∈ pendingTxs := by
  have hperm := (hsort claimFirst pendingTxs).1
  have hndL : (sort claimFirst pendingTxs).Nodup := hperm.nodup_iff.mpr hnd
  exact selectTxs_induction_processed (c := c) (sort claimFirst pendingTxs)
    (fun done s => QueuesWellFormed s.bridgeQueues ∧ Distinct done s)
    (fun s => (s.txs.map (·.tx)).Nodup ∧ ∀ t ∈ s.txs, t.tx ∈ pendingTxs) flush
    (fun _ _ _ _ hpre _ hs hstep =>
      ⟨hstep.queuesWellFormed hs.1, hstep.distinct hq (not_mem_of_processed hndL hpre) hs.1 hs.2⟩)
    (fun _ _ hpre hs => ⟨hs.2.nodup, fun t ht => hperm.subset (hpre.subset (hs.2.selected t ht))⟩)
    _ [] _ rfl
    ⟨initialiseBridgeQueues_wellFormed configs rollupTimeouts, initialSelection_distinct configs rollupTimeouts⟩

/-- The theorem with the spec's queue and the stable merge sort, on a deposit and a transfer. -/
theorem getNextTxsToRollup_distinct_stableSort :
    let c : RollupCoordinator :=
      ⟨1, 2, 100, 100, ⟨10, fun _ _ => 20, fun _ => 5, fun _ => 30, fun _ => true, 0, 0⟩, 2, 2⟩
    let getTxsToRollup := BridgeTxQueue.getTxsToRollup c.feeResolver
    let pendingTxs : List TxDao :=
      [⟨1, .defiDeposit, 0, 40, ⟨0, 1, 1, 2, 0, 7⟩⟩, ⟨2, .transfer, 0, 0, ⟨0, 1, 3, 4, 0, 0⟩⟩]
    let s := getNextTxsToRollup c getTxsToRollup stableSort (initialiseBridgeQueues [] ⟨none, fun _ => none⟩)
      pendingTxs false
    TxsFromQueue getTxsToRollup ∧ stableSort.Conforms ∧ pendingTxs.Nodup ∧
      ((s.txs.map (·.tx)).Nodup ∧ ∀ t ∈ s.txs, t.tx ∈ pendingTxs) := by
  intro c getTxsToRollup pendingTxs s
  have hq := BridgeTxQueue.getTxsToRollup_fromQueue c.feeResolver
  have hnd : pendingTxs.Nodup := by decide
  exact ⟨hq, stableSort_conforms, hnd,
    getNextTxsToRollup_distinct hq stableSort stableSort_conforms [] ⟨none, fun _ => none⟩ pendingTxs hnd false⟩

end Distinct

end AztecConnect
