import AztecConnect.Distinct

/-!
# Chained txs and the DeFi deposits left waiting

A tx names the note commitment it spends from as its `backwardLink`. The selection loop
discards a tx that chains off a discarded tx, and the comment above the loop lists a DeFi
deposit whose bridge is not yet profitable among the reasons to discard. The code does not
discard such a deposit, though: `handleNewDefiTx` queues it and records none of its
commitments, so a tx chained to it is still selected, without its parent.

For the chains the rule is written for, it works: when no tx chains off an account tx or a
DeFi deposit, and the pre-sort keeps each group in order, every selected tx comes after the
pending tx it chains off. The loop invariant `ChainInv` says why: each processed tx of a
chain is selected or has its commitments discarded, and the parents of every queued deposit
are selected.
-/

namespace AztecConnect

/-- The order the pending list is assumed to have: a DeFi claim has no `backwardLink`, and
every pending tx whose note commitment a tx names comes before it. -/
def ParentsFirst (pendingTxs : List TxDao) : Prop :=
  ∀ t ∈ pendingTxs, (t.txType = .defiClaim → t.proofData.backwardLink = 0) ∧
    ∀ p ∈ pendingTxs, t.proofData.backwardLink ≠ 0 →
      t.proofData.backwardLink ∈ [p.proofData.noteCommitment1, p.proofData.noteCommitment2] →
      p ∈ pendingTxs.takeWhile (· ≠ t)

/-- Every selected tx chained to a pending tx comes after that tx in the selected list. -/
def ChainClosed (pendingTxs selected : List TxDao) : Prop :=
  ∀ t ∈ selected, t.proofData.backwardLink ≠ 0 →
    ∀ p ∈ pendingTxs,
      t.proofData.backwardLink ∈ [p.proofData.noteCommitment1, p.proofData.noteCommitment2] →
      p ∈ selected.takeWhile (· ≠ t)

instance (pendingTxs : List TxDao) : Decidable (ParentsFirst pendingTxs) :=
  inferInstanceAs (Decidable (∀ t ∈ pendingTxs, _))

instance (pendingTxs selected : List TxDao) : Decidable (ChainClosed pendingTxs selected) :=
  inferInstanceAs (Decidable (∀ t ∈ selected, _))

/-- The chains the discard rule is written for: an account tx is in no chain, and no tx
chains off an account tx or a DeFi deposit. -/
def ChainsOffValueTxs (pendingTxs : List TxDao) : Prop :=
  ∀ t ∈ pendingTxs, (t.txType = .account → t.proofData.backwardLink = 0) ∧
    ∀ p ∈ pendingTxs, t.proofData.backwardLink ≠ 0 →
      t.proofData.backwardLink ∈ [p.proofData.noteCommitment1, p.proofData.noteCommitment2] →
      p.txType ≠ .account ∧ p.txType ≠ .defiDeposit

instance (pendingTxs : List TxDao) : Decidable (ChainsOffValueTxs pendingTxs) :=
  inferInstanceAs (Decidable (∀ t ∈ pendingTxs, _))

lemma eq_or_eq_swap_of_perm_pair {α : Type} [DecidableEq α] {a b : α} {l : List α}
    (h : l.Perm [a, b]) : l = [a, b] ∨ l = [b, a] := by
  match l, h.length_eq with
  | [x, y], _ =>
    obtain ⟨hx, hy⟩ := List.cons_perm_iff_perm_erase.mp h
    rcases List.mem_pair.mp hx with rfl | rfl
    · simp at hy
      simp [hy]
    · by_cases hab : a = x
      · subst hab
        simp at hy
        simp [hy]
      · simp [hab] at hy
        simp [hy]

/-- A DeFi deposit `d` of a configured bridge whose fees do not yet cover the bridge's gas,
and a transfer `t` spending `d`'s first note commitment, pending in that order: whatever
order the engine's sort gives them, `t` is selected and `d` is not. -/
theorem getNextTxsToRollup_selects_child_of_queued_deposit :
    let c : RollupCoordinator :=
      ⟨1, 2, 100, 100, ⟨10, fun _ _ => 20, fun _ => 5, fun _ => 30, fun _ => true, 0, 0⟩, 2, 2⟩
    let d : TxDao := ⟨1, .defiDeposit, 0, 10, ⟨0, 1, 11, 12, 0, 7⟩⟩
    let t : TxDao := ⟨2, .transfer, 0, 0, ⟨0, 1, 13, 14, 11, 0⟩⟩
    ParentsFirst [d, t] ∧
      ∀ sort : ArraySort, sort.Conforms →
        let s := getNextTxsToRollup c (BridgeTxQueue.getTxsToRollup c.feeResolver) sort
          (initialiseBridgeQueues [⟨7⟩] ⟨none, fun _ => none⟩) [d, t] false
        s.txs.map (·.tx) = [t] ∧ ¬ ChainClosed [d, t] (s.txs.map (·.tx)) := by
  intro c d t
  refine ⟨by decide, fun sort hsort => ?_⟩
  rcases eq_or_eq_swap_of_perm_pair (hsort claimFirst [d, t]).1 with h | h <;>
    · simp only [getNextTxsToRollup, h]
      decide

/-! ## Chains off value txs stay closed -/

/-- Every pending tx whose note commitment `t` names is in `selected`. -/
def ParentsSelected (pendingTxs selected : List TxDao) (t : TxDao) : Prop :=
  t.proofData.backwardLink ≠ 0 → ∀ p ∈ pendingTxs,
    t.proofData.backwardLink ∈ [p.proofData.noteCommitment1, p.proofData.noteCommitment2] →
    p ∈ selected

lemma ParentsSelected.mono {L sel sel' : List TxDao} {t : TxDao} (h : ParentsSelected L sel t)
    (hsub : sel ⊆ sel') : ParentsSelected L sel' t :=
  fun hl p hp hm => hsub (h hl p hp hm)

lemma ChainClosed.subset {L L' sel : List TxDao} (h : ChainClosed L sel) (hsub : L' ⊆ L) :
    ChainClosed L' sel :=
  fun t ht hl p hp => h t ht hl p (hsub hp)

lemma ChainsOffValueTxs.subset {L L' : List TxDao} (h : ChainsOffValueTxs L) (hsub : L' ⊆ L) :
    ChainsOffValueTxs L' :=
  fun t ht => ⟨(h t (hsub ht)).1, fun p hp => (h t (hsub ht)).2 p (hsub hp)⟩

lemma takeWhile_prefix_append {α : Type} (p : α → Bool) (l l' : List α) :
    l.takeWhile p <+: (l ++ l').takeWhile p := by
  induction l with
  | nil => exact List.nil_prefix
  | cons x xs ih =>
    simp only [List.cons_append, List.takeWhile_cons]
    split
    · exact (List.prefix_cons_inj _).mpr ih
    · exact List.nil_prefix

lemma ChainClosed.append {L sel new : List TxDao} (h : ChainClosed L sel)
    (hnew : ∀ t ∈ new, ParentsSelected L sel t) (hdisj : ∀ t ∈ new, t ∉ sel) :
    ChainClosed L (sel ++ new) := by
  intro t ht hl p hp hm
  rcases List.mem_append.mp ht with ht | ht
  · exact (takeWhile_prefix_append _ sel new).subset (h t ht hl p hp hm)
  · rw [List.takeWhile_append_of_pos fun a ha => by simpa using ne_of_mem_of_not_mem ha (hdisj t ht)]
    exact List.mem_append_left _ (hnew t ht hl p hp hm)

lemma takeWhile_ne_eq_processed {L done : List TxDao} {tx : TxDao} (hnd : L.Nodup)
    (h : done ++ [tx] <+: L) : L.takeWhile (· ≠ tx) = done := by
  have htx := not_mem_of_processed hnd h
  obtain ⟨rest, rfl⟩ := h
  rw [List.append_assoc, List.takeWhile_append_of_pos fun a ha => by
    simpa using ne_of_mem_of_not_mem ha htx]
  simp

lemma stablePartition_perm (txs : List TxDao) : (stablePartition txs).Perm txs := by
  simpa [stablePartition] using List.filter_append_perm (fun t => decide (t.txType = .defiClaim)) txs

lemma mem_takeWhile_filter {P : TxDao → Bool} {p t : TxDao} (hp : P p) :
    ∀ {l : List TxDao}, p ∈ l.takeWhile (· ≠ t) → p ∈ (l.filter P).takeWhile (· ≠ t)
  | [], h => h
  | x :: xs, h => by
    by_cases hx : x = t
    · simp [hx] at h
    · have hx' : decide (x ≠ t) = true := decide_eq_true hx
      rw [List.takeWhile_cons, if_pos hx'] at h
      rw [List.filter_cons]
      rcases List.mem_cons.mp h with rfl | h
      · rw [if_pos hp, List.takeWhile_cons, if_pos hx']
        exact List.mem_cons_self _ _
      · split
        · rw [List.takeWhile_cons, if_pos hx']
          exact List.mem_cons_of_mem _ (mem_takeWhile_filter hp h)
        · exact mem_takeWhile_filter hp h

/-- The stable partition keeps every parent before its children: the DeFi claims, which chain
off nothing, go first, and each group keeps its order. -/
lemma parentsFirst_stablePartition {txs : List TxDao} (h : ParentsFirst txs) :
    ParentsFirst (stablePartition txs) := by
  have hmem : ∀ x, x ∈ stablePartition txs ↔ x ∈ txs := fun x => (stablePartition_perm txs).mem_iff
  intro t ht
  refine ⟨(h t ((hmem t).mp ht)).1, fun p hp hl hm => ?_⟩
  have hpt := (h t ((hmem t).mp ht)).2 p ((hmem p).mp hp) hl hm
  have htc : t.txType ≠ .defiClaim := fun hc => hl ((h t ((hmem t).mp ht)).1 hc)
  unfold stablePartition
  rw [List.takeWhile_append_of_pos fun a ha => by
    simp only [List.mem_filter, decide_eq_true_eq] at ha
    exact decide_eq_true fun hat => htc (hat ▸ ha.2)]
  by_cases hpc : p.txType = .defiClaim
  · exact List.mem_append_left _ (List.mem_filter.mpr ⟨(hmem p).mp hp, by simpa using hpc⟩)
  · exact List.mem_append_right _ (mem_takeWhile_filter (by simpa using hpc) hpt)

/-- The loop state after processing `done` of the list `L`: the selected txs are chain
closed, each processed tx of a chain is selected or has its commitments discarded, and the
parents of every queued deposit are selected. -/
structure ChainInv (L done : List TxDao) (s : Selection) : Prop where
  closed : ChainClosed L (s.txs.map (·.tx))
  settled : ∀ p ∈ done, p.txType ≠ .account → p.txType ≠ .defiDeposit →
    p ∈ s.txs.map (·.tx) ∨ p.proofData.noteCommitment1 ∈ s.discardedCommitments ∧
      p.proofData.noteCommitment2 ∈ s.discardedCommitments
  waiting : ∀ b, ∀ u ∈ (s.queueOf b).txQueue, ParentsSelected L (s.txs.map (·.tx)) u.tx

section ChainInv

variable {c : RollupCoordinator} {getTxsToRollup : GetTxsToRollup} {L done : List TxDao}
  {tx : TxDao} {s s' : Selection}

lemma ChainInv.parentsSelected (h : ChainInv L done s)
    (hpar : ∀ p ∈ L, tx.proofData.backwardLink ≠ 0 →
      tx.proofData.backwardLink ∈ [p.proofData.noteCommitment1, p.proofData.noteCommitment2] →
      p ∈ done ∧ p.txType ≠ .account ∧ p.txType ≠ .defiDeposit)
    (hchain : ¬s.ChainsOffDiscarded tx.proofData) : ParentsSelected L (s.txs.map (·.tx)) tx := by
  intro hl p hp hm
  obtain ⟨hdone, hacc, hdefi⟩ := hpar p hp hl hm
  refine (h.settled p hdone hacc hdefi).resolve_right fun ⟨h1, h2⟩ => hchain ⟨hl, ?_⟩
  rcases List.mem_pair.mp hm with hm | hm <;> rw [hm] <;> assumption

lemma ChainInv.step (h : ChainInv L done s) (new : List RollupTx) (htxs : s'.txs = s.txs ++ new)
    (hdisc : s.discardedCommitments ⊆ s'.discardedCommitments)
    (hnew : ∀ t ∈ new, ParentsSelected L (s.txs.map (·.tx)) t.tx)
    (hnodup : (s'.txs.map (·.tx)).Nodup)
    (hqueue : ∀ b, ∀ u ∈ (s'.queueOf b).txQueue,
      u ∈ (s.queueOf b).txQueue ∨ ParentsSelected L (s.txs.map (·.tx)) u.tx)
    (hsettled : tx.txType ≠ .account → tx.txType ≠ .defiDeposit →
      tx ∈ s'.txs.map (·.tx) ∨ tx.proofData.noteCommitment1 ∈ s'.discardedCommitments ∧
        tx.proofData.noteCommitment2 ∈ s'.discardedCommitments) :
    ChainInv L (done ++ [tx]) s' := by
  have hsel : s'.txs.map (·.tx) = s.txs.map (·.tx) ++ new.map (·.tx) := by rw [htxs, List.map_append]
  have hsub : s.txs.map (·.tx) ⊆ s'.txs.map (·.tx) := hsel ▸ List.subset_append_left _ _
  refine ⟨hsel ▸ h.closed.append ?_ ?_, ?_, fun b u hu => ?_⟩
  · simpa using hnew
  · exact fun t ht hm => (List.nodup_append.mp (hsel ▸ hnodup)).2.2 hm ht
  · intro p hp hacc hdefi
    rcases List.mem_append.mp hp with hp | hp
    · exact (h.settled p hp hacc hdefi).imp (fun hm => hsub hm) fun hd => ⟨hdisc hd.1, hdisc hd.2⟩
    · obtain rfl := List.mem_singleton.mp hp
      exact hsettled hacc hdefi
  · rcases hqueue b u hu with hu | hu
    · exact (h.waiting b u hu).mono hsub
    · exact hu.mono hsub

lemma ChainInv.addQueued (h : ChainInv L done s) (hself : ParentsSelected L (s.txs.map (·.tx)) tx)
    (htype : tx.txType = .defiDeposit) (ts : List RollupTx)
    (hts : ts.Subperm ((s.queueOf tx.proofData.bridgeCallData).addDefiTx
      (createDefiRollupTx tx tx.proofData)).txQueue)
    (htxs : s'.txs = s.txs ++ ts) (hdisc : s'.discardedCommitments = s.discardedCommitments)
    (hqueue : ∀ b, s'.queueOf b = if b = tx.proofData.bridgeCallData then
      (s.queueOf tx.proofData.bridgeCallData).addDefiTx (createDefiRollupTx tx tx.proofData)
      else s.queueOf b)
    (hnodup : (s'.txs.map (·.tx)).Nodup) : ChainInv L (done ++ [tx]) s' := by
  have hq : ∀ t ∈ ((s.queueOf tx.proofData.bridgeCallData).addDefiTx
      (createDefiRollupTx tx tx.proofData)).txQueue, ParentsSelected L (s.txs.map (·.tx)) t.tx := by
    simp only [BridgeTxQueue.addDefiTx_txQueue, List.mem_append, List.mem_singleton]
    rintro t (ht | rfl)
    · exact h.waiting _ t ht
    · simpa using hself
  refine h.step ts htxs (hdisc ▸ List.Subset.refl _) (fun t ht => hq t (hts.subset ht)) hnodup
    (fun b u hu => ?_) fun _ hdefi => absurd htype hdefi
  rw [hqueue] at hu
  split at hu
  · exact .inr (hq u hu)
  · exact .inl hu

lemma SelectStep.chainInv (hq : TxsFromQueue getTxsToRollup)
    (hstep : SelectStep c getTxsToRollup tx s s')
    (haccount : tx.txType = .account → tx.proofData.backwardLink = 0)
    (hpar : ∀ p ∈ L, tx.proofData.backwardLink ≠ 0 →
      tx.proofData.backwardLink ∈ [p.proofData.noteCommitment1, p.proofData.noteCommitment2] →
      p ∈ done ∧ p.txType ≠ .account ∧ p.txType ≠ .defiDeposit)
    (hnodup : (s'.txs.map (·.tx)).Nodup) (h : ChainInv L done s) : ChainInv L (done ++ [tx]) s' := by
  cases hstep with
  | skip htype =>
    exact h.step [] (by simp) (List.Subset.refl _) (by simp) hnodup (fun _ _ hu => .inl hu)
      fun hacc hdefi => (htype.elim hacc hdefi).elim
  | store htype =>
    exact h.step [] (by simp) (List.Subset.refl _) (by simp) hnodup
      (fun _ _ hu => .inl (by rwa [queueOf_setQueue_queueOf] at hu)) fun _ hdefi => absurd htype hdefi
  | discard =>
    exact h.step [] (by simp) (List.subset_append_left _ _) (by simp) hnodup (fun _ _ hu => .inl hu)
      fun _ _ => .inr (by simp)
  | account r htype hr =>
    exact h.step _ rfl (List.Subset.refl _) (by simpa using fun hl => absurd (haccount htype) hl)
      hnodup (fun _ _ hu => .inl hu) fun hacc => absurd htype hacc
  | nonDefi r _ _ _ hchain hr =>
    exact h.step _ rfl (List.Subset.refl _) (by simpa using h.parentsSelected hpar hchain) hnodup
      (fun _ _ hu => .inl hu) fun _ _ => .inl (by simp)
  | direct s₀ htype _ hchain _ h₀ hfit =>
    obtain ⟨htxs, hres, hdisc, hq₀⟩ := frame_of_direct h₀
    rw [checkAndAddTxs_of_fits c (hres ▸ hfit)] at hnodup ⊢
    refine h.step [createDefiRollupTx tx tx.proofData] (by simp [htxs]) (by simp [hdisc])
      (by simpa using h.parentsSelected hpar hchain) hnodup (fun b u hu => .inl ?_)
      fun _ hdefi => absurd htype hdefi
    rw [← hq₀]
    simpa [Selection.queueOf] using hu
  | queued htype _ hchain _ _ =>
    apply h.addQueued (h.parentsSelected hpar hchain) htype
    case htxs => exact addTxs_txs c _ _ _
    case hts => exact hq _ _ _ _ _ _
    case hdisc => exact addTxs_discardedCommitments c _ _ _
    case hqueue => exact fun b => (congrFun (addTxs_queueOf c _ _ _) b).trans (queueOf_setQueue s _ b _)
    case hnodup => exact hnodup

end ChainInv

section Chains

variable {c : RollupCoordinator} {getTxsToRollup : GetTxsToRollup}

/-- The run lemma for chains: on a duplicate-free list that keeps parents first and has only
chains off value txs, the selection is chain closed. -/
theorem selectTxs_chainClosed (hq : TxsFromQueue getTxsToRollup) (configs : List BridgeConfig)
    (rollupTimeouts : RollupTimeouts) (L : List TxDao) (hnd : L.Nodup) (hfirst : ParentsFirst L)
    (hchains : ChainsOffValueTxs L) (flush : Bool) :
    ChainClosed L ((selectTxs c getTxsToRollup flush
      (initialSelection c (initialiseBridgeQueues configs rollupTimeouts)) L).txs.map (·.tx)) := by
  have hinit := initialSelection_distinct (c := c) configs rollupTimeouts
  refine selectTxs_induction_processed (c := c) L
    (fun done s => QueuesWellFormed s.bridgeQueues ∧ Distinct done s ∧ ChainInv L done s)
    (fun s => ChainClosed L (s.txs.map (·.tx))) flush (fun done tx s s' hpre _ hs hstep => ?_)
    (fun _ _ _ hs => hs.2.2.closed) L [] _ rfl
    ⟨initialiseBridgeQueues_wellFormed configs rollupTimeouts, hinit,
      ⟨fun _ ht => by simp [initialSelection] at ht, fun _ hp => by simp at hp,
        fun b u hu => absurd (hinit.queued b u hu) (List.not_mem_nil _)⟩⟩
  have hd := hstep.distinct hq (not_mem_of_processed hnd hpre) hs.1 hs.2.1
  have htx : tx ∈ L := hpre.subset (List.mem_append_right _ (List.mem_singleton_self tx))
  refine ⟨hstep.queuesWellFormed hs.1, hd, hstep.chainInv hq (hchains tx htx).1 ?_ hd.nodup hs.2.2⟩
  intro p hp hl hm
  have hbefore := (hfirst tx htx).2 p hp hl hm
  rw [takeWhile_ne_eq_processed hnd hpre] at hbefore
  exact ⟨hbefore, (hchains tx htx).2 p hp hl hm⟩

/-- With an engine whose sort returns the stable partition the code's comment intends, and
chains off value txs only, every selected tx comes after the pending tx it chains off. -/
theorem getNextTxsToRollup_chainClosed (hq : TxsFromQueue getTxsToRollup) (sort : ArraySort)
    (configs : List BridgeConfig) (rollupTimeouts : RollupTimeouts) (pendingTxs : List TxDao)
    (hsort : sort claimFirst pendingTxs = stablePartition pendingTxs) (hnd : pendingTxs.Nodup)
    (hfirst : ParentsFirst pendingTxs) (hchains : ChainsOffValueTxs pendingTxs) (flush : Bool) :
    ChainClosed pendingTxs ((getNextTxsToRollup c getTxsToRollup sort
      (initialiseBridgeQueues configs rollupTimeouts) pendingTxs flush).txs.map (·.tx)) := by
  have hperm := stablePartition_perm pendingTxs
  rw [getNextTxsToRollup, hsort]
  exact (selectTxs_chainClosed hq configs rollupTimeouts _ (hperm.nodup_iff.mpr hnd)
    (parentsFirst_stablePartition hfirst) (hchains.subset hperm.subset) flush).subset hperm.symm.subset

end Chains

/-- A transfer, a transfer chained off it and a DeFi deposit left in its queue, with the
spec's queue and the stable partition: the chain is selected in order. -/
theorem getNextTxsToRollup_chainClosed_transferChain :
    let c : RollupCoordinator :=
      ⟨1, 3, 100, 100, ⟨10, fun _ _ => 20, fun _ => 5, fun _ => 30, fun _ => true, 0, 0⟩, 2, 2⟩
    let getTxsToRollup := BridgeTxQueue.getTxsToRollup c.feeResolver
    let sort : ArraySort := fun _ txs => stablePartition txs
    let pendingTxs : List TxDao := [⟨1, .transfer, 0, 0, ⟨0, 1, 11, 12, 0, 0⟩⟩,
      ⟨2, .defiDeposit, 0, 10, ⟨0, 1, 13, 14, 0, 7⟩⟩, ⟨3, .transfer, 0, 0, ⟨0, 1, 15, 16, 11, 0⟩⟩]
    TxsFromQueue getTxsToRollup ∧ sort claimFirst pendingTxs = stablePartition pendingTxs ∧
      pendingTxs.Nodup ∧ ParentsFirst pendingTxs ∧ ChainsOffValueTxs pendingTxs ∧
      ChainClosed pendingTxs ((getNextTxsToRollup c getTxsToRollup sort
        (initialiseBridgeQueues [⟨7⟩] ⟨none, fun _ => none⟩) pendingTxs false).txs.map (·.tx)) := by
  intro c getTxsToRollup sort pendingTxs
  have hq := BridgeTxQueue.getTxsToRollup_fromQueue c.feeResolver
  have hnd : pendingTxs.Nodup := by decide
  have hfirst : ParentsFirst pendingTxs := by decide
  have hchains : ChainsOffValueTxs pendingTxs := by decide
  exact ⟨hq, rfl, hnd, hfirst, hchains, getNextTxsToRollup_chainClosed hq sort [⟨7⟩]
    ⟨none, fun _ => none⟩ pendingTxs rfl hnd hfirst hchains false⟩

end AztecConnect
