import AztecConnect.Selection

/-!
# Deciding to publish, and building the rollup

`aggregateAndPublish` profiles the selected txs and decides whether to publish. When it
does, it chunks the txs into inner rollups, builds their circuits one after another, proves
them in parallel, aggregates the proofs and hands the result to the publisher. The start of
the function, up to its first `await`, is `aggregatePrefix`; the lifecycle model runs the
rest as separate segments, and `processPendingTxs` below runs a whole tick in one go.
`rollup_profiler.ts` is not part of src, so `profileRollup` is a parameter.
-/

namespace AztecConnect

/-- The part of a `BridgeProfile` that `rollupHasDeadlined` reads. -/
structure BridgeProfile where
  bridgeCallData : Nat
  earliestTx : Nat
  deriving DecidableEq, Repr

/-- The fields of `RollupProfile` that the coordinator reads or sets. -/
structure RollupProfile where
  totalTxs : Nat
  gasBalance : Int
  totalGas : Int
  totalCallData : Int
  bridgeProfiles : List BridgeProfile
  published : Bool
  deriving DecidableEq, Repr

/-- The errors a tick can raise: `InterruptError` at a checkpoint, or any other `Error`. -/
inductive CoordinatorError
  | interruptError (message : String)
  | error (message : String)
  deriving DecidableEq, Repr

/-- `rollupHasDeadlined`. -/
def rollupHasDeadlined (rollupTxs : List RollupTx) (rollupProfile : RollupProfile)
    (rollupTimeouts : RollupTimeouts) : Bool :=
  if rollupProfile.totalTxs = 0 then false
  else
    match rollupTimeouts.baseTimeout with
    | none => false
    | some baseTimeout =>
      rollupProfile.bridgeProfiles.any (fun bp =>
        match rollupTimeouts.bridgeTimeouts bp.bridgeCallData with
        | none => false
        | some timeout => decide (bp.earliestTx < timeout.timeout)) ||
      (rollupTxs.filter (fun tx => tx.tx.txType ≠ .defiDeposit)).any
        (fun tx => decide (tx.tx.created < baseTimeout.timeout))

/-- `bridgeCallDatas.concat(Array(NUM_BRIDGE_CALLS_PER_BLOCK - bridgeCallDatas.length).fill(0n))`:
`Array` raises a `RangeError` on a negative length. -/
def padBridgeCallDatas (numBridgeCallsPerBlock : Nat) (bridgeCallDatas : List Nat) :
    Except String (List Nat) :=
  if bridgeCallDatas.length ≤ numBridgeCallsPerBlock then
    .ok (bridgeCallDatas ++ List.replicate (numBridgeCallsPerBlock - bridgeCallDatas.length) 0)
  else .error "Invalid array length"

/-- The chunking loop of `aggregateAndPublish`,
`while (txsToRollup.length) chunkedTx.push(txsToRollup.splice(0, numInnerRollupTxs))`, for at
most `fuel` iterations: `none` when the loop has not ended by then. -/
def spliceChunks {α : Type} (n : Nat) : Nat → List α → Option (List (List α))
  | _, [] => some []
  | 0, _ :: _ => none
  | fuel + 1, l@(_ :: _) => (spliceChunks n fuel (l.drop n)).map (l.take n :: ·)

/-- The calls `asyncMap` makes of `createRollup`, from index `i` on: the txs of each chunk,
and `i == 0`. -/
def createRollupCalls : Nat → List (List RollupTx) → List (List TxDao × Bool)
  | _, [] => []
  | i, innerRollupTxs :: rest =>
    (innerRollupTxs.map (·.tx), i == 0) :: createRollupCalls (i + 1) rest

/-- How the synchronous start of `aggregateAndPublish` ends: it returns or raises before its
first `await`, or it has chunked the txs and goes on to build the rollup. -/
inductive PrefixOutcome
  | done (result : Except CoordinatorError RollupProfile)
  | build (rollupProfile : RollupProfile) (chunkedTx : List (List RollupTx))

/-- The collaborators a tick awaits, each returning a value or raising. The arguments fixed
by the coordinator's constructor (`oldDefiRoot`, `oldDefiPath`, the interaction notes, the
resolvers) are left out of their signatures. -/
structure Collaborators (Circuit Proof Dao : Type) where
  createRollup : List TxDao → List Nat → List Nat → Bool → Except String Circuit
  create : List TxDao → Circuit → Except String Proof
  aggregateRollupProofs : List Proof → List Nat → List Nat → Except String Dao
  publishRollup : Dao → Int → Except String Bool
  recordRollupMetrics : List RollupTx → RollupProfile → Except String Unit
  rollupPublished : RollupProfile → Dao → Except String Unit

/-! ## The chunking loop -/

section Chunking

variable {α : Type} {n : Nat}

lemma ceil_div_drop (hn : 0 < n) {len : Nat} (hl : 0 < len) :
    (len + n - 1) / n = (len - n + n - 1) / n + 1 := by
  rw [show len + n - 1 = (len - 1) + n by omega, Nat.add_div_right _ hn]
  congr 1
  rcases Nat.lt_or_ge len n with h | h
  · rw [Nat.div_eq_of_lt (by omega), Nat.div_eq_of_lt (by omega)]
  · congr 1
    omega

lemma ceil_div_le_self (hn : 0 < n) (len : Nat) : (len + n - 1) / n ≤ len :=
  Nat.lt_succ_iff.mp ((Nat.div_lt_iff_lt_mul hn).mpr (by
    have : len ≤ len * n := Nat.le_mul_of_pos_right len hn
    rw [Nat.succ_mul]
    omega))

lemma spliceChunks_isSome (hn : 0 < n) :
    ∀ (fuel : Nat) (l : List α), (spliceChunks n fuel l).isSome ↔ (l.length + n - 1) / n ≤ fuel
  | _, [] => by simp [spliceChunks, Nat.div_eq_of_lt (by omega : n - 1 < n)]
  | 0, x :: xs => by
    simpa [spliceChunks] using (Nat.div_pos (by omega : n ≤ xs.length + n) hn).ne'
  | fuel + 1, x :: xs => by
    have := ceil_div_drop hn (by omega : 0 < xs.length + 1)
    simp only [spliceChunks, Option.isSome_map', spliceChunks_isSome hn fuel, List.length_drop,
      List.length_cons]
    omega

lemma spliceChunks_spec (hn : 0 < n) :
    ∀ (fuel : Nat) (l : List α) (chunks : List (List α)), spliceChunks n fuel l = some chunks →
      chunks.flatten = l ∧ (∀ ch ∈ chunks, ch ≠ []) ∧ (∀ ch ∈ chunks.dropLast, ch.length = n) ∧
      chunks.length = (l.length + n - 1) / n
  | _, [], chunks, h => by
    simp only [spliceChunks, Option.some.injEq] at h
    subst h
    simp [Nat.div_eq_of_lt (by omega : n - 1 < n)]
  | 0, _ :: _, _, h => by simp [spliceChunks] at h
  | fuel + 1, x :: xs, chunks, h => by
    simp only [spliceChunks, Option.map_eq_some'] at h
    obtain ⟨rest, hrest, rfl⟩ := h
    obtain ⟨hjoin, hne, hlen, hcount⟩ := spliceChunks_spec hn fuel _ rest hrest
    have hceil := ceil_div_drop hn (by omega : 0 < xs.length + 1)
    refine ⟨by simp [hjoin], ?_, ?_, ?_⟩
    · simp only [List.mem_cons, forall_eq_or_imp]
      exact ⟨by simp [List.take_eq_nil_iff]; omega, hne⟩
    · cases rest with
      | nil => simp
      | cons r rs =>
        have hdrop : (x :: xs).drop n ≠ [] := by
          rw [← hjoin]
          simp [hne r (List.mem_cons_self r rs)]
        have : n < xs.length + 1 := by simpa [List.drop_eq_nil_iff] using hdrop
        simp only [List.dropLast_cons₂, List.mem_cons, forall_eq_or_imp]
        exact ⟨by simp; omega, hlen⟩
    · simp only [List.length_cons, hcount, List.length_drop] at hceil ⊢
      omega

lemma createRollupCalls_fst (i : Nat) (chunks : List (List RollupTx)) :
    (createRollupCalls i chunks).map Prod.fst = chunks.map (·.map (·.tx)) := by
  induction chunks generalizing i <;> simp_all [createRollupCalls]

lemma createRollupCalls_snd_of_pos {i : Nat} (hi : 0 < i) (chunks : List (List RollupTx)) :
    (createRollupCalls i chunks).map Prod.snd = List.replicate chunks.length false := by
  induction chunks generalizing i with
  | nil => rfl
  | cons ch rest ih =>
    simp [createRollupCalls, ih (Nat.succ_pos i), Nat.pos_iff_ne_zero.mp hi, List.replicate_succ]

end Chunking

section Publish

variable (c : RollupCoordinator) (profileRollup : List RollupTx → RollupProfile)

/-- The publication decision of `aggregateAndPublish`. -/
def shouldPublish (txsToRollup : List RollupTx) (rollupProfile : RollupProfile)
    (rollupTimeouts : RollupTimeouts) (flush : Bool) : Bool :=
  let isProfitable := decide (rollupProfile.gasBalance ≥ 0)
  let deadline := rollupHasDeadlined txsToRollup rollupProfile rollupTimeouts
  let gasRemainingTillGasLimit := c.maxGasForRollup - rollupProfile.totalGas
  let callDataRemaining := c.maxCallDataForRollup - rollupProfile.totalCallData
  let outOfGas := decide (gasRemainingTillGasLimit < c.feeResolver.getMaxUnadjustedGas)
  let outOfCallData := decide (callDataRemaining < c.feeResolver.getMaxTxCallData)
  let outOfSlots := decide (txsToRollup.length = c.totalSlots)
  flush || isProfitable || deadline || outOfGas || outOfCallData || outOfSlots

/-- `aggregateAndPublish` up to its first `await`. The code's chunking loop never ends when
`numInnerRollupTxs` is `0`; the loop's out-of-fuel result stands for that, and
`aggregatePrefix_build` shows it is never returned. -/
def aggregatePrefix (recordRollupMetrics : List RollupTx → RollupProfile → Except String Unit)
    (txsToRollup : List RollupTx) (rollupTimeouts : RollupTimeouts) (flush : Bool) :
    PrefixOutcome :=
  if txsToRollup.length > c.totalSlots then
    .done (.error (.error ("txsToRollup.length > numRemainingSlots: " ++
      toString txsToRollup.length ++ " > " ++ toString c.totalSlots)))
  else
    let rollupProfile := profileRollup txsToRollup
    if rollupProfile.totalTxs = 0 then .done (.ok rollupProfile)
    else
      match recordRollupMetrics txsToRollup rollupProfile with
      | .error e => .done (.error (.error e))
      | .ok () =>
        if !shouldPublish c txsToRollup rollupProfile rollupTimeouts flush then
          .done (.ok rollupProfile)
        else
          match spliceChunks c.numInnerRollupTxs txsToRollup.length txsToRollup with
          | none => .done (.error (.error "the chunking loop does not end"))
          | some chunkedTx => .build rollupProfile chunkedTx

lemma spliceChunks_length_isSome {α : Type} {txs : List α} (h : txs.length ≤ c.totalSlots) :
    (spliceChunks c.numInnerRollupTxs txs.length txs).isSome := by
  rcases Nat.eq_zero_or_pos c.numInnerRollupTxs with h0 | hk
  · have : txs = [] := List.eq_nil_of_length_eq_zero
      (by simpa [RollupCoordinator.totalSlots, h0] using h)
    simp [this, spliceChunks]
  · exact (spliceChunks_isSome hk _ txs).mpr (ceil_div_le_self hk _)

/-- Once `aggregatePrefix` decides to publish, it goes on to build the rollup from the chunks of
the loop: its out-of-fuel result, which stands for the code's loop running forever, is never
returned. -/
lemma aggregatePrefix_build
    (recordRollupMetrics : List RollupTx → RollupProfile → Except String Unit)
    {txsToRollup : List RollupTx} (rollupTimeouts : RollupTimeouts) (flush : Bool)
    (hslots : txsToRollup.length ≤ c.totalSlots) (htotal : (profileRollup txsToRollup).totalTxs ≠ 0)
    (hrecord : recordRollupMetrics txsToRollup (profileRollup txsToRollup) = .ok ())
    (hpublish : shouldPublish c txsToRollup (profileRollup txsToRollup) rollupTimeouts flush) :
    ∃ chunkedTx, spliceChunks c.numInnerRollupTxs txsToRollup.length txsToRollup = some chunkedTx ∧
      aggregatePrefix c profileRollup recordRollupMetrics txsToRollup rollupTimeouts flush =
        .build (profileRollup txsToRollup) chunkedTx := by
  obtain ⟨chunkedTx, hchunks⟩ := Option.isSome_iff_exists.mp (spliceChunks_length_isSome c hslots)
  exact ⟨chunkedTx, hchunks, by simp [aggregatePrefix, Nat.not_lt.mpr hslots, htotal, hrecord,
    hpublish, hchunks]⟩

/-- The chunking loop of `aggregateAndPublish` on `1 ≤ n ≤ totalSlots` selected txs, with at
least one tx per inner rollup: it ends after exactly `⌈n / numInnerRollupTxs⌉` iterations, and
its chunks are the txs in order, all but the last full and none empty; so at most
`numOuterRollupProofs` inner rollups are created, and only the first with `isFirst`. -/
theorem spliceChunks_fits_outer_rollups (txs : List RollupTx) (hn : 1 ≤ txs.length)
    (hslots : txs.length ≤ c.totalSlots) (hinner : 1 ≤ c.numInnerRollupTxs) :
    ∃ chunkedTx, spliceChunks c.numInnerRollupTxs txs.length txs = some chunkedTx ∧
      (∀ fuel, (spliceChunks c.numInnerRollupTxs fuel txs).isSome ↔ chunkedTx.length ≤ fuel) ∧
      chunkedTx.length = (txs.length + c.numInnerRollupTxs - 1) / c.numInnerRollupTxs ∧
      chunkedTx.flatten = txs ∧
      (∀ ch ∈ chunkedTx.dropLast, ch.length = c.numInnerRollupTxs) ∧
      (∀ ch ∈ chunkedTx, ch ≠ []) ∧
      chunkedTx.length ≤ c.numOuterRollupProofs ∧
      (createRollupCalls 0 chunkedTx).map Prod.fst = chunkedTx.map (·.map (·.tx)) ∧
      (createRollupCalls 0 chunkedTx).map Prod.snd =
        true :: List.replicate (chunkedTx.length - 1) false := by
  set k := c.numInnerRollupTxs
  have hk : 0 < k := hinner
  obtain ⟨chunkedTx, hsome⟩ := Option.isSome_iff_exists.mp
    ((spliceChunks_isSome hk txs.length txs).mpr (ceil_div_le_self hk txs.length))
  obtain ⟨hjoin, hne, hfull, hcount⟩ := spliceChunks_spec hk _ txs chunkedTx hsome
  have houter : chunkedTx.length ≤ c.numOuterRollupProofs := by
    rw [hcount, ← Nat.lt_succ_iff, Nat.div_lt_iff_lt_mul hk]
    have : txs.length ≤ c.numOuterRollupProofs * k := hslots
    rw [Nat.succ_mul]
    omega
  refine ⟨chunkedTx, hsome, fun fuel => hcount ▸ spliceChunks_isSome hk fuel txs, hcount, hjoin,
    hfull, hne, houter, createRollupCalls_fst 0 chunkedTx, ?_⟩
  cases chunkedTx with
  | nil => simp at hjoin; subst hjoin; simp at hn
  | cons ch rest => simp [createRollupCalls, createRollupCalls_snd_of_pos Nat.one_pos]

/-- Five txs in rollups of two inner proofs of three outer slots. -/
theorem spliceChunks_fits_outer_rollups_five :
    let c : RollupCoordinator :=
      ⟨2, 3, 100, 100, ⟨0, fun _ _ => 0, fun _ => 0, fun _ => 0, fun _ => false, 0, 0⟩, 1, 1⟩
    let tx : TxDao := ⟨1, .transfer, 0, 0, ⟨0, 0, 1, 2, 0, 0⟩⟩
    let txs := List.replicate 5 (createRollupTx tx tx.proofData)
    1 ≤ txs.length ∧ txs.length ≤ c.totalSlots ∧ 1 ≤ c.numInnerRollupTxs ∧
    ∃ chunkedTx, spliceChunks c.numInnerRollupTxs txs.length txs = some chunkedTx ∧
      (∀ fuel, (spliceChunks c.numInnerRollupTxs fuel txs).isSome ↔ chunkedTx.length ≤ fuel) ∧
      chunkedTx.length = (txs.length + c.numInnerRollupTxs - 1) / c.numInnerRollupTxs ∧
      chunkedTx.flatten = txs ∧
      (∀ ch ∈ chunkedTx.dropLast, ch.length = c.numInnerRollupTxs) ∧
      (∀ ch ∈ chunkedTx, ch ≠ []) ∧
      chunkedTx.length ≤ c.numOuterRollupProofs ∧
      (createRollupCalls 0 chunkedTx).map Prod.fst = chunkedTx.map (·.map (·.tx)) ∧
      (createRollupCalls 0 chunkedTx).map Prod.snd =
        true :: List.replicate (chunkedTx.length - 1) false := by
  intro c tx txs
  have hn : 1 ≤ txs.length := by decide
  have hslots : txs.length ≤ c.totalSlots := by decide
  have hinner : 1 ≤ c.numInnerRollupTxs := by decide
  exact ⟨hn, hslots, hinner, spliceChunks_fits_outer_rollups c txs hn hslots hinner⟩

/-- What a tick shows: the `RollupDao` that `publishRollup` was called with, if it was
called, and what `processPendingTxs` returned or raised. -/
structure TickOutcome (Dao : Type) where
  publishedWith : Option Dao
  result : Except CoordinatorError RollupProfile

variable {Circuit Proof Dao : Type} (col : Collaborators Circuit Proof Dao)

/-- The awaited part of `aggregateAndPublish`, from the chunked txs to the publication and
its metrics, when no interrupt arrives while it waits. -/
def buildAndPublish (interrupted : Bool) (bridgeCallDatas : List Nat) (assetIds : AssetIds)
    (rollupProfile : RollupProfile) (chunkedTx : List (List RollupTx)) : TickOutcome Dao :=
  let fail : String → TickOutcome Dao := fun e => ⟨none, .error (.error e)⟩
  match (createRollupCalls 0 chunkedTx).mapM
      (fun call => col.createRollup call.1 bridgeCallDatas assetIds.ids call.2) with
  | .error e => fail e
  | .ok txRollups =>
    match (chunkedTx.zip txRollups).mapM
        (fun p => col.create (p.1.map (·.tx)) p.2) with
    | .error e => fail e
    | .ok rollupProofDaos =>
      match padBridgeCallDatas c.numBridgeCallsPerBlock bridgeCallDatas with
      | .error e => fail e
      | .ok padded =>
        match col.aggregateRollupProofs rollupProofDaos padded assetIds.ids with
        | .error e => fail e
        | .ok rollupDao =>
          if interrupted then ⟨none, .error (.interruptError "Interrupted.")⟩
          else
            match col.publishRollup rollupDao rollupProfile.totalGas with
            | .error e => ⟨some rollupDao, .error (.error e)⟩
            | .ok published =>
              let rollupProfile := { rollupProfile with published }
              if published then
                match col.rollupPublished rollupProfile rollupDao with
                | .error _ => ⟨some rollupDao, .ok rollupProfile⟩ -- caught and logged
                | .ok () => ⟨some rollupDao, .ok rollupProfile⟩
              else ⟨some rollupDao, .ok rollupProfile⟩

/-- `aggregateAndPublish`, when no interrupt arrives while it waits. -/
def aggregateAndPublish (interrupted : Bool) (txsToRollup : List RollupTx)
    (bridgeCallDatas : List Nat) (assetIds : AssetIds) (rollupTimeouts : RollupTimeouts)
    (flush : Bool) : TickOutcome Dao :=
  match aggregatePrefix c profileRollup col.recordRollupMetrics txsToRollup rollupTimeouts flush with
  | .done result => ⟨none, result⟩
  | .build rollupProfile chunkedTx =>
    buildAndPublish c col interrupted bridgeCallDatas assetIds rollupProfile chunkedTx

/-- `processPendingTxs` as one tick with a fixed interrupt flag: the pre-sort, the
selection, the checkpoint and `aggregateAndPublish`. -/
def processPendingTxs (getTxsToRollup : GetTxsToRollup) (sort : ArraySort)
    (configs : List BridgeConfig) (interrupted : Bool) (rollupTimeouts : RollupTimeouts)
    (pendingTxs : List TxDao) (flush : Bool) : TickOutcome Dao :=
  let s := getNextTxsToRollup c getTxsToRollup sort (initialiseBridgeQueues configs rollupTimeouts)
    pendingTxs flush
  if interrupted then ⟨none, .error (.interruptError "Interrupted.")⟩
  else aggregateAndPublish c profileRollup col interrupted s.txs s.resources.bridgeCallDatas
    s.resources.assetIds rollupTimeouts flush

end Publish

/-- A flushed tick with one transfer: when `recordRollupMetrics` raises, `aggregateAndPublish`
raises before the publication decision and `publishRollup` is never called; when it returns,
the rollup is published. -/
theorem recordRollupMetrics_failure_blocks_publish :
    let c : RollupCoordinator :=
      ⟨1, 1, 100, 100, ⟨0, fun _ _ => 0, fun _ => 0, fun _ => 0, fun _ => false, 0, 0⟩, 1, 1⟩
    let profile : List RollupTx → RollupProfile := fun txs => ⟨txs.length, 0, 0, 0, [], false⟩
    let col : Collaborators Nat Nat Nat := ⟨fun _ _ _ _ => .ok 0, fun _ _ => .ok 0,
      fun _ _ _ => .ok 7, fun _ _ => .ok true, fun _ _ => .ok (), fun _ _ => .ok ()⟩
    let tick := fun col' : Collaborators Nat Nat Nat =>
      processPendingTxs c profile col' (BridgeTxQueue.getTxsToRollup c.feeResolver) (fun _ l => l)
        [] false ⟨none, fun _ => none⟩ [⟨1, .transfer, 0, 0, ⟨0, 0, 1, 2, 0, 0⟩⟩] true
    (tick col).publishedWith = some 7 ∧
      (tick { col with recordRollupMetrics := fun _ _ => .error "metrics unavailable" }).publishedWith =
        none := by
  decide

end AztecConnect
