import AztecConnect.Lifecycle

/-!
# A tick without interrupts, segment by segment

`processPendingTxs` of the publication model runs a whole tick in one go, from the
collaborators' answers. The lifecycle model runs the same tick segment by segment and sees of
each awaited call only whether it returned. Fed the segments that the collaborators' answers
give, from an idle tick with the flag clear, the lifecycle machine makes the same decision:
it invokes `publishRollup` exactly when `processPendingTxs` does, and the tick ends idle.
-/

namespace AztecConnect

/-- Where a tick waits with `n` `createRollup` calls of `asyncMap` still to await. -/
def TickPc.awaitingCreates : Nat → TickPc
  | 0 => .creatingProofs
  | n + 1 => .creatingRollups n

/-- The segments in which a tick awaits calls one after another: each call that returns
resumes it, and the first that raises ends it. -/
def awaitSegments {α : Type} : List (Except String α) → List Segment
  | [] => []
  | .ok _ :: rest => .tickResumes (some false) :: awaitSegments rest
  | .error _ :: _ => [.tickResumes none]

section Segments

variable {Circuit Proof Dao : Type} (c : RollupCoordinator) (col : Collaborators Circuit Proof Dao)

/-- The segments after its first in which a tick awaits the collaborators, call by call as
`buildAndPublish` makes them: the `createRollup`s, the `Promise.all` of `create` (with the
padding of the bridges after it), `aggregateRollupProofs`, `publishRollup` and, for a
published rollup, `rollupPublished`. -/
def buildSegments (bridgeCallDatas : List Nat) (assetIds : AssetIds) (rollupProfile : RollupProfile)
    (chunkedTx : List (List RollupTx)) : List Segment :=
  let createRollup := fun call : List TxDao × Bool =>
    col.createRollup call.1 bridgeCallDatas assetIds.ids call.2
  awaitSegments ((createRollupCalls 0 chunkedTx).map createRollup) ++
    match (createRollupCalls 0 chunkedTx).mapM createRollup with
    | .error _ => []
    | .ok txRollups =>
      match (chunkedTx.zip txRollups).mapM (fun p => col.create (p.1.map (·.tx)) p.2),
        padBridgeCallDatas c.numBridgeCallsPerBlock bridgeCallDatas with
      | .ok rollupProofDaos, .ok padded =>
        .tickResumes (some false) ::
          match col.aggregateRollupProofs rollupProofDaos padded assetIds.ids with
          | .error _ => [.tickResumes none]
          | .ok rollupDao =>
            .tickResumes (some false) ::
              match col.publishRollup rollupDao rollupProfile.totalGas with
              | .error _ => [.tickResumes none]
              | .ok published =>
                .tickResumes (some published) :: if published then [.tickResumes (some false)] else []
      | _, _ => [.tickResumes none]

variable (profileRollup : List RollupTx → RollupProfile) (getTxsToRollup : GetTxsToRollup)
  (sort : ArraySort) (configs : List BridgeConfig)

/-- The segments of one tick with no interrupt: its first, and those the collaborators'
answers give. -/
def tickSegments (rollupTimeouts : RollupTimeouts) (pendingTxs : List TxDao) (flush : Bool) :
    List Segment :=
  let s := getNextTxsToRollup c getTxsToRollup sort (initialiseBridgeQueues configs rollupTimeouts)
    pendingTxs flush
  .processPendingTxs rollupTimeouts pendingTxs flush ::
    match aggregatePrefix c profileRollup col.recordRollupMetrics s.txs rollupTimeouts flush with
    | .done _ => []
    | .build rollupProfile chunkedTx =>
      buildSegments c col s.resources.bridgeCallDatas s.resources.assetIds rollupProfile chunkedTx

end Segments

section Run

variable (tickPrefix : RollupTimeouts → List TxDao → Bool → List RollupTx × PrefixOutcome)

lemma awaitSegments_map {α β : Type} (f : β → Except String α) :
    ∀ (l : List β) (s : Sys), s.tick = TickPc.awaitingCreates l.length →
      execObs tickPrefix s (awaitSegments (l.map f)) = [] ∧
      execState tickPrefix s (awaitSegments (l.map f)) =
        { s with tick := match l.mapM f with | .ok _ => .creatingProofs | .error _ => .idle }
  | [], ⟨fields, tick, interrupts⟩, htick => by
    simp only [TickPc.awaitingCreates, List.length_nil] at htick
    subst htick
    exact ⟨rfl, rfl⟩
  | x :: xs, s, htick => by
    cases hx : f x with
    | error e =>
      simp only [List.map_cons, hx, awaitSegments, execObs, execState_cons, execState_nil, step,
        tickStep, htick, TickPc.awaitingCreates, List.length_cons, List.mapM_cons]
      exact ⟨rfl, rfl⟩
    | ok a =>
      have hstep : step tickPrefix s (.tickResumes (some false)) =
          ({ s with tick := TickPc.awaitingCreates xs.length }, []) := by
        cases xs <;> simp [step, tickStep, htick, TickPc.awaitingCreates]
      have ih := awaitSegments_map f xs { s with tick := TickPc.awaitingCreates xs.length } rfl
      simp only [List.map_cons, hx, awaitSegments, execObs, execState_cons, hstep, List.nil_append]
      refine ⟨ih.1, ?_⟩
      rw [ih.2, List.mapM_cons, hx]
      cases xs.mapM f <;> rfl

/-! Where a tick waits after its `createRollup`s, and what the awaited call's settling does. -/

variable (f : CoordinatorFields) (interrupts : List InterruptPc) (result : Option Bool)

@[simp] lemma step_creatingProofs :
    step tickPrefix ⟨f, .creatingProofs, interrupts⟩ (.tickResumes result) =
      (⟨f, if result.isSome then .aggregating else .idle, interrupts⟩, []) := rfl

@[simp] lemma step_aggregating_none :
    step tickPrefix ⟨f, .aggregating, interrupts⟩ (.tickResumes none) = (⟨f, .idle, interrupts⟩, []) :=
  rfl

lemma step_aggregating_some {f : CoordinatorFields} (hf : f.interrupted = false) (b : Bool) :
    step tickPrefix ⟨f, .aggregating, interrupts⟩ (.tickResumes (some b)) =
      (⟨{ f with state := .publishing }, .publishing, interrupts⟩, [.checkpoint false, .publishRollup]) := by
  simp [step, tickStep, CoordinatorFields.checkpoint_eq, hf]

@[simp] lemma step_publishing :
    step tickPrefix ⟨f, .publishing, interrupts⟩ (.tickResumes result) =
      (⟨f, if result = some true then .recordingPublished else .idle, interrupts⟩, []) := rfl

@[simp] lemma step_recordingPublished :
    step tickPrefix ⟨f, .recordingPublished, interrupts⟩ (.tickResumes result) =
      (⟨f, .idle, interrupts⟩, []) := rfl

lemma length_createRollupCalls (i : Nat) (chunks : List (List RollupTx)) :
    (createRollupCalls i chunks).length = chunks.length := by
  simpa using congrArg List.length (createRollupCalls_fst i chunks)

variable {Circuit Proof Dao : Type} (c : RollupCoordinator) (col : Collaborators Circuit Proof Dao)

/-- From the first `createRollup` on, with the flag clear, the machine invokes `publishRollup`
exactly when `buildAndPublish` does, and the tick ends idle. -/
lemma buildSegments_run (bridgeCallDatas : List Nat) (assetIds : AssetIds)
    (rollupProfile : RollupProfile) (chunkedTx : List (List RollupTx)) (s : Sys)
    (htick : s.tick = TickPc.awaitingCreates chunkedTx.length) (hf : s.fields.interrupted = false) :
    execObs tickPrefix s (buildSegments c col bridgeCallDatas assetIds rollupProfile chunkedTx) =
        (if (buildAndPublish c col false bridgeCallDatas assetIds rollupProfile chunkedTx
          : TickOutcome Dao).publishedWith.isSome then [.checkpoint false, .publishRollup] else []) ∧
      (execState tickPrefix s (buildSegments c col bridgeCallDatas assetIds rollupProfile chunkedTx)).tick =
        .idle := by
  obtain ⟨hobs, hstate⟩ := awaitSegments_map tickPrefix
    (fun call : List TxDao × Bool => col.createRollup call.1 bridgeCallDatas assetIds.ids call.2)
    (createRollupCalls 0 chunkedTx) s (by rw [length_createRollupCalls, htick])
  rw [buildSegments, buildAndPublish, execObs_append, execState_append, hobs, hstate, List.nil_append]
  cases hm : (createRollupCalls 0 chunkedTx).mapM
    (fun call : List TxDao × Bool => col.createRollup call.1 bridgeCallDatas assetIds.ids call.2) with
  | error e => simp [execObs]
  | ok txRollups =>
    cases hc : (chunkedTx.zip txRollups).mapM (fun p => col.create (p.1.map (·.tx)) p.2) with
    | error e => simp only [hc]; simp [execObs]
    | ok rollupProofDaos =>
      cases hp : padBridgeCallDatas c.numBridgeCallsPerBlock bridgeCallDatas with
      | error e => simp only [hc, hp]; simp [execObs]
      | ok padded =>
        cases ha : col.aggregateRollupProofs rollupProofDaos padded assetIds.ids with
        | error e => simp only [hc, hp, ha]; simp [execObs]
        | ok rollupDao =>
          cases hpub : col.publishRollup rollupDao rollupProfile.totalGas with
          | error e =>
            simp only [hc, hp, ha, hpub]
            simp [execObs, step_aggregating_some tickPrefix _ hf]
          | ok published =>
            simp only [hc, hp, ha, hpub]
            cases published
            · simp [execObs, step_aggregating_some tickPrefix _ hf]
            · simp [execObs, step_aggregating_some tickPrefix _ hf]
              cases col.rollupPublished { rollupProfile with published := true } rollupDao <;> rfl

variable (profileRollup : List RollupTx → RollupProfile) (getTxsToRollup : GetTxsToRollup)
  (sort : ArraySort) (configs : List BridgeConfig)

/-- With no interrupt, the tick run segment by segment passes its first checkpoint, and
passes the checkpoint of `checkpointAndPublish` and invokes `publishRollup` exactly when
`processPendingTxs`, run in one go, invokes `publishRollup`; and it ends idle. -/
theorem tickSegments_refines_processPendingTxs (rollupTimeouts : RollupTimeouts)
    (pendingTxs : List TxDao) (flush : Bool) (s : Sys) (hidle : s.tick = .idle)
    (hf : s.fields.interrupted = false) :
    let tickPrefix :=
      processPendingTxsPrefix c profileRollup col.recordRollupMetrics getTxsToRollup sort configs
    let segs := tickSegments c col profileRollup getTxsToRollup sort configs rollupTimeouts pendingTxs flush
    let outcome : TickOutcome Dao :=
      processPendingTxs c profileRollup col getTxsToRollup sort configs false rollupTimeouts pendingTxs flush
    execObs tickPrefix s segs = .checkpoint false ::
        (if outcome.publishedWith.isSome then [.checkpoint false, .publishRollup] else []) ∧
      (execState tickPrefix s segs).tick = .idle := by
  intro tickPrefix segs outcome
  obtain ⟨f, pc, interrupts⟩ := s
  obtain rfl : pc = .idle := hidle
  replace hf : f.interrupted = false := hf
  set sel := getNextTxsToRollup c getTxsToRollup sort (initialiseBridgeQueues configs rollupTimeouts)
    pendingTxs flush
  have hpre : processPendingTxsPrefix c profileRollup col.recordRollupMetrics getTxsToRollup sort
      configs rollupTimeouts pendingTxs flush =
      (sel.txs, aggregatePrefix c profileRollup col.recordRollupMetrics sel.txs rollupTimeouts flush) := rfl
  simp only [segs, outcome, tickSegments, processPendingTxs, aggregateAndPublish]
  cases hout : aggregatePrefix c profileRollup col.recordRollupMetrics sel.txs rollupTimeouts flush with
  | done result =>
    simp [execObs, step, tickStep, hpre, hout, CoordinatorFields.checkpoint_eq, hf]
  | build rollupProfile chunkedTx =>
    have hfirst : step tickPrefix ⟨f, .idle, interrupts⟩ (.processPendingTxs rollupTimeouts pendingTxs flush) =
        (⟨{ f with processedTxs := sel.txs }, TickPc.awaitingCreates chunkedTx.length, interrupts⟩,
          [.checkpoint false]) := by
      cases chunkedTx <;> simp [step, tickStep, hpre, hout, CoordinatorFields.checkpoint_eq, hf,
        TickPc.awaitingCreates]
    obtain ⟨hobs, hidle'⟩ := buildSegments_run tickPrefix c col sel.resources.bridgeCallDatas
      sel.resources.assetIds rollupProfile chunkedTx
      ⟨{ f with processedTxs := sel.txs }, TickPc.awaitingCreates chunkedTx.length, interrupts⟩ rfl hf
    simp only [execObs, execState_cons, hfirst, hobs, hidle']
    simp

end Run

/-- A flushed tick of one transfer from a fresh coordinator, every collaborator answering. -/
theorem tickSegments_refines_processPendingTxs_transfer :
    let c : RollupCoordinator :=
      ⟨1, 1, 100, 100, ⟨0, fun _ _ => 0, fun _ => 0, fun _ => 0, fun _ => false, 0, 0⟩, 1, 1⟩
    let profile : List RollupTx → RollupProfile := fun txs => ⟨txs.length, 0, 0, 0, [], false⟩
    let col : Collaborators Nat Nat Nat := ⟨fun _ _ _ _ => .ok 0, fun _ _ => .ok 0,
      fun _ _ _ => .ok 7, fun _ _ => .ok true, fun _ _ => .ok (), fun _ _ => .ok ()⟩
    let getTxsToRollup := BridgeTxQueue.getTxsToRollup c.feeResolver
    let pendingTxs : List TxDao := [⟨1, .transfer, 0, 0, ⟨0, 0, 1, 2, 0, 0⟩⟩]
    let tickPrefix :=
      processPendingTxsPrefix c profile col.recordRollupMetrics getTxsToRollup (fun _ l => l) []
    let segs := tickSegments c col profile getTxsToRollup (fun _ l => l) [] ⟨none, fun _ => none⟩
      pendingTxs true
    let outcome : TickOutcome Nat := processPendingTxs c profile col getTxsToRollup (fun _ l => l) []
      false ⟨none, fun _ => none⟩ pendingTxs true
    Sys.init.tick = .idle ∧ Sys.init.fields.interrupted = false ∧
      (execObs tickPrefix .init segs = .checkpoint false ::
          (if outcome.publishedWith.isSome then [.checkpoint false, .publishRollup] else []) ∧
        (execState tickPrefix .init segs).tick = .idle) :=
  ⟨rfl, rfl, tickSegments_refines_processPendingTxs _ _ _ _ _ _ _ _ _ .init rfl rfl⟩

end AztecConnect
