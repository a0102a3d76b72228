import AztecConnect.Publish

/-!
# Ticks and interrupts, interleaved

JavaScript runs one segment of an async function at a time, from one `await` to the next.
A tick (`processPendingTxs`) runs its selection and the start of `aggregateAndPublish` in one
segment, then awaits each `createRollup` of `asyncMap`, the `Promise.all` of `create`,
`aggregateRollupProofs`, `publishRollup` (after `checkpointAndPublish`'s checkpoint) and
`rollupPublished`. An `interrupt` call checks the state and sets the flag in one segment,
then awaits the creator's and the aggregator's `interrupt` before it clears `processedTxs`.
A run is any list of segments: each awaited call returns or raises, interrupt calls start
between any two segments, and ticks follow one another.
-/

namespace AztecConnect

/-- `RollupCoordinatorState`. -/
inductive RollupCoordinatorState
  | building | publishing | interrupted
  deriving DecidableEq, Repr

/-- `RollupCoordinatorState[state].toLowerCase()`. -/
def RollupCoordinatorState.name : RollupCoordinatorState → String
  | .building => "building"
  | .publishing => "publishing"
  | .interrupted => "interrupted"

/-- The fields of `RollupCoordinator` that ticks and interrupts share. -/
structure CoordinatorFields where
  state : RollupCoordinatorState
  interrupted : Bool
  processedTxs : List RollupTx
  deriving DecidableEq

/-- Where a tick waits. -/
inductive TickPc
  /-- No tick is running. -/
  | idle
  /-- Awaiting a `createRollup` of `asyncMap`, with `remaining` calls after it. -/
  | creatingRollups (remaining : Nat)
  /-- Awaiting the `Promise.all` of `create`. -/
  | creatingProofs
  /-- Awaiting `aggregateRollupProofs`. -/
  | aggregating
  /-- Awaiting `publishRollup`. -/
  | publishing
  /-- Awaiting `metrics.rollupPublished`. -/
  | recordingPublished
  deriving DecidableEq, Repr

/-- Where an `interrupt` call waits. -/
inductive InterruptPc
  /-- Awaiting `rollupCreator.interrupt()`. -/
  | creator
  /-- Awaiting `rollupAggregator.interrupt()`. -/
  | aggregator
  deriving DecidableEq, Repr

/-- The coordinator's fields, the running tick, and the interrupt calls in flight. -/
structure Sys where
  fields : CoordinatorFields
  tick : TickPc
  interrupts : List InterruptPc
  deriving DecidableEq

/-- A freshly constructed coordinator. -/
def Sys.init : Sys := ⟨⟨.building, false, []⟩, .idle, []⟩

/-- One segment of a run. -/
inductive Segment
  /-- `processPendingTxs(pendingTxs, flush)` starts, with the timeouts of
  `calculateLastTimeouts()`, and runs to its first `await`. -/
  | processPendingTxs (rollupTimeouts : RollupTimeouts) (pendingTxs : List TxDao) (flush : Bool)
  /-- The call the tick awaits settles: it raises (`none`) or returns (for `publishRollup`,
  whether the rollup was published). -/
  | tickResumes (result : Option Bool)
  /-- `interrupt(shouldThrowIfFailToStop)` starts and runs to its first `await`. -/
  | interrupt (shouldThrowIfFailToStop : Bool)
  /-- The call that the `i`-th interrupt in flight awaits returns or raises. -/
  | interruptResumes (i : Nat) (returned : Bool)

/-- What a segment does that the lifecycle properties are about. -/
inductive Observation
  /-- A checkpoint, which raised `InterruptError` or passed. -/
  | checkpoint (raised : Bool)
  /-- `rollupPublisher.publishRollup` was invoked. -/
  | publishRollup
  /-- An `interrupt(shouldThrowIfFailToStop)` call passed its state check and set the flag. -/
  | interruptStarted (shouldThrowIfFailToStop : Bool)
  /-- An `interrupt` call raised before setting the flag. -/
  | interruptRejected (message : String)
  /-- An `interrupt` call returned. -/
  | interruptReturned
  /-- An `interrupt` call raised from the creator's or the aggregator's `interrupt`. -/
  | interruptRaised
  deriving DecidableEq, Repr

/-- `checkpoint`: raises `InterruptError` and enters `INTERRUPTED` once the flag is set. -/
def CoordinatorFields.checkpoint (f : CoordinatorFields) : CoordinatorFields × Bool :=
  if f.interrupted then ({ f with state := .interrupted }, true) else (f, false)

/-- The first segment of `processPendingTxs` after its checkpoint, from the model of the
selection and of `aggregateAndPublish`: the selected txs, and how the start of
`aggregateAndPublish` ends. -/
def processPendingTxsPrefix (c : RollupCoordinator) (profileRollup : List RollupTx → RollupProfile)
    (recordRollupMetrics : List RollupTx → RollupProfile → Except String Unit)
    (getTxsToRollup : GetTxsToRollup) (sort : ArraySort) (configs : List BridgeConfig)
    (rollupTimeouts : RollupTimeouts) (pendingTxs : List TxDao) (flush : Bool) :
    List RollupTx × PrefixOutcome :=
  let s := getNextTxsToRollup c getTxsToRollup sort (initialiseBridgeQueues configs rollupTimeouts)
    pendingTxs flush
  (s.txs, aggregatePrefix c profileRollup recordRollupMetrics s.txs rollupTimeouts flush)

section Lifecycle

-- The tick's first segment after its checkpoint: the selected txs, and how the start of
-- `aggregateAndPublish` ends.
variable (tickPrefix : RollupTimeouts → List TxDao → Bool → List RollupTx × PrefixOutcome)

/-- A tick's segment. -/
def tickStep (f : CoordinatorFields) : TickPc → Segment → CoordinatorFields × TickPc × List Observation
  | .idle, .processPendingTxs rollupTimeouts pendingTxs flush =>
    let (txs, outcome) := tickPrefix rollupTimeouts pendingTxs flush
    let (f, raised) := f.checkpoint
    if raised then (f, .idle, [.checkpoint true])
    else
      match outcome with
      | .done _ => (f, .idle, [.checkpoint false])
      | .build _ chunkedTx =>
        ({ f with processedTxs := txs },
          if chunkedTx = [] then .creatingProofs else .creatingRollups (chunkedTx.length - 1),
          [.checkpoint false])
  | .creatingRollups remaining, .tickResumes result =>
    match result, remaining with
    | none, _ => (f, .idle, [])
    | some _, 0 => (f, .creatingProofs, [])
    | some _, k + 1 => (f, .creatingRollups k, [])
  | .creatingProofs, .tickResumes result =>
    (f, if result.isSome then .aggregating else .idle, [])
  | .aggregating, .tickResumes result =>
    match result with
    | none => (f, .idle, [])
    | some _ =>
      let (f, raised) := f.checkpoint
      if raised then (f, .idle, [.checkpoint true])
      else ({ f with state := .publishing }, .publishing, [.checkpoint false, .publishRollup])
  | .publishing, .tickResumes result =>
    (f, if result = some true then .recordingPublished else .idle, [])
  | .recordingPublished, .tickResumes _ => (f, .idle, [])
  | pc, _ => (f, pc, [])

/-- An interrupt call's segment after its first: the awaited call returned or raised. -/
def interruptStep (f : CoordinatorFields) (pc : InterruptPc) (returned : Bool) :
    CoordinatorFields × Option InterruptPc × List Observation :=
  if !returned then (f, none, [.interruptRaised])
  else
    match pc with
    | .creator => (f, some .aggregator, [])
    | .aggregator => ({ f with processedTxs := [] }, none, [.interruptReturned])

/-- One segment of a run. -/
def step (s : Sys) : Segment → Sys × List Observation
  | .interrupt shouldThrowIfFailToStop =>
    if shouldThrowIfFailToStop ∧ s.fields.state ≠ .building then
      (s, [.interruptRejected ("Rollup already " ++ s.fields.state.name)])
    else
      ({ s with
          fields := { s.fields with interrupted := true }
          interrupts := s.interrupts ++ [.creator] },
        [.interruptStarted shouldThrowIfFailToStop])
  | .interruptResumes i returned =>
    match s.interrupts[i]? with
    | none => (s, [])
    | some pc =>
      let (f, next, obs) := interruptStep s.fields pc returned
      ({ s with
          fields := f
          interrupts := match next with
            | none => s.interrupts.eraseIdx i
            | some pc' => s.interrupts.set i pc' },
        obs)
  | seg =>
    let (f, tick, obs) := tickStep tickPrefix s.fields s.tick seg
    ({ s with fields := f, tick }, obs)

/-- The state after a run. -/
def execState (s : Sys) (segs : List Segment) : Sys :=
  segs.foldl (fun s seg => (step tickPrefix s seg).1) s

/-- What a run does, segment after segment. -/
def execObs : Sys → List Segment → List Observation
  | _, [] => []
  | s, seg :: segs => (step tickPrefix s seg).2 ++ execObs (step tickPrefix s seg).1 segs

/-! ## What one segment can do -/

/-- Every segment is one of these, as far as the coordinator's fields, the interrupt calls in
flight and the observations go. -/
inductive StepShape (s : Sys) : Sys → List Observation → Prop
  /-- A tick awaits on, or ends, or a segment that is not enabled. -/
  | quiet {s' : Sys} : s'.fields = s.fields → s'.interrupts = s.interrupts → StepShape s s' []
  /-- A checkpoint raises `InterruptError`. -/
  | checkpointRaised {s' : Sys} : s.fields.interrupted →
      s'.fields = { s.fields with state := .interrupted } → s'.interrupts = s.interrupts →
      StepShape s s' [.checkpoint true]
  /-- A tick passes its first checkpoint, and may record its txs as processed. -/
  | tickStarted {s' : Sys} (txs : Option (List RollupTx)) : s.fields.interrupted = false →
      s'.fields = { s.fields with processedTxs := txs.getD s.fields.processedTxs } →
      s'.interrupts = s.interrupts → StepShape s s' [.checkpoint false]
  /-- `checkpointAndPublish` passes its checkpoint and invokes `publishRollup`. -/
  | published {s' : Sys} : s.fields.interrupted = false →
      s'.fields = { s.fields with state := .publishing } → s'.interrupts = s.interrupts →
      StepShape s s' [.checkpoint false, .publishRollup]
  /-- `interrupt(true)` raises outside `BUILDING`. -/
  | interruptRejected (message : String) : s.fields.state ≠ .building →
      StepShape s s [.interruptRejected message]
  /-- An `interrupt` call sets the flag. -/
  | interruptStarted {s' : Sys} (shouldThrowIfFailToStop : Bool) :
      (shouldThrowIfFailToStop → s.fields.state = .building) →
      s'.fields = { s.fields with interrupted := true } →
      s'.interrupts = s.interrupts ++ [.creator] →
      StepShape s s' [.interruptStarted shouldThrowIfFailToStop]
  /-- An interrupt call in flight goes on to await the aggregator. -/
  | interruptAwaits {s' : Sys} : s.interrupts ≠ [] → s'.fields = s.fields → StepShape s s' []
  /-- An interrupt call in flight raises from the creator's or the aggregator's `interrupt`. -/
  | interruptRaised {s' : Sys} : s.interrupts ≠ [] → s'.fields = s.fields →
      StepShape s s' [.interruptRaised]
  /-- An interrupt call in flight clears `processedTxs` and returns. -/
  | interruptReturned {s' : Sys} : s.interrupts ≠ [] →
      s'.fields = { s.fields with processedTxs := [] } → StepShape s s' [.interruptReturned]

variable {tickPrefix}

lemma CoordinatorFields.checkpoint_eq (f : CoordinatorFields) :
    f.checkpoint = if f.interrupted then ({ f with state := .interrupted }, true) else (f, false) :=
  rfl

/-- The inversion lemma of `step`. -/
theorem step_shape (s : Sys) (seg : Segment) :
    StepShape s (step tickPrefix s seg).1 (step tickPrefix s seg).2 := by
  cases seg with
  | interrupt b =>
    simp only [step]
    split
    · exact .interruptRejected _ ‹_ ∧ _›.2
    · rename_i h
      exact .interruptStarted b (fun hb => by simpa [hb] using h) rfl rfl
  | interruptResumes i returned =>
    simp only [step]
    split
    · exact .quiet rfl rfl
    · rename_i pc hpc
      have hne : s.interrupts ≠ [] := by
        rintro h
        simp [h] at hpc
      unfold interruptStep
      cases returned
      · exact .interruptRaised hne rfl
      · cases pc
        · exact .interruptAwaits hne rfl
        · exact .interruptReturned hne rfl
  | processPendingTxs rollupTimeouts pendingTxs flush =>
    cases htick : s.tick
    case idle =>
      cases hf : s.fields.interrupted
      · simp only [step, tickStep, htick, CoordinatorFields.checkpoint_eq, hf, Bool.false_eq_true,
          ↓reduceIte]
        split
        · exact .tickStarted none hf rfl rfl
        · exact .tickStarted (some (tickPrefix rollupTimeouts pendingTxs flush).1) hf (by simp [hf]) rfl
      · simp only [step, tickStep, htick, CoordinatorFields.checkpoint_eq, hf, ↓reduceIte]
        exact .checkpointRaised hf (by simp [hf]) rfl
    all_goals
      simp only [step, tickStep, htick]
      exact .quiet rfl rfl
  | tickResumes result =>
    cases htick : s.tick
    case aggregating =>
      cases result
      · simp only [step, tickStep, htick]
        exact .quiet rfl rfl
      · cases hf : s.fields.interrupted
        · simp only [step, tickStep, htick, CoordinatorFields.checkpoint_eq, hf, Bool.false_eq_true,
            ↓reduceIte]
          exact .published hf (by simp [hf]) rfl
        · simp only [step, tickStep, htick, CoordinatorFields.checkpoint_eq, hf, ↓reduceIte]
          exact .checkpointRaised hf (by simp [hf]) rfl
    case creatingRollups k =>
      simp only [step, tickStep, htick]
      split <;> exact .quiet rfl rfl
    all_goals
      simp only [step, tickStep, htick]
      exact .quiet rfl rfl

/-! ## What one segment keeps -/

/-- The flag is set whenever the state is `INTERRUPTED` and while an interrupt call is in
flight. -/
structure Sys.Consistent (s : Sys) : Prop where
  interruptedFlag : s.fields.state = .interrupted → s.fields.interrupted
  inFlight : s.interrupts ≠ [] → s.fields.interrupted

lemma Sys.consistent_init : Sys.init.Consistent := ⟨by simp [Sys.init], by simp [Sys.init]⟩

namespace StepShape

variable {s s' : Sys} {obs : List Observation}

lemma interrupted_mono (h : StepShape s s' obs) (hf : s.fields.interrupted) :
    s'.fields.interrupted := by
  cases h <;> simp_all

lemma consistent (h : StepShape s s' obs) (hc : s.Consistent) : s'.Consistent := by
  cases h with
  | quiet hf hi => exact ⟨hf ▸ hc.interruptedFlag, by rw [hf, hi]; exact hc.inFlight⟩
  | checkpointRaised hf hs _ => exact ⟨fun _ => by simp [hs, hf], fun _ => by simp [hs, hf]⟩
  | tickStarted _ hf hs hi =>
    refine ⟨fun h => ?_, fun h => by rw [hi] at h; simpa [hs] using hc.inFlight h⟩
    rw [hs] at h
    simpa [hf] using hc.interruptedFlag h
  | published hf hs hi =>
    exact ⟨fun h => by simp [hs] at h, fun h => by rw [hi] at h; simpa [hs] using hc.inFlight h⟩
  | interruptRejected => exact hc
  | interruptStarted _ _ hs _ => exact ⟨fun _ => by simp [hs], fun _ => by simp [hs]⟩
  | interruptAwaits hne hs | interruptRaised hne hs | interruptReturned hne hs =>
    exact ⟨fun _ => by simpa [hs] using hc.inFlight hne, fun _ => by simpa [hs] using hc.inFlight hne⟩

lemma no_publish (h : StepShape s s' obs) (hf : s.fields.interrupted) :
    .publishRollup ∉ obs ∧ .checkpoint false ∉ obs := by
  cases h <;> simp_all

lemma state_of_checkpoint_raised (h : StepShape s s' obs) (hraised : .checkpoint true ∈ obs) :
    s'.fields.state = .interrupted := by
  cases h <;> simp_all

lemma state_interrupted (h : StepShape s s' obs) (hc : s.Consistent)
    (hs : s.fields.state = .interrupted) : s'.fields.state = .interrupted := by
  have hf := hc.interruptedFlag hs
  cases h <;> simp_all

lemma state_ne_building (h : StepShape s s' obs) (hs : s.fields.state ≠ .building) :
    s'.fields.state ≠ .building := by
  cases h <;> simp_all

lemma state_of_publish (h : StepShape s s' obs) (hp : .publishRollup ∈ obs) :
    s'.fields.state ≠ .building := by
  cases h <;> simp_all

lemma processedTxs_nil (h : StepShape s s' obs) (hf : s.fields.interrupted)
    (hp : s.fields.processedTxs = []) : s'.fields.processedTxs = [] := by
  cases h <;> simp_all

lemma of_interruptReturned (h : StepShape s s' obs) (hc : s.Consistent)
    (hr : .interruptReturned ∈ obs) : s'.fields.interrupted ∧ s'.fields.processedTxs = [] := by
  cases h with
  | interruptReturned hne hs => simpa [hs] using hc.inFlight hne
  | _ => simp at hr

lemma of_interruptStarted (h : StepShape s s' obs)
    (hr : .interruptStarted true ∈ obs) :
    s.fields.state = .building ∧ s'.fields.interrupted ∧ obs = [.interruptStarted true] := by
  cases h with
  | interruptStarted b hb hs _ =>
    simp only [List.mem_singleton, Observation.interruptStarted.injEq] at hr
    subst hr
    simp [hb rfl, hs]
  | _ => simp at hr

end StepShape

/-! ## Over whole runs -/

@[simp] lemma execState_nil (s : Sys) : execState tickPrefix s [] = s := rfl

@[simp] lemma execState_cons (s : Sys) (seg : Segment) (segs : List Segment) :
    execState tickPrefix s (seg :: segs) = execState tickPrefix (step tickPrefix s seg).1 segs := rfl

lemma execState_append (s : Sys) (pre post : List Segment) :
    execState tickPrefix s (pre ++ post) = execState tickPrefix (execState tickPrefix s pre) post :=
  List.foldl_append _ _ _ _

lemma execObs_append (s : Sys) (pre post : List Segment) :
    execObs tickPrefix s (pre ++ post) =
      execObs tickPrefix s pre ++ execObs tickPrefix (execState tickPrefix s pre) post := by
  induction pre generalizing s with
  | nil => rfl
  | cons seg pre ih => simp [execObs, ih]

/-- The run lemma: what every segment keeps holds after every run. -/
lemma execState_induction (P : Sys → Prop) (hstep : ∀ s seg, P s → P (step tickPrefix s seg).1) :
    ∀ (segs : List Segment) (s : Sys), P s → P (execState tickPrefix s segs)
  | [], _, h => h
  | seg :: segs, s, h => execState_induction P hstep segs _ (hstep s seg h)

lemma execState_consistent (segs : List Segment) {s : Sys} (hc : s.Consistent) :
    (execState tickPrefix s segs).Consistent :=
  execState_induction _ (fun s seg hc => (step_shape s seg).consistent hc) segs s hc

lemma execObs_of_interrupted :
    ∀ (segs : List Segment) {s : Sys}, s.fields.interrupted →
      .publishRollup ∉ execObs tickPrefix s segs ∧ .checkpoint false ∉ execObs tickPrefix s segs
  | [], _, _ => by simp [execObs]
  | seg :: segs, s, hf => by
    have hshape : StepShape s (step tickPrefix s seg).1 (step tickPrefix s seg).2 := step_shape s seg
    have h1 := hshape.no_publish hf
    have h2 := execObs_of_interrupted segs (hshape.interrupted_mono hf)
    simp only [execObs, List.mem_append, not_or]
    exact ⟨⟨h1.1, h2.1⟩, ⟨h1.2, h2.2⟩⟩

lemma execState_of_publish :
    ∀ (segs : List Segment) {s : Sys}, .publishRollup ∈ execObs tickPrefix s segs →
      (execState tickPrefix s segs).fields.state ≠ .building
  | [], _, h => by simp [execObs] at h
  | seg :: segs, s, h => by
    simp only [execObs, List.mem_append] at h
    rcases h with h | h
    · exact execState_induction (fun s => s.fields.state ≠ .building)
        (fun s seg hs => (step_shape s seg).state_ne_building hs) segs _
        ((step_shape s seg).state_of_publish h)
    · exact execState_of_publish segs h

variable (tickPrefix)

/-- In every interleaving of ticks and interrupt calls from a fresh coordinator: a raised
checkpoint leaves the state `INTERRUPTED`; once the flag is set no checkpoint passes and
`publishRollup` is not invoked again; `INTERRUPTED` is never left and `BUILDING` never
re-entered; after an interrupt call returns, `processedTxs` stays empty; and an
`interrupt(true)` that does not raise rules out `publishRollup` before and after it. -/
theorem interleavings_respect_interrupt :
    (∀ s seg, .checkpoint true ∈ (step tickPrefix s seg).2 →
      (step tickPrefix s seg).1.fields.state = .interrupted) ∧
    (∀ pre post, (execState tickPrefix .init pre).fields.interrupted →
      .publishRollup ∉ execObs tickPrefix (execState tickPrefix .init pre) post ∧
      .checkpoint false ∉ execObs tickPrefix (execState tickPrefix .init pre) post) ∧
    (∀ pre post, (execState tickPrefix .init pre).fields.state = .interrupted →
      (execState tickPrefix .init (pre ++ post)).fields.state = .interrupted) ∧
    (∀ pre post, (execState tickPrefix .init pre).fields.state ≠ .building →
      (execState tickPrefix .init (pre ++ post)).fields.state ≠ .building) ∧
    (∀ pre seg post,
      .interruptReturned ∈ (step tickPrefix (execState tickPrefix .init pre) seg).2 →
      (execState tickPrefix .init (pre ++ seg :: post)).fields.processedTxs = []) ∧
    (∀ pre seg post,
      .interruptStarted true ∈ (step tickPrefix (execState tickPrefix .init pre) seg).2 →
      .publishRollup ∉ execObs tickPrefix .init (pre ++ seg :: post)) := by
  have hc : ∀ pre, (execState tickPrefix .init pre).Consistent :=
    fun pre => execState_consistent pre Sys.consistent_init
  refine ⟨fun s seg h => (step_shape s seg).state_of_checkpoint_raised h,
    fun _ post hf => execObs_of_interrupted post hf, fun pre post hs => ?_, fun pre post hs => ?_,
    fun pre seg post hr => ?_, fun pre seg post hst => ?_⟩
  · rw [execState_append]
    exact (execState_induction (fun s => s.Consistent ∧ s.fields.state = .interrupted)
      (fun s seg h => ⟨(step_shape s seg).consistent h.1, (step_shape s seg).state_interrupted h.1 h.2⟩)
      post _ ⟨hc pre, hs⟩).2
  · rw [execState_append]
    exact execState_induction (fun s => s.fields.state ≠ .building)
      (fun s seg h => (step_shape s seg).state_ne_building h) post _ hs
  · have hnil := (step_shape _ seg).of_interruptReturned (hc pre) hr
    rw [execState_append, execState_cons]
    exact (execState_induction (fun s => s.fields.interrupted ∧ s.fields.processedTxs = [])
      (fun s seg h => ⟨(step_shape s seg).interrupted_mono h.1, (step_shape s seg).processedTxs_nil h.1 h.2⟩)
      post _ hnil).2
  · obtain ⟨hb, hf, hobs⟩ := (step_shape _ seg).of_interruptStarted hst
    rw [execObs_append]
    simp only [execObs, List.mem_append, not_or]
    exact ⟨fun hp => execState_of_publish pre hp hb, by rw [hobs]; simp,
      (execObs_of_interrupted post hf).1⟩

end Lifecycle

/-- A tick that publishes one transfer marks it processed; `interrupt(false)` then sets the
flag, but `rollupCreator.interrupt()` raises, so the call completes without clearing
`processedTxs`. -/
theorem interrupt_raising_keeps_processedTxs :
    let c : RollupCoordinator :=
      ⟨1, 1, 100, 100, ⟨0, fun _ _ => 0, fun _ => 0, fun _ => 0, fun _ => false, 0, 0⟩, 1, 1⟩
    let tickPrefix := processPendingTxsPrefix c (fun txs => ⟨txs.length, 0, 0, 0, [], false⟩)
      (fun _ _ => .ok ()) (BridgeTxQueue.getTxsToRollup c.feeResolver) (fun _ l => l) []
    let pre : List Segment :=
      [.processPendingTxs ⟨none, fun _ => none⟩ [⟨1, .transfer, 0, 0, ⟨0, 0, 1, 2, 0, 0⟩⟩] true,
        .interrupt false]
    .interruptRaised ∈
        (step tickPrefix (execState tickPrefix .init pre) (.interruptResumes 0 false)).2 ∧
      (execState tickPrefix .init (pre ++ [.interruptResumes 0 false])).fields.processedTxs ≠ [] := by
  decide

end AztecConnect
