import AztecConnect.DepositController

/-!
# The SDK's fee quotes

`AztecSdk` quotes what a user pays for a tx at each settlement time: the core SDK's fee, plus
the fee of each extra tx the user's tx needs, such as a fee-paying tx when the asset cannot pay
fees, the deposit an account tx is registered with, or a join-split that makes the exact notes a
DeFi interaction spends. The core's fee tables and note picks are arguments. The methods that
only forward to the core or to the blockchain are not modelled.
-/

namespace AztecConnect

/-- What `core.getTxFees(assetId)` returns: for each tx type, its fee at each
`TxSettlementTime`, `NEXT_ROLLUP` then `INSTANT`. -/
structure TxFees where
  fees : TxType → List AssetValue
  twoSpeeds : ∀ txType, (fees txType).length = 2

namespace TxFees

/-- `const [fee] = txFees[txType]`: the fee at `NEXT_ROLLUP`. -/
def nextRollup (txFees : TxFees) (txType : TxType) : AssetValue :=
  (txFees.fees txType).get ⟨0, by simp [txFees.twoSpeeds]⟩

end TxFees

/-- The input assets of a `BridgeCallData`. -/
structure BridgeCallData where
  inputAssetIdA : Nat
  inputAssetIdB : Option Nat

/-- What `core.getDefiFees(bridgeCallData)` returns: the fee at each `DefiSettlementTime`,
`DEADLINE`, `NEXT_ROLLUP` then `INSTANT`. -/
structure DefiFees where
  fees : List AssetValue
  threeSpeeds : fees.length = 3

/-- `defiFees[0]`: the fee at `DEADLINE`, whose asset the fee is paid in. -/
def DefiFees.deadline (defiFees : DefiFees) : AssetValue :=
  defiFees.fees.get ⟨0, by simp [defiFees.threeSpeeds]⟩

/-- What the core picks from a user's notes for an asset and an amount: the values of the
notes of `pickNotes`, and the value of the note of `pickNote`, if there is one. -/
structure NotePicks where
  pickNotes : Nat → Int → List Int
  pickNote : Nat → Int → Option Int

namespace AztecSdk

/-- The quotes `fees` with `extra` added to each value that `raise` selects: how
`getTransactionFees`, `getRegisterFees`, `getRecoverAccountFees` and `getMigrateAccountFees`
add the fee of an extra tx to the core's quotes. -/
def addToFees (raise : Int → Bool) (extra : Int) (fees : List AssetValue) : List AssetValue :=
  fees.map fun fee => { fee with value := if raise fee.value then fee.value + extra else fee.value }

/-- `isFeePayingAsset`, with `isVirtualAsset` of `@aztec/barretenberg/asset` and the
`feePayingAssetIds` of the local status. -/
def isFeePayingAsset (isVirtualAsset : Nat → Bool) (feePayingAssetIds : List Nat)
    (assetId : Nat) : Bool :=
  if isVirtualAsset assetId then false else feePayingAssetIds.contains assetId

/-- `getTransactionFees`, with the core's fees of the asset and whether it is a fee-paying
asset: the fee of the fee-paying tx is added to every quote of an asset that cannot pay
fees. -/
def getTransactionFees (txFees : TxFees) (feePayingAsset : Bool) (txType : TxType) :
    List AssetValue :=
  if feePayingAsset then txFees.fees txType
  else addToFees (fun _ => true) (txFees.nextRollup .transfer).value (txFees.fees txType)

/-- `getDepositFees`. -/
def getDepositFees (txFees : TxFees) (feePayingAsset : Bool) : List AssetValue :=
  getTransactionFees txFees feePayingAsset .deposit

/-- `getTransferFees`. -/
def getTransferFees (txFees : TxFees) (feePayingAsset : Bool) : List AssetValue :=
  getTransactionFees txFees feePayingAsset .transfer

/-- `getWithdrawFees`, with, when a recipient is given, whether it is a contract and whether
it is an empty account: either asks for the high-gas withdrawal. -/
def getWithdrawFees (txFees : TxFees) (feePayingAsset : Bool) (recipient : Option (Bool × Bool)) :
    List AssetValue :=
  let txType : TxType := match recipient with
    | some (isContract, isEmpty) => if isContract || isEmpty then .withdrawHighGas else .withdrawLowGas
    | none => .withdrawLowGas
  getTransactionFees txFees feePayingAsset txType

/-- `getAccountFee`: the core's account fees, with the fee of the fee-paying tx added to the
`NEXT_ROLLUP` fee when it is not zero. Unlike `addToFees`, it leaves the later fees as the core
quotes them. -/
def getAccountFee (txFees : TxFees) : List AssetValue :=
  match h : txFees.fees .account with
  | [] => absurd (txFees.twoSpeeds .account) (by simp [h])
  | minFee :: fees =>
    { minFee with value :=
        if minFee.value ≠ 0 then minFee.value + (txFees.nextRollup .transfer).value
        else minFee.value } :: fees

/-- `getAddSpendingKeyFees`. -/
def getAddSpendingKeyFees (txFees : TxFees) : List AssetValue := getAccountFee txFees

/-- `getRegisterFees` of a registration depositing `depositValue`: the fee of the deposit is
added to each account fee that is not zero, and to every one when something is deposited. -/
def getRegisterFees (txFees : TxFees) (depositValue : Int) : List AssetValue :=
  addToFees (fun value => value != 0 || depositValue != 0) (txFees.nextRollup .deposit).value
    (txFees.fees .account)

/-- `getRecoverAccountFees`: the fee of the deposit is added to each account fee that is not
zero. -/
def getRecoverAccountFees (txFees : TxFees) : List AssetValue :=
  addToFees (· != 0) (txFees.nextRollup .deposit).value (txFees.fees .account)

/-- `getMigrateAccountFees`: the fee of the deposit is added to each account fee that is not
zero. -/
def getMigrateAccountFees (txFees : TxFees) : List AssetValue :=
  addToFees (· != 0) (txFees.nextRollup .deposit).value (txFees.fees .account)

/-- The `requireJoinSplitTx` of `getDefiFees`: without a user and a deposit the quote assumes
a join-split; otherwise one is needed unless the picked notes pay the private input exactly
(and, with a second input asset, the second note pays the deposit value exactly). -/
def requireJoinSplitTx (bridgeCallData : BridgeCallData) (user : Option NotePicks)
    (depositValue : Option AssetValue) (requireFeePayingTx : Bool) (minDefiFee : Int) : Bool :=
  match user, depositValue with
  | some notes, some ⟨_, value⟩ =>
    let privateInput := value + if !requireFeePayingTx then minDefiFee else 0
    match bridgeCallData.inputAssetIdB with
    | none =>
      (notes.pickNotes bridgeCallData.inputAssetIdA privateInput).foldl (· + ·) 0 != privateInput
    | some inputAssetIdB =>
      notes.pickNote bridgeCallData.inputAssetIdA privateInput != some privateInput ||
        notes.pickNote inputAssetIdB value != some value
  | _, _ => true

/-- `getDefiFees`, with the user's note picks when a user is given, the core's DeFi fees of the
bridge, and the core's tx fees of each asset: each quote is the core's DeFi fee plus a transfer
fee for the fee-paying tx when the fee is in another asset than the input, and one for a
join-split (at `DEADLINE` only when one is needed). -/
def getDefiFees (bridgeCallData : BridgeCallData) (user : Option NotePicks)
    (depositValue : Option AssetValue) (defiFees : DefiFees) (getTxFees : Nat → TxFees) :
    Except String (List AssetValue) :=
  if depositValue.any (·.assetId != bridgeCallData.inputAssetIdA) then
    .error "Inconsistent asset ids."
  else
    let ⟨feeAssetId, minDefiFee⟩ := defiFees.deadline
    let requireFeePayingTx := feeAssetId != bridgeCallData.inputAssetIdA
    let requireJoinSplitTx :=
      requireJoinSplitTx bridgeCallData user depositValue requireFeePayingTx minDefiFee
    let minTransferFee := (getTxFees feeAssetId).nextRollup .transfer
    let additionalFees := [minTransferFee.value * (requireFeePayingTx.toNat + requireJoinSplitTx.toNat),
      minTransferFee.value * (requireFeePayingTx.toNat + 1),
      minTransferFee.value * (requireFeePayingTx.toNat + 1)]
    .ok (List.zipWith (fun defiFee additionalFee => { defiFee with value := defiFee.value + additionalFee })
      defiFees.fees additionalFees)

/-- `getUserPendingFunds` of `account` in `assetId`, with its pending deposit on L1 and the
SDK's unsettled deposit txs. -/
def getUserPendingFunds (assetId account : Nat) (deposited : Int) (txs : List PendingDepositTx) :
    Int :=
  deposited - (txs.filter fun tx => tx.assetId = assetId ∧ tx.publicOwner = account).foldl
    (fun sum tx => sum + tx.value) 0

/-- `getMaxSpendableValue`, with the core's answer: a number of notes other than `1` or `2`
is refused. -/
def getMaxSpendableValue (numNotes : Option Int) (maxSpendableValue : Except String Int) :
    Except String Int :=
  match numNotes with
  | some numNotes =>
    if numNotes > 2 ∨ numNotes < 1 then
      .error ("numNotes can only be 1 or 2. Got " ++ toString numNotes ++ ".")
    else maxSpendableValue
  | none => maxSpendableValue

lemma getTransactionFees_length (txFees : TxFees) (feePayingAsset : Bool) (txType : TxType) :
    (getTransactionFees txFees feePayingAsset txType).length = 2 := by
  unfold getTransactionFees addToFees
  split <;> simp [txFees.twoSpeeds]

/-- The payment proof `flushRollup` makes: the `INSTANT` transfer fee of asset `0`, paid by
the user with nothing sent anywhere, so that the rollup it joins is published at once. -/
def flushRollup (userId : Nat) (txFees : TxFees) (feePayingAsset : Bool) : PaymentProofInput :=
  let fee := (getTransferFees txFees feePayingAsset).get
    ⟨1, by simp [getTransferFees, getTransactionFees_length]⟩
  ⟨userId, fee.assetId, 0, 0, fee.value, 0, 0⟩

/-! ## Quotes in order of speed

The core quotes a tx at each settlement time, slowest first. The SDK's quotes keep the core's
order, and each covers the core's fee at its time, as long as the fees it adds are not
negative; `getAccountFee`, which raises only its slowest quote, keeps it only while the
`INSTANT` fee exceeds the raised one.
-/

/-- Quotes, slowest settlement first, that never get cheaper as settlement gets faster. -/
def SpeedOrdered (quotes : List AssetValue) : Prop :=
  quotes.Pairwise fun slow fast => slow.value ≤ fast.value

instance (quotes : List AssetValue) : Decidable (SpeedOrdered quotes) := by
  unfold SpeedOrdered; infer_instance

/-- Quotes that each cover the core's fee at the same settlement time, in its asset. -/
def Covers (quotes fees : List AssetValue) : Prop :=
  List.Forall₂ (fun quote fee => quote.assetId = fee.assetId ∧ fee.value ≤ quote.value) quotes fees

instance (quotes fees : List AssetValue) : Decidable (Covers quotes fees) := by
  unfold Covers; infer_instance

lemma addToFees_spec (raise : Int → Bool) (extra : Int) (fees : List AssetValue) :
    List.Forall₂ (fun quote fee => quote.assetId = fee.assetId ∧
      quote.value = if raise fee.value then fee.value + extra else fee.value)
      (addToFees raise extra fees) fees := by
  simp only [addToFees, List.forall₂_map_left_iff]
  exact List.forall₂_same.mpr fun _ _ => ⟨rfl, rfl⟩

lemma addToFees_covers (raise : Int → Bool) {extra : Int} (hextra : 0 ≤ extra)
    (fees : List AssetValue) : Covers (addToFees raise extra fees) fees :=
  (addToFees_spec raise extra fees).imp fun _ _ ⟨ha, hv⟩ => ⟨ha, by split at hv <;> omega⟩

lemma addToFees_speedOrdered {raise : Int → Bool} {extra : Int} {fees : List AssetValue}
    (hextra : 0 ≤ extra) (hfees : SpeedOrdered fees)
    (hraise : ∀ slow ∈ fees, ∀ fast ∈ fees, slow.value ≤ fast.value → raise slow.value →
      raise fast.value) :
    SpeedOrdered (addToFees raise extra fees) := by
  unfold SpeedOrdered addToFees
  rw [List.pairwise_map]
  refine hfees.imp_of_mem fun {slow fast} hs hf hle => ?_
  split_ifs with hslow hfast hfast
  · exact Int.add_le_add_right hle extra
  · exact absurd (hraise slow hs fast hf hle hslow) hfast
  · simp only; omega
  · exact hle

lemma getTransactionFees_speedOrdered (txFees : TxFees) (feePayingAsset : Bool) (txType : TxType)
    (htransfer : 0 ≤ (txFees.nextRollup .transfer).value) (hfees : SpeedOrdered (txFees.fees txType)) :
    SpeedOrdered (getTransactionFees txFees feePayingAsset txType) ∧
      Covers (getTransactionFees txFees feePayingAsset txType) (txFees.fees txType) := by
  unfold getTransactionFees
  split
  · exact ⟨hfees, List.forall₂_same.mpr fun _ _ => ⟨rfl, Int.le_refl _⟩⟩
  · exact ⟨addToFees_speedOrdered htransfer hfees (by simp), addToFees_covers _ htransfer _⟩

/-- A zero account fee is raised only when something is deposited, so the order is kept only
because a fee that is not zero is followed by fees that are not zero either. -/
lemma getRegisterFees_speedOrdered (txFees : TxFees) (depositValue : Int)
    (hdeposit : 0 ≤ (txFees.nextRollup .deposit).value)
    (hnonneg : ∀ fee ∈ txFees.fees .account, 0 ≤ fee.value)
    (hfees : SpeedOrdered (txFees.fees .account)) :
    SpeedOrdered (getRegisterFees txFees depositValue) ∧
      Covers (getRegisterFees txFees depositValue) (txFees.fees .account) := by
  refine ⟨addToFees_speedOrdered hdeposit hfees fun slow hs fast _ hle => ?_,
    addToFees_covers _ hdeposit _⟩
  have := hnonneg slow hs
  simp only [bne_iff_ne, Bool.or_eq_true, decide_eq_true_eq]
  omega

lemma getRegisterFees_zero (txFees : TxFees) :
    getRegisterFees txFees 0 = getRecoverAccountFees txFees := by
  simp [getRegisterFees, getRecoverAccountFees]

lemma getAccountFee_eq (txFees : TxFees) :
    ∃ minFee instantFee, txFees.fees .account = [minFee, instantFee] ∧
      getAccountFee txFees = [{ minFee with value :=
        if minFee.value ≠ 0 then minFee.value + (txFees.nextRollup .transfer).value
        else minFee.value }, instantFee] := by
  have h2 := txFees.twoSpeeds .account
  rcases hf : txFees.fees .account with _ | ⟨minFee, _ | ⟨instantFee, _ | ⟨_, _⟩⟩⟩ <;>
    simp only [hf, List.length_nil, List.length_cons] at h2 <;> try omega
  refine ⟨minFee, instantFee, rfl, ?_⟩
  unfold getAccountFee
  split <;> simp_all

lemma getAccountFee_covers (txFees : TxFees) (htransfer : 0 ≤ (txFees.nextRollup .transfer).value) :
    Covers (getAccountFee txFees) (txFees.fees .account) := by
  obtain ⟨minFee, instantFee, h, heq⟩ := getAccountFee_eq txFees
  rw [heq, h]
  refine .cons ⟨rfl, ?_⟩ (.cons ⟨rfl, Int.le_refl _⟩ .nil)
  split <;> simp only <;> omega

lemma getAccountFee_speedOrdered_iff {txFees : TxFees} {minFee instantFee : AssetValue}
    (h : txFees.fees .account = [minFee, instantFee]) (hfees : minFee.value ≤ instantFee.value) :
    SpeedOrdered (getAccountFee txFees) ↔
      minFee.value = 0 ∨ minFee.value + (txFees.nextRollup .transfer).value ≤ instantFee.value := by
  obtain ⟨m, i, h', heq⟩ := getAccountFee_eq txFees
  obtain ⟨rfl, rfl⟩ : minFee = m ∧ instantFee = i := by simpa [h] using h'
  by_cases hmin : minFee.value = 0
  · simp [heq, hmin, SpeedOrdered]; omega
  · simp [heq, hmin, SpeedOrdered]

/-- The SDK's quotes keep the core's order of speed and cover its fees, when the core quotes
every tx type in that order and the fees of the extra txs are not negative: the deposit,
transfer and withdrawal quotes of any asset, and, with account fees that are not negative, the
registration, recovery and migration quotes. The account quote of `getAccountFee` covers the
core's fees too, but keeps their order exactly when its `NEXT_ROLLUP` fee is zero or stays
within the `INSTANT` fee once the fee-paying tx's fee is added to it. -/
theorem feeQuotes_speedOrdered (txFees : TxFees) (feePayingAsset : Bool) (txType : TxType)
    (depositValue : Int) (hfees : ∀ txType, SpeedOrdered (txFees.fees txType))
    (htransfer : 0 ≤ (txFees.nextRollup .transfer).value)
    (hdeposit : 0 ≤ (txFees.nextRollup .deposit).value)
    (haccount : ∀ fee ∈ txFees.fees .account, 0 ≤ fee.value) :
    (SpeedOrdered (getTransactionFees txFees feePayingAsset txType) ∧
      Covers (getTransactionFees txFees feePayingAsset txType) (txFees.fees txType)) ∧
    (SpeedOrdered (getRegisterFees txFees depositValue) ∧
      Covers (getRegisterFees txFees depositValue) (txFees.fees .account)) ∧
    (SpeedOrdered (getRecoverAccountFees txFees) ∧
      Covers (getRecoverAccountFees txFees) (txFees.fees .account)) ∧
    (SpeedOrdered (getMigrateAccountFees txFees) ∧
      Covers (getMigrateAccountFees txFees) (txFees.fees .account)) ∧
    Covers (getAccountFee txFees) (txFees.fees .account) ∧
    ∀ minFee instantFee, txFees.fees .account = [minFee, instantFee] →
      (SpeedOrdered (getAccountFee txFees) ↔
        minFee.value = 0 ∨ minFee.value + (txFees.nextRollup .transfer).value ≤ instantFee.value) := by
  have hrecover := getRegisterFees_speedOrdered txFees 0 hdeposit haccount (hfees .account)
  rw [getRegisterFees_zero] at hrecover
  refine ⟨getTransactionFees_speedOrdered txFees feePayingAsset txType htransfer (hfees txType),
    getRegisterFees_speedOrdered txFees depositValue hdeposit haccount (hfees .account),
    hrecover, hrecover, getAccountFee_covers txFees htransfer, fun minFee instantFee h =>
    getAccountFee_speedOrdered_iff h (by simpa [SpeedOrdered, h] using hfees .account)⟩

/-- Account fees of `10` and `12` with a transfer fee of `5`, for an asset that cannot pay fees:
every other quote keeps the core's order, but the account quote raises `10` to `15`, above the
`INSTANT` fee `12`. -/
theorem feeQuotes_speedOrdered_accountInversion :
    let txFees : TxFees := ⟨fun
      | .account => [⟨0, 10⟩, ⟨0, 12⟩]
      | .transfer => [⟨0, 5⟩, ⟨0, 9⟩]
      | _ => [⟨0, 3⟩, ⟨0, 4⟩], fun txType => by cases txType <;> rfl⟩
    (∀ txType, SpeedOrdered (txFees.fees txType)) ∧ 0 ≤ (txFees.nextRollup .transfer).value ∧
      0 ≤ (txFees.nextRollup .deposit).value ∧ (∀ fee ∈ txFees.fees .account, 0 ≤ fee.value) ∧
      getAccountFee txFees = [⟨0, 15⟩, ⟨0, 12⟩] ∧
      ((SpeedOrdered (getTransactionFees txFees false .withdrawHighGas) ∧
        Covers (getTransactionFees txFees false .withdrawHighGas) (txFees.fees .withdrawHighGas)) ∧
      (SpeedOrdered (getRegisterFees txFees 1) ∧
        Covers (getRegisterFees txFees 1) (txFees.fees .account)) ∧
      (SpeedOrdered (getRecoverAccountFees txFees) ∧
        Covers (getRecoverAccountFees txFees) (txFees.fees .account)) ∧
      (SpeedOrdered (getMigrateAccountFees txFees) ∧
        Covers (getMigrateAccountFees txFees) (txFees.fees .account)) ∧
      Covers (getAccountFee txFees) (txFees.fees .account) ∧
      ∀ minFee instantFee, txFees.fees .account = [minFee, instantFee] →
        (SpeedOrdered (getAccountFee txFees) ↔
          minFee.value = 0 ∨ minFee.value + (txFees.nextRollup .transfer).value ≤ instantFee.value)) := by
  refine ⟨?_, by decide, by decide, by decide, rfl,
    feeQuotes_speedOrdered _ false .withdrawHighGas 1 ?_ (by decide) (by decide) (by decide)⟩ <;>
    exact fun txType => by cases txType <;> decide

/-- A successful `getDefiFees` keeps the order of the core's DeFi fees and covers each of them,
when the transfer fee of the fee's asset is not negative: the join-split it adds at `DEADLINE`
only when one is needed, it adds at `NEXT_ROLLUP` and `INSTANT` always. -/
theorem getDefiFees_speedOrdered (bridgeCallData : BridgeCallData) (user : Option NotePicks)
    (depositValue : Option AssetValue) (defiFees : DefiFees) (getTxFees : Nat → TxFees)
    {quotes : List AssetValue}
    (htransfer : 0 ≤ ((getTxFees defiFees.deadline.assetId).nextRollup .transfer).value)
    (hdefi : SpeedOrdered defiFees.fees)
    (h : getDefiFees bridgeCallData user depositValue defiFees getTxFees = .ok quotes) :
    SpeedOrdered quotes ∧ Covers quotes defiFees.fees := by
  obtain ⟨fees, h3⟩ := defiFees
  rcases fees with _ | ⟨⟨feeAssetId, minDefiFee⟩, _ | ⟨n, _ | ⟨i, _ | _⟩⟩⟩ <;> simp at h3
  unfold getDefiFees at h
  split_ifs at h
  simp only [DefiFees.deadline, List.get_eq_getElem, List.getElem_cons_zero, Except.ok.injEq]
    at h htransfer
  subst h
  simp [SpeedOrdered, Covers, List.pairwise_cons] at hdefi ⊢
  set t := ((getTxFees feeAssetId).nextRollup .transfer).value
  set r : Int := ↑(feeAssetId != bridgeCallData.inputAssetIdA).toNat
  set j : Int := ↑(requireJoinSplitTx bridgeCallData user depositValue
    (feeAssetId != bridgeCallData.inputAssetIdA) minDefiFee).toNat
  have hj : j ≤ 1 := Int.ofNat_le.mpr (Bool.toNat_le _)
  have hdeadline : t * (r + j) ≤ t * (r + 1) := Int.mul_le_mul_of_nonneg_left (by omega) htransfer
  have hextra : 0 ≤ t * (r + j) := Int.mul_nonneg htransfer (by omega)
  generalize t * (r + j) = deadlineFee at *
  generalize t * (r + 1) = fee at *
  omega

/-- A bridge from asset `1` whose fee is in asset `0`, quoted without a user: each quote adds a
fee-paying tx and a join-split at the transfer fee `3`. -/
theorem getDefiFees_speedOrdered_feeInOtherAsset :
    let txFees : TxFees := ⟨fun _ => [⟨0, 3⟩, ⟨0, 9⟩], fun _ => rfl⟩
    let defiFees : DefiFees := ⟨[⟨0, 10⟩, ⟨0, 20⟩, ⟨0, 50⟩], rfl⟩
    let quotes : List AssetValue := [⟨0, 16⟩, ⟨0, 26⟩, ⟨0, 56⟩]
    0 ≤ (txFees.nextRollup .transfer).value ∧ SpeedOrdered defiFees.fees ∧
      getDefiFees ⟨1, none⟩ none none defiFees (fun _ => txFees) = .ok quotes ∧
      SpeedOrdered quotes ∧ Covers quotes defiFees.fees :=
  have hquotes : getDefiFees ⟨1, none⟩ none none ⟨[⟨0, 10⟩, ⟨0, 20⟩, ⟨0, 50⟩], rfl⟩
      (fun _ => ⟨fun _ => [⟨0, 3⟩, ⟨0, 9⟩], fun _ => rfl⟩) = .ok [⟨0, 16⟩, ⟨0, 26⟩, ⟨0, 56⟩] :=
    rfl
  ⟨by decide, by decide, hquotes,
    getDefiFees_speedOrdered _ _ _ _ _ (by decide) (by decide) hquotes⟩

end AztecSdk

end AztecConnect
