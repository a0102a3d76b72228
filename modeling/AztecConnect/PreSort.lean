import AztecConnect.Basic
import Mathlib.Data.List.Perm.Subperm

/-!
# The claim-first pre-sort

`getNextTxsToRollup` orders the pending txs with
`[...pendingTxs].sort((a, b) => a.txType === TxType.DEFI_CLAIM && a.txType !== b.txType ? -1 : 1)`.
ECMA-262 fixes the result of `Array.prototype.sort` only for a consistent comparator, and
then it is the stable sort. This comparator returns `1` when a tx is compared with itself,
so it is consistent on no non-empty array and the order is left to the engine: the
selection below is therefore stated for every sort that keeps the contract.
-/

namespace AztecConnect

/-- The comparator `getNextTxsToRollup` passes to `sort`. -/
def claimFirst (a b : TxDao) : Int :=
  if a.txType = .defiClaim ∧ a.txType ≠ b.txType then -1 else 1

/-- ECMA-262, `Array.prototype.sort`: `comparefn` is a consistent comparator for the values
`S` when `=CF` is reflexive, symmetric and transitive, and `<CF` and `>CF` are transitive,
where `a <CF b` means `comparefn(a, b) < 0`. -/
structure ConsistentComparator {α : Type} (cmp : α → α → Int) (S : List α) : Prop where
  refl : ∀ a ∈ S, cmp a a = 0
  symm : ∀ a ∈ S, ∀ b ∈ S, cmp a b = 0 → cmp b a = 0
  trans_eq : ∀ a ∈ S, ∀ b ∈ S, ∀ c ∈ S, cmp a b = 0 → cmp b c = 0 → cmp a c = 0
  trans_lt : ∀ a ∈ S, ∀ b ∈ S, ∀ c ∈ S, cmp a b < 0 → cmp b c < 0 → cmp a c < 0
  trans_gt : ∀ a ∈ S, ∀ b ∈ S, ∀ c ∈ S, 0 < cmp a b → 0 < cmp b c → 0 < cmp a c

/-- What ECMA-262 promises of `items.sort(comparefn)`: a permutation of the items and, for a
consistent comparator, their stable sort (items that compare equal keep their order). -/
def SortContract {α : Type} (cmp : α → α → Int) (items result : List α) : Prop :=
  result.Perm items ∧
    (ConsistentComparator cmp items → result = items.mergeSort (fun a b => decide (cmp a b ≤ 0)))

/-- An engine's `Array.prototype.sort`, applied to a comparator and the items. -/
abbrev ArraySort := (TxDao → TxDao → Int) → List TxDao → List TxDao

/-- An engine whose sort keeps the ECMA-262 contract for every comparator and array. -/
def ArraySort.Conforms (sort : ArraySort) : Prop :=
  ∀ cmp items, SortContract cmp items (sort cmp items)

/-- The stable merge sort on `comparefn(a, b) ≤ 0`: a sort an engine may use. -/
def stableSort : ArraySort := fun cmp items => items.mergeSort (fun a b => decide (cmp a b ≤ 0))

lemma stableSort_conforms : stableSort.Conforms :=
  fun _ items => ⟨List.mergeSort_perm items _, fun _ => rfl⟩

/-- The order the pre-sort is meant to give: the DeFi claims first, then the other txs, each
group in its original order. -/
def stablePartition (txs : List TxDao) : List TxDao :=
  txs.filter (fun t => t.txType = .defiClaim) ++ txs.filter (fun t => t.txType ≠ .defiClaim)

lemma claimFirst_self (a : TxDao) : claimFirst a a = 1 := by
  simp [claimFirst]

/-- The comparator is consistent on no non-empty array: it fails reflexivity. -/
theorem claimFirst_not_consistent {txs : List TxDao} (h : txs ≠ []) :
    ¬ ConsistentComparator claimFirst txs := by
  intro hc
  obtain ⟨a, ha⟩ := List.exists_mem_of_ne_nil txs h
  simpa [claimFirst_self] using hc.refl a ha

lemma sortContract_claimFirst_iff {txs result : List TxDao} (h : txs ≠ []) :
    SortContract claimFirst txs result ↔ result.Perm txs :=
  ⟨And.left, fun hp => ⟨hp, fun hc => absurd hc (claimFirst_not_consistent h)⟩⟩

/-- Two transfers `[x, y]`: an engine that returns `[y, x]` keeps the contract, and
`[y, x]` is not the stable partition `[x, y]`. -/
theorem sortContract_admits_swapped_transfers :
    let x : TxDao := ⟨1, .transfer, 0, 0, ⟨0, 0, 0, 0, 0, 0⟩⟩
    let y : TxDao := ⟨2, .transfer, 0, 0, ⟨0, 0, 0, 0, 0, 0⟩⟩
    SortContract claimFirst [x, y] [y, x] ∧ [y, x] ≠ stablePartition [x, y] :=
  ⟨(sortContract_claimFirst_iff (by simp)).mpr (List.Perm.swap _ _ _), by decide⟩

end AztecConnect
