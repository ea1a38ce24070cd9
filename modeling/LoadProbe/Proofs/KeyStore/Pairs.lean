import LoadProbe.CacheLoad
import LoadProbe.KeyStore.Basic

/-!
Stores with numbered pairs: how many of them a rate takes and what their keys and values are.
Distinct numbers have distinct keys, so that writing the pairs below a number changes these keys and
no others.
-/
namespace LoadProbe

namespace CacheLoad

/-- The product of both, cut off at the largest number of 64 bits. -/
theorem pairsOf_eq (keysPerRate rate : UInt64) :
    pairsOf keysPerRate rate = min (rate.toNat * keysPerRate.toNat) ((1 <<< 64) - 1) := by
  have words : UInt64.size = 1 <<< 64 := by decide
  rw [pairsOf, words]

example : pairsOf 3 (UInt64.ofNat ((1 <<< 64) - 1)) = (1 <<< 64) - 1 := by decide

theorem keyName_eq (i : Nat) : keyName i = "key_" ++ toString i := by
  rw [keyName, Numeral.ofList_digits]

theorem valueName_eq (i : Nat) : valueName i = "value_" ++ toString i := by
  rw [valueName, Numeral.ofList_digits]

theorem keyName_injective {i j : Nat} (same : keyName i = keyName j) : i = j := by
  have letters := congrArg String.toList same
  simp only [keyName, String.toList_append, String.toList_ofList,
    List.append_cancel_left_eq] at letters
  exact Numeral.digits_injective letters

end CacheLoad

namespace KeyStore

/-- The store with the numbered pairs below a number written over it. -/
def withPairs (store : KeyStore) : Nat → KeyStore
  | 0 => store
  | count + 1 => (store.withPairs count).set (CacheLoad.keyName count) (CacheLoad.valueName count)

theorem get?_withPairs_key (store : KeyStore) {i count : Nat} (below : i < count) :
    (store.withPairs count).get? (CacheLoad.keyName i) = some (CacheLoad.valueName i) := by
  induction count with
  | zero => omega
  | succ count ih =>
    rw [withPairs, get?_set]
    by_cases last : i = count
    · rw [if_pos (by rw [last]), last]
    · rw [if_neg (fun same => last (CacheLoad.keyName_injective same))]
      exact ih (by omega)

theorem get?_withPairs_other (store : KeyStore) {key : String} {count : Nat}
    (other : ∀ i < count, key ≠ CacheLoad.keyName i) :
    (store.withPairs count).get? key = store.get? key := by
  induction count with
  | zero => rfl
  | succ count ih =>
    rw [withPairs, get?_set, if_neg (other count (by omega))]
    exact ih fun i below => other i (by omega)

/-- Look-ups tell a store with pairs by the pairs and by what is left of the store. -/
theorem get?_eq_withPairs {changed store : KeyStore} {count : Nat}
    (pairs : ∀ i < count, changed.get? (CacheLoad.keyName i) = some (CacheLoad.valueName i))
    (others : ∀ key, (∀ i < count, key ≠ CacheLoad.keyName i) → changed.get? key = store.get? key)
    (key : String) : changed.get? key = (store.withPairs count).get? key := by
  by_cases numbered : ∃ i < count, key = CacheLoad.keyName i
  · obtain ⟨i, below, rfl⟩ := numbered
    rw [pairs i below, get?_withPairs_key store below]
  · have other : ∀ i < count, key ≠ CacheLoad.keyName i :=
      fun i below same => numbered ⟨i, below, same⟩
    rw [others key other, get?_withPairs_other store other]

end KeyStore
end LoadProbe
