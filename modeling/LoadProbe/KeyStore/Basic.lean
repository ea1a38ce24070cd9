/-!
Key-value stores: every key has one value at most. Main statements say what a look-up finds after a
change.
-/
namespace LoadProbe

/-- Keys with their values; of repeated keys the first one counts. -/
structure KeyStore where
  entries : List (String × String) := []
  deriving DecidableEq, Repr

namespace KeyStore

def get? (store : KeyStore) (key : String) : Option String := store.entries.lookup key

def erase (store : KeyStore) (key : String) : KeyStore :=
  ⟨store.entries.filter (·.1 != key)⟩

def set (store : KeyStore) (key value : String) : KeyStore :=
  ⟨(key, value) :: (store.erase key).entries⟩

def size (store : KeyStore) : Nat := store.entries.length

theorem get?_erase (store : KeyStore) (key other : String) :
    (store.erase key).get? other = if other = key then none else store.get? other := by
  obtain ⟨entries⟩ := store
  simp only [get?, erase]
  induction entries with
  | nil => simp
  | cons entry rest ih =>
    obtain ⟨name, value⟩ := entry
    by_cases same : name = key
    · by_cases found : other = key
      · simpa [same, found] using ih
      · simpa [same, found, List.lookup_cons, beq_false_of_ne found] using ih
    · by_cases hit : other = name
      · simp [hit, same]
      · simpa [same, List.lookup_cons, beq_false_of_ne hit] using ih

theorem get?_set (store : KeyStore) (key value other : String) :
    (store.set key value).get? other = if other = key then some value else store.get? other := by
  by_cases found : other = key
  · simp [set, get?, found]
  · have erased := get?_erase store key other
    simp only [get?, if_neg found] at erased
    simp [set, get?, List.lookup_cons, beq_false_of_ne found, erased, found]

end KeyStore
end LoadProbe
