import LoadProbe.Explanation

/-!
Stores as a service: sessions are opened, and each command may fail.
-/
namespace LoadProbe

/-- The operations of a store whose state has a type. -/
structure StoreService (State : Type) where
  connect : State → Except Explanation Unit × State
  set : String → String → State → Except Explanation Unit × State
  get : String → State → Except Explanation (Option String) × State

end LoadProbe
