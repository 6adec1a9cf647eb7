import Datagrid.Wire.Message

/-!
What a subscription is for. A listener gives the request that registers it and
the one that takes it off again, reads what is answered, and knows which calls
an event leads to.
-/
namespace Datagrid

/-- A listener. It looks at surroundings `σ`, and its calls are of `κ`. -/
structure Listener (σ κ : Type) where
  /-- The request that registers it. -/
  request : Except Fault Message
  /-- The registration that a response brings. -/
  registration : Message → Except Fault Uuid
  /-- The request that takes a registration off again. -/
  removal : Uuid → Except Fault Message
  /-- Whether the member still had the registration. -/
  removed : Message → Except Fault Bool
  /-- The calls that an event leads to, one after the other. -/
  calls : σ → Message → Except Fault (List κ)

end Datagrid
