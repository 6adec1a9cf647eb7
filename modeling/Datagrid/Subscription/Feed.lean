/-!
Feeds: what waits for a reader. A feed holds so many items and no more. One
that is full either refuses a further item or loses its oldest, of which the
reader is told before anything else.
-/
namespace Datagrid

/-- The items that wait for a reader, the oldest first. -/
structure Feed (α : Type) where
  capacity : Nat
  items : List α
  /-- Items were lost, and the reader does not know yet. -/
  lagged : Bool
  /-- Nothing more will come. -/
  closed : Bool

namespace Feed

variable {α : Type}

def new (capacity : Nat) : Feed α := ⟨capacity, [], false, false⟩

def isFull (f : Feed α) : Bool := f.capacity ≤ f.items.length

/-- Adds an item, unless the feed is full or closed. -/
def offer? (f : Feed α) (a : α) : Option (Feed α) :=
  if f.isFull || f.closed then none else some { f with items := f.items ++ [a] }

/-- Adds an item, unless the feed is closed; the oldest goes where there is no
    room. -/
def push (f : Feed α) (a : α) : Feed α :=
  if f.closed then f
  else if f.isFull then { f with items := f.items.drop 1 ++ [a], lagged := true }
  else { f with items := f.items ++ [a] }

def close (f : Feed α) : Feed α := { f with closed := true }

/-- What a reader finds. -/
inductive Found (α : Type) where
  | item (a : α) (f : Feed α)
  /-- Items were lost. -/
  | lagged (f : Feed α)
  /-- Nothing, so far. -/
  | empty
  /-- Nothing, and nothing will come. -/
  | closed

/-- What a reader finds next. -/
def take (f : Feed α) : Found α :=
  if f.lagged then .lagged { f with lagged := false }
  else
    match f.items with
    | a :: rest => .item a { f with items := rest }
    | [] => if f.closed then .closed else .empty

end Feed
end Datagrid
