import Datagrid.Fault

/-!
Kinds of entry events as sets of bits. An event carries the bits that the
member has raised, and a handler asks for some; no combination is refused.
-/
namespace Datagrid

structure EventKinds where
  bits : Int32
  deriving DecidableEq

namespace EventKinds

def nothing : EventKinds := ⟨0⟩
def added : EventKinds := ⟨1⟩
def removed : EventKinds := ⟨2⟩
def updated : EventKinds := ⟨4⟩
def evicted : EventKinds := ⟨8⟩
def expired : EventKinds := ⟨16⟩
def evictAll : EventKinds := ⟨32⟩
def clearAll : EventKinds := ⟨64⟩
def merged : EventKinds := ⟨128⟩
def invalidation : EventKinds := ⟨256⟩
def loaded : EventKinds := ⟨512⟩

def named : List (EventKinds × String) :=
  [(added, "ADDED"), (removed, "REMOVED"), (updated, "UPDATED"), (evicted, "EVICTED"),
    (expired, "EXPIRED"), (evictAll, "EVICT_ALL"), (clearAll, "CLEAR_ALL"), (merged, "MERGED"),
    (invalidation, "INVALIDATION"), (loaded, "LOADED")]

def isNothing (k : EventKinds) : Bool := k.bits == 0

/-- Whether `k` has every bit of `other`. -/
def contains (k other : EventKinds) : Bool := k.bits &&& other.bits == other.bits

def union (k other : EventKinds) : EventKinds := ⟨k.bits ||| other.bits⟩

/-- The bits of `k` that are not in `other`. -/
def without (k other : EventKinds) : EventKinds := ⟨k.bits &&& ~~~other.bits⟩

def unionAll (ks : List EventKinds) : EventKinds := ks.foldl union nothing

/-- The names of the kinds in a set, the bits without a name as one number. -/
def text (k : EventKinds) : String :=
  if k.isNothing then "NOTHING"
  else
    let names := (named.filter fun (kind, _) => k.contains kind).map (·.2)
    let rest := k.without (unionAll (named.map (·.1)))
    String.intercalate "|" (names ++ if rest.isNothing then [] else [hexInt 1 rest.bits])

/-- The text of a set for diagnostics. -/
def debugText (k : EventKinds) : String := s!"EntryEventType({k.bits.toInt})"

end EventKinds
end Datagrid
