import Datagrid.Uuid
import Datagrid.Wire.Address

/-!
The members of a cluster as far as events need to know them, and directories
that find them by their identifiers.
-/
namespace Datagrid

/-- A member; a lite one holds no data. -/
structure Member where
  uuid : Uuid
  address : Option Address
  isLite : Bool
  deriving DecidableEq

def Member.text (m : Member) : String :=
  match m.address with
  | some address => "Member [" ++ address.text ++ "] - " ++ m.uuid.text
  | none => "Member - " ++ m.uuid.text

/-- The known members, one for an identifier. -/
structure Directory where
  members : List Member

namespace Directory

def empty : Directory := ⟨[]⟩

def find? (d : Directory) (uuid : Uuid) : Option Member :=
  d.members.find? (·.uuid == uuid)

/-- Forgets the member with an identifier. -/
def erase (d : Directory) (uuid : Uuid) : Directory :=
  ⟨d.members.filter (·.uuid != uuid)⟩

/-- Adds a member, in place of one with the same identifier. -/
def insert (d : Directory) (m : Member) : Directory :=
  ⟨m :: (d.erase m.uuid).members⟩

def size (d : Directory) : Nat := d.members.length

end Directory
end Datagrid
