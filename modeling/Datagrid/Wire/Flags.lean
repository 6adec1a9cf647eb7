/-!
The flags of a frame: what it begins, ends or stands for.
-/
namespace Datagrid

/-- The flags of a frame, one bit each. -/
abbrev Flags := UInt16

namespace Flags

def beginFragment : Flags := 0x8000
def endFragment : Flags := 0x4000
def isFinal : Flags := 0x2000
def beginStructure : Flags := 0x1000
def endStructure : Flags := 0x0800
def isNull : Flags := 0x0400
def isEvent : Flags := 0x0200
def backupAware : Flags := 0x0100
def backupEvent : Flags := 0x0080

def plain : Flags := 0

/-- A message in one piece begins and ends its only fragment. -/
def unfragmented : Flags := 0xC000

/-- Whether `flags` has any of the bits of `bit`. -/
def has (flags bit : Flags) : Bool := flags &&& bit != 0

/-- Whether `flags` has all the bits of `bits`. -/
def hasAll (flags bits : Flags) : Bool := flags &&& bits == bits

def set (flags bits : Flags) : Flags := flags ||| bits

def clear (flags bits : Flags) : Flags := flags &&& ~~~bits

end Flags
end Datagrid
