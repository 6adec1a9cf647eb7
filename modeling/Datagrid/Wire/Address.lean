/-!
Network addresses of members.
-/
namespace Datagrid

/-- A host, by name or by number, and a port. -/
structure Address where
  host : String
  port : Int32
  deriving DecidableEq

/-- Host and port with a colon between them. -/
def Address.text (a : Address) : String := a.host ++ s!":{a.port.toInt}"

end Datagrid
