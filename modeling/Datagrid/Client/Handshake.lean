import Datagrid.Client.Config
import Datagrid.Client.Member
import Datagrid.Operation.Authentication
import Datagrid.Payload.Negotiation

/-!
The handshake: a client asks a member to let it in, and learns who it talks to
and that both speak the same serialization version. Only an answer that grants
all of that opens the version gate.
-/
namespace Datagrid

/-- The kind of client that this is, and its version. -/
def clientType : String := "RST"
def clientVersion : String := "0.1.0"

/-- What a member says to a client that wants to be let in. -/
inductive AuthenticationStatus where
  | authenticated
  | rejected
  | otherVersion
  | notAllowed
  deriving DecidableEq

/-- The status that a response carries. -/
def AuthenticationStatus.ofByte : UInt8 → Except Fault AuthenticationStatus
  | 0 => .ok authenticated
  | 1 => .ok rejected
  | 2 => .ok otherVersion
  | 3 => .ok notAllowed
  | other => .error (.protocol (.unknownStatus other))

/-- What a client learns of the member that lets it in. -/
structure AuthenticatedMember where
  member : Member
  serverVersion : String
  partitions : Int32
  cluster : Option Uuid
  deriving DecidableEq

def AuthenticationRequest.ofConfig (c : Config) (uuid : Uuid) : AuthenticationRequest where
  clusterName := c.clusterName
  credentials := c.credentials
  uuid := uuid
  clientType := Datagrid.clientType
  version := serializationVersion
  clientVersion := Datagrid.clientVersion
  clientName := c.clientName
  labels := c.labels

namespace Handshake

/-- The message that asks to be let in. -/
def request (c : Config) (uuid : Uuid) (correlation : Int64) : Except Fault Message :=
  (Authentication.encodeRequest (.ofConfig c uuid)).setCorrelation correlation

/-- The member that a response comes from, if it grants everything, and the
    gate as it is then. -/
def grant (gate : Gate) (r : AuthenticationResponse) : Except Fault (AuthenticatedMember × Gate) := do
  match ← AuthenticationStatus.ofByte r.status with
  | .rejected => throw (.login .rejected)
  | .otherVersion => throw (.versionMismatch serializationVersion r.version)
  | .notAllowed => throw (.login .notAllowed)
  | .authenticated =>
    match r.member with
    | none => throw (.protocol .noMemberId)
    | some uuid =>
      let gate ← gate.negotiate r.version
      return ({ member := ⟨uuid, r.address, false⟩, serverVersion := r.serverVersion,
                partitions := r.partitions, cluster := r.cluster }, gate)

/-- Takes in a response: the gate stays as it is unless everything is
    granted. -/
def accept (gate : Gate) (r : AuthenticationResponse) : Except Fault AuthenticatedMember × Gate :=
  match grant gate r with
  | .ok (member, gate) => (.ok member, gate)
  | .error fault => (.error fault, gate)

/-- Takes in what comes back for a request. -/
def acceptReply (gate : Gate) (reply : Except Fault Message) :
    Except Fault AuthenticatedMember × Gate :=
  match reply.bind (·.inspect Authentication.decodeResponse) with
  | .ok r => accept gate r
  | .error fault => (.error fault, gate)

/-- Asks a member to let the client in. -/
def authenticate (c : Config) (uuid : Uuid) (correlation : Int64)
    (send : Message → Except Fault Message) (gate : Gate) :
    Except Fault AuthenticatedMember × Gate :=
  acceptReply gate ((request c uuid correlation).bind send)

end Handshake
end Datagrid
