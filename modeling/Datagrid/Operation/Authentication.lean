import Datagrid.Operation.Header

/-!
Authentication: a client says who it is and which serialization version it
speaks, and the member answers with a status, with itself and with what the
cluster is like.
-/
namespace Datagrid

/-- What a client asks to be let in with. -/
structure AuthenticationRequest where
  clusterName : String
  credentials : Octets
  uuid : Uuid
  clientType : String
  version : UInt8
  clientVersion : String
  clientName : String
  labels : List String
  deriving DecidableEq

structure AuthenticationResponse where
  status : UInt8
  address : Option Address
  member : Option Uuid
  version : UInt8
  serverVersion : String
  partitions : Int32
  cluster : Option Uuid
  failover : Bool
  deriving DecidableEq

namespace Authentication

def requestType : Int32 := 0x200
def responseType : Int32 := 0x201

/-- Offsets in the first frame of a request. -/
def clientOffset : Nat := requestHeaderSize
def clientVersionOffset : Nat := clientOffset + Field.guid.width

/-- Offsets in the first frame of a response. -/
def statusOffset : Nat := responseHeaderSize
def memberOffset : Nat := statusOffset + Field.byte.width
def versionOffset : Nat := memberOffset + Field.guid.width
def partitionsOffset : Nat := versionOffset + Field.byte.width
def clusterOffset : Nat := partitionsOffset + Field.int.width
def failoverOffset : Nat := clusterOffset + Field.guid.width

def encodeRequest (r : AuthenticationRequest) : Message :=
  .requestOf "Client.AuthenticationCustom" true <|
    .ofRequest requestType (Field.guid.encode (some r.uuid) ++ Field.byte.encode r.version) ::
      (Codec.text.frames r.clusterName ++ Codec.bytes.frames r.credentials ++
        Codec.text.frames r.clientType ++ Codec.text.frames r.clientVersion ++
        Codec.text.frames r.clientName ++ (Codec.list .text).frames r.labels)

/-- Reads a request; a client without an identifier has the nil one. -/
def decodeRequest : OnMessage AuthenticationRequest :=
  Message.reading? requestType fun first => do
    let uuid ← first.field .guid clientOffset
    let version ← first.field .byte clientVersionOffset
    let clusterName ← Codec.text.read
    let credentials ← Codec.bytes.read
    let clientType ← Codec.text.read
    let clientVersion ← Codec.text.read
    let clientName ← Codec.text.read
    let labels ← (Codec.list .text).read
    return { clusterName, credentials, uuid := uuid.getD .nil, clientType, version, clientVersion,
             clientName, labels }

def encodeResponse (r : AuthenticationResponse) : Message :=
  .ofFrames <|
    .ofResponse responseType (Field.byte.encode r.status ++ Field.guid.encode r.member ++
      Field.byte.encode r.version ++ Field.int.encode r.partitions ++
      Field.guid.encode r.cluster ++ Field.bool.encode r.failover) ::
      ((Codec.nullable .address).frames r.address ++ Codec.text.frames r.serverVersion)

def decodeResponse : OnMessage AuthenticationResponse :=
  Message.reading? responseType fun first => do
    let status ← first.field .byte statusOffset
    let member ← first.field .guid memberOffset
    let version ← first.field .byte versionOffset
    let partitions ← first.field .int partitionsOffset
    let cluster ← first.field .guid clusterOffset
    let failover ← first.field .bool failoverOffset
    let address ← (Codec.nullable .address).read
    let serverVersion ← Codec.text.read
    return { status, address, member, version, serverVersion, partitions, cluster, failover }

end Authentication
end Datagrid
