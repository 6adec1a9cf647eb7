import Datagrid.Text.Digits
import Datagrid.Text.Timespan
import Datagrid.Text.Utf8
import Datagrid.Uuid

/-!
What can go wrong between a client and a member. A fault names its cause; the
wording is in `Fault.message` alone. `Fault.isFatal` says which faults spoil the
connection they occur on.
-/
namespace Datagrid

/-- A part of a frame that needs a given number of bytes. -/
inductive FramePart where
  | field
  | dataHeader
  deriving DecidableEq

def FramePart.noun : FramePart → String
  | .field => "fixed-size field"
  | .dataHeader => "serialized data header"

/-- A value that travels in a frame of its own. -/
inductive FrameValue where
  | text
  | bytes
  | data
  deriving DecidableEq

def FrameValue.noun : FrameValue → String
  | .text => "string"
  | .bytes => "byte array"
  | .data => "data"

/-- How frames fail to form what they should. -/
inductive FramingFault where
  /-- A part ends at byte `needed` of a frame that holds `available`. -/
  | short (part : FramePart) (needed available : Nat)
  /-- The end of a field at `offset` is no 64-bit offset. -/
  | offsetOverflow (offset : Nat)
  /-- A frame declares a length below that of its own header. -/
  | undersized (declared : Nat)
  | noInitialFrame
  /-- A message of `count` frames has no further one. -/
  | ended (operation : String) (count : Nat)
  | repeatedFragment (id : Int64)
  | tooManyFragments (limit : Nat)
  /-- A frame that marks structure stands where a value should. -/
  | structural (expected : FrameValue) (flags : UInt16)
  | notText (fault : Text.Utf8.Fault)
  | noListBegin (flags : UInt16)
  | noListEnd
  | raggedList (width size : Nat)
  | nullListEntry
  | other (text : String)
  deriving DecidableEq

def FramingFault.message : FramingFault → String
  | .short part needed available => s!"{part.noun}: need {needed} bytes, frame has {available}"
  | .offsetOverflow offset => s!"field offset {offset} overflows"
  | .undersized declared => s!"frame length {declared} is smaller than the 6-byte header"
  | .noInitialFrame => "message has no initial frame"
  | .ended operation count => "message '" ++ operation ++ s!"' ended after {count} frames"
  | .repeatedFragment id => s!"fragment {id.toInt} started twice"
  | .tooManyFragments limit => s!"more than {limit} fragmented messages in flight"
  | .structural expected flags =>
    "expected " ++ expected.noun ++ " frame, found structural frame with flags " ++
      Text.hexNumber 4 flags.toNat
  | .notText fault => "invalid UTF-8 in string frame: " ++ fault.message
  | .noListBegin flags => "expected list begin frame, found flags " ++ Text.hexNumber 4 flags.toNat
  | .noListEnd => "list is missing its end frame"
  | .raggedList width size => s!"packed list of {width}-byte items has {size} bytes"
  | .nullListEntry => "null entry in guid list"
  | .other text => text

/-- How the two sides break the rules of their exchange. -/
inductive ProtocolFault where
  | sealed (operation : String)
  | emptyMessage
  /-- The frames of the message are already being read. -/
  | lent (operation : String)
  /-- The member answers with an error where a `expected` message should come. -/
  | memberError (expected : Int32)
  | unexpectedType (expected actual : Int32)
  /-- A message that is no event of the operation. -/
  | unexpectedEvent (actual : Int32) (operation : String)
  /-- An operation takes a key and a predicate exactly as said. -/
  | filters (operation : String) (key predicate : Bool)
  | noRegistration (operation : String)
  | unknownStatus (status : UInt8)
  | noMemberId
  | notNegotiated
  | alreadyNegotiated (version : UInt8)
  | other (text : String)
  deriving DecidableEq

/-- A 32-bit number in hexadecimal, negative ones as two's complement. -/
def hexInt (width : Nat) (n : Int32) : String :=
  Text.hexNumber width n.toUInt32.toNat

def ProtocolFault.message : ProtocolFault → String
  | .sealed operation => "cannot append to sealed message '" ++ operation ++ "'"
  | .emptyMessage => "cannot encode empty message"
  | .lent operation => "message '" ++ operation ++ "' is already being iterated"
  | .memberError expected =>
    "member returned an error instead of message type " ++ hexInt 6 expected
  | .unexpectedType expected actual =>
    "expected message type " ++ hexInt 6 expected ++ ", got " ++ hexInt 6 actual
  | .unexpectedEvent actual operation =>
    "unexpected message type " ++ hexInt 1 actual ++ " for " ++ operation
  | .filters operation key predicate =>
    operation ++ s!" expects key: {key}, predicate: {predicate}"
  | .noRegistration operation => operation ++ " response carries no registration id"
  | .unknownStatus status => s!"unknown authentication status {status}"
  | .noMemberId => "authentication response carries no member uuid"
  | .notNegotiated => "typed payload decoded before serialization version negotiation"
  | .alreadyNegotiated version => s!"serialization version already negotiated as {version}"
  | .other text => text

/-- How a payload fails to be read or written. -/
inductive PayloadFault where
  | insufficient (needed available : Nat)
  | negativeLength (length : Int32)
  /-- A length that no 32-bit integer holds. -/
  | excessiveLength (length : Nat)
  | notText (fault : Text.Utf8.Fault)
  /-- No serializer is bound to the type. -/
  | unbound (type : String)
  | other (text : String)
  deriving DecidableEq

def PayloadFault.message : PayloadFault → String
  | .insufficient needed available => s!"insufficient data: need {needed} bytes, have {available}"
  | .negativeLength length => s!"invalid array length: {length.toInt}"
  | .excessiveLength length => s!"length {length} exceeds int32 range"
  | .notText fault => "invalid UTF-8 string: " ++ fault.message
  | .unbound type => "no serializer registered for " ++ type
  | .other text => text

/-- What a configuration may not say. -/
inductive ConfigFault where
  | noClusterName
  | noTimeout
  | noCapacity
  | noHandler
  /-- The type id of a user serializer is not positive. -/
  | reservedTypeId (id : Int32)
  /-- The type is bound to the serializer with that id. -/
  | boundType (type : String) (id : Int32)
  | other (text : String)
  deriving DecidableEq

def ConfigFault.message : ConfigFault → String
  | .noClusterName => "cluster_name must not be empty"
  | .noTimeout => "operation_timeout must be non-zero"
  | .noCapacity => "notification_capacity must be non-zero"
  | .noHandler => "an entry subscription needs at least one handler"
  | .reservedTypeId id => s!"user serializer type id must be positive, got {id.toInt}"
  | .boundType type id => type ++ s!" is already serialized with type id {id.toInt}"
  | .other text => text

/-- Why a client is not let in. -/
inductive LoginFault where
  | rejected
  | notAllowed
  | other (text : String)
  deriving DecidableEq

def LoginFault.message : LoginFault → String
  | .rejected => "credentials rejected by the member"
  | .notAllowed => "client is not allowed in the cluster"
  | .other text => text

/-- What cuts an exchange with a member short. -/
inductive LinkFault where
  | notConnected
  | other (text : String)
  deriving DecidableEq

def LinkFault.message : LinkFault → String
  | .notConnected => "no open connection"
  | .other text => text

/-- What takes too long. -/
inductive DelayFault where
  | noResponse (limit : Timespan)
  | other (text : String)
  deriving DecidableEq

def DelayFault.message : DelayFault → String
  | .noResponse limit => "no response within " ++ limit.text
  | .other text => text

/-- Everything that can go wrong. -/
inductive Fault where
  | framing (cause : FramingFault)
  | unknownType (id : Int32)
  | duplicateType (id : Int32)
  /-- A value of type `actual` where `expected` is handled. -/
  | wrongType (expected actual : String)
  | versionMismatch (client server : UInt8)
  | protocol (cause : ProtocolFault)
  | cancelled
  | reinstall (subscription : Uuid) (reason : String)
  | payload (cause : PayloadFault)
  | link (cause : LinkFault)
  | delay (cause : DelayFault)
  | login (cause : LoginFault)
  | config (cause : ConfigFault)
  | system (text : String)
  deriving DecidableEq

namespace Fault

def message : Fault → String
  | .framing cause => "framing error: " ++ cause.message
  | .unknownType id => s!"unknown serialization type id: {id.toInt}"
  | .duplicateType id => s!"duplicate serializer type id: {id.toInt}"
  | .wrongType expected actual =>
    "serialization type mismatch: expected " ++ expected ++ ", got " ++ actual
  | .versionMismatch client server =>
    s!"serialization version mismatch: client {client}, server {server}"
  | .protocol cause => "protocol error: " ++ cause.message
  | .cancelled => "operation cancelled"
  | .reinstall subscription reason =>
    "failed to reinstall subscription " ++ subscription.text ++ ": " ++ reason
  | .payload cause => "serialization error: " ++ cause.message
  | .link cause => "connection error: " ++ cause.message
  | .delay cause => "timeout error: " ++ cause.message
  | .login cause => "authentication error: " ++ cause.message
  | .config cause => "configuration error: " ++ cause.message
  | .system text => "I/O error: " ++ text

/-- Whether a fault spoils the connection that it occurs on. -/
def isFatal : Fault → Bool
  | .framing _ | .unknownType _ | .versionMismatch _ _ | .link _ | .system _ => true
  | _ => false

end Fault
end Datagrid
