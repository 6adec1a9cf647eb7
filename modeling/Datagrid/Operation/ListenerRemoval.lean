import Datagrid.Operation.Header

/-!
Listener removal: a client takes a listener off a map, and the member answers
whether it still had it.
-/
namespace Datagrid

namespace ListenerRemoval

def requestType : Int32 := 0x11A00
def responseType : Int32 := 0x11A01

/-- The offset of the registration in the first frame of a request. -/
def registrationOffset : Nat := requestHeaderSize

/-- The offset of the answer in the first frame of a response. -/
def removedOffset : Nat := responseHeaderSize

/-- The request to take a registered listener off a map. -/
def encodeRequest (map : String) (registration : Uuid) : Message :=
  .requestOf "Map.RemoveEntryListener" true <|
    .ofRequest requestType (Field.guid.encode (some registration)) :: Codec.text.frames map

/-- Reads the map and the registration of a request. -/
def decodeRequest : OnMessage (String × Option Uuid) :=
  Message.reading? requestType fun first => do
    let registration ← first.field .guid registrationOffset
    let map ← Codec.text.read
    return (map, registration)

def encodeResponse (removed : Bool) : Message :=
  .ofFrames [.ofResponse responseType (Field.bool.encode removed)]

/-- Reads whether the member had the registration. -/
def decodeResponse : OnMessage Bool :=
  Message.reading? responseType fun first => first.field .bool removedOffset

end ListenerRemoval
end Datagrid
