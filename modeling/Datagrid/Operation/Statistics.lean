import Datagrid.Operation.Header

/-!
Statistics: a client reports on itself from time to time, and the member
answers with nothing but the arrival.
-/
namespace Datagrid

/-- A report of a client at a time. -/
structure StatisticsRequest where
  timestamp : Int64
  attributes : String
  metrics : Octets
  deriving DecidableEq

namespace Statistics

def requestType : Int32 := 0xC00
def responseType : Int32 := 0xC01

/-- The offset of the time in the first frame. -/
def timestampOffset : Nat := requestHeaderSize

def encodeRequest (r : StatisticsRequest) : Message :=
  .requestOf "Client.Statistics" false <|
    .ofRequest requestType (Field.long.encode r.timestamp) ::
      (Codec.text.frames r.attributes ++ Codec.bytes.frames r.metrics)

def decodeRequest : OnMessage StatisticsRequest :=
  Message.reading? requestType fun first => do
    let timestamp ← first.field .long timestampOffset
    let attributes ← Codec.text.read
    let metrics ← Codec.bytes.read
    return { timestamp, attributes, metrics }

def encodeResponse : Message := .ofFrames [.ofResponse responseType []]

/-- Reads a response, which says nothing. -/
def decodeResponse : OnMessage Unit := Message.reading? responseType fun _ => return

end Statistics
end Datagrid
