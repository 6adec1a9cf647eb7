import Datagrid.Operation.Statistics

/-!
Reports: attributes of a client as one text. Equals signs, points, commas and
backslashes within keys and values are escaped, so that only those that
separate stand by themselves.
-/
namespace Datagrid

namespace Report

def isSpecial (c : Char) : Bool := c == '=' || c == '.' || c == ',' || c == '\\'

/-- A key or a value as it stands in a report. -/
def escaped (text : String) : String :=
  String.ofList (text.toList.flatMap fun c => if isSpecial c then ['\\', c] else [c])

def attributeText (key value : String) : String :=
  escaped key ++ "=" ++ escaped value

/-- A report with one more attribute: a comma stands before all but the first. -/
def add (report key value : String) : String :=
  (if report.isEmpty then report else report ++ ",") ++ attributeText key value

def text (attributes : List (String × String)) : String :=
  attributes.foldl (fun report (key, value) => add report key value) ""

end Report

namespace Statistics

/-- The message that reports on a client. -/
def request (r : StatisticsRequest) (correlation : Int64) : Except Fault Message :=
  (encodeRequest r).setCorrelation correlation

/-- Reports on a client, and waits for the member to take note. -/
def publish (r : StatisticsRequest) (correlation : Int64)
    (send : Message → Except Fault Message) : Except Fault Unit := do
  let reply ← (request r correlation).bind send
  reply.inspect decodeResponse

end Statistics
end Datagrid
