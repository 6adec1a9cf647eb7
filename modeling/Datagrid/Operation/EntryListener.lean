import Datagrid.Operation.Header

/-!
Entry listeners: a client listens to the entries of a map, to all of them or to
those that a key or a predicate selects. Each selection is an operation of its
own, with its own types of request, response and event.
-/
namespace Datagrid

/-- What selects the entries of a map that are listened to. -/
inductive Selection where
  | all
  | key
  | predicate
  | keyAndPredicate
  deriving DecidableEq

namespace Selection

/-- The selection by the filters that are given. -/
def ofFilters : (key predicate : Bool) → Selection
  | false, false => all
  | true, false => key
  | false, true => predicate
  | true, true => keyAndPredicate

/-- The selections by the filters they take. -/
def named : List (String × Selection) :=
  [("all", all), ("key", key), ("predicate", predicate), ("key_predicate", keyAndPredicate)]

def value : Selection → Nat
  | all => 0
  | key => 1
  | predicate => 2
  | keyAndPredicate => 3

def hasKey : Selection → Bool
  | key | keyAndPredicate => true
  | all | predicate => false

def hasPredicate : Selection → Bool
  | predicate | keyAndPredicate => true
  | all | key => false

def requestType : Selection → Int32
  | all => 0x11900
  | key => 0x11800
  | predicate => 0x11700
  | keyAndPredicate => 0x11600

def responseType (s : Selection) : Int32 := s.requestType + 1

def eventType (s : Selection) : Int32 := s.requestType + 2

def operation : Selection → String
  | all => "Map.AddEntryListener"
  | key => "Map.AddEntryListenerToKey"
  | predicate => "Map.AddEntryListenerWithPredicate"
  | keyAndPredicate => "Map.AddEntryListenerToKeyWithPredicate"

end Selection

structure ListenerRequest where
  map : String
  key : Option Data
  predicate : Option Data
  /-- Whether events bring values along. -/
  includeValue : Bool
  /-- The bits of the events that are wanted. -/
  interest : Int32
  /-- Whether the member reports only on entries of its own. -/
  localOnly : Bool
  deriving DecidableEq

/-- What a member reports of an entry. -/
structure EntryReport where
  key : Option Data
  value : Option Data
  oldValue : Option Data
  mergingValue : Option Data
  /-- The bits of the event. -/
  kind : Int32
  member : Option Uuid
  affected : Int32
  deriving DecidableEq

namespace EntryListener

/-- Offsets in the first frame of a request. -/
def includeValueOffset : Nat := requestHeaderSize
def interestOffset : Nat := includeValueOffset + Field.bool.width
def localOnlyOffset : Nat := interestOffset + Field.int.width

/-- The offset of the registration in the first frame of a response. -/
def registrationOffset : Nat := responseHeaderSize

/-- Offsets in the first frame of an event. -/
def kindOffset : Nat := eventHeaderSize
def memberOffset : Nat := kindOffset + Field.int.width
def affectedOffset : Nat := memberOffset + Field.guid.width

/-- The frames of a filter that may be missing. -/
def filterFrames (filter : Option Data) : List Frame :=
  filter.toList.flatMap Codec.data.frames

/-- Reads a filter if there has to be one. -/
def readFilter (present : Bool) : OnCursor (Option Data) := do
  if !present then return none
  let d ← Codec.data.read
  return some d

/-- The request as a message, if its filters are those of the selection. -/
def encodeRequest (s : Selection) (r : ListenerRequest) : Except Fault Message :=
  if r.key.isSome != s.hasKey || r.predicate.isSome != s.hasPredicate then
    .error (.protocol (.filters s.operation s.hasKey s.hasPredicate))
  else
    .ok <| .requestOf s.operation false <|
      .ofRequest s.requestType (Field.bool.encode r.includeValue ++ Field.int.encode r.interest ++
        Field.bool.encode r.localOnly) ::
        (Codec.text.frames r.map ++ filterFrames r.key ++ filterFrames r.predicate)

def decodeRequest (s : Selection) : OnMessage ListenerRequest :=
  Message.reading? s.requestType fun first => do
    let includeValue ← first.field .bool includeValueOffset
    let interest ← first.field .int interestOffset
    let localOnly ← first.field .bool localOnlyOffset
    let map ← Codec.text.read
    let key ← readFilter s.hasKey
    let predicate ← readFilter s.hasPredicate
    return { map, key, predicate, includeValue, interest, localOnly }

def encodeResponse (s : Selection) (registration : Uuid) : Message :=
  .ofFrames [.ofResponse s.responseType (Field.guid.encode (some registration))]

/-- Reads the registration of a response, which has to have one. -/
def decodeResponse (s : Selection) : OnMessage Uuid :=
  Message.reading? s.responseType fun first => do
    match ← first.field .guid registrationOffset with
    | some registration => return registration
    | none => throw (.protocol (.noRegistration s.operation))

/-- Whether a message is an event of the selection. -/
def isEvent (s : Selection) (m : Message) : Bool :=
  match m.messageType with
  | .ok type => type == s.eventType
  | .error _ => false

def encodeEvent (s : Selection) (e : EntryReport) : Message :=
  .ofFrames <|
    .ofEvent s.eventType (Field.int.encode e.kind ++ Field.guid.encode e.member ++
      Field.int.encode e.affected) ::
      ([e.key, e.value, e.oldValue, e.mergingValue].flatMap (Codec.nullable .data).frames)

def decodeEvent (s : Selection) : OnMessage EntryReport :=
  Message.reading? s.eventType fun first => do
    let kind ← first.field .int kindOffset
    let member ← first.field .guid memberOffset
    let affected ← first.field .int affectedOffset
    let key ← (Codec.nullable .data).read
    let value ← (Codec.nullable .data).read
    let oldValue ← (Codec.nullable .data).read
    let mergingValue ← (Codec.nullable .data).read
    return { key, value, oldValue, mergingValue, kind, member, affected }

end EntryListener
end Datagrid
