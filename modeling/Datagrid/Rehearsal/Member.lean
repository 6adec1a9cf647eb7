import Datagrid.Rehearsal.Scene

/-!
The member of a rehearsal. It notes every request, answers it as the script of
the map says, and grants what it asks for where the script says nothing.
-/
namespace Datagrid.Rehearsal

/-- What a member makes of a request. -/
inductive Understood where
  | listen (selection : Selection) (request : ListenerRequest)
  | remove (map : String) (registration : Option Uuid)

def understandListener (m : Message) : List Selection → Option Understood
  | [] => none
  | s :: rest =>
    match m.inspect (EntryListener.decodeRequest s) with
    | .ok request => some (.listen s request)
    | .error _ => understandListener m rest

def understand (m : Message) : Option Understood :=
  match m.inspect ListenerRemoval.decodeRequest with
  | .ok (map, registration) => some (.remove map registration)
  | .error _ => understandListener m (Selection.named.map (·.2))

/-- The registration that a member gives to the listener it is asked for as the
    `count`-th of a map. -/
def registrationOf (map : String) (count : Nat) : Uuid :=
  ⟨Octets.word64 (Text.Utf8.encode map), UInt64.ofNat count⟩

/-- The answer to a request for a listener. -/
def listenReply (selection : Selection) (standard : Uuid) : ReplyContent → Except Fault Message
  | .granted registration _ =>
    .ok (EntryListener.encodeResponse selection (registration.getD standard))
  | .frames frames => .ok (.received frames)
  | .fault fault => .error fault

/-- The answer to a request for a removal. -/
def removeReply : ReplyContent → Except Fault Message
  | .granted _ removed => .ok (ListenerRemoval.encodeResponse removed)
  | .frames frames => .ok (.received frames)
  | .fault fault => .error fault

/-- The reply to a request of which a script says nothing. -/
def Reply.standard : Reply Step := ⟨[], 0, .granted none true⟩

/-- Notes a correlation id, and tells whether it is above all before. -/
def Scene.noteCorrelation (w : Scene) (correlation : Int64) : Bool × Scene :=
  let fresh := w.highest.all (· < correlation)
  (fresh, { w with highest := some ((w.highest.map (max · correlation)).getD correlation) })

def Scene.nextReply (w : Scene) (map : String) : Reply Step × Scene :=
  let book := w.book map
  match book.replies with
  | reply :: replies => (reply, w.setBook { book with replies })
  | [] => (.standard, w)

def Scene.receive (w : Scene) (r : RequestId) (request : Request) : Scene :=
  let m := request.message
  let correlation := m.correlation.toOption.getD 0
  let (fresh, w) := w.noteCorrelation correlation
  let connection := w.connectionLabel request.connection
  match understand m with
  | none => w
  | some (.listen selection listener) =>
    let book := w.book listener.map
    let asked := book.asked ++ [(correlation, selection)]
    let (reply, w) := (w.setBook { book with asked }).nextReply listener.map
    let standard := registrationOf listener.map asked.length
    { w with
      seen := w.seen ++
        [⟨listener.map, connection, fresh, m.retryable, .inl (selection, listener)⟩]
      sendings := w.sendings ++
        [⟨r, listener.map, none, reply.during, reply.delay, none,
          listenReply selection standard reply.content⟩] }
  | some (.remove map registration) =>
    let (reply, w) := w.nextReply map
    { w with
      seen := w.seen ++ [⟨map, connection, fresh, m.retryable, .inr registration⟩]
      sendings := w.sendings ++
        [⟨r, map, none, reply.during, reply.delay, none, removeReply reply.content⟩] }

/-- The message of an event, with the correlation id of the request it answers.
    The selection is that of the last request unless one is given. -/
def Scene.eventMessage (w : Scene) (spec : EventSpec) : Except Fault Message := do
  let asked := ((spec.map.map fun map => (w.book map).asked).getD []).toArray
  let last := asked.back?
  let selection := spec.selection <|> last.map (·.2)
  let message := match spec.content with
    | .report r => EntryListener.encodeEvent (selection.getD .all) r
    | .frames frames => Message.received frames
  let answered := match spec.generation with
    | some n => asked[n]?
    | none => last
  match spec.correlation <|> answered.map (·.1) with
  | some correlation => message.setCorrelation correlation
  | none => return message

end Datagrid.Rehearsal
