import Datagrid.Rehearsal.Member

/-!
Playing a step. What is under way of it is a program; a turn takes a program as
far as it gets without waiting, and whoever waits is woken by what they wait
for. Programs side by side have their turns in their order.
-/
namespace Datagrid.Rehearsal

/-! ## Beginning steps -/

/-- The answer in place of a value that may be missing. -/
def Answer.ofOption {α : Type} (f : α → Answer) : Option α → Answer
  | some a => f a
  | none => .nothing

/-- How many notices are kept for a reader: the capacity, as a power of two. -/
def Scene.noticeLimit (w : Scene) : Nat := w.config.capacity.nextPowerOfTwo

/-- The notices that have not been read, by labels. -/
def Scene.unread (w : Scene) : List NoticeView :=
  let fresh := w.system.notices.drop w.noticed
  let kept := fresh.drop (fresh.length - w.noticeLimit)
  let views := kept.map fun notice =>
    let connection := match notice with
      | .reinstalled _ c => some (w.connectionLabel c)
      | .failed _ _ | .removed _ => none
    NoticeView.mk (w.subscriptionLabel notice.subscription) notice connection
  views.mergeSort fun a b => a.label ≤ b.label

/-- The text of the system for diagnostics. -/
def Scene.managerText (w : Scene) : String :=
  "SubscriptionManager \x7b config: " ++ w.config.debugText ++ ", stats: " ++
    w.system.counts.debugText ++ ", .. \x7d"

/-- The texts of a map's subscriptions for diagnostics. -/
def Scene.describe (w : Scene) (map : String) (includeValue : Option Bool) : Answer :=
  .description map w.config w.managerText
    (mapEventsDebugText map (includeValue.getD w.config.includeValues))

/-- Sets the surroundings of the calls. -/
def surround (f : Surroundings → Surroundings) : Play Unit := do
  let _ ← act (.surround (f (← get).system.surroundings))

/-- Waits for something that is begun. -/
def awaiting (beginning : Beginning Surroundings Call) (label : Option String := none) :
    Play Program := do
  return .await (← begin beginning) label

def subscribe (spec : SubscribeSpec Step) : Play Program := do
  let w ← get
  let token ← token? spec.token
  let text := ValueType.primitive .text
  let key := spec.key.map fun key => Value.primitive (.text key)
  match MapSubscription.prepare spec.map (spec.includeValue.getD w.config.includeValues)
      spec.handlers text text key spec.predicate w.system.surroundings.gate with
  | .error fault => return .done (.fault fault)
  | .ok subscription => awaiting (.subscribe subscription.listener token) (some spec.label)

/-- Lets all others take their turns before an answer, often enough for whatever
    can happen without the clock. -/
def settled (answer : Answer) : Program := .yield 32 answer

/-- Publishes a report of the transport, and answers whether anybody listens. -/
def publish (event : ConnectionEvent) : Play Answer := do
  let w ← get
  if w.closed then return .nothing
  let _ ← act (.publish event)
  return .flag (w.system.activities.any fun
    | .listen _ _ => true
    | _ => false)

/-- Brings a report of the transport to the system. -/
def report (event : ConnectionEvent) : Way → Play Program
  | .direct => awaiting (.react event)
  | .fed => return settled (← publish event)
  | .queued => return .done (← publish event)

/-- Brings an event to the system. -/
def deliver (label : String) (spec : EventSpec) (pumped : Bool) : Play Program := do
  let c ← connection label
  let w ← get
  match w.eventMessage spec with
  | .error fault => return .done (.fault fault)
  | .ok message =>
    if !pumped then awaiting (.event c message)
    else
      match w.pump with
      | none => return settled (.flag false)
      | some pump =>
        if 0 < w.places pump then return settled (.flag (← act (.offer pump c message)))
        let sender := ⟨w.tickets, w.running.getD 0, pump, false⟩
        set { w with tickets := w.tickets + 1, senders := w.senders ++ [sender] }
        return .offer sender.ticket pump c message

/-- Ends the feed of a pump, after those who wait for a place in it. -/
def closeFeed (pump : ActivityId) : Play Unit := do
  if (← get).senders.any (·.pump == pump) then
    modify fun w => { w with closing := pump :: w.closing }
  else
    let _ ← act (.closePump pump)

/-- Takes the place that was kept for a sender, and tells whether there is one. -/
def takePlace (ticket : Nat) (pump : ActivityId) (c : ConnectionId) (message : Message) :
    Play Bool := do
  if !(← get).senders.any (fun sender => sender.ticket == ticket && sender.admitted) then
    return false
  modify fun w => { w with senders := w.senders.filter (·.ticket != ticket) }
  let _ ← act (.offer pump c message)
  if (← get).closing.contains pump then closeFeed pump
  return true

/-- Whether the activity of a task is over. -/
def Scene.isFinished (w : Scene) (task : Background) : Answer :=
  let a := match task with
    | .listener => w.listener
    | .pump => w.pumpTask
  .ofOption (fun a => .flag (w.system.isDone a)) a

def Step.begin : Step → Play Program
  | .openConnection label => do
    let c ← connection label
    let _ ← act (.use (some c))
    return .done .ok
  | .closeConnection => do
    let _ ← act (.use none)
    return .done .ok
  | .script map replies => do
    modify fun w =>
      let book := w.book map
      w.setBook { book with replies := book.replies ++ replies }
    return .done .ok
  | .subscribe spec => Rehearsal.subscribe spec
  | .unsubscribe label token => do
    let token ← token? token
    match (← get).subscription? label with
    | some s => awaiting (.unsubscribe s token)
    | none => return .done (.flag false)
  | .cancel label => do
    let _ ← act (.cancel (← token label))
    return .done .ok
  | .connected label way => do report (.connected (← connection label)) way
  | .disconnected label way => do report (.disconnected (← connection label)) way
  | .event label spec pumped => deliver label spec pumped
  | .state label => do
    let w ← get
    return .done (.ofOption .state ((w.subscription? label).bind w.system.state?))
  | .registration label => do
    match (← get).subscription? label with
    | some s => awaiting (.registration s)
    | none => return .done .nothing
  | .size => do return .done (.size (← get).system.table.length)
  | .counts => do return .done (.counts (← get).system.counts)
  | .notices => do
    let w ← get
    set { w with noticed := w.system.notices.length }
    return .done (.notices w.unread)
  | .watch label name => do
    let w ← get
    let s := (w.subscription? label).filter (w.system.table.contains ·)
    set { w with watches := (name, s) :: w.watches }
    return .done (.flag s.isSome)
  | .watched label => do
    let w ← get
    let s := (w.watches.lookup label).join
    return .done (.ofOption (.state ·.state) (s.bind w.system.subscription?))
  | .sleep milliseconds => do
    let deadline := (← get).now + milliseconds
    if milliseconds ≠ 0 then wakeAt deadline
    return .asleep deadline (settled .ok)
  | .shutdown => awaiting .shutdown
  | .negotiate version => do
    match (← get).system.surroundings.gate.negotiate version with
    | .ok gate =>
      surround fun around => { around with gate }
      return .done .ok
    | .error fault => return .done (.fault fault)
  | .addMember member => do
    surround fun around => { around with directory := around.directory.insert member }
    return .done .ok
  | .removeMember uuid => do
    let member := (← get).system.surroundings.directory.find? uuid
    surround fun around => { around with directory := around.directory.erase uuid }
    return .done (.ofOption .member member)
  | .listen => do
    let w ← get
    let a ← Rehearsal.begin (.listen w.channel)
    modify fun w => { w with listener := some a }
    if w.closed then
      let _ ← act .closeEvents
    return settled .ok
  | .closeEvents => do
    modify fun w => { w with closed := true }
    let _ ← act .closeEvents
    return settled .ok
  | .pump => do
    let a ← Rehearsal.begin (.pump 16)
    if let some former := (← get).pump then closeFeed former
    modify fun w => { w with pumpTask := some a, pump := some a }
    return .done .ok
  | .closePump => do
    if let some former := (← get).pump then closeFeed former
    modify fun w => { w with pump := none }
    return settled .ok
  | .finished task => do return .done ((← get).isFinished task)
  | .settle => return settled .ok
  | .describe map includeValue => do return .done ((← get).describe map includeValue)
  | .parallel runs => return .parallel (runs.map fun (ms, step) => .later ms step)
  | .refuse fault => return .done (.fault fault)

/-! ## Calls of handlers -/

/-- Makes a call: notes what the handler sees of the event. -/
def call (a : ActivityId) (c : Call) : Play Unit := do
  let w ← get
  let event := (w.events.lookup a).getD c.event
  let (sighting, event, gate) := c.handler.observe event w.system.surroundings.gate
  set { w with
    events := (a, event) :: w.events
    notes := w.notes ++ [Note.sighting sighting] }
  surround fun around => { around with gate }

/-- The step of a handler under way. -/
def Scene.nested? (w : Scene) (a : ActivityId) : Option Program := w.nested.lookup a

def Scene.setNested (w : Scene) (a : ActivityId) (p : Option Program) : Scene :=
  { w with nested := (p.map (a, ·)).toList ++ w.nested.filter (·.1 != a) }

def Scene.sending? (w : Scene) (r : RequestId) : Option Sending :=
  w.sendings.find? (·.request == r)

def Scene.setSending (w : Scene) (s : Sending) : Scene :=
  { w with sendings := s :: w.sendings.filter (·.request != s.request) }

def answerOf (label : Option String) : Outcome → Play Answer
  | .subscribed (.ok s) => do
    if let some label := label then modify (·.bind label s)
    return .ok
  | .subscribed (.error fault) | .unsubscribed (.error fault) => return .fault fault
  | .unsubscribed (.ok removed) => return .flag removed
  | .registration id => return .ofOption .uuid id
  | .finished => return .ok

/-! ## Turns -/

mutual

/-- A turn of a program, of at most `fuel` parts. -/
def Program.turn : Nat → Program → Play Program
  | 0, p => return p
  | _ + 1, .done answer => return .done answer
  | fuel + 1, .start step => do Program.turn fuel (← step.begin)
  | fuel + 1, .later ms step => do
    if ms = 0 then Program.turn fuel (.start step)
    else
      let deadline := (← get).now + ms
      wakeAt deadline
      return .asleep deadline (.start step)
  | fuel + 1, .asleep deadline next => do
    if deadline ≤ (← get).now then Program.turn fuel next else return .asleep deadline next
  | _ + 1, .yield 0 answer => return .done answer
  | _ + 1, .yield (times + 1) answer => do
    modify fun w => { w with yielding := w.running.getD 0 :: w.yielding }
    return .yield times answer
  | fuel + 1, .offer ticket pump c message => do
    if ← takePlace ticket pump c message then Program.turn fuel (settled (.flag true))
    else return .offer ticket pump c message
  | fuel + 1, .await a label => do
    activityTurn fuel a
    match (← get).system.outcome? a with
    | some outcome => return .done (← answerOf label outcome)
    | none => return .await a label
  | fuel + 1, .parallel runs => do
    let runs ← Program.turns fuel runs
    let answers := runs.mapM fun
      | .done answer => some answer
      | _ => none
    return (answers.map fun answers => .done (.many answers)).getD (.parallel runs)

/-- A turn of each of some programs. -/
def Program.turns : Nat → List Program → Play (List Program)
  | 0, ps => return ps
  | _ + 1, [] => return []
  | fuel + 1, p :: ps => do
    let p ← Program.turn fuel p
    let ps ← Program.turns fuel ps
    return p :: ps

/-- A turn of an activity and of those that it waits for. -/
def activityTurn : Nat → ActivityId → Play Unit
  | 0, _ => return
  | fuel + 1, a => do
    if ← act (.proceed a) then activityTurn fuel a
    else
      match (← get).system.stage? a with
      | some (.join children) =>
        activityTurns fuel children
        if ← act (.proceed a) then activityTurn fuel a
      | some (.listen _ (some child)) | some (.pump _ (some child))
      | some (.remove _ (some child)) =>
        activityTurn fuel child
        if (← get).system.isDone child then activityTurn fuel a
      | some (.call (c :: _)) =>
        if let none := (← get).nested? a then
          call a c
          modify (·.setNested a (c.handler.action.next.map .start))
        match (← get).nested? a with
        | none =>
          let _ ← act (.called a)
          activityTurn fuel a
        | some p =>
          let p ← Program.turn fuel p
          modify (·.setNested a (some p))
          if let .done answer := p then
            modify fun w => { w.setNested a none with notes := w.notes ++ [Note.next answer] }
            let _ ← act (.called a)
            activityTurn fuel a
      | some (.awaitRegistration _ _ _ _ r _) | some (.release _ _ r) => wakeAfter r
      | some (.released r) =>
        requestTurn fuel r
        if ← act (.proceed a) then activityTurn fuel a
      | _ => return

/-- A turn of each of some activities. -/
def activityTurns : Nat → List ActivityId → Play Unit
  | 0, _ => return
  | _ + 1, [] => return
  | fuel + 1, a :: rest => do
    activityTurn fuel a
    activityTurns fuel rest

/-- A turn of the member on a request. -/
def requestTurn : Nat → RequestId → Play Unit
  | 0, _ => return
  | fuel + 1, r => do
    let w ← get
    match w.sending? r with
    | none =>
      match w.system.requests[r]? with
      | none => return
      | some request =>
        let _ ← act (.send r)
        modify (·.receive r request)
        if ((← get).sending? r).isSome then requestTurn fuel r
    | some s =>
      match s.current, s.steps, s.deadline with
      | some p, _, _ =>
        let p ← Program.turn fuel p
        match p with
        | .done answer =>
          modify fun w => { w.setSending { s with current := none } with
            during := w.during ++ [(s.map, answer)] }
          requestTurn fuel r
        | p => modify (·.setSending { s with current := some p })
      | none, step :: steps, _ =>
        modify (·.setSending { s with current := some (.start step), steps })
        requestTurn fuel r
      | none, [], none =>
        let deadline := w.now + s.delay
        if s.delay ≠ 0 then wakeAt deadline
        modify (·.setSending { s with deadline := some deadline })
        requestTurn fuel r
      | none, [], some deadline =>
        if deadline ≤ w.now then
          let _ ← act (.answer r s.reply)
          modify fun w => ((w.waiters.lookup r).map w.wake).getD w

end

end Datagrid.Rehearsal
