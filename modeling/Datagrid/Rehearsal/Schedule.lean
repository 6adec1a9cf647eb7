import Datagrid.Rehearsal.Play

/-!
Whose turn it is. The user's task comes first, then the others that are awake in
the order they were woken, until none is left or a round is over; those that let
others go first are woken then; and only when all wait does the clock move on,
to the next alarm.
-/
namespace Datagrid.Rehearsal

/-- The parts that a turn may have. -/
def turnFuel : Nat := 10000

/-- The turns that a step may take. -/
def stepFuel : Nat := 10000

/-- A turn of a task. -/
def takeTurn (t : TaskId) (body : Play Unit) : Play Unit := do
  modify fun w => { w with running := some t }
  body
  modify fun w => { w with running := none }.rouse

/-- A turn of a task other than the user's. -/
def taskTurn (t : TaskId) : Play Unit := do
  takeTurn t do
    match (← get).tasks[t]? with
    | some (.request r) => requestTurn turnFuel r
    | some (.activity a) => activityTurn turnFuel a
    | _ => return

/-- The turns that others have before the user's task may have the next. -/
def roundFuel : Nat := 61

/-- Gives tasks that are awake their turns, the user's apart, until none is left
    or they have had so many. -/
def drain : Nat → Play Unit
  | 0 => return
  | fuel + 1 => do
    let w ← get
    match w.queue with
    | [] => return
    | t :: queue =>
      set { w with queue }
      taskTurn t
      drain fuel

def ring : Alarm → Play Unit
  | .wake t => modify (·.wake t)
  | .expire a => do
    let _ ← act (.expire a)

/-- Moves the clock on to the next alarm, and tells whether there is one. -/
def moveClock : Play Bool := do
  let w ← get
  match (w.alarms.map (·.1)).min? with
  | none => return false
  | some now =>
    let (due, alarms) := w.alarms.partition (·.1 ≤ now)
    set { w with now := max w.now now, alarms }
    due.forM fun (_, alarm) => ring alarm
    return true

/-- Sees to it that somebody is awake, and tells whether anybody is. -/
def awaken : Play Bool := do
  let w ← get
  if !w.yielding.isEmpty then
    set (w.yielding.foldl Scene.wake { w with yielding := [] })
    return true
  if w.userAwake || !w.queue.isEmpty then return true
  moveClock

/-- Plays a program of the user to its end. -/
def playOn : Nat → Program → Play Answer
  | 0, _ => return .nothing
  | fuel + 1, p => do
    let w ← get
    let p ← if w.userAwake then do
        set { w with userAwake := false, running := some 0 }
        let p ← Program.turn turnFuel p
        modify fun w => { w with running := none }.rouse
        pure p
      else pure p
    match p with
    | .done answer => return answer
    | p =>
      drain roundFuel
      if ← awaken then playOn fuel p else return .nothing

/-- Plays a step of the user, and reports on it. -/
def playStep (step : Step) : Play Report := do
  modify fun w => { w with userAwake := true, seen := [], notes := [], during := [] }
  let answer ← playOn stepFuel (.start step)
  let w ← get
  let seen := w.seen.mergeSort fun a b => a.map ≤ b.map
  let during := w.during.mergeSort fun a b => a.1 ≤ b.1
  return ⟨answer, seen, w.notes, during.map (·.2)⟩

def play : List Step → Play (List Report)
  | [] => return []
  | step :: steps => do
    let report ← playStep step
    let reports ← play steps
    return report :: reports

def rehearse (config : SubscriptionConfig) (channel : Nat) (gate : Gate) (script : List Step) :
    List Report :=
  ((play script).run (.new config channel gate)).1

end Datagrid.Rehearsal
