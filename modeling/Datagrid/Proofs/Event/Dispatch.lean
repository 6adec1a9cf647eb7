import Datagrid.Proofs.Client.Admission
import Datagrid.Proofs.Event.Memoization
import Datagrid.Proofs.Event.Rejection
import Datagrid.Proofs.Subscription.Pump

/-!
# Dispatch: who is called for which event, and in which order

A member is asked for the least set of kinds that has all that any handler asks for, so it withholds nothing that one
of them accepts. Events that come one after the other through a pump are dispatched one after the other: for each, all
handlers are called that ask for every bit of its kinds, in the order in which they were given, one at a time.
-/
namespace Datagrid

/-! ## Kinds as bits -/

namespace EventKinds

/-- Whether a bit is raised. -/
def has (k : EventKinds) (i : Nat) : Bool := k.bits.toBitVec.getLsbD i

variable {k j : EventKinds} {ks : List EventKinds} {i : Nat}

@[simp] theorem has_nothing : nothing.has i = false := by simp [has, nothing]

@[simp] theorem has_union : (k.union j).has i = (k.has i || j.has i) := by simp [has, union]

theorem contains_iff : k.contains j = true ↔ ∀ i, j.has i = true → k.has i = true := by
  rw [contains, beq_iff_eq, ← Int32.toBitVec_inj, Int32.toBitVec_and]
  constructor
  · intro same i raised
    rw [has, ← same, BitVec.getLsbD_and, Bool.and_eq_true] at raised
    exact raised.1
  · intro all
    refine BitVec.eq_of_getLsbD_eq fun i _ => ?_
    rw [BitVec.getLsbD_and]
    cases raised : j.bits.toBitVec.getLsbD i with
    | false => simp
    | true => simpa [has] using all i raised

theorem has_unionAll : (unionAll ks).has i = true ↔ ∃ k ∈ ks, k.has i = true := by
  have from' (start : EventKinds) :
      (ks.foldl union start).has i = true ↔ start.has i = true ∨ ∃ k ∈ ks, k.has i = true := by
    induction ks generalizing start with
    | nil => simp
    | cons k ks ih => simp [ih, or_assoc]
  simpa [unionAll] using from' nothing

theorem contains_refl (k : EventKinds) : k.contains k = true := contains_iff.mpr fun _ => id

/-- A set that has all of another has something in common with it, unless that is nothing. -/
theorem and_ne_zero (all : k.contains j = true) (something : j.isNothing = false) : k.bits &&& j.bits ≠ 0 := by
  rw [beq_iff_eq.mp all]
  simpa [isNothing] using something

end EventKinds

/-! ## What a member is asked for -/

namespace Handlers

variable {α β : Type}

/-- What a set of kinds has to be for a member to report these kinds only: it has all that any handler accepts, and
    no more. -/
structure Covered (hs : Handlers α) (interest : EventKinds) : Prop where
  covers : ∀ h ∈ hs, ∀ kinds, h.accepts kinds = true → interest.contains kinds = true
  /-- So a member that reports whatever has any of these kinds withholds nothing, either. -/
  meets : ∀ h ∈ hs, ∀ kinds, h.accepts kinds = true → kinds.isNothing = false → interest.bits &&& kinds.bits ≠ 0
  least : ∀ k : EventKinds, (∀ h ∈ hs, ∀ kinds, h.accepts kinds = true → k.contains kinds = true) →
    k.contains interest = true

theorem covered_interest (hs : Handlers α) : hs.Covered hs.interest := by
  have covers : ∀ h ∈ hs, ∀ kinds, h.accepts kinds = true → hs.interest.contains kinds = true := by
    intro h there kinds accepts
    rw [EventHandler.accepts, EventKinds.contains_iff] at accepts
    exact EventKinds.contains_iff.mpr fun i raised =>
      EventKinds.has_unionAll.mpr ⟨h.mask, List.mem_map_of_mem there, accepts i raised⟩
  refine ⟨covers, fun h there kinds accepts => EventKinds.and_ne_zero (covers h there kinds accepts), fun k all => ?_⟩
  refine EventKinds.contains_iff.mpr fun i raised => ?_
  obtain ⟨_, asked, raised⟩ := EventKinds.has_unionAll.mp raised
  obtain ⟨h, there, rfl⟩ := List.mem_map.mp asked
  exact EventKinds.contains_iff.mp (all h there h.mask h.mask.contains_refl) i raised

/-- The handlers that ask for every bit of an event's kinds; none, if it has no kind. -/
theorem called_eq (hs : Handlers α) (kinds : EventKinds) :
    hs.called kinds = if kinds.bits = 0 then [] else hs.filter (·.mask.contains kinds) := by
  by_cases nothing : kinds.bits = 0
  · simp [called, EventKinds.isNothing, nothing]
  · simp [called, EventKinds.isNothing, nothing, EventHandler.accepts]

/-! ## One event -/

/-- An event is shown to those who ask for all its kinds, each once and one after the other. -/
structure Dispatched (hs : Handlers (Observer β)) (e : EntryEvent) (gate : Gate) : Prop where
  seen : List.Forall₂ (fun h seen => h.Sees e.toMapEvent seen)
    (if e.kinds.bits = 0 then [] else hs.filter (·.mask.contains e.kinds)) (hs.observe e gate).1
  number : (hs.observe e gate).1.length = if e.kinds.bits = 0 then 0 else hs.countP (·.mask.contains e.kinds)

theorem dispatched (hs : Handlers (Observer β)) (e : EntryEvent) (gate : Gate) : hs.Dispatched e gate := by
  obtain ⟨_, _, -, -, -, -, seen⟩ := Viewing.observed_run ⟨e, gate⟩ hs
  rw [called_eq] at seen
  refine ⟨seen, ?_⟩
  rw [← seen.length_eq]
  split
  · rfl
  · rw [List.countP_eq_length_filter]

end Handlers

namespace MapSubscription

variable {α : Type} {m : MapSubscription α} {handlers : Handlers α} {map : String} {includeValue : Bool}
  {keyType valueType : ValueType} {key : Option Value} {predicate : Option Data} {gate : Gate}

/-! ## What is asked -/

/-- A subscription asks for what its handlers ask for: that is what its request says, under whatever correlation id
    it is sent, and at whatever size messages are cut. -/
structure AsksFor (m : MapSubscription α) (handlers : Handlers α) : Prop where
  called : m.handlers = handlers
  interest : m.request.interest = handlers.interest.bits
  sent : ∃ request, m.listener.request = .ok request ∧ ∀ id, ∃ sent, request.setCorrelation id = .ok sent ∧
    ∀ (limit : Option Nat) (fragmentId : Int64) (d : Decoder), sent.wireSize < 2 ^ 31 → d.pending = [] →
      (usesFragmentId limit sent → d.find? fragmentId = none) →
      (usesFragmentId limit sent → d.fragments.length < d.limit) →
      ∃ bytes arrived, encodeMessage limit fragmentId sent = .ok bytes ∧ d.drain bytes = ⟨[arrived], none, d, []⟩ ∧
        arrived.Delivers false m.selection.requestType id (EntryListener.decodeRequest m.selection) m.request

theorem prepare_eq_ok (prepared : prepare map includeValue handlers keyType valueType key predicate gate = .ok m) :
    m.handlers = handlers ∧ m.request.interest = handlers.interest.bits := by
  cases interest : handlers.interest.isNothing with
  | true => cases (prepare_of_nothing interest map includeValue keyType valueType key predicate gate).symm.trans prepared
  | false =>
    cases key with
    | none =>
      simp only [prepare, interest] at prepared
      obtain rfl := Except.ok.inj prepared
      exact ⟨rfl, rfl⟩
    | some key =>
      rw [prepare_of_key interest] at prepared
      cases wrote : gate.toData key with
      | error fault => simp [wrote, Except.map] at prepared
      | ok d =>
        rw [wrote] at prepared
        obtain rfl := Except.ok.inj prepared
        exact ⟨rfl, rfl⟩

theorem asksFor_of_prepare
    (prepared : prepare map includeValue handlers keyType valueType key predicate gate = .ok m) :
    m.AsksFor handlers := by
  obtain ⟨same, interest⟩ := prepare_eq_ok prepared
  have fits : (m.request.key.isSome == m.selection.hasKey &&
      m.request.predicate.isSome == m.selection.hasPredicate) = true := by
    rw [selection]
    cases m.request.key.isSome <;> cases m.request.predicate.isSome <;> rfl
  obtain ⟨request, encoded⟩ := EntryListener.encodeRequest_of_fits fits
  exact ⟨same, interest, request, encoded, (EntryListener.conveys_request encoded).arrives⟩

/-! ## Events that come one after the other -/

/-- The calls for a message that reports on an entry: of all handlers that ask for every bit of its kinds, each once and
    in the order in which they were given, with the event as it was at some time of the run. -/
def CallsFor (m : MapSubscription α)
    (past : List (Step (System Surroundings (EntryCall α)) (Move Surroundings (EntryCall α)))) (message : Message)
    (calls : List (EntryCall α)) : Prop :=
  ∃ r, m.selection.Reports message r ∧
    calls.map (·.handler) = (if r.kind = 0 then [] else m.handlers.filter (·.mask.contains ⟨r.kind⟩)) ∧
    ∃ e ∈ past, ∀ call ∈ calls, call.event = m.event e.before.surroundings.directory r

/-- The calls for messages, those for the first before those for the second, and so on. -/
def CallsInOrder (m : MapSubscription α)
    (past : List (Step (System Surroundings (EntryCall α)) (Move Surroundings (EntryCall α))))
    (heard : List (ConnectionId × Message)) (calls : List (EntryCall α)) : Prop :=
  ∃ groups, List.Forall₂ (fun x group => m.CallsFor past x.2 group) heard groups ∧ calls = groups.flatten

/-- What a pump does with the events that have arrived. -/
structure PumpsInOrder (m : MapSubscription α)
    (past : List (Step (System Surroundings (EntryCall α)) (Move Surroundings (EntryCall α))))
    (sys : System Surroundings (EntryCall α)) (p : ActivityId) (arrived : List (ConnectionId × Message)) : Prop where
  /-- The calls that were made, with the one under way and those that are next, are those for the first events. If the
      pump has nothing to do these are all events. -/
  sofar : ∃ heard rest, arrived = heard ++ rest ∧
    m.CallsInOrder past heard (System.pumpedCalls past p ++ sys.remaining p) ∧
      (sys.Rests p → rest = [] ∧ sys.remaining p = [])
  /-- Without any further event it gets there, by turns and calls of its own. -/
  ends : ∃ more next, Past System.step? sys more next ∧ (∀ e ∈ more, e.Drives p) ∧ next.Rests p ∧
    m.CallsInOrder (past ++ more) arrived (System.pumpedCalls (past ++ more) p)

section
variable {past later : List (Step (System Surroundings (EntryCall α)) (Move Surroundings (EntryCall α)))}
  {base sys : System Surroundings (EntryCall α)} {limit : Timespan} {around : Surroundings} {s : SubscriptionId}
  {sub : Subscription Surroundings (EntryCall α)} {c : ConnectionId} {k : Int64} {p : ActivityId}
  {feed : Feed (ConnectionId × Message)} {heard : List (ConnectionId × Message)} {calls : List (EntryCall α)}

theorem callsInOrder_of_answers (answers : m.listener.AnswersAll past heard calls) :
    m.CallsInOrder past heard calls := by
  obtain ⟨groups, each, all⟩ := answers
  refine ⟨groups, each.imp fun x group => ?_, all⟩
  rintro ⟨e, there, called⟩
  obtain ⟨r, reports, rfl⟩ := calls_eq_ok_iff.mp called
  refine ⟨r, reports, ?_, e, there, ?_⟩
  · rw [MapSubscription.answers, Handlers.called_eq, List.map_map]
    simp [Function.comp_def]
  · intro call there
    obtain ⟨h, -, rfl⟩ := List.mem_map.mp there
    rfl

/-- Events that report on entries are dispatched in the order of their arrival, while the subscription counts and has
    its route. -/
theorem pumpsInOrder_of_past (run : Past System.step? (System.new limit around) past base)
    (found : base.subscription? s = some sub) (own : sub.listener = m.listener)
    (idle : base.stage? p = some (.pump feed none)) (goesOn : Past System.step? base later sys)
    (routes : ∀ e ∈ later, e.before.RoutesTo k c s) (still : sys.RoutesTo k c s)
    (events : ∀ x ∈ feed.items ++ System.offered later p,
      x.1 = c ∧ x.2.correlation = .ok k ∧ ∃ r, m.selection.Reports x.2 r) :
    m.PumpsInOrder later sys p (feed.items ++ System.offered later p) := by
  have hears : ∀ x ∈ feed.items ++ System.offered later p, m.listener.Hears c k x := by
    intro x there
    obtain ⟨connection, correlation, r, reports⟩ := events x there
    exact ⟨connection, correlation, fun around => ⟨_, calls_eq_ok_iff.mpr ⟨r, reports, rfl⟩⟩⟩
  have pumping := System.pumping_of_past run found idle goesOn routes (own ▸ hears)
  obtain ⟨now, found', own', -⟩ := System.listener_since goesOn found
  rw [← own'] at pumping
  have same : now.listener = m.listener := own'.trans own
  constructor
  · obtain ⟨heard, rest, split, answers, rests⟩ := pumping.answers
    rw [same] at answers
    exact ⟨heard, rest, split, callsInOrder_of_answers answers, rests⟩
  · obtain ⟨more, next, further, drives, rests, last⟩ :=
      System.rests_of_pumping (run.append goesOn) still found' pumping (same ▸ hears)
    obtain ⟨heard, rest, split, answers, none⟩ := last.answers
    obtain ⟨rfl, left⟩ := none rests
    rw [left, List.append_nil, same] at answers
    refine ⟨more, next, further, drives, rests, ?_⟩
    rw [split, List.append_nil, System.pumpedCalls, List.flatMap_append]
    exact callsInOrder_of_answers answers

end

/-- Whatever handlers there are: the member is asked for the least set of kinds that covers them, and not at all if
    that is nothing. Events that come through a pump, while the subscription counts and has its route, are dispatched
    in the order of their arrival, each to all who ask for its kinds, in their order, before the next one. -/
theorem events_are_dispatched_in_order
    {past later : List (Step (System Surroundings (EntryCall α)) (Move Surroundings (EntryCall α)))}
    {base sys : System Surroundings (EntryCall α)} {limit : Timespan} {around : Surroundings} {s : SubscriptionId}
    {sub : Subscription Surroundings (EntryCall α)} {c : ConnectionId} {k : Int64} {p : ActivityId}
    {feed : Feed (ConnectionId × Message)}
    (prepared : prepare map includeValue handlers keyType valueType key predicate gate = .ok m)
    (run : Past System.step? (System.new limit around) past base)
    (found : base.subscription? s = some sub) (own : sub.listener = m.listener)
    (idle : base.stage? p = some (.pump feed none)) (goesOn : Past System.step? base later sys)
    (routes : ∀ e ∈ later, e.before.RoutesTo k c s) (still : sys.RoutesTo k c s)
    (events : ∀ x ∈ feed.items ++ System.offered later p,
      x.1 = c ∧ x.2.correlation = .ok k ∧ ∃ r, m.selection.Reports x.2 r) :
    m.AsksFor handlers ∧ m.PumpsInOrder later sys p (feed.items ++ System.offered later p) ∧
      (∀ hs : Handlers α, hs.Covered hs.interest ∧ (hs.interest.isNothing = true →
        ∀ map includeValue keyType valueType key predicate gate,
          prepare map includeValue hs keyType valueType key predicate gate = .error (.config .noHandler))) ∧
      (∀ (spec : Rehearsal.SubscribeSpec Rehearsal.Step) (w : Rehearsal.Scene),
        (Handlers.interest spec.handlers).isNothing = true →
          ∃ w', (Rehearsal.subscribe spec).run w = (.done (.fault (.config .noHandler)), w') ∧ w'.system = w.system) ∧
      ∀ (β : Type) (hs : Handlers (Observer β)) (e : EntryEvent) (gate : Gate), hs.Dispatched e gate := by
  refine ⟨asksFor_of_prepare prepared, pumpsInOrder_of_past run found own idle goesOn routes still events,
    fun hs => ⟨hs.covered_interest, prepare_of_nothing⟩,
    fun spec w nothing => Rehearsal.subscribe_of_refused (prepare_of_nothing nothing ..),
    fun _ hs e gate => hs.dispatched e gate⟩

/-- Handlers of both kinds, with kinds of events in common. -/
def mixed : Handlers Unit := [⟨.entry, .added, ()⟩, ⟨.map, ⟨5⟩, ()⟩, ⟨.entry, .updated, ()⟩]

/-- What is made of them. -/
def mixedOrders : MapSubscription Unit :=
  ⟨⟨"orders", none, none, true, 5, false⟩, mixed, .primitive .text, .primitive .text⟩

/-- An event of the first correlation id that reports some kinds. -/
def happening (kinds : Int32) : Message :=
  let fields := Field.int.encode anyPartition ++ Field.int.encode kinds ++ Field.guid.encode none ++ Field.int.encode 1
  .received [.headed true Selection.all.eventType 1 fields, .ofContent (List.replicate 9 0), .absent, .absent, .absent]

/-- A connection is there, and someone subscribes. -/
def mixedSubscribed : List (Move Surroundings (EntryCall Unit)) :=
  [.use (some 0), .begin (.subscribe mixedOrders.listener none), .proceed 0]

/-- The subscription is registered, and a pump begins. -/
def mixedPumped : List (Move Surroundings (EntryCall Unit)) :=
  [.proceed 0, .proceed 0, .proceed 0, .send 0, .answer 0 (World.granting 1), .proceed 0, .begin (.pump 4)]

/-- Two events come. One is looked up and handed over, and the first of the calls that it leads to is made. -/
def mixedHeard : List (Move Surroundings (EntryCall Unit)) :=
  [.offer 1 0 (happening 1), .proceed 1, .offer 1 0 (happening 5), .proceed 2, .proceed 2, .proceed 2, .called 2]

/-- Whether the first subscription counts and has the route of the first correlation id. -/
def isRouted (sys : System Surroundings (EntryCall Unit)) : Bool :=
  sys.route? 1 == some ⟨0, 0⟩ && sys.table.contains 0

/-- Whether the second activity is a pump that has nothing to do. -/
def isIdle (sys : System Surroundings (EntryCall Unit)) : Bool :=
  match sys.stage? 1 with
  | some (.pump feed none) => feed.items.isEmpty
  | _ => false

private theorem routesTo_of_isRouted {sys : System Surroundings (EntryCall Unit)} (routed : isRouted sys = true) :
    sys.RoutesTo 1 0 0 := by
  simp only [isRouted, Bool.and_eq_true, beq_iff_eq, List.contains_eq_mem, decide_eq_true_eq] at routed
  exact ⟨routed.1, routed.2⟩

private theorem idle_of_isIdle {sys : System Surroundings (EntryCall Unit)} (idle : isIdle sys = true) :
    ∃ feed, sys.stage? 1 = some (.pump feed none) ∧ feed.items = [] := by
  unfold isIdle at idle
  split at idle
  · next feed here => exact ⟨feed, here, List.isEmpty_iff.mp idle⟩
  · cases idle

private theorem reports_of_happening {kinds : Int32}
    (read : ((happening kinds).inspect (EntryListener.decodeEvent .all)).toOption.isSome = true) :
    ∃ r, mixedOrders.selection.Reports (happening kinds) r := by
  cases reads : (happening kinds).inspect (EntryListener.decodeEvent .all) with
  | ok r => exact ⟨r, EntryListener.inspect_decodeEvent_iff.mp reads⟩
  | error fault => simp [reads, Except.toOption] at read

theorem events_are_dispatched_midway :
    ∃ (past later : _) (base sys : System Surroundings (EntryCall Unit)),
      Past System.step? (System.new (.ofSeconds 60) ⟨.closed .standard, .empty⟩) past base ∧
        Past System.step? base later sys ∧ later.map Step.move = mixedHeard ∧
        (∀ e ∈ later, e.before.RoutesTo 1 0 0) ∧ sys.RoutesTo 1 0 0 ∧ mixedOrders.AsksFor mixed ∧
        mixedOrders.PumpsInOrder later sys 1 [(0, happening 1), (0, happening 5)] := by
  let start : System Surroundings (EntryCall Unit) := System.new (.ofSeconds 60) ⟨.closed .standard, .empty⟩
  let checked := fun (sys : System Surroundings (EntryCall Unit)) move => if isRouted sys then sys.step? move else none
  have done : (mixedSubscribed ++ mixedPumped).foldlM System.step? start |>.any fun base =>
      isIdle base && (mixedHeard.foldlM checked base).any isRouted := by
    decide +kernel
  rw [Option.any_eq_true] at done
  obtain ⟨base, done, facts⟩ := done
  rw [Bool.and_eq_true, Option.any_eq_true] at facts
  obtain ⟨idle, sys, heard, still⟩ := facts
  obtain ⟨request, asked⟩ : ∃ request, mixedOrders.listener.request = .ok request :=
    EntryListener.encodeRequest_of_fits (s := mixedOrders.selection) (r := mixedOrders.request) rfl
  obtain ⟨opening, sub, opened, created, own⟩ :=
    System.first_subscription (.ofSeconds 60) ⟨.closed .standard, .empty⟩ 0 asked
  rw [List.foldlM_append, show mixedSubscribed.foldlM System.step? start = some opening from opened] at done
  obtain ⟨past, upto, -⟩ := Past.of_moves opened
  obtain ⟨more, goesOn, -⟩ := Past.of_moves done
  obtain ⟨sub', found, own', -⟩ := System.listener_since goesOn created
  obtain ⟨later, heard, moves⟩ := Past.of_moves heard
  obtain ⟨heard, routed⟩ := Past.of_checked heard
  have routes : ∀ e ∈ later, e.before.RoutesTo 1 0 0 := fun e there => routesTo_of_isRouted (routed e there)
  obtain ⟨feed, here, empty⟩ := idle_of_isIdle idle
  have arrived : feed.items ++ System.offered later 1 = [(0, happening 1), (0, happening 5)] := by
    have same : System.offered later 1 = (later.map Step.move).flatMap (·.offers 1) := by
      rw [List.flatMap_map, System.offered]
    rw [empty, same, moves]
    rfl
  have events : ∀ x ∈ feed.items ++ System.offered later 1,
      x.1 = 0 ∧ x.2.correlation = .ok 1 ∧ ∃ r, mixedOrders.selection.Reports x.2 r := by
    rw [arrived]
    exact List.forall_mem_cons.mpr ⟨⟨rfl, rfl, reports_of_happening (by decide +kernel)⟩,
      List.forall_mem_cons.mpr ⟨⟨rfl, rfl, reports_of_happening (by decide +kernel)⟩, List.forall_mem_nil _⟩⟩
  have prepared : prepare "orders" true mixed (.primitive .text) (.primitive .text) none none (.closed .standard) =
      .ok mixedOrders := rfl
  obtain ⟨asks, pumps, -⟩ := events_are_dispatched_in_order prepared (upto.append goesOn) found
    (own'.trans own) here heard routes (routesTo_of_isRouted still) events
  rw [arrived] at pumps
  exact ⟨_, later, base, sys, upto.append goesOn, heard, moves, routes, routesTo_of_isRouted still, asks, pumps⟩

end MapSubscription
end Datagrid
