import Datagrid.Proofs.Subscription.Reinstalls

/-!
Links: the system with a transport whose reports one listener hears. The transport makes a
connection the one for new requests before it reports it, and reports all of them in that
order; that a connection is lost it may report at any time, or never. The listener may be
late, and may be told that reports are lost. What the member answers, and when, is left open.
-/
namespace Datagrid

variable {σ κ : Type}

/-- The connection that an event reports to be open. -/
def ConnectionEvent.opened? : ConnectionEvent → Option ConnectionId
  | connected c => some c
  | disconnected _ => none

/-- The moves that only a transport and its listener make. -/
def Move.isLink : Move σ κ → Bool
  | .use _ | .publish _ | .closeEvents | .begin (.listen _) | .begin (.react _) => true
  | _ => false

/-- A move by which nobody comes to listen or to react, and no listener goes. -/
structure Move.Plain (move : Move σ κ) : Prop where
  goesOn : move ≠ .closeEvents
  listens : ∀ capacity, move ≠ .begin (.listen capacity)
  asked : ∀ event, move ≠ .begin (.react event)

theorem Move.plain_of_own {move : Move σ κ} (own : move.isLink = false) : move.Plain := by
  refine ⟨?_, ?_, ?_⟩
  · rintro rfl
    cases own
  · rintro capacity rfl
    cases own
  · rintro event rfl
    cases own

theorem Move.plain_of_use (current : Option ConnectionId) : (Move.use current : Move σ κ).Plain := by
  refine ⟨?_, ?_, ?_⟩ <;> simp

theorem Move.plain_of_publish (event : ConnectionEvent) : (Move.publish event : Move σ κ).Plain := by
  refine ⟨?_, ?_, ?_⟩ <;> simp

/-- The system and its transport. -/
structure Link (σ κ : Type) where
  system : System σ κ
  /-- Who listens to the transport. -/
  listener : Option ActivityId
  /-- The connections that the transport has yet to report, the oldest first. -/
  due : List ConnectionId
  /-- The connections that are lost. -/
  lost : List ConnectionId

namespace Link

/-- What can happen to the system and its transport. -/
inductive Act (σ κ : Type) where
  /-- A move of the system, its users or the member. -/
  | own (move : Move σ κ)
  | listen (capacity : Nat)
  /-- A connection becomes the one for new requests. -/
  | use (c : ConnectionId)
  /-- There is no connection for new requests any longer. -/
  | idle
  | lose (c : ConnectionId)
  /-- The transport reports the next connection. -/
  | report
  /-- The transport reports that a connection is lost. -/
  | mourn (c : ConnectionId)

/-- At the beginning there may be a connection already. -/
def start (limit : Timespan) (surroundings : σ) (current : Option ConnectionId) : Link σ κ where
  system := { System.new limit surroundings with current }
  listener := none
  due := []
  lost := []

/-- What happens next, where it is possible. -/
def step? (link : Link σ κ) : Act σ κ → Option (Link σ κ)
  | .own move => if move.isLink then none else (link.system.step? move).map ({ link with system := · })
  | .listen capacity =>
    match link.listener with
    | some _ => none
    | none => (link.system.step? (.begin (.listen capacity))).map
        ({ link with system := ·, listener := some link.system.activities.length })
  | .use c =>
    if c ∈ link.lost then none
    else (link.system.step? (.use (some c))).map ({ link with system := ·, due := link.due ++ [c] })
  | .idle => (link.system.step? (.use none)).map ({ link with system := · })
  | .lose c => some { link with lost := c :: link.lost }
  | .report =>
    match link.listener, link.due with
    | some _, c :: rest => (link.system.step? (.publish (.connected c))).map
        ({ link with system := ·, due := rest })
    | _, _ => none
  | .mourn c =>
    if c ∈ link.lost then (link.system.step? (.publish (.disconnected c))).map ({ link with system := · })
    else none

/-! ## All that can happen -/

/-- What happens, with what has to be so for it. -/
inductive Happens (link : Link σ κ) : Act σ κ → Link σ κ → Prop where
  | own {move : Move σ κ} {system : System σ κ} : move.isLink = false → link.system.step? move = some system →
      Happens link (.own move) { link with system }
  | listen {capacity : Nat} {system : System σ κ} : link.listener = none →
      link.system.step? (.begin (.listen capacity)) = some system →
      Happens link (.listen capacity) { link with system, listener := some link.system.activities.length }
  | use {c : ConnectionId} {system : System σ κ} : c ∉ link.lost → link.system.step? (.use (some c)) = some system →
      Happens link (.use c) { link with system, due := link.due ++ [c] }
  | idle {system : System σ κ} : link.system.step? (.use none) = some system → Happens link .idle { link with system }
  | lose (c : ConnectionId) : Happens link (.lose c) { link with lost := c :: link.lost }
  | report {listener : ActivityId} {c : ConnectionId} {rest : List ConnectionId} {system : System σ κ} :
      link.listener = some listener → link.due = c :: rest →
      link.system.step? (.publish (.connected c)) = some system →
      Happens link .report { link with system, due := rest }
  | mourn {c : ConnectionId} {system : System σ κ} : c ∈ link.lost →
      link.system.step? (.publish (.disconnected c)) = some system → Happens link (.mourn c) { link with system }

section
variable {link next : Link σ κ} {act : Act σ κ}

theorem happens_of_step (taken : link.step? act = some next) : link.Happens act next := by
  cases act with
  | own move =>
    simp only [step?] at taken
    by_cases foreign : move.isLink = true
    · simp [foreign] at taken
    · rw [if_neg foreign, Option.map_eq_some_iff] at taken
      obtain ⟨system, moved, rfl⟩ := taken
      exact .own (by simpa using foreign) moved
  | listen capacity =>
    cases listener : link.listener with
    | some a => simp [step?, listener] at taken
    | none =>
      simp only [step?, listener, Option.map_eq_some_iff] at taken
      obtain ⟨system, moved, rfl⟩ := taken
      exact .listen listener moved
  | use c =>
    simp only [step?] at taken
    by_cases lost : c ∈ link.lost
    · simp [lost] at taken
    · rw [if_neg lost, Option.map_eq_some_iff] at taken
      obtain ⟨system, moved, rfl⟩ := taken
      exact .use lost moved
  | idle =>
    simp only [step?, Option.map_eq_some_iff] at taken
    obtain ⟨system, moved, rfl⟩ := taken
    exact .idle moved
  | lose c =>
    obtain rfl := Option.some.inj taken
    exact .lose c
  | report =>
    simp only [step?] at taken
    split at taken
    · next listener due =>
      rw [Option.map_eq_some_iff] at taken
      obtain ⟨system, moved, rfl⟩ := taken
      exact .report listener due moved
    · cases taken
  | mourn c =>
    simp only [step?] at taken
    by_cases lost : c ∈ link.lost
    · rw [if_pos lost, Option.map_eq_some_iff] at taken
      obtain ⟨system, moved, rfl⟩ := taken
      exact .mourn lost moved
    · simp [lost] at taken

/-- Whatever happens, the system makes a move, or none. A turn is a move of its own, and nobody
    begins to react unasked. -/
theorem Happens.system (happens : link.Happens act next) :
    next.system = link.system ∨ ∃ move, link.system.step? move = some next.system ∧
      (∀ a, move = .proceed a → act = .own (.proceed a)) ∧ ∀ event, move ≠ .begin (.react event) := by
  cases happens with
  | own own moved =>
    refine .inr ⟨_, moved, fun a same => congrArg _ same, ?_⟩
    rintro event rfl
    cases own
  | listen _ moved | use _ moved | idle moved => exact .inr ⟨_, moved, by simp, by simp⟩
  | lose => exact .inl rfl
  | report _ _ moved | mourn _ moved => exact .inr ⟨_, moved, by simp, by simp⟩

variable {limit : Timespan} {surroundings : σ} {current : Option ConnectionId} {past : List (Step (Link σ κ) (Act σ κ))}

/-- The system of a link has a history of its own. -/
theorem system_of_past (run : Past step? (start limit surroundings current) past link) :
    ∃ past, Past System.step? (System.new limit surroundings) past link.system := by
  induction run with
  | start => exact ⟨_, .step (.use current) .start rfl⟩
  | step act _ taken ih =>
    obtain ⟨past, run⟩ := ih
    rcases (happens_of_step taken).system with same | ⟨move, moved, -⟩
    · exact ⟨past, same ▸ run⟩
    · exact ⟨_, run.step move moved⟩

theorem sound_of_past (run : Past step? (start limit surroundings current) past link) : link.system.Sound := by
  obtain ⟨past, run⟩ := system_of_past run
  exact System.sound_of_past run

end
end Link

namespace System

/-- What a listener has yet to hear; nobody has nothing to hear. -/
def feed (sys : System σ κ) (listener : Option ActivityId) : Feed ConnectionEvent :=
  match listener.bind sys.stage? with
  | some (.listen feed _) => feed
  | _ => .new 0

@[simp]
theorem feed_none (sys : System σ κ) : sys.feed none = .new 0 := rfl

theorem feed_of_listen {sys : System σ κ} {a : ActivityId} {feed : Feed ConnectionEvent} {child : Option ActivityId}
    (here : sys.stage? a = some (.listen feed child)) : sys.feed (some a) = feed := by
  simp [System.feed, here]

end System

/-- The connections that a move reports to be open. -/
def Move.reported : Move σ κ → List ConnectionId
  | .publish event => event.opened?.toList
  | _ => []

/-- The connections that wait in a feed to be heard of. -/
def Feed.opened (feed : Feed ConnectionEvent) : List ConnectionId := feed.items.filterMap ConnectionEvent.opened?

namespace Link

/-- The connections of which the listener has yet to hear, the oldest first. -/
def unheard (link : Link σ κ) : List ConnectionId := (link.system.feed link.listener).opened ++ link.due

/-- The listener is going to be told that reports are lost. -/
def Lags (link : Link σ κ) : Prop := (link.system.feed link.listener).lagged = true

end Link

/-! ## What the listener hears -/

namespace Feed

variable {feed rest : Feed ConnectionEvent} {event : ConnectionEvent}

private theorem filterMap_concat (events : List ConnectionEvent) (event : ConnectionEvent) :
    (events ++ [event]).filterMap ConnectionEvent.opened? =
      events.filterMap ConnectionEvent.opened? ++ event.opened?.toList := by
  rw [List.filterMap_append]
  cases event <;> rfl

/-- A report goes to the end of a feed, at the cost of the oldest or of none. -/
theorem opened_push (open' : feed.closed = false) :
    (feed.push event).opened = feed.opened ++ event.opened?.toList ∨
      ((feed.push event).lagged = true ∧ (feed.push event).opened <:+ feed.opened ++ event.opened?.toList) := by
  unfold push opened
  rw [if_neg (by simp [open'])]
  split
  · right
    refine ⟨rfl, ?_⟩
    show List.filterMap _ (feed.items.drop 1 ++ [event]) <:+ _
    rw [filterMap_concat]
    obtain ⟨lost, same⟩ := (List.drop_suffix 1 feed.items).filterMap ConnectionEvent.opened?
    exact ⟨lost, by rw [← List.append_assoc, same]⟩
  · left
    exact filterMap_concat _ _

theorem opened_take (took : feed.take = .item event rest) : feed.opened = event.opened?.toList ++ rest.opened := by
  obtain ⟨-, items, -⟩ := take_item took
  unfold opened
  rw [items]
  cases event <;> rfl

end Feed

namespace System

variable {sys next : System σ κ} {a : ActivityId} {feed later : Feed ConnectionEvent} {child child' : Option ActivityId}
  {move : Move σ κ} {c : ConnectionId}

/-- A listener with nobody to wait for learns of a connection. -/
def LearnsOf (sys next : System σ κ) (c : ConnectionId) (a : ActivityId) : Prop :=
  ∃ feed later b, sys.stage? a = some (.listen feed none) ∧ sys.Learns feed later (.connected c) ∧
    next.stage? a = some (.listen later (some b)) ∧ next.stage? b = some (.react (.connected c))

/-- What a listener has yet to hear it goes on having to hear, and what is reported is added. -/
theorem Heeds.opened_suffix (heeds : Heeds sys next a feed child move later child') (open' : feed.closed = false) :
    later.opened <:+ feed.opened ++ move.reported := by
  cases heeds with
  | still quiet =>
    cases move with
    | publish event => exact absurd rfl (quiet event)
    | _ => exact ⟨[], by simp [Move.reported]⟩
  | reported event =>
    rcases Feed.opened_push open' with same | ⟨-, suffix⟩
    · exact ⟨[], same⟩
    · exact suffix
  | ready => exact ⟨[], by simp [Move.reported]⟩
  | learns _ learns =>
    cases learns with
    | item took => exact ⟨_, by simpa [Move.reported] using (Feed.opened_take took).symm⟩
    | lagged took => exact ⟨[], by simp [Feed.opened, (Feed.take_lagged took).1, Move.reported]⟩
  | misses _ took => exact ⟨[], by simp [Feed.opened, (Feed.take_lagged took).1, Move.reported]⟩

theorem Heeds.mem_items {event : ConnectionEvent} (heeds : Heeds sys next a feed child move later child')
    (open' : feed.closed = false) (there : event ∈ later.items) : event ∈ feed.items ∨ move = .publish event := by
  cases heeds with
  | still => exact .inl there
  | reported reported =>
    unfold Feed.push at there
    rw [if_neg (by simp [open'])] at there
    split at there
    · rcases List.mem_append.mp there with old | new
      · exact .inl (List.mem_of_mem_drop old)
      · exact .inr (congrArg _ (List.mem_singleton.mp new).symm)
    · rcases List.mem_append.mp there with old | new
      · exact .inl old
      · exact .inr (congrArg _ (List.mem_singleton.mp new).symm)
  | ready => exact .inl there
  | learns _ learns =>
    cases learns with
    | item took => exact .inl ((Feed.take_item took).2.1 ▸ List.mem_cons_of_mem _ there)
    | lagged took => exact .inl ((Feed.take_lagged took).1 ▸ there)
  | misses _ took => exact .inl ((Feed.take_lagged took).1 ▸ there)

/-- Of the connection for new requests the listener is still going to hear, or learns. -/
theorem Heeds.told (heeds : Heeds sys next a feed child move later child') (open' : feed.closed = false)
    (here : sys.stage? a = some (.listen feed child)) (there : next.stage? a = some (.listen later child'))
    (current : sys.current = some c) (told : c ∈ feed.opened ++ move.reported ∨ feed.lagged = true) :
    c ∈ later.opened ∨ later.lagged = true ∨ sys.LearnsOf next c a := by
  have unreported (none : move.reported = []) : c ∈ feed.opened ∨ feed.lagged = true := by
    rwa [none, List.append_nil] at told
  cases heeds with
  | still quiet =>
    have none : move.reported = [] := by
      cases move with
      | publish event => exact absurd rfl (quiet event)
      | _ => rfl
    exact (unreported none).imp_right .inl
  | reported event =>
    rcases Feed.opened_push open' with same | ⟨lags, -⟩
    · rcases told with waits | lags
      · exact .inl (same ▸ waits)
      · exact .inr (.inl (Feed.lagged_push lags))
    · exact .inr (.inl lags)
  | ready => exact (unreported rfl).imp_right .inl
  | @learns _ event b free learns new reacts =>
    subst free
    cases learns with
    | item took =>
      rcases unreported rfl with waits | lags
      · rw [Feed.opened_take took, List.mem_append] at waits
        rcases waits with now | later
        · cases event with
          | connected d =>
            obtain rfl := List.mem_singleton.mp now
            exact .inr (.inr ⟨feed, later, b, here, .item took, there, reacts⟩)
          | disconnected => cases now
        · exact .inl later
      · simp [(Feed.take_item took).1] at lags
    | lagged took current' =>
      obtain rfl := Option.some.inj (current.symm.trans current')
      exact .inr (.inr ⟨feed, later, b, here, .lagged took current', there, reacts⟩)
  | misses _ took none => simp [none] at current

end System

namespace Link

/-- All that is so of the listener and what it hears of. -/
structure Orderly (link : Link σ κ) : Prop where
  serial : link.system.Serial link.listener
  /-- No connection is reported to be lost that is not. -/
  mourned : ∀ c, c ∉ link.lost → (∀ a, link.system.stage? a ≠ some (.react (.disconnected c))) ∧
    .disconnected c ∉ (link.system.feed link.listener).items

/-- All that is so of a link whose connection for new requests is this one: it is the last of
    which the listener has yet to hear, if there is any, and either the listener is going to
    hear of it or everybody follows it already. -/
structure Converges (link : Link σ κ) (c : ConnectionId) : Prop where
  last : ∀ d, link.unheard.getLast? = some d → d = c
  told : (c ∈ link.unheard ∨ link.Lags) ∨ link.system.Follows c

section
variable {link next : Link σ κ} {act : Act σ κ} {sys : System σ κ} {move : Move σ κ} {c d : ConnectionId}
  {due : List ConnectionId}

theorem Orderly.moved (orderly : link.Orderly) (taken : link.system.step? move = some sys) (plain : move.Plain)
    (mourns : ∀ c, move = .publish (.disconnected c) → c ∈ link.lost) (due : List ConnectionId) :
    Orderly { link with system := sys, due } := by
  refine ⟨orderly.serial.step taken plain.goesOn plain.listens plain.asked, ?_⟩
  intro c open'
  obtain ⟨unmourned, absent⟩ := orderly.mourned c open'
  refine ⟨?_, ?_⟩
  · intro b there
    rcases System.reacts_of_step taken there with before | ⟨-, asks | ⟨a, feed, rest, -, here, learns, -⟩⟩
    · exact unmourned b before
    · exact plain.asked _ asks
    · cases learns with
      | item took =>
        rw [orderly.serial.alone a feed none here, System.feed_of_listen here, (Feed.take_item took).2.1] at absent
        exact absent List.mem_cons_self
  · show _ ∉ (sys.feed link.listener).items
    cases listener : link.listener with
    | none => exact List.not_mem_nil
    | some a =>
      obtain ⟨feed, child, here, open''⟩ := orderly.serial.listens a listener
      obtain ⟨later, child', there, -, heeds⟩ := System.heeds_of_step taken plain.goesOn here open''
      rw [System.feed_of_listen there]
      intro member
      rcases heeds.mem_items open'' member with before | reports
      · rw [listener, System.feed_of_listen here] at absent
        exact absent before
      · exact open' (mourns c reports)

/-- The listener begins to listen. -/
theorem Orderly.listen {capacity : Nat} (orderly : link.Orderly) (none : link.listener = none)
    (taken : link.system.step? (.begin (.listen capacity)) = some sys) :
    sys.stage? link.system.activities.length = some (.listen (.new capacity) .none) ∧
      Orderly { link with system := sys, listener := some link.system.activities.length } := by
  obtain rfl : _ = sys := Option.some.inj taken
  have serial := orderly.serial
  rw [none] at serial
  have own : ((link.system.begin (Beginning.listen capacity).stage).2).stage? link.system.activities.length =
      some (.listen (.new capacity) .none) := System.stage?_begin_self _
  refine ⟨own, ⟨?_, ?_, ?_, ?_⟩, ?_⟩
  · rintro a ⟨⟩
    exact ⟨_, _, own, rfl⟩
  · intro a feed child there
    rcases System.stage?_begin_cases there with old | ⟨-, rfl, -⟩
    · cases serial.alone a feed child old
    · rfl
  · intro b event there
    rcases System.stage?_begin_cases there with old | ⟨-, -, same⟩
    · obtain ⟨a, feed, same, -⟩ := serial.reacts b event old
      cases same
    · cases same
  · intro b stage c there aims
    rcases System.stage?_begin_cases there with old | ⟨-, -, rfl⟩
    · obtain ⟨a, feed, child, same, -⟩ := serial.sends b stage c old aims
      cases same
    · cases aims
  · intro c open'
    obtain ⟨unmourned, -⟩ := orderly.mourned c open'
    refine ⟨?_, ?_⟩
    · intro a there
      rcases System.stage?_begin_cases there with old | ⟨-, -, same⟩
      · exact unmourned a old
      · cases same
    · show _ ∉ (System.feed _ (some _)).items
      rw [System.feed_of_listen own]
      exact List.not_mem_nil

/-- Whatever happens, the listener stays the only one. -/
theorem Orderly.step (orderly : link.Orderly) (happens : link.Happens act next) : next.Orderly := by
  cases happens with
  | own own moved =>
    refine orderly.moved moved (Move.plain_of_own own) ?_ link.due
    rintro c rfl
    cases own
  | listen none moved => exact (orderly.listen none moved).2
  | use open' moved => exact orderly.moved moved (Move.plain_of_use _) (by simp) _
  | idle moved => exact orderly.moved moved (Move.plain_of_use _) (by simp) link.due
  | lose c =>
    refine ⟨orderly.serial, ?_⟩
    intro d open'
    exact orderly.mourned d fun lost => open' (List.mem_cons_of_mem _ lost)
  | report listens due moved => exact orderly.moved moved (Move.plain_of_publish _) (by simp) _
  | mourn lost moved =>
    refine orderly.moved moved (Move.plain_of_publish _) ?_ link.due
    rintro c ⟨⟩
    exact lost

/-! ## What comes of a report -/

/-- Once the listener learns of the connection for new requests, everybody follows it. -/
private theorem follows_of_learning {a : ActivityId} (orderly : link.Orderly)
    (taken : link.system.step? move = some sys) (plain : move.Plain) (listens : link.listener = some a)
    (learns : link.system.LearnsOf sys c a) : sys.Follows c := by
  obtain ⟨feed, later, b, here, learns, there, reacts⟩ := learns
  have serial := orderly.serial
  rw [listens] at serial
  obtain ⟨unreacted, unaimed⟩ := serial.rests here
  refine ⟨?_, fun s _ => .reacts reacts⟩
  intro b' stage d there' aims
  rcases System.aims_of_step taken there' aims with ⟨stage', before, aims⟩ | rfl | ⟨a', children, -, before, -, -⟩
  · exact absurd aims (unaimed b' stage' d before)
  · rcases System.reacts_of_step taken there' with before | ⟨-, asks | ⟨a', feed', rest, -, here', learns', there''⟩⟩
    · exact absurd before (unreacted b' _)
    · exact absurd asks (plain.asked _)
    · cases serial.alone a' feed' .none here'
      cases there.symm.trans there''
      cases reacts.symm.trans there'
      rfl
  · exact absurd before (unreacted a' _)

/-- What is reported is what is due, and only if somebody listens. -/
structure Reports (link : Link σ κ) (move : Move σ κ) (due : List ConnectionId) : Prop where
  due : link.due = move.reported ++ due
  silent : link.listener = none → move.reported = []

private theorem reports_of_own (own : move.isLink = false) : link.Reports move link.due := by
  have none : move.reported = [] := by
    cases move with
    | publish => cases own
    | _ => rfl
  exact ⟨by rw [none]; rfl, fun _ => none⟩

/-- What is still to be heard is the end of what was to be heard. -/
private theorem unheard_of_move (orderly : link.Orderly) (taken : link.system.step? move = some sys)
    (plain : move.Plain) (reports : link.Reports move due) :
    unheard { link with system := sys, due } <:+ link.unheard := by
  unfold unheard
  rw [reports.due]
  cases listener : link.listener with
  | none => simp [reports.silent listener]
  | some a =>
    obtain ⟨feed, child, here, open'⟩ := orderly.serial.listens a listener
    obtain ⟨later, child', there, -, heeds⟩ := System.heeds_of_step taken plain.goesOn here open'
    simp only [System.feed_of_listen here, System.feed_of_listen there]
    obtain ⟨heard, same⟩ := heeds.opened_suffix open'
    exact ⟨heard, by rw [← List.append_assoc, ← List.append_assoc, same]⟩

theorem Orderly.unheard_listen {capacity : Nat} (orderly : link.Orderly) (none : link.listener = none)
    (taken : link.system.step? (.begin (.listen capacity)) = some sys) :
    unheard { link with system := sys, listener := some link.system.activities.length } = link.unheard := by
  obtain ⟨here, -⟩ := orderly.listen none taken
  unfold unheard
  rw [System.feed_of_listen here, none]
  rfl

/-- Nothing is to be heard that was not, but the connection that has just become the one for
    new requests, and that last. -/
theorem Orderly.unheard_of_step (orderly : link.Orderly) (happens : link.Happens act next) :
    ((∀ c, act ≠ .use c) ∧ next.unheard <:+ link.unheard) ∨
      ∃ c, act = .use c ∧ next.unheard = link.unheard ++ [c] := by
  cases happens with
  | own own moved =>
    exact .inl ⟨by simp, unheard_of_move orderly moved (Move.plain_of_own own) (reports_of_own own)⟩
  | listen none moved => exact .inl ⟨by simp, orderly.unheard_listen none moved ▸ List.suffix_refl _⟩
  | @use c system open' moved =>
    obtain rfl : _ = system := Option.some.inj moved
    refine .inr ⟨c, rfl, ?_⟩
    unfold unheard
    rw [List.append_assoc]
    rfl
  | idle moved =>
    exact .inl ⟨by simp, unheard_of_move orderly moved (Move.plain_of_use _) ⟨rfl, fun _ => rfl⟩⟩
  | lose => exact .inl ⟨by simp, List.suffix_refl _⟩
  | report listens due moved =>
    exact .inl ⟨by simp, unheard_of_move orderly moved (Move.plain_of_publish _) ⟨due, by simp [listens]⟩⟩
  | mourn lost moved =>
    exact .inl ⟨by simp, unheard_of_move orderly moved (Move.plain_of_publish _) ⟨rfl, fun _ => rfl⟩⟩

/-- Of the connection for new requests the listener is still going to hear, or everybody
    follows it. -/
private theorem told_of_move (orderly : link.Orderly) (current : link.system.current = some c)
    (taken : link.system.step? move = some sys) (plain : move.Plain) (reports : link.Reports move due)
    (waits : c ∈ link.unheard ∨ link.Lags) :
    (c ∈ unheard { link with system := sys, due } ∨ Lags { link with system := sys, due }) ∨ sys.Follows c := by
  unfold unheard Lags at waits ⊢
  rw [reports.due] at waits
  cases listener : link.listener with
  | none =>
    rw [listener, reports.silent listener] at waits
    exact .inl waits
  | some a =>
    obtain ⟨feed, child, here, open'⟩ := orderly.serial.listens a listener
    obtain ⟨later, child', there, -, heeds⟩ := System.heeds_of_step taken plain.goesOn here open'
    rw [listener, System.feed_of_listen here, ← List.append_assoc] at waits
    simp only [System.feed_of_listen there]
    have goesOn (told : c ∈ feed.opened ++ move.reported ∨ feed.lagged = true) :
        (c ∈ later.opened ++ due ∨ later.lagged = true) ∨ sys.Follows c := by
      rcases heeds.told open' here there current told with waits | lags | learns
      · exact .inl (.inl (List.mem_append_left _ waits))
      · exact .inl (.inr lags)
      · exact .inr (follows_of_learning orderly taken plain listener learns)
    rcases waits with waits | lags
    · rcases List.mem_append.mp waits with before | still
      · exact goesOn (.inl before)
      · exact .inl (.inl (List.mem_append_right _ still))
    · exact goesOn (.inr lags)

/-- Once the listener has heard of the connection for new requests, it has nothing else to hear. -/
theorem Converges.nothing_unheard (converges : link.Converges c) (heard : c ∉ link.unheard) : link.unheard = [] := by
  cases last : link.unheard.getLast? with
  | none => exact List.getLast?_eq_none_iff.mp last
  | some d =>
    obtain rfl := converges.last d last
    exact absurd (List.mem_of_getLast? last) heard

private theorem Converges.told_of_move (converges : link.Converges c) (orderly : link.Orderly)
    (sound : link.system.Sound) (current : link.system.current = some c) (taken : link.system.step? move = some sys)
    (plain : move.Plain) (reports : link.Reports move due) :
    (c ∈ unheard { link with system := sys, due } ∨ Lags { link with system := sys, due }) ∨ sys.Follows c := by
  by_cases waits : c ∈ link.unheard ∨ link.Lags
  · exact Link.told_of_move orderly current taken plain reports waits
  · rcases converges.told with told | follows
    · exact absurd told waits
    · refine .inr (follows.step sound current taken plain.goesOn ?_)
      intro b d there new
      rcases System.reacts_of_step taken there with before | ⟨-, asks | ⟨a, feed, later, -, here, learns, -⟩⟩
      · simp [new] at before
      · exact absurd asks (plain.asked _)
      · cases learns with
        | item took =>
          have none := converges.nothing_unheard fun there => waits (.inl there)
          unfold unheard at none
          rw [orderly.serial.alone a feed .none here, System.feed_of_listen here, Feed.opened_take took] at none
          cases none
        | lagged took current' => exact Option.some.inj (current'.symm.trans current)

/-- While the listener begins to listen, everybody who follows the connection goes on to. -/
private theorem Converges.told_of_listen {capacity : Nat} (converges : link.Converges c)
    (sound : link.system.Sound) (current : link.system.current = some c) (none : link.listener = none)
    (taken : link.system.step? (.begin (.listen capacity)) = some sys) :
    (c ∈ link.unheard ∨ Lags { link with system := sys, listener := some link.system.activities.length }) ∨
      sys.Follows c := by
  rcases converges.told with (waits | lags) | follows
  · exact .inl (.inl waits)
  · unfold Lags at lags
    rw [none] at lags
    cases lags
  · refine .inr (follows.step sound current taken (by simp) ?_)
    intro b d there new
    rcases System.reacts_of_step taken there with old | ⟨-, asks | ⟨a, feed, rest, own, -⟩⟩
    · simp [new] at old
    · cases asks
    · cases own

/-- While the connection for new requests stays, it stays the last to be heard of. -/
private theorem Converges.last_of_step (converges : link.Converges c) (orderly : link.Orderly)
    (happens : link.Happens act next) (used : ∀ d, act ≠ .use d) (last : next.unheard.getLast? = some d) : d = c := by
  rcases orderly.unheard_of_step happens with ⟨-, heard, suffix⟩ | ⟨c', uses, -⟩
  · refine converges.last d ?_
    rw [← suffix, List.getLast?_append, last]
    rfl
  · exact absurd uses (used c')

/-- Whatever happens, everybody is on their way to the connection for new requests. -/
theorem Converges.step (happens : link.Happens act next) (orderly : link.Orderly) (sound : link.system.Sound)
    (converges : ∀ c, link.system.current = some c → link.Converges c) (now : next.system.current = some c) :
    next.Converges c := by
  have still (before : link.system.current = some c) (used : ∀ d, act ≠ .use d)
      (told : (c ∈ next.unheard ∨ next.Lags) ∨ next.system.Follows c) : next.Converges c :=
    ⟨fun _ last => (converges c before).last_of_step orderly happens used last, told⟩
  cases happens with
  | @own move system own moved =>
    have same := System.current_of_step moved (by rintro c rfl; cases own)
    have before : link.system.current = some c := same ▸ now
    exact still before (by simp)
      ((converges c before).told_of_move orderly sound before moved (Move.plain_of_own own) (reports_of_own own))
  | @listen capacity system none moved =>
    have before : link.system.current = some c := System.current_of_step moved (by simp) ▸ now
    have told := (converges c before).told_of_listen sound before none moved
    exact still before (by simp) ((orderly.unheard_listen none moved).symm ▸ told)
  | @use c' system open' moved =>
    obtain rfl : _ = system := Option.some.inj moved
    obtain rfl : c' = c := Option.some.inj now
    rcases orderly.unheard_of_step (.use open' moved) with ⟨other, -⟩ | ⟨d, ⟨⟩, unheard⟩
    · exact absurd rfl (other c')
    · refine ⟨?_, ?_⟩
      · intro d last
        rw [unheard, List.getLast?_concat] at last
        exact (Option.some.inj last).symm
      · rw [unheard]
        exact .inl (.inl List.mem_concat_self)
  | @idle system moved =>
    obtain rfl : _ = system := Option.some.inj moved
    cases now
  | lose => exact ⟨(converges c now).last, (converges c now).told⟩
  | report listens due moved =>
    have before : link.system.current = some c := System.current_of_step moved (by simp) ▸ now
    exact still before (by simp) ((converges c before).told_of_move orderly sound before moved
      (Move.plain_of_publish _) ⟨due, by simp [listens]⟩)
  | mourn lost moved =>
    have before : link.system.current = some c := System.current_of_step moved (by simp) ▸ now
    exact still before (by simp) ((converges c before).told_of_move orderly sound before moved
      (Move.plain_of_publish _) ⟨rfl, fun _ => rfl⟩)

variable {limit : Timespan} {surroundings : σ} {current : Option ConnectionId} {past : List (Step (Link σ κ) (Act σ κ))}

theorem orderly_of_past (run : Past step? (start limit surroundings current) past link) : link.Orderly := by
  refine run.invariant ?_ fun _ _ _ orderly taken => orderly.step (happens_of_step taken)
  refine ⟨⟨?_, ?_, ?_, ?_⟩, ?_⟩ <;> simp [start, System.new, System.stage?, Feed.new]

theorem converges_of_past (run : Past step? (start limit surroundings current) past link)
    (now : link.system.current = some c) : link.Converges c := by
  induction run generalizing c with
  | start =>
    refine ⟨?_, .inr ⟨?_, ?_⟩⟩
    · simp [start, unheard, Feed.opened, Feed.new]
    · simp [start, System.new, System.stage?]
    · rintro s (⟨sub, former, k, found, -⟩ | ⟨a, stage, former, here, -⟩)
      · simp [start, System.new, System.subscription?] at found
      · simp [start, System.new, System.stage?] at here
  | step act run taken ih =>
    exact Converges.step (happens_of_step taken) (orderly_of_past run) (sound_of_past run) (fun _ => ih) now

end
end Link
end Datagrid
