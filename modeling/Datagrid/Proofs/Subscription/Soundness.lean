import Datagrid.Proofs.Subscription.Locks
import Datagrid.Proofs.Subscription.History

/-!
Soundness: all locks are in order, and whatever names a subscription names one that
there is. It is so at the start, and every step keeps it.
-/
namespace Datagrid
namespace System

variable {σ κ : Type}

/-- The locks of all subscriptions are in order, and whatever names a subscription
    names one that there is. -/
structure Sound (sys : System σ κ) : Prop where
  kept : ∀ s sub, sys.subscription? s = some sub → sys.Kept s sub
  about : ∀ a stage s, sys.stage? a = some stage → stage.subscription? = some s →
    s < sys.subscriptions.length
  listed : ∀ s ∈ sys.table, s < sys.subscriptions.length
  routed : ∀ entry ∈ sys.routes, entry.2.subscription < sys.subscriptions.length
  distinct : sys.table.Nodup

/-! ## What a turn leaves alone -/

section
variable {sys : System σ κ} {a : ActivityId} {s t : SubscriptionId} {sub : Subscription σ κ}
  {stage : Stage σ κ} {change : Change σ κ}

/-- A turn stays with its subscription. -/
theorem Turn.stage_about (turn : Turn sys a s sub stage change)
    (about : change.stage.subscription? = some t) : t = s := by
  cases turn <;> simp_all [Stage.subscription?]

/-- A turn begins nothing but the release of a registration. -/
theorem Turn.started_eq (turn : Turn sys a s sub stage change) {begun : Stage σ κ}
    (started : begun ∈ change.started) :
    ∃ connection request, begun = .release sub.listener connection request := by
  cases turn <;> simp_all

/-- A turn puts its subscription into the table, or takes it out. -/
theorem Turn.table_eq (turn : Turn sys a s sub stage change) :
    change.table = sys.table ∨ ((∃ token, stage = .list s token) ∧ change.table = sys.table ++ [s]) ∨
      change.table = sys.tableBut s := by
  cases turn with
  | removeUnregistered leaves => cases leaves <;> simp
  | removeUnsaid leaves => cases leaves <;> simp
  | remove leaves => cases leaves <;> simp
  | _ => simp

theorem Turn.mem_table (turn : Turn sys a s sub stage change) (other : t ≠ s) :
    t ∈ change.table ↔ t ∈ sys.table := by
  rcases turn.table_eq with same | ⟨-, added⟩ | removed
  · rw [same]
  · simp [added, other]
  · simp [removed, mem_tableBut, other]

/-- Every route that a turn makes leads to its subscription. -/
theorem Turn.mem_routes (turn : Turn sys a s sub stage change) {entry : Int64 × Route}
    (there : entry ∈ change.routes) : entry ∈ sys.routes ∨ entry.2.subscription = s := by
  have but {correlation} (there : entry ∈ sys.routesBut correlation) : entry ∈ sys.routes :=
    (List.mem_filter.mp there).1
  cases turn with
  | addRoute purpose connection correlation message =>
    rcases List.mem_cons.mp there with rfl | there
    · exact .inr rfl
    · exact .inl (but there)
  | installAgain ready => cases ready with
    | unrouted => exact .inl there
    | dropped => exact .inl (but there)
  | failAgain ready => cases ready with
    | unrouted => exact .inl there
    | dropped => exact .inl (but there)
  | removeUnregistered leaves => cases leaves with
    | unrouted => exact .inl there
    | dropped => exact .inl (but there)
  | removeUnsaid leaves => cases leaves with
    | unrouted => exact .inl there
    | dropped => exact .inl (but there)
  | remove leaves => cases leaves with
    | unrouted => exact .inl there
    | dropped => exact .inl (but there)
  | undoFirst => exact .inl (but there)
  | undoAgain => exact .inl (but there)
  | learnDropped => exact .inl (but there)
  | _ => exact .inl there

/-! ## What an errand leaves alone -/

/-- An errand that begins no subscription. -/
structure Quiet (sys : System σ κ) (stage : Stage σ κ) (change : Change σ κ) : Prop where
  subscriptions : change.subscriptions = sys.subscriptions
  table : change.table = sys.table
  routes : change.routes.Sublist sys.routes
  notices : change.notices = sys.notices
  leaves : change.stage.engages? = none
  started : ∀ begun ∈ change.started, begun.engages? = none
  /-- Whatever subscription it comes to, it found in the table or by a route. -/
  about : ∀ s, change.stage.subscription? = some s →
    s ∈ sys.table ∨ ∃ entry ∈ sys.routes, entry.2.subscription = s
  startedAbout : ∀ begun ∈ change.started, ∀ s, begun.subscription? = some s → s ∈ sys.table

theorem Errand.engages? (errand : Errand sys a stage change) : stage.engages? = none := by
  cases errand <;> rfl

theorem mem_routes_of_route? {correlation : Int64} {route : Route}
    (found : sys.route? correlation = some route) : (correlation, route) ∈ sys.routes := by
  unfold route? at found
  obtain ⟨before, after, split, -⟩ := List.lookup_eq_some_iff.mp found
  simp [split]

private theorem engages?_of_alone (alone : stage.subscription? = none) : stage.engages? = none := by
  cases engaged : stage.engages? with
  | none => rfl
  | some t => simp [Stage.subscription?_of_engages? engaged] at alone

private theorem quiet_still (subscriptions : change.subscriptions = sys.subscriptions)
    (table : change.table = sys.table) (routes : change.routes = sys.routes)
    (notices : change.notices = sys.notices) (started : change.started = [])
    (alone : change.stage.subscription? = none) : sys.Quiet stage change := by
  refine ⟨subscriptions, table, routes ▸ .refl _, notices, engages?_of_alone alone, ?_, ?_, ?_⟩
  · simp [started]
  · simp [alone]
  · simp [started]

private theorem quiet_waiting {child : Stage σ κ} {wait : Option ActivityId → Stage σ κ}
    (leaves : ∀ c, (wait c).subscription? = none) (alone : child.subscription? = none) :
    sys.Quiet stage (sys.waiting child wait) := by
  refine ⟨rfl, rfl, .refl _, rfl, engages?_of_alone (leaves _), ?_, ?_, ?_⟩
  · intro begun started
    obtain rfl : begun = child := by simpa [waiting] using started
    exact engages?_of_alone alone
  · intro t about
    simp [waiting, leaves] at about
  · intro begun started t about
    obtain rfl : begun = child := by simpa [waiting] using started
    simp [alone] at about

/-- An errand begins a subscription, or leaves all of them alone. -/
theorem Errand.quiet (errand : Errand sys a stage change) :
    sys.Quiet stage change ∨ ∃ listener token request, stage = .subscribe listener token ∧
      change = { sys.moving (.enter sys.subscriptions.length token) with
        subscriptions := sys.subscriptions ++ [created a listener request] } ∧ listener.request = .ok request := by
  cases errand with
  | create _ asked => exact .inr ⟨_, _, _, rfl, rfl, asked⟩
  | find goal listed =>
    left
    refine ⟨rfl, rfl, .refl _, rfl, rfl, by simp, ?_, by simp⟩
    rintro t ⟨⟩
    exact .inl listed
  | routed message found =>
    left
    refine ⟨rfl, rfl, .refl _, rfl, rfl, by simp, ?_, by simp⟩
    rintro t ⟨⟩
    exact .inr ⟨_, mem_routes_of_route? found, rfl⟩
  | connected connection =>
    left
    refine ⟨rfl, rfl, .refl _, rfl, rfl, ?_, by simp [Stage.subscription?], ?_⟩
    · intro begun started
      obtain ⟨t, -, rfl⟩ := List.mem_map.mp started
      rfl
    · intro begun started t about
      obtain ⟨t', listed, rfl⟩ := List.mem_map.mp started
      obtain rfl := Option.some.inj about
      exact listed
  | disconnected connection =>
    left
    exact ⟨rfl, rfl, List.filter_sublist, rfl, rfl, by simp,
      by simp [Stage.subscription?], by simp⟩
  | hear => exact .inl (quiet_waiting (fun _ => rfl) rfl)
  | catchUp => exact .inl (quiet_waiting (fun _ => rfl) rfl)
  | pump => exact .inl (quiet_waiting (fun _ => rfl) rfl)
  | removeNext => exact .inl (quiet_waiting (fun _ => rfl) rfl)
  | _ => exact .inl (quiet_still rfl rfl rfl rfl rfl rfl)

theorem Errand.subscription?_after (errand : Errand sys a stage change) (found : sys.subscription? t = some sub) :
    (sys.after a change).subscription? t = some sub := by
  rcases errand.quiet with quiet | ⟨listener, token, request, rfl, rfl, -⟩
  · simpa [subscription?, quiet.subscriptions] using found
  · have bound := (List.getElem?_eq_some_iff.mp found).1
    simpa [subscription?, List.getElem?_append_left bound] using found

/-- What is in a list with one more is in the list, or the one. -/
theorem getElem?_concat {α : Type} {l : List α} {x y : α} {i : Nat} (there : (l ++ [x])[i]? = some y) :
    l[i]? = some y ∨ (i = l.length ∧ y = x) := by
  by_cases old : i < l.length
  · rw [List.getElem?_append_left old] at there
    exact .inl there
  · have beyond := Nat.le_of_not_lt old
    rw [List.getElem?_append_right beyond] at there
    obtain ⟨bound, same⟩ := List.getElem?_eq_some_iff.mp there
    have within := Nat.le_of_lt_succ bound
    have last := Nat.le_antisymm (Nat.le_of_sub_eq_zero (Nat.le_zero.mp within)) beyond
    exact .inr ⟨last, by simpa using same.symm⟩

/-- A subscription after an errand was there before, or has just begun. -/
theorem Errand.subscription?_cases {now : Subscription σ κ} (errand : Errand sys a stage change)
    (there : (sys.after a change).subscription? t = some now) :
    sys.subscription? t = some now ∨ (t = sys.subscriptions.length ∧ ∃ listener token request,
      stage = .subscribe listener token ∧ listener.request = .ok request ∧ now = created a listener request) := by
  rcases errand.quiet with quiet | ⟨listener, token, request, rfl, rfl, asked⟩
  · have there : sys.subscriptions[t]? = some now := quiet.subscriptions ▸ there
    exact .inl there
  · have there : (sys.subscriptions ++ [created a listener request])[t]? = some now := there
    rcases getElem?_concat there with before | ⟨last, same⟩
    · exact .inl before
    · exact .inr ⟨last, listener, token, request, rfl, asked, same⟩
end

/-! ## Every step keeps the system sound -/

section
variable {sys next : System σ κ} {a : ActivityId} {s : SubscriptionId} {sub : Subscription σ κ}
  {stage : Stage σ κ} {change : Change σ κ}

theorem lt_of_subscription? (found : sys.subscription? s = some sub) : s < sys.subscriptions.length :=
  (List.getElem?_eq_some_iff.mp found).1

theorem subscription?_of_lt (bound : s < sys.subscriptions.length) : ∃ sub, sys.subscription? s = some sub :=
  ⟨_, List.getElem?_eq_getElem bound⟩

theorem Sound.turn (sound : sys.Sound) (here : sys.stage? a = some stage)
    (about : stage.subscription? = some s) (found : sys.subscription? s = some sub)
    (turn : Turn sys a s sub stage change) : (sys.after a change).Sound := by
  have kept := sound.kept s sub found
  have bound := lt_of_subscription? found
  obtain ⟨now, put, handles⟩ := turn.handles kept found here
  have started (begun) (there : begun ∈ change.started) : begun.engages? = none := by
    obtain ⟨connection, request, rfl⟩ := turn.started_eq there
    rfl
  have total : (sys.after a change).subscriptions.length = sys.subscriptions.length := by simp [put]
  have apart {t} (other : t ≠ s) {later : Stage σ κ} (about : later.subscription? = some s) :
      later.engages? ≠ some t := by
    intro engaged
    have same := Stage.subscription?_of_engages? engaged
    rw [about] at same
    exact other (Option.some.inj same).symm
  refine ⟨?_, ?_, ?_, ?_, ?_⟩
  · intro t sub' there
    have there : (sys.subscriptions.set s now)[t]? = some sub' := put ▸ there
    by_cases same : t = s
    · subst same
      obtain rfl : now = sub' := by simpa [bound] using there
      exact kept.handled here started handles
    · rw [List.getElem?_set_ne (Ne.symm same)] at there
      refine (sound.kept t sub' there).passes here started (apart same about) ?_ (turn.mem_table same)
      intro engaged
      exact same (turn.stage_about (Stage.subscription?_of_engages? engaged))
  · intro b later t there named
    rw [total]
    rcases stage?_after_cases there with ⟨-, rfl⟩ | ⟨-, before⟩ | ⟨-, -, begun⟩
    · rw [turn.stage_about named]
      exact bound
    · exact sound.about b later t before named
    · obtain ⟨connection, request, rfl⟩ := turn.started_eq begun
      simp [Stage.subscription?] at named
  · intro t there
    rw [total]
    by_cases same : t = s
    · exact same ▸ bound
    · exact sound.listed t ((turn.mem_table same).mp there)
  · intro entry there
    rw [total]
    rcases turn.mem_routes there with before | here
    · exact sound.routed entry before
    · exact here ▸ bound
  · show change.table.Nodup
    rcases turn.table_eq with same | ⟨⟨token, rfl⟩, added⟩ | removed
    · exact same ▸ sound.distinct
    · obtain ⟨-, -, absent, -⟩ := kept.has here rfl (by simp)
      rw [added]
      refine List.nodup_append.mpr ⟨sound.distinct, by simp, ?_⟩
      rintro t there t' single rfl
      obtain rfl : t = s := by simpa using single
      exact absent there
    · rw [removed]
      exact sound.distinct.filter _

theorem Sound.quiet (sound : sys.Sound) (here : sys.stage? a = some stage) (apart : stage.engages? = none)
    (quiet : sys.Quiet stage change) : (sys.after a change).Sound := by
  have total : (sys.after a change).subscriptions.length = sys.subscriptions.length := by
    simp [quiet.subscriptions]
  refine ⟨?_, ?_, ?_, ?_, ?_⟩
  · intro t sub' there
    have there : sys.subscriptions[t]? = some sub' := quiet.subscriptions ▸ there
    exact (sound.kept t sub' there).passes here quiet.started (by simp [apart]) (by simp [quiet.leaves])
      (by rw [quiet.table])
  · intro b later t there named
    rw [total]
    rcases stage?_after_cases there with ⟨-, rfl⟩ | ⟨-, before⟩ | ⟨-, -, begun⟩
    · rcases quiet.about t named with listed | ⟨entry, routed, rfl⟩
      · exact sound.listed t listed
      · exact sound.routed entry routed
    · exact sound.about b later t before named
    · exact sound.listed t (quiet.startedAbout later begun t named)
  · intro t there
    rw [total]
    have there : t ∈ sys.table := quiet.table ▸ there
    exact sound.listed t there
  · intro entry there
    rw [total]
    exact sound.routed entry (quiet.routes.subset there)
  · show change.table.Nodup
    exact quiet.table ▸ sound.distinct

theorem Sound.create {listener : Listener σ κ} {token : Option TokenId} {request : Message}
    (sound : sys.Sound) (here : sys.stage? a = some (.subscribe listener token)) :
    (sys.after a { sys.moving (.enter sys.subscriptions.length token) with
      subscriptions := sys.subscriptions ++ [created a listener request] }).Sound := by
  have own : (sys.after a { sys.moving (.enter sys.subscriptions.length token) with
      subscriptions := sys.subscriptions ++ [created a listener request] }).stage? a =
        some (.enter sys.subscriptions.length token) := stage?_after_self here
  have unlisted : sys.subscriptions.length ∉ sys.table := fun there =>
    Nat.lt_irrefl _ (sound.listed _ there)
  refine ⟨?_, ?_, ?_, ?_, sound.distinct⟩
  · intro t sub' there
    have there : (sys.subscriptions ++ [created a listener request])[t]? = some sub' := there
    rcases getElem?_concat there with before | ⟨rfl, rfl⟩
    · refine (sound.kept t sub' before).passes here (by simp) (by simp [Stage.engages?]) ?_ Iff.rfl
      intro engaged
      have old := (List.getElem?_eq_some_iff.mp before).1
      exact Nat.ne_of_lt old (Option.some.inj engaged).symm
    · refine ⟨?_, ?_, by simp [created], by simp [Subscription.line, created], by simp [created]⟩
      · intro b later there engaged
        rcases stage?_after_cases there with ⟨rfl, -⟩ | ⟨-, before⟩ | ⟨-, -, begun⟩
        · simp [Subscription.line, created]
        · exact absurd (sound.about b later _ before (Stage.subscription?_of_engages? engaged)) (Nat.lt_irrefl _)
        · simp at begun
      · intro b has
        obtain rfl : a = b := Option.some.inj has
        exact ⟨_, own, rfl, rfl, unlisted, rfl⟩
  · intro b later t there named
    simp only [after_subscriptions, List.length_append, List.length_singleton]
    rcases stage?_after_cases there with ⟨-, rfl⟩ | ⟨-, before⟩ | ⟨-, -, begun⟩
    · obtain rfl : sys.subscriptions.length = t := Option.some.inj named
      exact Nat.lt_succ_self _
    · exact Nat.lt_succ_of_lt (sound.about b later t before named)
    · simp at begun
  · intro t there
    simp only [after_subscriptions, List.length_append, List.length_singleton]
    exact Nat.lt_succ_of_lt (sound.listed t there)
  · intro entry there
    simp only [after_subscriptions, List.length_append, List.length_singleton]
    exact Nat.lt_succ_of_lt (sound.routed entry there)

theorem Sound.drifts (sound : sys.Sound) (drifts : sys.Drifts next) : next.Sound := by
  refine ⟨?_, ?_, ?_, ?_, ?_⟩
  · intro s sub found
    unfold subscription? at found
    rw [drifts.subscriptions] at found
    refine (sound.kept s sub found).drift (by rw [drifts.table]) ?_ ?_
    · intro b stage here _
      exact drifts.old b stage here
    · intro b later there engaged
      rcases drifts.new b later there with before | ⟨-, beginning, rfl⟩
      · exact before
      · cases beginning <;> simp [Beginning.stage, Stage.engages?] at engaged
  · intro b later t there named
    rw [drifts.subscriptions]
    rcases drifts.new b later there with ⟨stage, before, drift⟩ | ⟨-, beginning, rfl⟩
    · exact sound.about b stage t before (drift.subscription? ▸ named)
    · cases beginning <;> simp [Beginning.stage, Stage.subscription?] at named
  · rw [drifts.subscriptions, drifts.table]
    exact sound.listed
  · rw [drifts.subscriptions, drifts.routes]
    exact sound.routed
  · rw [drifts.table]
    exact sound.distinct

theorem Sound.step {move : Move σ κ} (sound : sys.Sound) (taken : sys.step? move = some next) :
    next.Sound := by
  by_cases turns : ∃ a, move = .proceed a
  · obtain ⟨a, rfl⟩ := turns
    obtain ⟨stage, change, here, rfl, ⟨s, sub, about, found, turn⟩ | ⟨-, errand⟩⟩ := after_of_proceed taken
    · exact sound.turn here about found turn
    · rcases errand.quiet with quiet | ⟨listener, token, request, rfl, rfl, -⟩
      · exact sound.quiet here errand.engages? quiet
      · exact sound.create here
  · exact sound.drifts (drifts_of_step taken (by simpa using turns))

theorem sound_new (limit : Timespan) (surroundings : σ) :
    (System.new limit surroundings : System σ κ).Sound := by
  refine ⟨?_, ?_, ?_, ?_, ?_⟩ <;> simp [System.new, subscription?, stage?]

/-- The system is sound at any time. -/
theorem sound_of_past {limit : Timespan} {surroundings : σ} {past : List (Step (System σ κ) (Move σ κ))}
    (run : Past step? (System.new limit surroundings) past sys) : sys.Sound :=
  run.invariant (sound_new limit surroundings) fun _ _ _ sound taken => sound.step taken
end

end System
end Datagrid
