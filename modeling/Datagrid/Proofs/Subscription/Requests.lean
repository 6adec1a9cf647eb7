import Datagrid.Proofs.Subscription.Correlations

/-!
Requests: each goes out with a correlation id of its own, and the request of a
registration not before its route is there.
-/
namespace Datagrid
namespace System

variable {σ κ : Type}

/-- No request has a correlation id that was not used, or one whose route is still
    about to be made. -/
structure Asked (sys : System σ κ) : Prop where
  issued : ∀ request ∈ sys.requests, ∀ k, request.message.correlation = .ok k → sys.Issued k
  coming : ∀ a s p c k m, sys.stage? a = some (.addRoute s p c k m) →
    m.correlation = .ok k ∧ ∀ request ∈ sys.requests, request.message.correlation ≠ .ok k

section
variable {sys next : System σ κ} {a : ActivityId} {s : SubscriptionId} {sub now : Subscription σ κ}
  {stage : Stage σ κ} {change : Change σ κ}

/-- A turn sends the request of a route that it makes, or one with a new correlation
    id, or none. -/
theorem Turn.requests_eq (turn : Turn sys a s sub stage change) :
    change.requests = sys.requests ∨
      (∃ p c k m, stage = .addRoute s p c k m ∧
        change.stage = .awaitRegistration s p c k sys.requests.length false ∧
        change.requests = sys.requests ++ [⟨c, m, .spawned⟩]) ∨
      ∃ token c m, change.stage = .awaitRemoval s token sys.requests.length false ∧
        m.correlation = .ok sys.nextCorrelation ∧ change.correlations = sys.correlations + 1 ∧
        change.requests = sys.requests ++ [⟨c, m, .spawned⟩] := by
  cases turn with
  | addRoute p c k m => exact .inr (.inl ⟨p, c, k, m, rfl, rfl, rfl⟩)
  | remove _ _ _ _ set => exact .inr (.inr ⟨_, _, _, rfl, Message.correlation_of_setCorrelation set, rfl, rfl⟩)
  | _ => exact .inl rfl

theorem Errand.requests_eq (errand : Errand sys a stage change) :
    change.requests = sys.requests ∨
      ∃ c m, m.correlation = .ok sys.nextCorrelation ∧ change.correlations = sys.correlations + 1 ∧
        change.requests = sys.requests ++ [⟨c, m, .sent⟩] := by
  cases errand with
  | release _ _ _ _ set => exact .inr ⟨_, _, Message.correlation_of_setCorrelation set, rfl, rfl⟩
  | _ => exact .inl rfl

/-- Whatever the surroundings do, no message of a request changes. -/
theorem Drifts.mem_requests (drifts : sys.Drifts next) {request : Request} (there : request ∈ next.requests) :
    ∃ before ∈ sys.requests, before.connection = request.connection ∧ before.message = request.message := by
  obtain ⟨r, bound, rfl⟩ := List.mem_iff_getElem.mp there
  have bound' : r < sys.requests.length := drifts.total ▸ bound
  obtain ⟨phase, same⟩ := drifts.requests r _ (List.getElem?_eq_getElem bound')
  rw [List.getElem?_eq_getElem bound] at same
  refine ⟨_, List.getElem_mem bound', ?_⟩
  rw [Option.some.inj same]
  exact ⟨rfl, rfl⟩

/-- One more request, with a correlation id that is new. -/
private theorem Asked.more (asked : sys.Asked) (apart : sys.Apart) (few : change.correlations < 2 ^ 64)
    {request : Request} (stamped : request.message.correlation = .ok sys.nextCorrelation)
    (used : change.correlations = sys.correlations + 1) (sent : change.requests = sys.requests ++ [request])
    (adding : ∀ b t p c k m, (sys.after a change).stage? b = some (.addRoute t p c k m) →
      sys.stage? b = some (.addRoute t p c k m)) : (sys.after a change).Asked := by
  refine ⟨?_, ?_⟩
  · intro request' (there : request' ∈ change.requests) k carried
    rw [sent] at there
    rcases List.mem_append.mp there with old | new
    · exact (asked.issued request' old k carried).mono (by simp [used])
    · obtain rfl : request' = request := by simpa using new
      obtain rfl : sys.nextCorrelation = k := Except.ok.inj (stamped.symm.trans carried)
      exact ⟨sys.correlations + 1, Nat.succ_pos _, Nat.le_of_eq used.symm, rfl⟩
  · intro b t p c k m there
    have before := adding b t p c k m there
    obtain ⟨own, others⟩ := asked.coming b t p c k m before
    refine ⟨own, ?_⟩
    intro request' (there : request' ∈ change.requests) carried
    rw [sent] at there
    rcases List.mem_append.mp there with old | new
    · exact others request' old carried
    · obtain rfl : request' = request := by simpa using new
      obtain rfl : sys.nextCorrelation = k := Except.ok.inj (stamped.symm.trans carried)
      exact nextCorrelation_fresh (used ▸ few) (apart.issued t _ (.inr ⟨b, _, before, rfl⟩))

theorem Asked.turn (asked : sys.Asked) (apart : sys.Apart) (sound : sys.Sound)
    (here : sys.stage? a = some stage) (found : sys.subscription? s = some sub)
    (turn : Turn sys a s sub stage change) (few : change.correlations < 2 ^ 64) : (sys.after a change).Asked := by
  obtain ⟨now, put, tracks⟩ := turn.tracks (sound.kept s sub found) found here
  -- whoever is about to make a route was so before, unless the turn has come to it
  have adding {b t p c k m} (there : (sys.after a change).stage? b = some (.addRoute t p c k m)) :
      (b = a ∧ change.stage = .addRoute t p c k m) ∨
        (b ≠ a ∧ sys.stage? b = some (.addRoute t p c k m)) := by
    rcases stage?_after_cases there with ⟨rfl, same⟩ | ⟨other, old⟩ | ⟨-, -, begun⟩
    · exact .inl ⟨rfl, same.symm⟩
    · exact .inr ⟨other, old⟩
    · obtain ⟨c', request, same⟩ := turn.started_eq begun
      cases same
  rcases turn.requests_eq with same | ⟨p, c, k, m, rfl, later, sent⟩ | ⟨token, c, m, later, stamped, used, sent⟩
  · refine ⟨?_, ?_⟩
    · intro request (there : request ∈ change.requests) k carried
      exact (asked.issued request (same ▸ there) k carried).mono turn.grows
    · intro b t p c k m there
      show m.correlation = .ok k ∧ ∀ request ∈ change.requests, request.message.correlation ≠ .ok k
      rw [same]
      rcases adding there with ⟨rfl, coming⟩ | ⟨-, old⟩
      · obtain ⟨rfl, stamped, used, -⟩ := tracks.coming coming
        refine ⟨stamped, ?_⟩
        intro request there carried
        exact nextCorrelation_fresh (used ▸ few) (asked.issued request there _ carried)
      · exact asked.coming b t p c k m old
  · obtain ⟨stamped, -⟩ := asked.coming a s p c k m here
    refine ⟨?_, ?_⟩
    · intro request (there : request ∈ change.requests) k' carried
      rw [sent] at there
      rcases List.mem_append.mp there with old | new
      · exact (asked.issued request old k' carried).mono turn.grows
      · obtain rfl : request = ⟨c, m, .spawned⟩ := by simpa using new
        obtain rfl : k = k' := Except.ok.inj (stamped.symm.trans carried)
        exact (apart.issued s k (.inr ⟨a, _, here, rfl⟩)).mono turn.grows
    · intro b t p' c' k' m' there
      rcases adding there with ⟨rfl, coming⟩ | ⟨other, old⟩
      · simp [later] at coming
      · obtain ⟨own, others⟩ := asked.coming b t p' c' k' m' old
        refine ⟨own, ?_⟩
        intro request (there : request ∈ change.requests) carried
        rw [sent] at there
        rcases List.mem_append.mp there with before | new
        · exact others request before carried
        · obtain rfl : request = ⟨c, m, .spawned⟩ := by simpa using new
          obtain rfl : k = k' := Except.ok.inj (stamped.symm.trans carried)
          exact other (apart.alone sound here rfl old rfl)
  · refine asked.more apart few stamped used sent ?_
    intro b t p c' k m' there
    rcases adding there with ⟨rfl, coming⟩ | ⟨-, old⟩
    · simp [later] at coming
    · exact old

theorem Asked.errand (asked : sys.Asked) (apart : sys.Apart) (errand : Errand sys a stage change)
    (few : change.correlations < 2 ^ 64) : (sys.after a change).Asked := by
  rcases errand.requests_eq with same | ⟨c, m, stamped, used, sent⟩
  · refine ⟨?_, ?_⟩
    · intro request (there : request ∈ change.requests) k carried
      exact (asked.issued request (same ▸ there) k carried).mono errand.grows
    · intro b t p c k m there
      show m.correlation = .ok k ∧ ∀ request ∈ change.requests, request.message.correlation ≠ .ok k
      rw [same]
      exact asked.coming b t p c k m (errand.adding there)
  · exact asked.more apart few stamped used sent fun _ _ _ _ _ _ there => errand.adding there

theorem Asked.drifts (asked : sys.Asked) (drifts : sys.Drifts next) : next.Asked := by
  refine ⟨?_, ?_⟩
  · intro request there k carried
    obtain ⟨before, old, -, same⟩ := drifts.mem_requests there
    exact (asked.issued before old k (same ▸ carried)).mono (Nat.le_of_eq drifts.correlations.symm)
  · intro b t p c k m there
    rcases drifts.new b _ there with ⟨stage, here, drift⟩ | ⟨-, beginning, same⟩
    · cases drift
      obtain ⟨own, others⟩ := asked.coming b t p c k m here
      refine ⟨own, ?_⟩
      intro request there carried
      obtain ⟨before, old, -, same⟩ := drifts.mem_requests there
      exact others before old (same ▸ carried)
    · cases beginning <;> cases same

theorem Asked.step {move : Move σ κ} (asked : sys.Asked) (apart : sys.Apart) (sound : sys.Sound)
    (taken : sys.step? move = some next) (few : next.correlations < 2 ^ 64) : next.Asked := by
  by_cases turns : ∃ a, move = .proceed a
  · obtain ⟨a, rfl⟩ := turns
    obtain ⟨stage, change, here, rfl, ⟨s, sub, -, found, turn⟩ | ⟨-, errand⟩⟩ := after_of_proceed taken
    · exact asked.turn apart sound here found turn few
    · exact asked.errand apart errand few
  · exact asked.drifts (drifts_of_step taken (by simpa using turns))

theorem asked_of_past {limit : Timespan} {surroundings : σ} {past : List (Step (System σ κ) (Move σ κ))}
    (run : Past step? (System.new limit surroundings) past sys) (few : sys.correlations < 2 ^ 64) : sys.Asked := by
  induction run with
  | start => refine ⟨?_, ?_⟩ <;> simp [System.new, stage?]
  | step move run taken ih =>
    have few' := Nat.lt_of_le_of_lt (correlations_le_of_step taken) few
    exact (ih few').step (apart_of_past run few') (sound_of_past run) taken few
end

end System
end Datagrid
