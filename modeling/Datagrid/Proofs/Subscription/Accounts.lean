import Datagrid.Proofs.Subscription.Keepers

/-!
Accounts: whatever happens in a world, everything that the member holds on the open
connection has one keeper and no other.
-/
namespace Datagrid
namespace World

variable {σ κ : Type} {language : Message → Order} {past : List (Step (World σ κ) (Act σ κ))} {w next : World σ κ}
  {act : Act σ κ} {r : RequestId} {c : ConnectionId} {id : Uuid}

/-! ## While nobody has a turn -/

section

private theorem remembers_idle (idle : ∀ a, act ≠ .own (.proceed a)) (c : ConnectionId) (id : Uuid) :
    ¬ Forgets ⟨w, act, next⟩ c id := by
  rintro ⟨a, -, -, -, -, same, -⟩
  exact idle a same

/-- Nobody hands a registration over while none has a turn. -/
private theorem Accounts.drifts {move : Move σ κ} {system : System σ κ} (accounts : Accounts language past w)
    (attended : System.Attended language w.replies w.system) (outbox : List ConnectionEvent)
    (taken : w.system.step? move = some system) (idle : ∀ a, move ≠ .proceed a)
    (still : ∀ a, act ≠ .own (.proceed a)) :
    Accounts language (past ++ [⟨w, act, { w with system, outbox }⟩]) { w with system, outbox } := by
  have drifts := System.drifts_of_step taken idle
  refine accounts.calm rfl rfl rfl rfl ?_ ?_ ?_ (remembers_idle still) (accounts.superseded.step attended taken)
  · intro s c id
    simp [System.Records, System.subscription?, drifts.subscriptions]
  · intro r c id
    simp only [Grants, drifts.awaits_iff, drifts.asks_iff]
  · intro r c id
    constructor
    · rintro ⟨m, phase, there, order, unreplied⟩
      have bound : r < w.system.requests.length := drifts.total ▸ (List.getElem?_eq_some_iff.mp there).1
      obtain ⟨phase', same⟩ := drifts.requests r _ (List.getElem?_eq_getElem bound)
      obtain ⟨rfl, rfl, -⟩ : w.system.requests[r].connection = c ∧ w.system.requests[r].message = m ∧ phase' = phase := by
        simpa using Option.some.inj (same.symm.trans there)
      exact ⟨_, w.system.requests[r].phase, List.getElem?_eq_getElem bound, order, unreplied⟩
    · rintro ⟨m, phase, there, order, unreplied⟩
      obtain ⟨phase', same⟩ := drifts.requests r _ there
      exact ⟨m, phase', same, order, unreplied⟩

/-- A reply to a request that asks for no registration. -/
private theorem superseded_reply {q : RequestId} {m : Message} {phase : RequestPhase} {reply : Except Fault Message}
    (superseded : w.system.Superseded w.replies w.live) (attended : System.Attended language w.replies w.system)
    (there : w.system.requests[q]? = some ⟨c, m, phase⟩)
    (fits : ∀ answer read, reply = .ok answer → language m ≠ .register read) :
    w.system.Superseded (w.reply q reply).replies w.live := by
  intro a s p c' k r late sub former answer here found connected granted
  by_cases same : r = q
  · subst same
    obtain ⟨m', phase', there', order⟩ := attended.stages a _ here sub found
    rw [there] at there'
    cases there'
    exact absurd order (fits answer _ (by simpa [World.reply] using granted))
  · have granted : w.replies r = some (.ok answer) := by simpa [World.reply, same] using granted
    exact superseded a s p c' k r late sub former answer here found connected granted

private theorem Accounts.connect (accounts : Accounts language past w)
    (attended : System.Attended language w.replies w.system) (live : w.live = none) :
    Accounts language (past ++ [⟨w, .connect, w.connected⟩]) w.connected := by
  have keeps {c id k} : Keeps language (past ++ [⟨w, .connect, w.connected⟩]) w.connected c id k ↔
      Keeps language past w c id k := by
    cases k with
    | nobody => exact forgotten_still (remembers_idle (by simp) c id)
    | _ => rfl
  refine ⟨?_, ?_, ?_, ?_, ?_, ?_⟩
  · intro c id k later
    obtain ⟨opened, given⟩ := accounts.given c id k (keeps.mp later)
    exact ⟨Nat.lt_succ_of_lt opened, given⟩
  · intro c c' id k k' later later'
    exact accounts.single c c' id k k' (keeps.mp later) (keeps.mp later')
  · -- nothing is kept on a connection that has just opened
    intro c same id
    obtain rfl : w.connections = c := by simpa using same
    rw [connected_held, accounts.closed live]
    constructor
    · intro there
      simp at there
    · rintro ⟨k, later⟩
      exact absurd (accounts.given _ id k (keeps.mp later)).1 (Nat.lt_irrefl _)
  · simp
  · intro c same
    obtain rfl : w.connections = c := by simpa using same
    exact Nat.lt_succ_self _
  · rintro a s p c k r late sub former answer here found connected granted same
    obtain rfl : w.connections = former := by simpa using same
    obtain ⟨-, installing⟩ := (attended.sound.kept s sub found).has here rfl (by simp)
    cases p with
    | first =>
      obtain ⟨-, -, -, none⟩ := installing
      simp [none, Registration.none] at connected
    | again =>
      obtain ⟨-, -, -, none | ⟨former, id, registered⟩⟩ := installing
      · simp [none, Registration.none] at connected
      · have records : w.system.Records s w.connections id := ⟨sub, found, connected, by simp [registered]⟩
        exact absurd (accounts.given _ id (.subscription s) records).1 (Nat.lt_irrefl _)

private theorem Accounts.disconnect (accounts : Accounts language past w) :
    Accounts language (past ++ [⟨w, .disconnect, w.disconnected c⟩]) (w.disconnected c) := by
  have keeps {c' id k} : Keeps language (past ++ [⟨w, .disconnect, w.disconnected c⟩]) (w.disconnected c) c' id k ↔
      Keeps language past w c' id k := by
    cases k with
    | nobody => exact forgotten_still (remembers_idle (by simp) c' id)
    | _ => rfl
  refine ⟨?_, ?_, by simp, by simp, by simp, ?_⟩
  · intro c id k later
    exact accounts.given c id k (keeps.mp later)
  · intro c c' id k k' later later'
    exact accounts.single c c' id k k' (keeps.mp later) (keeps.mp later')
  · rintro a s p c k r late sub former answer - - - - same
    simp at same

section
variable {q : RequestId} {m : Message} {phase : RequestPhase} {reply : Except Fault Message}
  (there : w.system.requests[q]? = some ⟨c, m, phase⟩)

theorem grants_reply_of_ne (other : r ≠ q) : (w.reply q reply).Grants language r c id ↔ w.Grants language r c id := by
  simp [Grants, other]

theorem removes_reply : (w.reply q reply).Removes language r c id ↔ r ≠ q ∧ w.Removes language r c id := by
  by_cases same : r = q <;> simp [Removes, same]

include there in
private theorem grants_reply_self {read : Message → Except Fault Uuid} (order : language m = .register read)
    {c' : ConnectionId} : (w.reply q reply).Grants language q c' id ↔ c' = c ∧ reply.bind read = .ok id := by
  have asks : (w.reply q reply).system.Asks language q c read := ⟨m, phase, there, order⟩
  exact grants_of_reply asks (by simp)

include there in
private theorem not_grants_reply {c' : ConnectionId} (order : ∀ read, language m ≠ .register read) :
    ¬ (w.reply q reply).Grants language q c' id := by
  rintro ⟨read, -, ⟨m', phase', there', order'⟩, -⟩
  have there' : w.system.requests[q]? = some ⟨c', m', phase'⟩ := there'
  rw [there] at there'
  cases there'
  exact order read order'

include there in
private theorem ne_of_removes {c' : ConnectionId} (order : ∀ id, language m ≠ .remove id)
    (removes : w.Removes language r c' id) : r ≠ q := by
  rintro rfl
  obtain ⟨m', phase', there', order', -⟩ := removes
  rw [there] at there'
  cases there'
  exact order id order'
end

/-- A registration that is given has the response that brings it for a keeper. -/
private theorem Accounts.register {q : RequestId} {m : Message} {reply : Except Fault Message}
    {read : Message → Except Fault Uuid} (accounts : Accounts language past w)
    (attended : System.Attended language w.replies w.system) (aimed : w.system.Aimed)
    (there : w.system.requests[q]? = some ⟨c, m, .sent⟩) (live : w.live = some c) (unreplied : w.replies q = none)
    (order : language m = .register read) (granted : reply.bind read = .ok id) (fresh : id ∉ w.given) :
    Accounts language (past ++ [⟨w, .accept q reply, (w.reply q reply).grant id⟩]) ((w.reply q reply).grant id) := by
  have waits : w.system.Awaits q :=
    attended.waited q c read ⟨m, .sent, there, order⟩ (by simp [System.reply?, there])
  have keeps {c' id' k} : Keeps language (past ++ [⟨w, .accept q reply, (w.reply q reply).grant id⟩])
      ((w.reply q reply).grant id) c' id' k ↔
        Keeps language past w c' id' k ∨ (k = .response q ∧ c' = c ∧ id' = id) := by
    cases k with
    | subscription s => simp [Keeps]
    | response r =>
      by_cases same : r = q
      · subst same
        have none : ¬ w.Grants language r c' id' := by
          rintro ⟨read, reply, -, replied, -⟩
          simp [unreplied] at replied
        have self : (w.reply r reply).Grants language r c' id' ↔ c' = c ∧ id = id' := by
          rw [grants_reply_self there order, granted, Except.ok.injEq]
        show w.system.Awaits r ∧ (w.reply r reply).Grants language r c' id' ↔ _
        simp [self, waits, Keeps, none, eq_comm]
      · show w.system.Awaits r ∧ (w.reply q reply).Grants language r c' id' ↔ _
        simp [grants_reply_of_ne same, Keeps, same]
    | removal r =>
      show (w.reply q reply).Removes language r c' id' ↔ _
      rw [removes_reply, and_iff_right_of_imp (ne_of_removes there (by simp [order]))]
      simp [Keeps]
    | nobody =>
      refine (forgotten_still (remembers_idle (by simp) c' id')).trans ?_
      simp
  refine ⟨?_, ?_, ?_, ?_, accounts.opened, ?_⟩
  · intro c' id' k later
    rcases keeps.mp later with before | ⟨rfl, rfl, rfl⟩
    · obtain ⟨opened, given⟩ := accounts.given c' id' k before
      exact ⟨opened, List.mem_cons_of_mem id given⟩
    · exact ⟨accounts.opened c' live, List.mem_cons_self⟩
  · intro c₁ c₂ id' k₁ k₂ later later'
    rcases keeps.mp later with before | ⟨rfl, rfl, rfl⟩
    · rcases keeps.mp later' with before' | ⟨rfl, rfl, rfl⟩
      · exact accounts.single c₁ c₂ id' k₁ k₂ before before'
      · exact absurd (accounts.given c₁ id' k₁ before).2 fresh
    · rcases keeps.mp later' with before' | ⟨rfl, rfl, -⟩
      · exact absurd (accounts.given c₂ id' k₂ before').2 fresh
      · exact ⟨rfl, rfl⟩
  · intro c' live' id'
    obtain rfl : c = c' := Option.some.inj (live.symm.trans live')
    show id' ∈ id :: w.held ↔ _
    rw [List.mem_cons, accounts.held c live id']
    constructor
    · rintro (rfl | ⟨k, before⟩)
      · exact ⟨.response q, keeps.mpr (.inr ⟨rfl, rfl, rfl⟩)⟩
      · exact ⟨k, keeps.mpr (.inl before)⟩
    · rintro ⟨k, later⟩
      rcases keeps.mp later with before | ⟨-, -, same⟩
      · exact .inr ⟨k, before⟩
      · exact .inl same
  · intro none
    simp [live] at none
  · intro a s p c' k r late sub former answer here found connected granted' live'
    by_cases same : r = q
    · -- the new registration is on the open connection, and the former one is not
      subst same
      obtain ⟨m', phase', there', -⟩ := attended.stages a _ here sub found
      rw [there] at there'
      cases there'
      obtain rfl : c = former := Option.some.inj (live.symm.trans live')
      exact aimed a _ s sub c c here rfl rfl found connected rfl
    · have granted' : w.replies r = some (.ok answer) := by simpa [same] using granted'
      exact accounts.superseded a s p c' k r late sub former answer here found connected granted' live'

/-- A registration that is taken off is kept no longer. -/
private theorem Accounts.remove {q : RequestId} {m : Message} {reply : Except Fault Message}
    (accounts : Accounts language past w) (attended : System.Attended language w.replies w.system)
    (there : w.system.requests[q]? = some ⟨c, m, .sent⟩) (live : w.live = some c) (unreplied : w.replies q = none)
    (order : language m = .remove id) :
    Accounts language (past ++ [⟨w, .accept q reply, (w.reply q reply).revoke id⟩])
      ((w.reply q reply).revoke id) := by
  have own : Keeps language past w c id (.removal q) := ⟨m, .sent, there, order, unreplied⟩
  have keeps {c' id' k} : Keeps language (past ++ [⟨w, .accept q reply, (w.reply q reply).revoke id⟩])
      ((w.reply q reply).revoke id) c' id' k ↔ Keeps language past w c' id' k ∧ k ≠ .removal q := by
    cases k with
    | subscription s => simp [Keeps]
    | response r =>
      show w.system.Awaits r ∧ (w.reply q reply).Grants language r c' id' ↔ _
      by_cases same : r = q
      · subst same
        have none : ¬ w.Grants language r c' id' := by
          rintro ⟨read, reply, -, replied, -⟩
          simp [unreplied] at replied
        have still : ¬ (w.reply r reply).Grants language r c' id' := not_grants_reply there (by simp [order])
        simp [Keeps, none, still]
      · simp [grants_reply_of_ne same, Keeps]
    | removal r =>
      show (w.reply q reply).Removes language r c' id' ↔ _
      rw [removes_reply, and_comm]
      simp [Keeps]
    | nobody =>
      refine (forgotten_still (remembers_idle (by simp) c' id')).trans ?_
      simp
  refine ⟨?_, ?_, ?_, ?_, accounts.opened, ?_⟩
  · intro c' id' k later
    exact accounts.given c' id' k (keeps.mp later).1
  · intro c₁ c₂ id' k₁ k₂ later later'
    exact accounts.single c₁ c₂ id' k₁ k₂ (keeps.mp later).1 (keeps.mp later').1
  · intro c' live' id'
    obtain rfl : c = c' := Option.some.inj (live.symm.trans live')
    show id' ∈ w.held.filter (· != id) ↔ _
    rw [List.mem_filter, accounts.held c live id', bne_iff_ne]
    constructor
    · rintro ⟨⟨k, before⟩, other⟩
      refine ⟨k, keeps.mpr ⟨before, ?_⟩⟩
      rintro rfl
      obtain ⟨m', phase', there', order', -⟩ := before
      rw [there] at there'
      cases there'
      rw [order] at order'
      exact other (Order.remove.inj order').symm
    · rintro ⟨k, later⟩
      obtain ⟨before, other⟩ := keeps.mp later
      refine ⟨⟨k, before⟩, ?_⟩
      rintro rfl
      exact other (accounts.single c c id' k _ before own).2
  · intro none
    simp [live] at none
  · exact superseded_reply accounts.superseded attended there (by simp [order])

/-- A request that fails on a connection that is closed keeps nothing that the member holds. -/
private theorem Accounts.refuse {q : RequestId} {m : Message} {reply : Except Fault Message} {act : Act σ κ}
    (accounts : Accounts language past w) (attended : System.Attended language w.replies w.system)
    (there : w.system.requests[q]? = some ⟨c, m, .sent⟩) (idle : ∀ a, act ≠ .own (.proceed a))
    (vain : w.live ≠ some c ∨ (w.replies q = none ∧ language m = .other))
    (ungranted : ∀ read, language m = .register read → ∃ fault, reply = .error fault) :
    Accounts language (past ++ [⟨w, act, w.reply q reply⟩]) (w.reply q reply) := by
  have remembers (c' id') : ¬ Forgets ⟨w, act, w.reply q reply⟩ c' id' := remembers_idle idle c' id'
  have none (c' id') : ¬ (w.reply q reply).Grants language q c' id' := by
    rintro ⟨read, reply', ⟨m', phase', there', order⟩, replied, granted⟩
    have there' : w.system.requests[q]? = some ⟨c', m', phase'⟩ := there'
    rw [there] at there'
    cases there'
    obtain ⟨fault, rfl⟩ := ungranted read order
    obtain rfl : .error fault = reply' := by simpa using replied
    simp [Except.bind] at granted
  refine accounts.still rfl rfl rfl rfl ?_ ?_ ?_
  · intro c' id' k later
    cases k with
    | subscription s => exact later
    | response r =>
      by_cases same : r = q
      · subst same
        exact absurd later.2 (none c' id')
      · exact ⟨later.1, (grants_reply_of_ne same).mp later.2⟩
    | removal r => exact (removes_reply.mp later).2
    | nobody => exact (forgotten_still (remembers c' id')).mp later
  · intro c' id' k live before
    cases k with
    | subscription s => exact before
    | response r =>
      by_cases same : r = q
      · exfalso
        subst same
        obtain ⟨-, read, reply', ⟨m', phase', there', -⟩, replied, -⟩ := before
        rw [there] at there'
        cases there'
        rcases vain with dead | ⟨unreplied, -⟩
        · exact dead live
        · simp [unreplied] at replied
      · exact ⟨before.1, (grants_reply_of_ne same).mpr before.2⟩
    | removal r =>
      refine removes_reply.mpr ⟨?_, before⟩
      rintro rfl
      obtain ⟨m', phase', there', order, -⟩ := before
      rw [there] at there'
      cases there'
      rcases vain with dead | ⟨-, other⟩
      · exact dead live
      · simp [other] at order
    | nobody => exact forgotten_concat.mpr (.inl before)
  · refine superseded_reply accounts.superseded attended there ?_
    rintro answer read rfl order
    obtain ⟨fault, wrong⟩ := ungranted read order
    cases wrong

/-! ## At any time -/

variable {limit : Timespan} {surroundings : σ} {capacity : Nat}

/-- The member's accounts are in order at any time. -/
theorem accounts_of_past (run : Past (step? language) (start limit surroundings capacity) past w)
    (fluent : Fluent language past) : Accounts language past w := by
  induction run with
  | start =>
    have none (c id k) : ¬ Keeps language [] (start limit surroundings capacity : World σ κ) c id k := by
      cases k with
      | subscription s => simp [Keeps, System.Records, start, System.begin, System.new, System.subscription?]
      | response r => simp [Keeps, Grants, start]
      | removal r => simp [Keeps, Removes, start, System.begin, System.new]
      | nobody => simp [Keeps]
    refine ⟨?_, ?_, by simp [start], fun _ => rfl, by simp [start], ?_⟩
    · intro c id k keeps
      exact absurd keeps (none c id k)
    · intro c c' id k k' keeps
      exact absurd keeps (none c id k)
    · rintro a s p c k r late sub former answer - found
      simp [start, System.begin, System.new, System.subscription?] at found
  | @step past now next act run taken ih =>
    have accounts := ih fluent.before
    have attended := attended_of_past run fluent.before
    cases happens_of_step taken with
    | @own move system mine moved =>
      by_cases turns : ∃ a, move = .proceed a
      · obtain ⟨a, rfl⟩ := turns
        have superseded := accounts.superseded.step attended moved
        obtain ⟨stage, change, here, rfl, ⟨s, sub, about, found, turn⟩ | ⟨-, errand⟩⟩ :=
          System.after_of_proceed moved
        · exact accounts.turn attended here about found turn superseded
        · exact accounts.errand attended here errand superseded
      · refine accounts.drifts attended now.outbox moved (by simpa using turns) ?_
        rintro a ⟨⟩
        exact turns ⟨a, rfl⟩
    | use moved => exact accounts.drifts attended now.outbox moved (by simp) (by simp)
    | @publish event rest system _ _ moved => exact accounts.drifts attended rest moved (by simp) (by simp)
    | deliver replied moved => exact accounts.drifts attended now.outbox moved (by simp) (by simp)
    | register there live unreplied order read fresh =>
      exact accounts.register attended (aimed_of_past run fluent.before) there live unreplied order read fresh
    | remove reply there live unreplied order => exact accounts.remove attended there live unreplied order
    | other reply there live unreplied order =>
      exact accounts.refuse attended there (by simp) (.inr ⟨unreplied, order⟩) (by simp [order])
    | refuse cause there dead => exact accounts.refuse attended there (by simp) (.inl dead) (by simp)
    | connect live => exact accounts.connect attended live
    | disconnect live => exact accounts.disconnect

end
end World
end Datagrid
