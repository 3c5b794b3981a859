import EtcdBackup.Proofs.Interleaving.Commit

/-!
# A pass on its own

What a pass decides to write about a stored record is written, if nothing else happens meanwhile
and the store answers every request (`exists_run_pass`). So every decision that the store does not
contradict shows up in some run, and passes can be put one after another (`Alone.pass`).
-/

set_option autoImplicit false
set_option relaxedAutoImplicit false

namespace EtcdBackup.Interleaving

open Dialogue

variable {store : Store} {w : World} {id : Nat} {th : Thread} {r : Record} {ctx : Context}
  {now : Instant} {es : List (Exchange Calls)} {decision : Pass.Decision} {status : Status}
  {version : Option String} {name : String}

theorem Store.isFresh_empty (r : Record) : empty.IsFresh r := List.forall_mem_nil _

/-- The store that holds one record. -/
def Store.single (r : Record) : Store := empty.put r (isFresh_empty r)

@[simp] theorem Store.get?_single (r : Record) : (single r).get? r.name = some r := by
  simp [single]

theorem Store.isFresh_single {r r' : Record} (h : r.version ≠ r'.version) :
    (single r).IsFresh r' := by
  intro old hold _
  cases List.mem_singleton.1 hold
  exact h

theorem Store.get?_put_self (fresh : store.IsFresh r) : (store.put r fresh).get? r.name = some r :=
  (get?_put fresh _).trans (if_pos rfl)

theorem Store.get?_put_of_ne (fresh : store.IsFresh r) (h : r.name ≠ name) :
    (store.put r fresh).get? name = store.get? name :=
  (get?_put fresh _).trans (if_neg h)

/-- A version stays fresh for a record while another one is written. -/
theorem Store.isFresh_put_of_ne {r' : Record} (fresh : store.IsFresh r) (h : r.name ≠ r'.name)
    (fresh' : store.IsFresh r') : (store.put r fresh).IsFresh r' := by
  intro old hold hsame
  rcases List.mem_cons.1 hold with rfl | hold
  · exact (h hsame).elim
  · exact fresh' old hold hsame

/-- Nothing was written to a request that is stored without a status. -/
theorem Store.unwritten_single {r : Record} (h : r.status = none) :
    ∀ s ∈ (Store.single r).log, s.status = none :=
  List.forall_mem_singleton.2 h

/-- A request that nobody has looked at. -/
def freshRecord (name : String) : Record where
  metadata := { name := some name, resourceVersion := some "1" }

/-- The record with a status, as it is stored under a version. -/
def written (r : Record) (status : Status) (version : Option String) : Record :=
  { r with status := some status }.withVersion version

/-- The events of a pass up to the write of a status. -/
def decisionEvents (id : Nat) (ctx : Context) (r : Record) (now : Instant)
    (es : List (Exchange Calls)) : List Event :=
  .started id ctx r.name ::
    (⟨.get r.name, .ok r⟩ :: ⟨.now, now⟩ :: es : List (Exchange Calls)).map (.asked id)

/-- The events of the write of a status. -/
def writeEvents (id : Nat) (r : Record) (status : Status) (version : Option String) :
    List Event :=
  [.asked id ⟨.get r.name, .ok r⟩,
    .committed id { r with status := some status } (.ok ()) r (written r status version)]

/-- The last event of a pass that writes a status is its write. -/
theorem decisionEvents_append_writeEvents (events : List Event) :
    events ++ (decisionEvents id ctx r now es ++ writeEvents id r status version) =
      events ++ decisionEvents id ctx r now es ++ [.asked id ⟨.get r.name, .ok r⟩] ++
        [.committed id { r with status := some status } (.ok ()) r (written r status version)] := by
  simp [writeEvents]

theorem exchanges_writeEvents (id : Nat) (r : Record) (status : Status)
    (version : Option String) : Event.exchanges id (writeEvents id r status version) =
      [⟨.get r.name, .ok r⟩, ⟨.updateStatus { r with status := some status }, .ok ()⟩] := by
  simp [Event.exchanges, writeEvents]

theorem leavesStatus_asked (id : Nat) (es : List (Exchange Calls)) :
    ∀ e ∈ es.map (Event.asked id), e.LeavesStatus name := by
  intro e he
  obtain ⟨x, -, rfl⟩ := List.mem_map.1 he
  trivial

theorem leavesStatus_decisionEvents :
    ∀ e ∈ decisionEvents id ctx r now es, e.LeavesStatus name := by
  intro e he
  rcases List.mem_cons.1 he with rfl | he
  · trivial
  · exact leavesStatus_asked id _ e he

theorem leavesStatus_writeEvents :
    ∀ e ∈ writeEvents id r status version, e.LeavesStatus name := by
  intro e he
  simp only [writeEvents, List.mem_cons, List.not_mem_nil, or_false] at he
  rcases he with rfl | rfl <;> trivial

/-- Only the status that a pass writes differs from what was there. -/
theorem leavesStatus_pass :
    ∀ e ∈ decisionEvents id ctx r now es ++ writeEvents id r status version,
      e.LeavesStatus name :=
  List.forall_mem_append.2 ⟨leavesStatus_decisionEvents, leavesStatus_writeEvents⟩

/-! ### Runs of one pass -/

/-- A pass has the exchanges that the store gives, one after the other. -/
theorem exists_run_asked (thread : w.threads id = some th)
    (gives : ∀ e ∈ es, w.store.Gives e.request e.answer) {rest : Job (Except Error Action)}
    (h : th.rest.Leads es rest) :
    ∃ w' th', Run w (es.map (.asked id)) w' ∧ w'.store = w.store ∧
      (∀ other, id ≠ other → w'.threads other = w.threads other) ∧
      w'.threads id = some th' ∧ th'.rest = rest := by
  induction es generalizing w th with
  | nil => exact ⟨w, th, .nil w, rfl, fun _ _ ↦ rfl, thread, (Leads.rest _).unique h⟩
  | cons e es ih =>
    have hsplit : th.rest.Leads ([e] ++ es) rest := h
    obtain ⟨middle, first, second⟩ := hsplit.exists_append
    have step := Step.asked thread (gives e List.mem_cons_self) first
    obtain ⟨w', th', run, hstore, hothers, hth', hrest⟩ := ih
      (w := w.withThread id (th.goOn first)) (World.threads_withThread_self w id _)
      (fun x hx ↦ gives x (List.mem_cons_of_mem _ hx)) second
    refine ⟨w', th', .cons step run, hstore, fun other hother ↦ ?_, hth', hrest⟩
    rw [hothers other hother, World.threads_withThread, if_neg hother]

/-- A new pass has the exchanges that the store gives. -/
theorem exists_run_started (ctx : Context) (name : String) (unused : w.threads id = none)
    (gives : ∀ e ∈ es, w.store.Gives e.request e.answer) {rest : Job (Except Error Action)}
    (h : (Pass.reconcile ctx name).Leads es rest) :
    ∃ w' th, Run w (.started id ctx name :: es.map (.asked id)) w' ∧ w'.store = w.store ∧
      (∀ other, id ≠ other → w'.threads other = w.threads other) ∧
      w'.threads id = some th ∧ th.rest = rest := by
  have begins : Step w (.started id ctx name) (w.withThread id (.start ctx name)) :=
    .started ctx name unused
  obtain ⟨w', th, run, hstore, hothers, hth, hrest⟩ := exists_run_asked
    (World.threads_withThread_self w id (.start ctx name)) gives h
  refine ⟨w', th, .cons begins run, hstore, fun other hother ↦ ?_, hth, hrest⟩
  rw [hothers other hother, World.threads_withThread, if_neg hother]

/-- A pass gets to the write of what it decides about a stored record. -/
theorem exists_run_of_decided (unused : w.threads id = none) (stored : w.store.get? r.name = some r)
    (gives : ∀ e ∈ es, w.store.Gives e.request e.answer)
    (decided : (Pass.decide ctx r now).Leads es (.done (.ok decision)))
    (hstatus : decision.status? = some status) :
    ∃ u th k, Run w (decisionEvents id ctx r now es) u ∧ u.store = w.store ∧
      (∀ other, id ≠ other → u.threads other = w.threads other) ∧
      u.threads id = some th ∧ th.rest = persistStatus r status >>= k := by
  have course : (Pass.reconcile ctx r.name).Leads (⟨.get r.name, .ok r⟩ :: ⟨.now, now⟩ :: es)
      (decision.carryOut r) := by
    rw [Pass.reconcile_eq]
    exact .ask (.ask (decided.bind (Pass.onOk (·.carryOut r))))
  have hgives : ∀ e ∈ (⟨.get r.name, .ok r⟩ :: ⟨.now, now⟩ :: es : List (Exchange Calls)),
      w.store.Gives e.request e.answer := by
    intro e he
    rcases List.mem_cons.1 he with rfl | he
    · exact stored
    · rcases List.mem_cons.1 he with rfl | he
      · trivial
      · exact gives e he
  obtain ⟨u, th, run, hstore, hothers, hth, hrest⟩ :=
    exists_run_started ctx r.name unused hgives course
  have hcarry : ∃ k, decision.carryOut r = persistStatus r status >>= k := by
    cases decision <;> cases hstatus <;> exact ⟨_, rfl⟩
  obtain ⟨k, hcarry⟩ := hcarry
  exact ⟨u, th, k, run, hstore, hothers, hth, hrest.trans hcarry⟩

/-- The write of a status over the record that it was computed from. -/
theorem exists_run_writeEvents (stored : w.store.get? r.name = some r)
    (thread : w.threads id = some th) {k : Except Error Unit → Job (Except Error Action)}
    (hrest : th.rest = persistStatus r status >>= k)
    (fresh : w.store.IsFresh (written r status version)) :
    ∃ w', Run w (writeEvents id r status version) w' ∧ w'.store = w.store.put _ fresh ∧
      ∀ other, id ≠ other → w'.threads other = w.threads other := by
  have read : th.rest.Leads [⟨.get r.name, .ok r⟩]
      (.ask (.updateStatus { r with status := some status }) k) := by
    rw [hrest]
    refine .ask ?_
    change Leads ((if r.status = r.status then _ else _) >>= k) _ _
    rw [if_pos rfl]
    exact .rest _
  have gives : w.store.Gives (.get r.name) (.ok r) := stored
  have held : w.store.get? { r with status := some status : Record }.name = some r := stored
  have overwritten : Overwritten { r with status := some status } r (written r status version) :=
    .whole version
  have next : (th.goOn read).rest.Leads
      [⟨.updateStatus { r with status := some status }, .ok ()⟩] (k (.ok ())) := .ask (.rest _)
  refine ⟨_, .cons (.asked thread gives read) (.single
    (.committed (World.threads_withThread_self w id _) held rfl overwritten fresh next)), rfl, ?_⟩
  intro other hother
  rw [World.threads_withThread, if_neg hother, World.threads_withStore, World.threads_withThread,
    if_neg hother]

/-- A pass writes what it decides about a stored record. -/
theorem exists_run_pass (unused : w.threads id = none) (stored : w.store.get? r.name = some r)
    (gives : ∀ e ∈ es, w.store.Gives e.request e.answer)
    (decided : (Pass.decide ctx r now).Leads es (.done (.ok decision)))
    (hstatus : decision.status? = some status)
    (fresh : w.store.IsFresh (written r status version)) :
    ∃ w', Run w (decisionEvents id ctx r now es ++ writeEvents id r status version) w' ∧
      w'.store = w.store.put _ fresh ∧
      w'.store.get? r.name = some (written r status version) ∧
      ∀ other, id ≠ other → w'.threads other = w.threads other := by
  obtain ⟨u, th, k, first, hstore, hothers, hth, hrest⟩ :=
    exists_run_of_decided unused stored gives decided hstatus
  have fresh' : u.store.IsFresh (written r status version) := hstore ▸ fresh
  obtain ⟨w', second, hstore', hothers'⟩ :=
    exists_run_writeEvents (hstore ▸ stored) hth hrest fresh'
  have hput : w'.store = w.store.put _ fresh := by
    rw [hstore']
    congr 1
  refine ⟨w', first.trans second, hput, ?_, fun other hother ↦ ?_⟩
  · rw [hput]
    exact (Store.get?_put fresh _).trans (if_pos rfl)
  · rw [hothers' other hother, hothers other hother]

/-! ### Passes one after the other -/

/-- Some passes over a record that is stored alone, one after the other, left another record under
its name. Their number is the first one that is free. -/
structure Alone (r₀ : Record) (n : Nat) (events : List Event) (w : World) (r : Record)
    (versions : List (Option String)) : Prop where
  run : Run (.start (.single r₀)) events w
  stored : w.store.get? r.name = some r
  unused : ∀ id, n ≤ id → w.threads id = none
  versions : w.store.log.map Record.version = versions
  leaves : ∀ e ∈ events, e.LeavesStatus r₀.name

namespace Alone

variable {r₀ : Record} {n : Nat} {events : List Event} {versions : List (Option String)}

theorem start (r : Record) : Alone r 0 [] (.start (.single r)) r [r.version] where
  run := .nil _
  stored := Store.get?_single r
  unused _ _ := rfl
  versions := rfl
  leaves := List.forall_mem_nil _

/-- A version that no record had is a fresh one. -/
theorem isFresh (h : Alone r₀ n events w r versions) {r' : Record} (new : r'.version ∉ versions) :
    w.store.IsFresh r' := by
  intro old hold _ hsame
  rw [← hsame, ← h.versions] at new
  exact new (List.mem_map_of_mem hold)

/-- One more pass, which has some exchanges without effect on the store. -/
theorem asked (h : Alone r₀ n events w r versions) (ctx : Context)
    (gives : ∀ e ∈ es, w.store.Gives e.request e.answer) {rest : Job (Except Error Action)}
    (course : (Pass.reconcile ctx r.name).Leads es rest) :
    ∃ w', Alone r₀ (n + 1) (events ++ .started n ctx r.name :: es.map (.asked n)) w' r
      versions := by
  obtain ⟨w', th, run, hstore, hothers, -, -⟩ :=
    exists_run_started ctx r.name (h.unused n (Nat.le_refl n)) gives course
  refine ⟨w', h.run.trans run, hstore ▸ h.stored, fun id hid ↦ ?_, hstore ▸ h.versions, ?_⟩
  · rw [hothers id (Nat.ne_of_lt hid)]
    exact h.unused id (Nat.le_of_succ_le hid)
  · exact List.forall_mem_append.2
      ⟨h.leaves, List.forall_mem_cons.2 ⟨trivial, leavesStatus_asked n es⟩⟩

/-- One more pass, which writes what it decides. -/
theorem exists_pass (h : Alone r₀ n events w r versions)
    (gives : ∀ e ∈ es, w.store.Gives e.request e.answer)
    (decided : (Pass.decide ctx r now).Leads es (.done (.ok decision)))
    (hstatus : decision.status? = some status) (new : version ∉ versions) :
    ∃ w', Alone r₀ (n + 1)
      (events ++ (decisionEvents n ctx r now es ++ writeEvents n r status version)) w'
      (written r status version) (version :: versions) := by
  have fresh : w.store.IsFresh (written r status version) := h.isFresh new
  obtain ⟨w', run, hstore, stored, hothers⟩ :=
    exists_run_pass (h.unused n (Nat.le_refl n)) h.stored gives decided hstatus fresh
  refine ⟨w', h.run.trans run, stored, fun id hid ↦ ?_, ?_, ?_⟩
  · rw [hothers id (Nat.ne_of_lt hid)]
    exact h.unused id (Nat.le_of_succ_le hid)
  · rw [hstore, ← h.versions]
    rfl
  · exact List.forall_mem_append.2 ⟨h.leaves, leavesStatus_pass⟩

/-- One more pass. -/
theorem pass (h : Alone r₀ n events w r versions)
    (gives : ∀ e ∈ es, w.store.Gives e.request e.answer)
    (decided : (Pass.decide ctx r now).Leads es (.done (.ok decision)))
    (hstatus : decision.status? = some status) (new : version ∉ versions) :
    ∃ events' w', Alone r₀ (n + 1) events' w' (written r status version)
      (version :: versions) :=
  ⟨_, h.exists_pass gives decided hstatus new⟩

/-- One more pass, which ends a run by the write of what it decides. -/
theorem commit (h : Alone r₀ n events w r versions)
    (gives : ∀ e ∈ es, w.store.Gives e.request e.answer)
    (decided : (Pass.decide ctx r now).Leads es (.done (.ok decision)))
    (hstatus : decision.status? = some status) (new : version ∉ versions) :
    ∃ past w', Run (.start (.single r₀)) (past ++
        [.committed n { r with status := some status } (.ok ()) r (written r status version)]) w' ∧
      ∀ e ∈ past ++
          [.committed n { r with status := some status } (.ok ()) r (written r status version)],
        e.LeavesStatus r₀.name := by
  obtain ⟨w', h'⟩ := h.exists_pass gives decided hstatus new
  rw [decisionEvents_append_writeEvents] at h'
  exact ⟨_, w', h'.run, h'.leaves⟩

end Alone

end EtcdBackup.Interleaving
