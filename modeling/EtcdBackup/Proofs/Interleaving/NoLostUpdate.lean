import EtcdBackup.Proofs.Interleaving.Solo

/-!
# No update is lost

A pass writes a status back by `persistStatus`, which reads the record once more, compares its
status with the one that the pass started from, and leaves it to the store to compare the versions.
The two comparisons close two windows. A status that was changed before the second reading is found
by the first comparison, whatever else changed; any change after the second reading is found by the
store (`PersistCall.secured`). What is replaced is thus the status that the pass started from, and
the statuses of a record are a chain in which each is computed from the one before
(`no_lost_update`).
-/

set_option autoImplicit false
set_option relaxedAutoImplicit false

namespace EtcdBackup.Interleaving

open Dialogue

variable {store : Store} {events later past : List Event} {u v w : World} {e : Event} {id : Nat}
  {th : Thread} {known before after given : Record} {status : Status}
  {result answer : Except Error Unit}

/-- The pass wrote a status. -/
def Event.IsCommitOf (id : Nat) : Event → Prop
  | .committed other _ _ _ _ => other = id
  | _ => False

theorem Event.exists_of_isCommitOf (h : e.IsCommitOf id) :
    ∃ given answer, e.exchange? id = some ⟨.updateStatus given, answer⟩ := by
  cases e with
  | committed => exact ⟨_, _, if_pos h⟩
  | started | asked | deleted | created | edited | removed => exact h.elim

/-- A pass writes nothing without asking for it. -/
theorem Event.not_isCommitOf
    (h : ∀ given answer, ⟨.updateStatus given, answer⟩ ∉ exchanges id events) :
    ∀ e ∈ events, ¬e.IsCommitOf id := by
  intro e he hcommit
  obtain ⟨given, answer, hx⟩ := exists_of_isCommitOf hcommit
  exact h given answer (mem_exchanges he hx)

theorem Event.not_isCommitOf_of_exchanges_eq_nil (h : exchanges id events = []) :
    ∀ e ∈ events, ¬e.IsCommitOf id :=
  not_isCommitOf fun _ _ ↦ h ▸ List.not_mem_nil

/-- A write that was asked for is refused, or takes place. -/
theorem Step.of_updateStatus (h : Step v e w)
    (hx : e.exchange? id = some ⟨.updateStatus given, answer⟩) :
    (¬e.IsCommitOf id ∧ ∃ reason, answer = .error reason) ∨
      ∃ before after, e = .committed id given answer before after := by
  rcases Event.cases_of_exchange hx with rfl | ⟨_, _, before, after, rfl, hsame⟩ | ⟨_, _, -, hsame⟩
  · cases h with
    | asked thread gives next =>
      cases answer with
      | error reason => exact Or.inl ⟨fun h ↦ h, reason, rfl⟩
      | ok _ => exact gives.elim
  · cases hsame
    exact Or.inr ⟨before, after, rfl⟩
  · cases hsame

/-- What is certain of a call of `persistStatus` by a pass, over the events from the call to its
return. -/
structure Secured (u : World) (later : List Event) (w : World) (id : Nat) (known : Record)
    (status : Status) (result : Except Error Unit) : Prop where
  /-- After a success the status was replaced that the pass had started from, and nothing else. -/
  written : result = .ok () → ∃ pre given before after post v v',
    later = pre ++ .committed id given (.ok ()) before after :: post ∧
      Run u pre v ∧ Step v (.committed id given (.ok ()) before after) v' ∧ Run v' post w ∧
      v.store.get? known.name = some before ∧ v'.store.get? known.name = some after ∧
      before.status = known.status ∧ after.status = some status ∧ after.spec = before.spec ∧
      ∃ version, after.metadata = { before.metadata with resourceVersion := version }
  /-- Nothing is written if the status is another one when it is read, or there is none. -/
  moved : ∀ {pre x post v v'}, later = pre ++ .asked id x :: post → Run u pre v →
    Step v (.asked id x) v' → x.request = .get known.name →
      (∀ stored, v.store.get? known.name = some stored → stored.status ≠ known.status) →
        (∃ reason, result = .error reason) ∧ ∀ e ∈ later, ¬e.IsCommitOf id
  /-- Nothing is written if the record is changed in any way after it is read. -/
  touched : ∀ {pre x mid post}, later = pre ++ .asked id x :: (mid ++ post) →
    x.request = .get known.name → Event.exchanges id mid = [] →
      (∃ e ∈ mid, e.Touches known.name) →
        (∃ reason, result = .error reason) ∧ ∀ e ∈ later, ¬e.IsCommitOf id

/-- A call of `persistStatus` by a pass, from the call to its return. -/
structure PersistCall (u : World) (later : List Event) (w : World) (id : Nat) (known : Record)
    (status : Status) (result : Except Error Unit) : Prop where
  run : Run u later w
  calls : ∃ th k, u.threads id = some th ∧ th.rest = persistStatus known status >>= k
  returns : (persistStatus known status).Leads (Event.exchanges id later) (.done result)

/-- Of two different exchanges the first comes first. -/
theorem eq_of_append_cons_eq {x y : Exchange Calls} {first second : List (Exchange Calls)}
    (h : first ++ x :: second = [x, y]) (hne : x ≠ y) : first = [] ∧ second = [y] := by
  cases first with
  | nil =>
    cases h
    exact ⟨rfl, rfl⟩
  | cons a first =>
    obtain ⟨-, h⟩ := List.cons.inj h
    cases first with
    | nil => exact (hne (List.cons.inj h).1).elim
    | cons b first => simp at h

namespace PersistCall

/-- A call that only reads the record fails and writes nothing. -/
theorem refused_of_read {answer : Except Error Record} {reason : Error}
    (hread : Event.exchanges id later = [⟨.get known.name, answer⟩]) :
    (∃ e, (.error reason : Except Error Unit) = .error e) ∧ ∀ e ∈ later, ¬e.IsCommitOf id := by
  refine ⟨⟨reason, rfl⟩, Event.not_isCommitOf fun given answer hmem ↦ ?_⟩
  rw [hread] at hmem
  cases List.mem_singleton.1 hmem

/-- The reading of a call that came to the write got the record that is written. -/
theorem mem_read {pre post : List Event} {x : Exchange Calls} {answer : Except Error Record}
    (hlater : later = pre ++ .asked id x :: post)
    (hall : Event.exchanges id later = [⟨.get known.name, answer⟩,
      ⟨.updateStatus given, result⟩]) (hread : x.request = .get known.name) :
    x = ⟨.get known.name, answer⟩ := by
  have hmem : x ∈ Event.exchanges id later := by
    rw [hlater, Event.exchanges_append, Event.exchanges_asked_cons]
    exact List.mem_append_right _ List.mem_cons_self
  rw [hall] at hmem
  simp only [List.mem_cons, List.not_mem_nil, or_false] at hmem
  rcases hmem with rfl | rfl
  · rfl
  · cases hread

/-- The write of a call that came to it: the worlds before and after, in which the record that was
read last is remembered. -/
theorem exists_write (call : PersistCall u later w id known status result) (hu : u.IsHeard)
    {fresh : Record}
    (htried : Event.exchanges id later = [⟨.get known.name, .ok fresh⟩,
      ⟨.updateStatus { fresh with status := some status }, result⟩]) :
    ∃ pre e post v v', later = pre ++ e :: post ∧ Run u pre v ∧ Step v e v' ∧ Run v' post w ∧
      Event.exchanges id pre = [⟨.get known.name, .ok fresh⟩] ∧
      e.exchange? id = some ⟨.updateStatus { fresh with status := some status }, result⟩ ∧
      Event.exchanges id post = [] ∧ fresh ∈ v.store.log ∧ fresh.name = known.name := by
  obtain ⟨pre, e, post, rfl, hpre, hx, hpost⟩ :=
    Event.exists_of_exchanges_eq [_] htried
  obtain ⟨v, v', before, step, after⟩ := call.run.exists_step
  obtain ⟨th, -, hth, -⟩ := call.calls
  obtain ⟨th', hth', hgoesOn⟩ := before.goesOn hth
  have hfresh := before.isHeard hu id th' hth' known.name fresh (by
    rw [hgoesOn.past, hpre]
    exact List.mem_append_right _ List.mem_cons_self)
  exact ⟨pre, e, post, v, v', rfl, before, step, after, hpre, hx, hpost, hfresh⟩

theorem written (call : PersistCall u later w id known status result) (hu : u.IsHeard)
    (hresult : result = .ok ()) : ∃ pre given before after post v v',
      later = pre ++ .committed id given (.ok ()) before after :: post ∧
        Run u pre v ∧ Step v (.committed id given (.ok ()) before after) v' ∧ Run v' post w ∧
        v.store.get? known.name = some before ∧ v'.store.get? known.name = some after ∧
        before.status = known.status ∧ after.status = some status ∧ after.spec = before.spec ∧
        ∃ version, after.metadata = { before.metadata with resourceVersion := version } := by
  have hsaved := saved_of_leads call.returns
  generalize hall : Event.exchanges id later = all at hsaved
  cases hsaved with
  | unread | moved => cases hresult
  | @tried fresh same =>
    obtain ⟨pre, e, post, v, v', rfl, hpre, step, hpost, -, hx, -, hfresh, hname⟩ :=
      call.exists_write hu hall
    rcases step.of_updateStatus hx with ⟨-, reason, hreason⟩ | ⟨before, after, rfl⟩
    · rw [hresult] at hreason
      cases hreason
    · obtain ⟨rfl, hstored, hstored', version, rfl⟩ := step.committed_eq hfresh
      rw [hname] at hstored hstored'
      subst hresult
      exact ⟨pre, _, _, _, post, v, v', rfl, hpre, step, hpost, hstored, hstored', same, rfl, rfl,
        version, rfl⟩

theorem moved (call : PersistCall u later w id known status result) {pre post : List Event}
    {x : Exchange Calls} {v' : World} (hlater : later = pre ++ .asked id x :: post)
    (step : Step v (.asked id x) v') (hread : x.request = .get known.name)
    (hmoved : ∀ stored, v.store.get? known.name = some stored →
      stored.status ≠ known.status) :
    (∃ reason, result = .error reason) ∧ ∀ e ∈ later, ¬e.IsCommitOf id := by
  have hsaved := saved_of_leads call.returns
  generalize hall : Event.exchanges id later = all at hsaved
  cases hsaved with
  | unread reason => exact refused_of_read hall
  | moved => exact refused_of_read hall
  | @tried fresh same =>
    have hx := mem_read hlater hall hread
    rw [hx] at step
    exact (hmoved fresh (step.get?_of_exchange (Event.exchange?_asked id _)) same).elim

theorem touched (call : PersistCall u later w id known status result) {pre mid post : List Event}
    {x : Exchange Calls} (hlater : later = pre ++ .asked id x :: (mid ++ post))
    (hread : x.request = .get known.name) (hmid : Event.exchanges id mid = [])
    (htouched : ∃ e ∈ mid, e.Touches known.name) :
    (∃ reason, result = .error reason) ∧ ∀ e ∈ later, ¬e.IsCommitOf id := by
  have hsaved := saved_of_leads call.returns
  generalize hall : Event.exchanges id later = all at hsaved
  cases hsaved with
  | unread | moved => exact refused_of_read hall
  | @tried fresh same =>
    have hx := mem_read hlater hall hread
    subst hx
    obtain ⟨hpre, hpost⟩ : Event.exchanges id pre = [] ∧ Event.exchanges id post =
        [⟨.updateStatus { fresh with status := some status }, result⟩] := by
      rw [hlater, Event.exchanges_append, Event.exchanges_asked_cons, Event.exchanges_append,
        hmid] at hall
      exact eq_of_append_cons_eq hall nofun
    obtain ⟨wait, e, rest, rfl, hwait, hupdate, hrest⟩ := Event.exists_of_exchanges_eq [] hpost
    have hrun := call.run
    rw [hlater] at hrun
    obtain ⟨v₀, v₁, -, read, behind⟩ := hrun.exists_step
    obtain ⟨v₂, changes, behind⟩ := behind.exists_of_append
    obtain ⟨v₃, v₄, waits, write, -⟩ := behind.exists_step
    have hstored := read.get?_of_exchange (Event.exchange?_asked id _)
    have hname := Store.name_eq_of_get? hstored
    have hfresh := read.mem_log (Store.mem_log_of_get? hstored)
    have hchanged := waits.get?_ne (changes.mem_log hfresh)
      (changes.get?_ne_of_touches htouched hfresh)
    rcases write.of_updateStatus hupdate with ⟨hrefused, hreason⟩ | ⟨before, after, rfl⟩
    · have hbehind : ∀ c ∈ wait ++ e :: rest, ¬c.IsCommitOf id :=
        List.forall_mem_append.2 ⟨Event.not_isCommitOf_of_exchanges_eq_nil hwait,
          List.forall_mem_cons.2 ⟨hrefused, Event.not_isCommitOf_of_exchanges_eq_nil hrest⟩⟩
      have hafter : ∀ c ∈ mid ++ (wait ++ e :: rest), ¬c.IsCommitOf id :=
        List.forall_mem_append.2 ⟨Event.not_isCommitOf_of_exchanges_eq_nil hmid, hbehind⟩
      rw [hlater]
      exact ⟨hreason, List.forall_mem_append.2 ⟨Event.not_isCommitOf_of_exchanges_eq_nil hpre,
        List.forall_mem_cons.2 ⟨fun h ↦ h, hafter⟩⟩⟩
    · -- The store compares the versions, so it would have had to hold the record still.
      obtain ⟨rfl, hheld, -⟩ := write.committed_eq (waits.mem_log (changes.mem_log hfresh))
      rw [hname] at hheld
      exact (hchanged hheld).elim

theorem secured (call : PersistCall u later w id known status result) (hu : u.IsHeard) :
    Secured u later w id known status result where
  written := call.written hu
  moved hlater _ step hread hmoved := call.moved hlater step hread hmoved
  touched hlater hread hmid htouched := call.touched hlater hread hmid htouched

end PersistCall

/-! ### The chain of statuses -/

/-- The commit of a pass that had some events before: the step of the pass computed the written
status from a record with exactly the status that is replaced. -/
inductive ComputedFrom (past : List Event) (id : Nat) (before after : Record) : Prop
  | intro {ctx : Context} {name : String} {current : Record} {now : Instant}
      {es : List (Exchange Calls)} {status : Status}
      (started : .started id ctx name ∈ past)
      (exchanges : Event.exchanges id past = ⟨.get name, .ok current⟩ :: ⟨.now, now⟩ :: es ++
        [⟨.get current.name, .ok before⟩])
      (computed : (Pass.step ctx current now).Leads es (.done (.ok (.advance status))) ∨
        ∃ k, (Pass.step ctx current now).Leads es (persistStatus current status >>= k))
      (replaced : before.status = current.status)
      (written : after.status = some status)

theorem Run.computedFrom (h : Run (.start store) (past ++ .committed id given answer before after ::
    later) w) : ComputedFrom past id before after := by
  obtain ⟨u, v, first, step, -⟩ := h.exists_step
  obtain ⟨thread, hpast, -, decided, hstatus, same, -, rfl⟩ :=
    step.commitOf (first.isHeard (World.isHeard_start store))
  obtain ⟨hexchanges, hstarted⟩ := first.past_eq thread
  exact .intro hstarted (hexchanges.symm.trans hpast) (Pass.step_of_decided decided hstatus) same
    rfl

/-- Between two commits with no other between them the status of a record stays as it is, if nobody
else changes it. -/
theorem Run.status_eq_of_committed {mid post : List Event} {id' : Nat}
    {given' before' after' : Record} {answer' : Except Error Unit}
    (h : Run (.start store) (past ++ .committed id given answer before after ::
      (mid ++ .committed id' given' answer' before' after' :: post)) w)
    (hname : before'.name = after.name)
    (leaves : ∀ e ∈ mid, e.LeavesStatus after.name ∧ ¬e.Creates after.name)
    (others : ∀ id given answer before r, .committed id given answer before r ∈ mid →
      before.name ≠ after.name) : before'.status = after.status := by
  obtain ⟨u₀, u₁, -, first, between⟩ := h.exists_step
  obtain ⟨v₀, v₁, between, second, -⟩ := between.exists_step
  obtain ⟨-, hstored, -⟩ := first.stored_of_committed
  obtain ⟨hstored', -, hname'⟩ := second.stored_of_committed
  rw [← hname', hname] at hstored'
  have hstatus : after.status = before'.status := between.related (fun _ ↦ rfl)
    (fun h₁ h₂ ↦ h₁.trans h₂) (fun hmem hsame ↦ (others _ _ _ _ _ hmem hsame).elim)
    (fun e he ↦ (leaves e he).1) (fun e he ↦ (leaves e he).2) hstored hstored'
  exact hstatus.symm

/-- No update is lost, however passes and other writers interleave: a call of `persistStatus` that
succeeds replaces the status that the pass started from and changes nothing else; one that finds
the status or the record changed fails and changes nothing; and the statuses that the passes write
are a chain in which each is computed by the step of a pass from exactly the one that it
replaces. -/
theorem no_lost_update (run : Run (.start store) events w) :
    (∀ {pre later u id known status result}, events = pre ++ later → Run (.start store) pre u →
      PersistCall u later w id known status result → Secured u later w id known status result) ∧
    (∀ {past id given answer before after later},
      events = past ++ .committed id given answer before after :: later →
        ComputedFrom past id before after) ∧
    (∀ {past id given answer before after mid id' given' answer' before' after' post},
      events = past ++ .committed id given answer before after ::
        (mid ++ .committed id' given' answer' before' after' :: post) →
      before'.name = after.name →
      (∀ e ∈ mid, e.LeavesStatus after.name ∧ ¬e.Creates after.name) →
      (∀ id given answer before r, .committed id given answer before r ∈ mid →
        before.name ≠ after.name) → before'.status = after.status) := by
  refine ⟨?_, ?_, ?_⟩
  · intro pre later u id known status result _ before call
    exact call.secured (before.isHeard (World.isHeard_start store))
  · rintro past id given answer before after later rfl
    exact run.computedFrom
  · rintro past id given answer before after mid id' given' answer' before' after' post rfl hname
      leaves others
    exact run.status_eq_of_committed hname leaves others

/-- A pass that takes a request from one round to the next while nothing else happens. -/
theorem no_lost_update_proceed :
    let r : Record := { metadata := { name := some "b", resourceVersion := some "1" },
                        status := some { phase := .v2Completed } }
    ∃ pre u later w, Run (.start (.single r)) pre u ∧
      PersistCall u later w 0 r { phase := .v3Running } (.ok ()) ∧
      Secured u later w 0 r { phase := .v3Running } (.ok ()) := by
  intro r
  have decided : (Pass.decide (Pass.plainContext true) r default).Leads []
      (.done (.ok (.advance { phase := .v3Running }))) := .rest _
  have hstored : (World.start (.single r)).store.get? r.name = some r := Store.get?_single r
  obtain ⟨u, th, k, before, hstore, -, hth, hrest⟩ := exists_run_of_decided
    (show (World.start (.single r)).threads 0 = none from rfl) hstored (List.forall_mem_nil _)
    decided rfl
  have fresh : u.store.IsFresh (written r { phase := .v3Running } (some "2")) := by
    rw [hstore]
    exact Store.isFresh_single (by decide)
  obtain ⟨w, run, -, -⟩ := exists_run_writeEvents (hstore ▸ hstored) hth hrest fresh
  have returns : (persistStatus r { phase := .v3Running }).Leads
      (Event.exchanges 0 (writeEvents 0 r { phase := .v3Running } (some "2")))
      (.done (.ok ())) := by
    rw [exchanges_writeEvents]
    exact (Saved.tried rfl (.ok ())).leads
  have call : PersistCall u _ w 0 r { phase := .v3Running } (.ok ()) :=
    ⟨run, ⟨th, k, hth, hrest⟩, returns⟩
  exact ⟨_, u, _, w, before, call, (no_lost_update (before.trans run)).1 rfl before call⟩

end EtcdBackup.Interleaving
