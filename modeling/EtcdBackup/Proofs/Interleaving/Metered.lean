import EtcdBackup.Proofs.Controller.Reported
import EtcdBackup.Proofs.Interleaving.Budget
import Mathlib.Data.List.Nodup

/-!
# The metrics of a run

All passes report to the same metrics, each of them once at most and right after the backup that it
made. That comes before the write of the status, so the metrics do not depend on what becomes of
the write. While no pass is in the middle of a backup, they count every maker that was opened and
every attempt that succeeded, whatever interleaves (`metrics_of_run`).

The count goes over the passes: a pass reports for one datastore, and it reports the attempts that
it made (`Run.backsUp`). So the sum of what was reported is the sum, over the passes that reported,
of the makers that they opened (`sum_count`).
-/

set_option autoImplicit false
set_option relaxedAutoImplicit false

namespace EtcdBackup.Interleaving

open Dialogue Runner

variable {store : Store} {events : List Event} {w : World} {e : Event} {id : Nat}
  {target : String} {version : Datastore} {x : Measurement}

/-- The pass that reports by an event, and what it reports. -/
def Event.report? : Event → Option (Nat × Measurement)
  | .asked id exchange => exchange.measurement?.map (id, ·)
  | _ => none

/-- All that is reported in a run, in order. -/
def reports (events : List Event) : List (Nat × Measurement) := events.filterMap Event.report?

/-- What is reported for a datastore version of a target. -/
def reportsFor (target : String) (version : Datastore) (events : List Event) :
    List (Nat × Measurement) :=
  (reports events).filter (·.2.isAbout target version)

/-- The metrics behind a run. -/
def metrics (events : List Event) : Metrics := .ofMeasurements ((reports events).map Prod.snd)

/-- The pass that opens a maker by the event and succeeds with it, given what happens later. -/
def Event.winner? (target : String) (version : Datastore) (later : List Event) :
    Event → Option Nat
  | .asked id exchange =>
    if exchange.request.opens target version ∧ succeeds (exchanges id later) then some id else none
  | _ => none

/-- The passes whose attempts for a datastore version of a target succeed, once for each attempt. -/
def winners (target : String) (version : Datastore) : List Event → List Nat
  | [] => []
  | e :: later => (e.winner? target version later).toList ++ winners target version later

/-! ### Counting over the passes -/

/-- The sum over some different numbers of how often they occur. -/
theorem sum_count {ids : List Nat} (distinct : ids.Nodup) (all : List Nat) :
    (ids.map fun id ↦ all.count id).sum = all.countP ids.contains := by
  induction ids with
  | nil =>
    refine (List.countP_eq_zero.2 fun id _ hid ↦ ?_).symm
    cases hid
  | cons id ids ih =>
    obtain ⟨new, distinct⟩ := List.nodup_cons.1 distinct
    have hnew : ids.contains id = false := by simpa using new
    rw [List.map_cons, List.sum_cons, ih distinct, Nat.add_comm, ← countP_or_beq hnew]
    refine List.countP_congr fun other _ ↦ ?_
    simp [or_comm]

theorem countP_eq_sum {α : Type} (p : α → Bool) (l : List α) :
    l.countP p = (l.map fun a ↦ if p a then 1 else 0).sum := by
  induction l with
  | nil => rfl
  | cons a l ih => rw [List.countP_cons, List.map_cons, List.sum_cons, ih, Nat.add_comm]

theorem Event.count_winner? (id : Nat) (e : Event) (later : List Event) :
    (e.winner? target version later).toList.count id + successes target version (exchanges id later) =
      successes target version ((e.exchange? id).toList ++ exchanges id later) := by
  cases e with
  | asked other x =>
    by_cases hid : other = id
    · subst hid
      by_cases wins : x.request.opens target version ∧ succeeds (exchanges other later) <;>
        simp [winner?, successes, wins]
    · by_cases wins : x.request.opens target version ∧ succeeds (exchanges other later) <;>
        simp [winner?, exchange?, hid, wins]
  | committed other | deleted other =>
    by_cases hid : other = id <;> simp [winner?, exchange?, hid, successes, Call.opens]
  | started | created | edited | removed => simp [winner?, exchange?]

/-- The attempts of a pass that succeed are those in its exchanges. -/
theorem count_winners (id : Nat) (events : List Event) :
    (winners target version events).count id =
      successes target version (Event.exchanges id events) := by
  induction events with
  | nil => rfl
  | cons e later ih =>
    rw [winners, List.count_append, ih, Event.count_winner?, ← List.singleton_append,
      Event.exchanges_append, Event.exchanges_singleton]

/-- A pass with an attempt that succeeds made this attempt. -/
theorem winners_subset_openers : winners target version events ⊆ openers target version events := by
  induction events with
  | nil => exact List.Subset.refl _
  | cons e later ih =>
    intro id hid
    rcases List.mem_append.1 hid with hid | hid
    · refine List.mem_filterMap.2 ⟨e, List.mem_cons_self, ?_⟩
      cases e with
      | asked other x =>
        obtain ⟨wins, hother⟩ := Option.ite_none_right_eq_some.1 (Option.mem_toList.1 hid)
        exact (if_pos wins.1).trans hother
      | started | committed | deleted | created | edited | removed => cases hid
    · obtain ⟨e', he', hopener⟩ := List.mem_filterMap.1 (ih hid)
      exact List.mem_filterMap.2 ⟨e', List.mem_cons_of_mem _ he', hopener⟩

/-- The reports of a pass are those in its exchanges. -/
theorem filterMap_reports (id : Nat) (events : List Event) :
    (reports events).filterMap (fun r ↦ if r.1 = id then some r.2 else none) =
      measurements (Event.exchanges id events) := by
  unfold reports measurements Event.exchanges
  rw [List.filterMap_filterMap, List.filterMap_filterMap]
  refine List.filterMap_congr fun e _ ↦ ?_
  cases e with
  | asked other x =>
    by_cases hid : other = id <;> cases hx : x.measurement? <;>
      simp [Event.report?, Event.exchange?, hid, hx]
  | committed other | deleted other =>
    by_cases hid : other = id <;> simp [Event.report?, Event.exchange?, hid, Exchange.measurement?]
  | started | created | edited | removed => rfl

theorem mem_measurements_iff :
    x ∈ measurements (Event.exchanges id events) ↔ (id, x) ∈ reports events := by
  rw [← filterMap_reports, List.mem_filterMap]
  constructor
  · rintro ⟨⟨other, y⟩, hmem, hsame⟩
    obtain ⟨rfl, hy⟩ := Option.ite_none_right_eq_some.1 hsame
    cases hy
    exact hmem
  · exact fun hmem ↦ ⟨_, hmem, if_pos rfl⟩

/-! ### What the passes of a run report -/

/-- A pass has nothing to report, or the backup that it made. -/
theorem Run.measurements_exchanges (run : Run (.start store) events w) (id : Nat) :
    measurements (Event.exchanges id events) = [] ∨ ∃ x, BacksUp (Event.exchanges id events) x := by
  cases hth : w.threads id with
  | none => exact .inl (by rw [run.isTraced.unused id hth]; rfl)
  | some th =>
    rw [← (run.past_eq hth).1]
    exact Pass.measurements_of_leads th.course

/-- What a pass reports is the backup that it made. -/
theorem Run.backsUp (run : Run (.start store) events w) (h : (id, x) ∈ reports events) :
    BacksUp (Event.exchanges id events) x := by
  have hx := mem_measurements_iff.2 h
  rcases run.measurements_exchanges id with hnone | ⟨y, hy⟩
  · rw [hnone] at hx
    cases hx
  · rw [hy.measurements_eq] at hx
    cases List.mem_singleton.1 hx
    exact hy

/-- No pass reports twice. -/
theorem Run.nodup_reports (run : Run (.start store) events w) :
    ((reports events).map Prod.fst).Nodup := by
  refine List.nodup_iff_count_le_one.2 fun id ↦ ?_
  have hcount (all : List (Nat × Measurement)) : (all.map Prod.fst).count id =
      (all.filterMap fun r ↦ if r.1 = id then some r.2 else none).length := by
    induction all with
    | nil => rfl
    | cons r all ih => by_cases hid : r.1 = id <;> simp [hid, ih]
  rw [hcount, filterMap_reports]
  rcases run.measurements_exchanges id with hnone | ⟨x, hx⟩
  · rw [hnone]
    exact Nat.zero_le _
  · rw [hx.measurements_eq]
    exact Nat.le_refl _

/-! ### The sums of what is reported -/

/-- The passes that report for a datastore version of a target. -/
def reporters (target : String) (version : Datastore) (events : List Event) : List Nat :=
  (reportsFor target version events).map Prod.fst

theorem Run.nodup_reporters (run : Run (.start store) events w) :
    (reporters target version events).Nodup :=
  run.nodup_reports.sublist (List.filter_sublist.map _)

theorem mem_reportsFor_iff {r : Nat × Measurement} : r ∈ reportsFor target version events ↔
    r ∈ reports events ∧ r.2.isAbout target version := List.mem_filter

/-- If each report gives the number of times that its pass occurs in a list, then all of them give
the number of times that one of these passes occurs. -/
theorem Run.sum_reportsFor (run : Run (.start store) events w) (f : Measurement → Nat)
    (all : List Nat)
    (each : ∀ id x, (id, x) ∈ reports events → x.isAbout target version → f x = all.count id) :
    ((reportsFor target version events).map fun r ↦ f r.2).sum =
      all.countP (reporters target version events).contains := by
  rw [← sum_count run.nodup_reporters, reporters, List.map_map]
  refine congrArg List.sum (List.map_congr_left fun r hr ↦ ?_)
  obtain ⟨hmem, about⟩ := mem_reportsFor_iff.1 hr
  exact each r.1 r.2 hmem about

/-- The attempts that are reported are those of the passes that reported. -/
theorem Run.sum_attempts (run : Run (.start store) events w) :
    ((reportsFor target version events).map (·.2.attempts)).sum =
      (openers target version events).countP (reporters target version events).contains := by
  refine run.sum_reportsFor Measurement.attempts _ fun id x hx about ↦ ?_
  rw [count_openers, (run.backsUp hx).openings_eq, if_pos about]

/-- And so are the successes. -/
theorem Run.countP_isSome (run : Run (.start store) events w) :
    (reportsFor target version events).countP (·.2.outcome.isSome) =
      (winners target version events).countP (reporters target version events).contains := by
  rw [countP_eq_sum]
  refine run.sum_reportsFor (fun x ↦ if x.outcome.isSome then 1 else 0) _ fun id x hx about ↦ ?_
  rw [count_winners, (run.backsUp hx).successes_eq]
  simp only [about, true_and]

/-- A pass that made an attempt has reported it, unless its backup is under way. -/
theorem Run.contains_of_settled (run : Run (.start store) events w)
    (settled : ∀ id th, w.threads id = some th → IsSettled th.past)
    (h : id ∈ openers target version events) :
    (reporters target version events).contains id := by
  have hopenings : openings target version (Event.exchanges id events) ≠ 0 := by
    rw [← count_openers]
    exact Nat.ne_of_gt (List.count_pos_iff.2 h)
  have hmeasured : measurements (Event.exchanges id events) ≠ [] := by
    intro none
    cases hth : w.threads id with
    | none =>
      rw [run.isTraced.unused id hth] at hopenings
      exact hopenings rfl
    | some th =>
      have := settled id th hth
      rw [(run.past_eq hth).1] at this
      exact hopenings (this none target version)
  obtain ⟨x, hx⟩ := (run.measurements_exchanges id).resolve_left hmeasured
  have hreport : (id, x) ∈ reports events := by
    rw [← mem_measurements_iff, hx.measurements_eq]
    exact List.mem_singleton_self x
  have about : x.isAbout target version := by
    by_contra other
    rw [hx.openings_eq, if_neg other] at hopenings
    exact hopenings rfl
  exact List.contains_iff_mem.2 (List.mem_map.2 ⟨_, mem_reportsFor_iff.2 ⟨hreport, about⟩, rfl⟩)

theorem get?_metrics (events : List Event) (target : String) (version : Datastore) :
    (metrics events).get? target version =
      if reportsFor target version events = [] then none
      else some (Series.ofMeasurements ((reportsFor target version events).map Prod.snd)) := by
  have hfilter : ((reports events).map Prod.snd).filter (·.isAbout target version) =
      (reportsFor target version events).map Prod.snd := List.filter_map
  rw [metrics, Metrics.get?_ofMeasurements, hfilter]
  simp only [List.map_eq_nil_iff]

/-- What the metrics hold for a datastore version of a target agrees with what was done for it: a
series is there if a maker was opened, its counters are those of the makers that were opened and of
the attempts that succeeded, and the rest is of the last report and of the last one of a success. No
report changes what is held for another datastore, and each of them is that of the backup that its
pass made. -/
theorem metrics_of_run (run : Run (.start store) events w)
    (settled : ∀ id th, w.threads id = some th → IsSettled th.past) (target : String)
    (version : Datastore) :
    ((metrics events).get? target version = none ↔ calls target version events = 0) ∧
    (∀ s, (metrics events).get? target version = some s →
      s.attempts = calls target version events ∧
      s.successes = (winners target version events).length ∧
      s.failures = s.attempts - s.successes ∧
      s.Summarizes ((reportsFor target version events).map Prod.snd)) ∧
    (∀ id x, (id, x) ∈ reports events → BacksUp (Event.exchanges id events) x) ∧
    ∀ m x, x.isAbout target version = false →
      (Metrics.record m x).get? target version = m.get? target version := by
  have hcalls : ((reportsFor target version events).map (·.2.attempts)).sum =
      calls target version events := by
    rw [run.sum_attempts]
    exact List.countP_eq_length.2 fun id hid ↦ run.contains_of_settled settled hid
  have hwins : (reportsFor target version events).countP (·.2.outcome.isSome) =
      (winners target version events).length := by
    rw [run.countP_isSome]
    exact List.countP_eq_length.2 fun id hid ↦
      run.contains_of_settled settled (winners_subset_openers hid)
  have hpos : ∀ r ∈ reportsFor target version events, 1 ≤ r.2.attempts :=
    fun r hr ↦ (run.backsUp (mem_reportsFor_iff.1 hr).1).attempts_pos
  refine ⟨?_, fun s hs ↦ ?_, fun id x hx ↦ run.backsUp hx, fun m x other ↦ ?_⟩
  · rw [get?_metrics, ← hcalls]
    cases hreports : reportsFor target version events with
    | nil => simp
    | cons r rest =>
      have := hpos r (by rw [hreports]; exact List.mem_cons_self)
      simp
      omega
  · rw [get?_metrics] at hs
    obtain ⟨-, hseries⟩ := Option.ite_none_left_eq_some.1 hs
    have summary := Series.summarizes_ofMeasurements
      ((reportsFor target version events).map Prod.snd)
    rw [Option.some.inj hseries] at summary
    have hattempts := summary.attempts
    have hsuccesses := summary.successes
    have hfailures := summary.failures (List.forall_mem_map.2 hpos)
    rw [List.map_map] at hattempts
    rw [List.countP_map] at hsuccesses
    exact ⟨hattempts.trans hcalls, hsuccesses.trans hwins, by omega, summary⟩
  · rw [Metrics.get?_record, other]
    rfl

/-- A pass that is over has no backup under way. -/
theorem Thread.isSettled_of_done {th : Thread} {result : Except Error Action}
    (ended : th.rest = .done result) : IsSettled th.past :=
  (Pass.isReported_of_leads (ended ▸ th.course)).isSettled

/-! ### Reports without a write -/

/-- An attempt that succeeds. -/
def madeAttempt : List (Exchange Calls) :=
  let b : Backupper := ⟨0, .v2⟩
  [⟨.now, default⟩, ⟨.openBackupper singleAttempt.management .v2, .ok b⟩,
    ⟨.stopwatch, default⟩, ⟨.create b, .ok "a"⟩, ⟨.stopwatch, default⟩,
    ⟨.stopwatch, default⟩, ⟨.encrypt b, .ok "a.enc"⟩, ⟨.stopwatch, default⟩,
    ⟨.stopwatch, default⟩, ⟨.upload "a.enc", .ok 5⟩, ⟨.stopwatch, default⟩,
    ⟨.cleanup b, .ok ()⟩, ⟨.now, default⟩,
    ⟨.measure ⟨managementName, .v2, 1, some { size := 5, filename := "a.enc" }, default⟩, ()⟩]

/-- The exchanges of a pass that makes an attempt and has its write refused. -/
def refusedPass (attempt : List (Exchange Calls)) (r : Record) (status : Status) :
    List (Exchange Calls) :=
  ⟨.get r.name, .ok r⟩ :: ⟨.now, default⟩ :: attempt ++ [⟨.get r.name, .ok r⟩,
    ⟨.updateStatus { r with status := some status }, .error (.conflict (.modified "b"))⟩]

/-- The first of two passes succeeds, and the second one fails. Both writes are refused. -/
theorem metrics_of_run_refused :
    ∃ r events w s, Run (.start (.single r)) events w ∧
      (∀ id, hasCommitted events id = false) ∧
      (metrics events).get? managementName .v2 = some s ∧
      calls managementName .v2 events = 2 ∧ s.attempts = calls managementName .v2 events ∧
      (winners managementName .v2 events).length = 1 ∧
      s.successes = (winners managementName .v2 events).length ∧
      s.failures = s.attempts - s.successes ∧ s.size = 5 := by
  let r := written (freshRecord "b") markedStatus (some "4")
  let sub : SubStatus := { state := .running, started := some default }
  let finished (result : Except Error Backup.Outcome) : Status :=
    markedStatus.withSub managementName .v2 (SubStatus.finish sub ⟨1, result⟩ default)
  let made := finished (.ok { size := 5, filename := "a.enc" })
  let failed := finished (.error (.conflict (.reported "")))
  have decided₀ : (Pass.decide singleAttempt r default).Leads madeAttempt
      (.done (.ok (.progress made))) :=
    .ask (.ask (.ask (.ask (.ask (.ask (.ask (.ask (.ask (.ask (.ask (.ask (.ask
      (.ask (.rest _))))))))))))))
  have decided₁ : (Pass.decide singleAttempt r default).Leads failedAttempt
      (.done (.ok (.progress failed))) := .ask (.ask (.ask (.ask (.rest _))))
  have course₀ : (Pass.reconcile singleAttempt r.name).Leads (refusedPass madeAttempt r made)
      (.done (.error (.conflict (.modified "b")))) :=
    (Pass.Passed.decided decided₀ (.write rfl (.tried rfl _))).leads
  have course₁ : (Pass.reconcile singleAttempt r.name).Leads (refusedPass failedAttempt r failed)
      (.done (.error (.conflict (.modified "b")))) :=
    (Pass.Passed.decided decided₁ (.write rfl (.tried rfl _))).leads
  have gives {w : World} (stored : w.store.get? r.name = some r) {attempt : List (Exchange Calls)}
      (hattempt : ∀ e ∈ attempt, w.store.Gives e.request e.answer) (status : Status) :
      ∀ e ∈ refusedPass attempt r status, w.store.Gives e.request e.answer := by
    refine List.forall_mem_append.2 ⟨?_, ?_⟩
    · exact List.forall_mem_cons.2 ⟨stored, List.forall_mem_cons.2 ⟨trivial, hattempt⟩⟩
    · exact List.forall_mem_cons.2 ⟨stored, List.forall_mem_singleton.2 trivial⟩
  have hmade (w : World) : ∀ e ∈ madeAttempt, w.store.Gives e.request e.answer := by
    simp only [madeAttempt, List.forall_mem_cons]
    exact ⟨trivial, trivial, trivial, trivial, trivial, trivial, trivial, trivial, trivial, trivial,
      trivial, trivial, trivial, trivial, List.forall_mem_nil _⟩
  have hfailed (w : World) : ∀ e ∈ failedAttempt, w.store.Gives e.request e.answer := by
    simp only [failedAttempt, List.forall_mem_cons]
    exact ⟨trivial, trivial, trivial, trivial, List.forall_mem_nil _⟩
  obtain ⟨w₁, h₁⟩ := (Alone.start r).asked singleAttempt (gives (Store.get?_single r) (hmade _) made)
    course₀
  obtain ⟨w, h⟩ := h₁.asked singleAttempt (gives h₁.stored (hfailed _) failed) course₁
  have settled : ∀ id th, w.threads id = some th → IsSettled th.past := by
    intro id th hth
    rw [(h.run.past_eq hth).1]
    rcases id with _ | _ | id
    · exact (Pass.isReported_of_leads course₀).isSettled
    · exact (Pass.isReported_of_leads course₁).isSettled
    · rw [h.unused (id + 2) (Nat.le_add_left 2 id)] at hth
      cases hth
  obtain ⟨-, series, -⟩ := metrics_of_run h.run settled managementName .v2
  obtain ⟨hattempts, hsuccesses, hfailures, -⟩ := series _ rfl
  exact ⟨r, _, w, _, h.run, fun id ↦ rfl, rfl, rfl, hattempts, rfl, hsuccesses, hfailures, rfl⟩

end EtcdBackup.Interleaving
