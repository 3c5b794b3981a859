import EtcdBackup.Proofs.Interleaving.Budget
import EtcdBackup.Proofs.Interleaving.Kept
import EtcdBackup.Proofs.Lookup

/-!
# Phase and record agree

Beside its phase a status holds two times, the entries of the targets and an error. Which of them
are there follows from the phase (`Status.Coherent`): the time of the end is that of a verdict,
nothing is recorded before the first round, and the verdict is a failure exactly if there is a
cause of it, in an entry or in the request itself. A decision takes a coherent status to a coherent
one (`Decided.coherent`), so every status that passes write is coherent (`coherent_of_committed`).
-/

set_option autoImplicit false
set_option relaxedAutoImplicit false

namespace EtcdBackup

open Dialogue

namespace Phase

/-- The cycle was started, and there is no verdict yet. -/
def IsUnderWay (phase : Phase) : Prop :=
  phase = .v2Running ∨ phase = .v2Completed ∨ phase = .v3Running ∨ phase = .v3Completed

theorem isUnderWay_running (version : Datastore) : (running version).IsUnderWay := by
  cases version <;> simp [running, IsUnderWay]

theorem isUnderWay_closed (version : Datastore) : (closed version).IsUnderWay := by
  cases version <;> simp [closed, IsUnderWay]

end Phase

/-! ### Failures in a status -/

theorem InstanceStatus.hasFailure_iff (entry : InstanceStatus) : entry.hasFailure ↔
    ∃ version sub, entry.sub? version = some sub ∧ sub.state = .failed := by
  simp only [hasFailure, List.any_cons, List.any_nil, Bool.or_false, Bool.or_eq_true,
    Option.any_eq_true, decide_eq_true_eq]
  constructor
  · rintro (h | h)
    · exact ⟨.v2, h⟩
    · exact ⟨.v3, h⟩
  · rintro ⟨version, h⟩
    cases version with
    | v2 => exact Or.inl h
    | v3 => exact Or.inr h

namespace Status

variable {s s' : Status} {name : String} {version : Datastore}

/-- Some datastore of some target failed. -/
def HasFailure (s : Status) : Prop :=
  ∃ name version sub, s.sub? name version = some sub ∧ sub.state = .failed

theorem hasFailure_congr (h : s'.instances = s.instances) : s'.HasFailure ↔ s.HasFailure := by
  unfold HasFailure
  simp only [sub?_congr h]

/-- The verdict looks at every datastore of every target. -/
theorem anyFailed_iff (s : Status) : s.anyFailed ↔ s.HasFailure := by
  unfold anyFailed HasFailure
  rw [List.any_eq_true]
  constructor
  · rintro ⟨entry, hmem, hentry⟩
    obtain ⟨⟨name, _⟩, he, rfl⟩ := List.mem_map.1 hmem
    obtain ⟨version, sub, hsub, hstate⟩ := (InstanceStatus.hasFailure_iff _).1 hentry
    have hget : s.instances.get? name = some _ := s.instances.ascending.find?_of_mem he
    exact ⟨name, version, sub, by rw [sub?, hget]; exact hsub, hstate⟩
  · rintro ⟨name, version, sub, hsub, hstate⟩
    obtain ⟨entry, hget, hentry⟩ := Option.bind_eq_some_iff.1 hsub
    exact ⟨entry, Keyed.mem_values_of_get? hget,
      (InstanceStatus.hasFailure_iff entry).2 ⟨version, sub, hentry, hstate⟩⟩

/-! ### Coherence -/

/-- The phase of a status and what is recorded beside it agree. -/
structure Coherent (s : Status) : Prop where
  finished : s.finished.isSome ↔ s.phase = .completed ∨ s.phase = .failed
  /-- Nothing is recorded before the first round, nor if there is none. -/
  untouched : s.phase = .empty ∨ s.phase = .pending ∨ s.phase = .skipped →
    s.started = none ∧ s.instances = ∅
  started : s.phase.IsUnderWay ∨ s.phase = .completed → s.started.isSome
  error : s.error.isSome → s.phase = .failed
  /-- No v3 datastore is worked on before the second round. -/
  inOrder : s.phase.rank < Phase.v3Running.rank → ∀ name, s.sub? name .v3 = none
  completed : s.phase = .completed → ¬s.HasFailure ∧ s.error = none
  failed : s.phase = .failed → s.HasFailure ∨ s.error.isSome

namespace Coherent

/-- Neither the end nor an error is recorded while there is no verdict. -/
theorem unfinished (h : s.Coherent) (hphase : ¬(s.phase = .completed ∨ s.phase = .failed)) :
    s.finished = none ∧ s.error = none := by
  refine ⟨Option.not_isSome_iff_eq_none.1 fun hfinished ↦ hphase (h.finished.1 hfinished), ?_⟩
  exact Option.not_isSome_iff_eq_none.1 fun herror ↦ hphase (Or.inr (h.error herror))

/-- The start is recorded while the cycle is under way. -/
theorem underWay (h : s.Coherent) (hphase : s.phase.IsUnderWay) :
    s.started.isSome ∧ s.finished = none ∧ s.error = none := by
  refine ⟨h.started (Or.inl hphase), h.unfinished ?_⟩
  rcases hphase with hphase | hphase | hphase | hphase <;> simp [hphase]

theorem of_untouched (hphase : s.phase = .empty ∨ s.phase = .pending ∨ s.phase = .skipped)
    (started : s.started = none) (finished : s.finished = none) (instances : s.instances = ∅)
    (error : s.error = none) : s.Coherent where
  finished := by rcases hphase with h | h | h <;> simp [h, finished]
  untouched _ := ⟨started, instances⟩
  started := by rcases hphase with h | h | h <;> simp [h, Phase.IsUnderWay]
  error := by simp [error]
  inOrder _ name := sub?_of_instances_eq_empty name .v3 instances
  completed := by rcases hphase with h | h | h <;> simp [h]
  failed := by rcases hphase with h | h | h <;> simp [h]

theorem of_underWay (hphase : s.phase.IsUnderWay) (started : s.started.isSome)
    (finished : s.finished = none) (error : s.error = none)
    (inOrder : s.phase.rank < Phase.v3Running.rank → ∀ name, s.sub? name .v3 = none) :
    s.Coherent where
  finished := by rcases hphase with h | h | h | h <;> simp [h, finished]
  untouched := by rcases hphase with h | h | h | h <;> simp [h]
  started _ := started
  error := by simp [error]
  inOrder := inOrder
  completed := by rcases hphase with h | h | h | h <;> simp [h]
  failed := by rcases hphase with h | h | h | h <;> simp [h]

theorem of_completed (hphase : s.phase = .completed) (started : s.started.isSome)
    (finished : s.finished.isSome) (quiet : ¬s.HasFailure) (error : s.error = none) :
    s.Coherent where
  finished := by simp [hphase, finished]
  untouched := by simp [hphase]
  started _ := started
  error := by simp [error]
  inOrder := by simp [hphase, Phase.rank]
  completed _ := ⟨quiet, error⟩
  failed := by simp [hphase]

theorem of_failed (hphase : s.phase = .failed) (finished : s.finished.isSome)
    (cause : s.HasFailure ∨ s.error.isSome) : s.Coherent where
  finished := by simp [hphase, finished]
  untouched := by simp [hphase]
  started := by simp [hphase, Phase.IsUnderWay]
  error _ := hphase
  inOrder := by simp [hphase, Phase.rank]
  completed := by simp [hphase]
  failed _ := cause

end Coherent

theorem coherent_default : ({} : Status).Coherent :=
  .of_untouched (Or.inl rfl) rfl rfl rfl rfl

end Status

/-! ### Decisions -/

namespace Runner

variable {ctx : Context} {record : Record} {version : Datastore}

/-- Work within a round leaves everything but the entries alone, and there the other version. -/
theorem Planned.frame {status next : Status} {es : List (Exchange Calls)}
    (h : Planned ctx record status version es (some next)) :
    (next.phase = status.phase ∧ next.started = status.started ∧
      next.finished = status.finished ∧ next.error = status.error) ∧
        ∀ name other, other ≠ version → next.sub? name other = status.sub? name other := by
  rcases h.change with ⟨name, reason, rfl⟩ | ⟨target, now, moved, sub, -, -, rfl⟩
  · exact ⟨⟨rfl, rfl, rfl, rfl⟩, fun _ _ _ ↦ Status.sub?_withReason _ _ _ _ _⟩
  · refine ⟨⟨rfl, rfl, rfl, rfl⟩, fun other otherVersion hne ↦ ?_⟩
    rw [Status.sub?_withSub, if_neg fun hsame ↦ hne hsame.2.symm]

end Runner

namespace Pass

variable {ctx : Context} {record : Record} {now : Instant} {es : List (Exchange Calls)}

/-- What is decided about a coherent status is coherent. -/
theorem Decided.coherent {decision : Decision} (h : Decided ctx record now es decision)
    {next : Status} (hnext : decision.status? = some next)
    (coherent : (record.status.getD {}).Coherent) : next.Coherent := by
  cases h with
  | reject reads invalid =>
    cases hnext
    exact .of_failed rfl rfl (Or.inr rfl)
  | enter phase all =>
    cases hnext
    have fresh : (record.status.getD {}).phase = .empty := phase
    obtain ⟨hstarted, hinstances⟩ := coherent.untouched (Or.inl fresh)
    obtain ⟨hfinished, herror⟩ := coherent.unfinished (by simp [fresh])
    refine .of_untouched (Or.inr ?_) hstarted hfinished hinstances herror
    simp only [admission]
    split
    · exact Or.inr rfl
    · exact Or.inl rfl
  | start phase =>
    cases hnext
    have pending : (record.status.getD {}).phase = .pending := phase
    obtain ⟨hfinished, herror⟩ := coherent.unfinished (by simp [pending])
    exact .of_underWay (Or.inl rfl) rfl hfinished herror
      fun _ name ↦ Status.sub?_of_instances_eq_empty name .v3 rfl
  | @work version phase es next planned =>
    cases hnext
    have running : (record.status.getD {}).phase = .running version := phase
    obtain ⟨⟨hphase, hstarted, hfinished, herror⟩, hother⟩ := planned.frame
    obtain ⟨started, finished, error⟩ :=
      coherent.underWay (running ▸ Phase.isUnderWay_running version)
    refine .of_underWay ?_ (hstarted ▸ started) (hfinished.trans finished) (herror.trans error) ?_
    · rw [hphase, running]
      exact Phase.isUnderWay_running version
    · intro hrank name
      cases version with
      | v2 =>
        rw [hother name .v3 (by decide)]
        exact coherent.inOrder (hphase ▸ hrank) name
      | v3 =>
        rw [hphase, running] at hrank
        exact (Nat.lt_irrefl _ hrank).elim
  | @close version phase es planned =>
    cases hnext
    have running : (record.status.getD {}).phase = .running version := phase
    obtain ⟨started, finished, error⟩ :=
      coherent.underWay (running ▸ Phase.isUnderWay_running version)
    refine .of_underWay (Phase.isUnderWay_closed version) started finished error ?_
    intro hrank name
    have hbefore := Nat.lt_trans (Phase.rank_running_lt_rank_closed version) hrank
    exact coherent.inOrder (running ▸ hbefore) name
  | proceed phase =>
    cases hnext
    have closed : (record.status.getD {}).phase = .closed .v2 := phase
    obtain ⟨started, finished, error⟩ := coherent.underWay (closed ▸ Phase.isUnderWay_closed .v2)
    exact .of_underWay (Phase.isUnderWay_running .v3) started finished error
      fun hrank ↦ (Nat.lt_irrefl _ hrank).elim
  | judge phase =>
    cases hnext
    have closed : (record.status.getD {}).phase = .closed .v3 := phase
    obtain ⟨started, -, error⟩ := coherent.underWay (closed ▸ Phase.isUnderWay_closed .v3)
    by_cases hfailed : (record.status.getD {}).HasFailure
    · have hverdict := (Status.anyFailed_iff _).2 hfailed
      exact .of_failed (if_pos hverdict) rfl (Or.inl ((Status.hasFailure_congr rfl).2 hfailed))
    · have hverdict := mt (Status.anyFailed_iff _).1 hfailed
      exact .of_completed (if_neg hverdict) started rfl (mt (Status.hasFailure_congr rfl).1 hfailed)
        error
  | retireFinished | retireSkipped =>
    rw [Decision.status?_retire] at hnext
    cases hnext

end Pass

/-! ### Runs -/

namespace Interleaving

variable {store : Store} {events past later : List Event} {w : World} {id : Nat}
  {before after given : Record} {answer : Except Error Unit} {name : String}

theorem isKept_coherent : IsKept (fun _ ↦ True) Status.Coherent where
  fresh := Status.coherent_default
  decided _ hdecided hnext hread := hdecided.coherent hnext hread

/-- Every status that is written to a request that starts without one is coherent, if only passes
write it. -/
theorem coherent_of_committed (run : Run (.start store) events w)
    (unwritten : ∀ r ∈ store.log, r.name = name → r.status = none)
    (leaves : ∀ e ∈ events, e.LeavesStatus name)
    (hevents : events = past ++ .committed id given answer before after :: later)
    (hname : after.name = name) : ∃ status, after.status = some status ∧ status.Coherent :=
  isKept_coherent.of_committed run unwritten leaves (fun _ _ _ ↦ trivial) hevents hname

/-- The last status of a run in which the only backup of a request fails. -/
theorem coherent_of_committed_once :
    ∃ past given before after w status,
      Run (.start (.single (freshRecord "b")))
        (past ++ [.committed 4 given (.ok ()) before after]) w ∧
      after.status = some status ∧ status.HasFailure ∧ status.Coherent := by
  obtain ⟨past, given, before, after, w, sub, run, leaves, turns, hsub, hstate, -, -⟩ :=
    exists_run_spent_twice
  obtain ⟨ctx, started⟩ := run.exists_started
  have hname := (turns.hasLimit _ (List.mem_append_left _ started)).1
  obtain ⟨status, hstatus, coherent⟩ := coherent_of_committed run
    (fun s hs _ ↦ Store.unwritten_single rfl s hs) leaves rfl hname
  refine ⟨past, given, before, after, w, status, run, hstatus, ?_, coherent⟩
  rw [Record.sub?, hstatus] at hsub
  exact ⟨managementName, .v2, sub, hsub, hstate⟩

end Interleaving

end EtcdBackup
