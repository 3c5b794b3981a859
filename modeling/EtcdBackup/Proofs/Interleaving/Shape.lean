import EtcdBackup.Proofs.Interleaving.Budget
import EtcdBackup.Proofs.Interleaving.Kept

/-!
# The shape of what is recorded for a target

What a status holds for a datastore of a target depends on how far that datastore is
(`SubStatus.IsShaped`): a name of a file goes with a success, the words of an error with a failure,
and a failure has used up all attempts. An entry is kept under its own name and says something, a
reason or the progress of a datastore (`InstanceStatus.IsShaped`). Whatever interleaves, every
status that passes with one limit of attempts write has this shape (`isShaped_of_committed`).
-/

set_option autoImplicit false
set_option relaxedAutoImplicit false

namespace EtcdBackup

open Dialogue

/-- No error is without words. -/
theorem Error.message_ne_empty (e : Error) : e.message ≠ "" := by
  have append_ne {s t : String} (hs : s ≠ "") : s ++ t ≠ "" :=
    fun h ↦ hs (String.append_eq_empty_iff.1 h).1
  cases e with
  | noProviderReachable => decide
  | backup version stage cause =>
    exact append_ne (append_ne (append_ne (append_ne (append_ne (by decide)))))
  | kube | conflict | validation | discovery | etcd | storage | encryption | io | serialization =>
    exact append_ne (by decide)

/-! ### Shapes -/

/-- How a recorded sub-status looks, by its state; it is never still to be started. -/
inductive SubStatus.IsShaped (limit : UInt32) (sub : SubStatus) : Prop
  | running (state : sub.state = .running) (started : sub.started.isSome)
      (finished : sub.finished = none) (attempts : sub.attempts = 0) (error : sub.latestError = "")
      (filename : sub.filename = none)
  | skipped (state : sub.state = .skipped) (started : sub.started.isSome)
      (finished : sub.finished.isSome) (attempts : sub.attempts = 0)
      (filename : sub.filename = none)
  | completed (state : sub.state = .completed) (started : sub.started.isSome)
      (finished : sub.finished.isSome) (attempts : 1 ≤ sub.attempts ∧ sub.attempts ≤ limit)
      (error : sub.latestError = "") (filename : sub.filename.isSome)
  | failed (state : sub.state = .failed) (started : sub.started.isSome)
      (finished : sub.finished.isSome) (attempts : sub.attempts = limit)
      (error : sub.latestError ≠ "") (filename : sub.filename = none)

/-- How the entry under a name looks. -/
structure InstanceStatus.IsShaped (limit : UInt32) (name : String) (entry : InstanceStatus) :
    Prop where
  named : entry.name = name
  present : entry.error.isSome ∨ entry.v2.isSome ∨ entry.v3.isSome
  subs : ∀ version sub, entry.sub? version = some sub → sub.IsShaped limit

/-- Every entry of the status has its shape. -/
def Status.IsShaped (limit : UInt32) (s : Status) : Prop :=
  ∀ name entry, s.instances.get? name = some entry → entry.IsShaped limit name

namespace Status

variable {s s' : Status} {limit : UInt32} {name : String} {version : Datastore} {sub : SubStatus}

theorem isShaped_of_instances_eq_empty (h : s.instances = ∅) : s.IsShaped limit := by
  intro name entry hentry
  rw [h] at hentry
  cases hentry

namespace IsShaped

theorem of_instances_eq (h : s.IsShaped limit) (hsame : s'.instances = s.instances) :
    s'.IsShaped limit := by
  intro name entry hentry
  exact h name entry (hsame ▸ hentry)

theorem sub? (h : s.IsShaped limit) (hsub : s.sub? name version = some sub) :
    sub.IsShaped limit := by
  obtain ⟨entry, hentry, hsub⟩ := Option.bind_eq_some_iff.1 hsub
  exact (h name entry hentry).subs version sub hsub

/-- The entry of a name bears it, also if it is a fresh one. -/
theorem name_entry (h : s.IsShaped limit) (name : String) : (s.entry name).name = name := by
  unfold entry
  cases hentry : s.instances.get? name with
  | none => rfl
  | some entry => exact (h name entry hentry).named

/-- An entry of the right shape takes the place of the one of its name. -/
theorem insert (h : s.IsShaped limit) {entry : InstanceStatus} (hentry : entry.IsShaped limit name)
    (hs' : s'.instances = s.instances.insert name entry) : s'.IsShaped limit := by
  intro other held hheld
  rw [hs', Keyed.get?_insert] at hheld
  split at hheld
  case isTrue hname =>
    cases hheld
    exact hname ▸ hentry
  case isFalse => exact h other held hheld

theorem withReason (h : s.IsShaped limit) (name reason : String) :
    (s.withReason name reason).IsShaped limit := by
  have hentry : ({ s.entry name with error := some reason } : InstanceStatus).IsShaped limit name :=
    ⟨h.name_entry name, Or.inl rfl, fun version sub hsub ↦ by
      rw [InstanceStatus.sub?_withError, sub?_entry] at hsub
      exact h.sub? hsub⟩
  exact h.insert hentry rfl

theorem withSub (h : s.IsShaped limit) (hsub : sub.IsShaped limit) :
    (s.withSub name version sub).IsShaped limit := by
  refine h.insert ⟨?_, Or.inr ?_, fun other held hheld ↦ ?_⟩ rfl
  · cases version <;> exact h.name_entry name
  · cases version with
    | v2 => exact Or.inl rfl
    | v3 => exact Or.inr rfl
  · rw [InstanceStatus.sub?_withSub, sub?_entry] at hheld
    split at hheld
    case isTrue => exact Option.some.inj hheld ▸ hsub
    case isFalse => exact h.sub? hheld

end IsShaped

end Status

/-! ### Backups that fail -/

namespace Retry

variable {S : Signature} {ε α : Type} {pause : Dialogue S Unit}
  {operation : Nat → Dialogue S (Except ε α)}

/-- A repeated operation only fails when no attempt is left. -/
theorem attempts_of_error {attempt remaining : Nat} {es : List (Exchange S)} {r : Retried ε α}
    (h : (attemptFrom pause operation attempt remaining).Leads es (.done r)) {e : ε}
    (hresult : r.result = .error e) : r.attempts = attempt + remaining := by
  induction remaining generalizing attempt es with
  | zero =>
    obtain ⟨_, result, _, -, -, h⟩ := leads_bind_done_iff.1 h
    cases h
    rfl
  | succ remaining ih =>
    obtain ⟨_, result, _, -, -, h⟩ := leads_bind_done_iff.1 h
    cases result with
    | ok value =>
      cases h
      cases hresult
    | error e =>
      obtain ⟨_, _, _, -, -, h⟩ := leads_bind_done_iff.1 h
      have := ih h
      omega

end Retry

namespace Runner

variable {ctx : Context} {record : Record} {target : Target} {version : Datastore}
  {limit : UInt32}

/-- A backup that fails uses up what is left of the attempts. -/
theorem attempts_add_of_error {sub : SubStatus}
    (left : sub.attempts.toNat < ctx.retry.maxAttempts.toNat) {es : List (Exchange Calls)}
    {retried : Retried Error Backup.Outcome}
    (course : (Backup.withRetries target version (remainingPolicy ctx sub)).Leads es
      (.done retried)) {e : Error} (hresult : retried.result = .error e) :
    sub.attempts + UInt32.ofNat retried.attempts = ctx.retry.maxAttempts := by
  obtain ⟨hsum, -, -⟩ := toNat_attempts_add left course
  have hall := Retry.attempts_of_error course hresult
  have hmax := ctx.retry.maxAttempts.toNat_lt
  have hpolicy : (remainingPolicy ctx sub).maxAttempts.toNat =
      ctx.retry.maxAttempts.toNat - sub.attempts.toNat := by
    unfold remainingPolicy
    rw [UInt32.toNat_ofNat']
    omega
  rw [hpolicy] at hall
  rw [← UInt32.toNat_inj, hsum]
  omega

/-- What a sub-status that is not done moves on to has its shape. -/
theorem Moves.isShaped {now : Instant} {sub sub' : SubStatus} {es : List (Exchange Calls)}
    (h : Moves ctx target version now sub es sub') (unfinished : sub.state.isTerminal = false)
    (shaped : sub = {} ∨ sub.IsShaped ctx.retry.maxAttempts) :
    sub'.IsShaped ctx.retry.maxAttempts := by
  rcases shaped with rfl | shaped
  · cases h with
    | start fresh => exact .running rfl rfl rfl rfl rfl rfl
    | skip started | exhaust started | attempt started => cases started
  · cases shaped with
    | skipped state | completed state | failed state =>
      rw [state] at unfinished
      cases unfinished
    | running state begun finished attempts error filename =>
      cases h with
      | start fresh =>
        rw [fresh] at begun
        cases begun
      | skip started incomplete => exact .skipped rfl started rfl attempts filename
      | exhaust started complete spent =>
        rw [attempts] at spent
        have hlimit : ctx.retry.maxAttempts = 0 := UInt32.toNat_inj.1 (Nat.le_zero.1 spent)
        refine .failed rfl started rfl (attempts.trans hlimit.symm) ?_ filename
        rw [error]
        exact (by decide : attemptsExhausted ≠ "")
      | @attempt started complete left es retried course finished =>
        obtain ⟨hsum, hfirst, hmax⟩ := toNat_attempts_add left course
        unfold SubStatus.finish
        cases hresult : retried.result with
        | ok outcome =>
          refine .completed rfl started rfl ⟨?_, ?_⟩ rfl rfl
          · rw [UInt32.le_iff_toNat_le, hsum]
            exact Nat.le_add_left_of_le hfirst
          · rw [UInt32.le_iff_toNat_le, hsum]
            exact hmax
        | error e =>
          exact .failed rfl started rfl (attempts_add_of_error left course hresult)
            e.message_ne_empty filename

theorem Planned.isShaped {status next : Status} {es : List (Exchange Calls)}
    (h : Planned ctx record status version es (some next))
    (shaped : status.IsShaped ctx.retry.maxAttempts) : next.IsShaped ctx.retry.maxAttempts := by
  rcases h.change with ⟨name, reason, rfl⟩ | ⟨target, now, moved, sub, unfinished, moves, rfl⟩
  · exact shaped.withReason name reason
  · refine shaped.withSub (moves.isShaped unfinished ?_)
    rw [Status.sub_eq_getD]
    cases hsub : status.sub? target.name version with
    | none => exact Or.inl rfl
    | some sub => exact Or.inr (shaped.sub? hsub)

end Runner

namespace Pass

variable {ctx : Context} {record : Record} {now : Instant} {es : List (Exchange Calls)}

/-- What is decided about a status keeps the shape of its entries. -/
theorem Decided.isShaped {decision : Decision} (h : Decided ctx record now es decision)
    {next : Status} (hnext : decision.status? = some next)
    (shaped : (record.status.getD {}).IsShaped ctx.retry.maxAttempts) :
    next.IsShaped ctx.retry.maxAttempts := by
  cases h with
  | reject | enter | close | proceed | judge =>
    cases hnext
    exact shaped.of_instances_eq rfl
  | start phase =>
    cases hnext
    exact Status.isShaped_of_instances_eq_empty rfl
  | work phase planned =>
    cases hnext
    exact planned.isShaped shaped
  | retireFinished | retireSkipped =>
    rw [Decision.status?_retire] at hnext
    cases hnext

end Pass

/-! ### Runs -/

namespace Interleaving

variable {store : Store} {events past later : List Event} {w : World} {id : Nat}
  {before after given : Record} {answer : Except Error Unit} {name : String} {limit : UInt32}

theorem isKept_isShaped (limit : UInt32) :
    IsKept (fun ctx ↦ ctx.retry.maxAttempts = limit) (Status.IsShaped limit) where
  fresh := Status.isShaped_of_instances_eq_empty rfl
  decided := by
    rintro ctx current now es decision next rfl hdecided hnext hread
    exact hdecided.isShaped hnext hread

/-- Every status that is written to a request that starts without one has the shape, if only passes
write it and all of them have the same limit of attempts. -/
theorem isShaped_of_committed (run : Run (.start store) events w)
    (unwritten : ∀ r ∈ store.log, r.name = name → r.status = none)
    (leaves : ∀ e ∈ events, e.LeavesStatus name)
    (limited : ∀ id ctx, .started id ctx name ∈ events → ctx.retry.maxAttempts = limit)
    (hevents : events = past ++ .committed id given answer before after :: later)
    (hname : after.name = name) : ∃ status, after.status = some status ∧ status.IsShaped limit :=
  (isKept_isShaped limit).of_committed run unwritten leaves limited hevents hname

/-- The last status of a run in which the only backup of a request fails. -/
theorem isShaped_of_committed_once :
    ∃ past given before after w status sub,
      Run (.start (.single (freshRecord "b")))
        (past ++ [.committed 4 given (.ok ()) before after]) w ∧
      after.status = some status ∧ status.sub? managementName .v2 = some sub ∧
      sub.state = .failed ∧ status.IsShaped 1 := by
  obtain ⟨past, given, before, after, w, sub, run, leaves, turns, hsub, hstate, -, -⟩ :=
    exists_run_spent_twice
  have limited (id : Nat) (ctx : Context)
      (started : .started id ctx "b" ∈ past ++ [.committed 4 given (.ok ()) before after]) :
      ctx.retry.maxAttempts = 1 := by
    have hlimit := turns.hasLimit _ started
    exact hlimit.2
  obtain ⟨ctx, started⟩ := run.exists_started
  have hname := (turns.hasLimit _ (List.mem_append_left _ started)).1
  obtain ⟨status, hstatus, shaped⟩ := isShaped_of_committed run
    (fun s hs _ ↦ Store.unwritten_single rfl s hs) leaves limited rfl hname
  rw [Record.sub?, hstatus] at hsub
  exact ⟨past, given, before, after, w, status, sub, run, hstatus, hsub, hstate, shaped⟩

end Interleaving

end EtcdBackup
