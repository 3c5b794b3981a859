import EtcdBackup.Controller.Runner
import EtcdBackup.Proofs.Course
import EtcdBackup.Proofs.Record.Entries

/-!
# What is done for the targets of a request

A round over the targets looks for one piece of work and writes its result. `Runner.plan` is the
first half, which leaves the stored request alone; `Runner.run` is the plan followed by the write
(`run_eq`). The rules for the piece of work are `Moves`, for one sub-status, and `Planned`, for the
whole status: each full course of a plan follows one of them (`moves_of_leads`,
`planned_of_leads`), and nothing else is done.
-/

set_option autoImplicit false
set_option relaxedAutoImplicit false

namespace EtcdBackup

open Dialogue

instance (c : Call) : Nonempty c.Answer := by
  cases c <;> exact ⟨default⟩

/-- The request reads or writes a single stored request. -/
def Call.IsOnRecord : Call → Prop
  | .get _ | .updateStatus _ | .delete _ => True
  | _ => False

/-- The request belongs to a backup of one datastore version of one target. -/
def Call.IsOfBackup (target : Target) (version : Datastore) : Call → Prop
  | .openBackupper t v => t = target ∧ v = version
  | .sleep _ | .stopwatch | .create _ | .encrypt _ | .upload _ | .cleanup _ => True
  | _ => False

/-- The request belongs to the work of a maker of backups that was opened. -/
def Call.IsOfStage : Call → Prop
  | .stopwatch | .create _ | .encrypt _ | .upload _ | .cleanup _ => True
  | _ => False

theorem Call.IsOfStage.isOfBackup {c : Call} (h : c.IsOfStage) (target : Target)
    (version : Datastore) : c.IsOfBackup target version := by
  cases c <;> first | exact h.elim | trivial

namespace Job

variable {α : Type} {c : Call} {f : c.Answer → Job α}

theorem leads_call_bind_done_iff {es : List (Exchange Calls)} {a : α} :
    Leads (Job.call c >>= f) es (.done a) ↔
      ∃ answer es', es = ⟨c, answer⟩ :: es' ∧ Leads (f answer) es' (.done a) :=
  leads_ask_done_iff

theorem leads_call_done_iff {es : List (Exchange Calls)} {answer : c.Answer} :
    Leads (Job.call c) es (.done answer) ↔ es = [⟨c, answer⟩] := by
  constructor
  · intro h
    obtain ⟨_, _, rfl, hend⟩ := leads_ask_done_iff.1 h
    cases hend
    rfl
  · rintro rfl
    exact .ask (.rest _)

theorem only_call {p : Call → Prop} (h : p c) : Only p (Job.call c) := ⟨h, fun _ ↦ trivial⟩

theorem only_call_bind {p : Call → Prop} (h : p c) (hf : ∀ answer, Only p (f answer)) :
    Only p (Job.call c >>= f) := (only_call h).bind hf

end Job

/-- The makers of backups opened in some exchanges are all for one target, and for targets and
versions that `p` allows. -/
def OpensFor (es : List (Exchange Calls)) (p : Target → Datastore → Prop) : Prop :=
  ∃ target, ∀ e ∈ es, ∀ t v, e.request = .openBackupper t v → t = target ∧ p t v

namespace OpensFor

variable {es es' : List (Exchange Calls)} {p q : Target → Datastore → Prop}

theorem nil (p : Target → Datastore → Prop) : OpensFor [] p :=
  ⟨default, List.forall_mem_nil _⟩

theorem append_left (hes' : ∀ e ∈ es', ∀ t v, e.request ≠ .openBackupper t v)
    (h : OpensFor es p) : OpensFor (es' ++ es) p := by
  obtain ⟨target, hopen⟩ := h
  refine ⟨target, fun e he t v hrequest ↦ ?_⟩
  rcases List.mem_append.1 he with he | he
  · exact (hes' e he t v hrequest).elim
  · exact hopen e he t v hrequest

theorem append_right (hes' : ∀ e ∈ es', ∀ t v, e.request ≠ .openBackupper t v)
    (h : OpensFor es p) : OpensFor (es ++ es') p := by
  obtain ⟨target, hopen⟩ := h
  refine ⟨target, fun e he t v hrequest ↦ ?_⟩
  rcases List.mem_append.1 he with he | he
  · exact hopen e he t v hrequest
  · exact (hes' e he t v hrequest).elim

theorem cons {e : Exchange Calls} (h : OpensFor es p)
    (he : ∀ t v, e.request ≠ .openBackupper t v) : OpensFor (e :: es) p :=
  @append_left es [e] p (fun _ hmem ↦ List.mem_singleton.1 hmem ▸ he) h

theorem mono (h : OpensFor es p) (hpq : ∀ t v, p t v → q t v) : OpensFor es q := by
  obtain ⟨target, hopen⟩ := h
  exact ⟨target, fun e he t v hrequest ↦ (hopen e he t v hrequest).imp id (hpq t v)⟩

end OpensFor

/-! ### Retried backups -/

namespace Retry

variable {S : Signature} {ε α : Type} {pause : Dialogue S Unit}
  {operation : Nat → Dialogue S (Except ε α)}

theorem attempts_of_leads {attempt remaining : Nat} {es : List (Exchange S)} {r : Retried ε α}
    (h : (attemptFrom pause operation attempt remaining).Leads es (.done r)) :
    attempt ≤ r.attempts ∧ r.attempts ≤ attempt + remaining := by
  induction remaining generalizing attempt es with
  | zero =>
    obtain ⟨_, result, _, -, -, h⟩ := leads_bind_done_iff.1 h
    cases h
    exact ⟨Nat.le_refl _, Nat.le_refl _⟩
  | succ remaining ih =>
    obtain ⟨_, result, _, -, -, h⟩ := leads_bind_done_iff.1 h
    cases result with
    | ok value =>
      cases h
      exact ⟨Nat.le_refl _, Nat.le_add_right _ _⟩
    | error e =>
      obtain ⟨_, _, _, -, -, h⟩ := leads_bind_done_iff.1 h
      have := ih h
      omega

theorem only_attemptFrom {p : S.Request → Prop} (hpause : Only p pause)
    (hoperation : ∀ n, Only p (operation n)) (attempt remaining : Nat) :
    Only p (attemptFrom pause operation attempt remaining) := by
  induction remaining generalizing attempt with
  | zero => exact (hoperation attempt).bind fun _ ↦ trivial
  | succ remaining ih =>
    refine (hoperation attempt).bind fun result ↦ ?_
    cases result with
    | ok value => trivial
    | error e => exact hpause.bind fun _ ↦ ih (attempt + 1)

end Retry

namespace Backup

variable (target : Target) (version : Datastore)

theorem only_timed {α : Type} {p : Call → Prop} {act : Job (Except Error α)} (v : Datastore)
    (stage : Stage) (hclock : p .stopwatch) (hact : Only p act) : Only p (timed v stage act) := by
  refine Job.only_call_bind hclock fun _ ↦ hact.bind fun result ↦ ?_
  cases result with
  | error e => trivial
  | ok a => exact Job.only_call_bind hclock fun _ ↦ trivial

theorem only_stages (b : Backupper) : Only Call.IsOfStage (stages b) := by
  refine (only_timed b.version _ trivial (Job.only_call trivial)).bind fun created ↦ ?_
  cases created with
  | error e => trivial
  | ok created =>
    refine (only_timed b.version _ trivial (Job.only_call trivial)).bind fun encrypted ↦ ?_
    cases encrypted with
    | error e => trivial
    | ok encrypted =>
      refine (only_timed b.version _ trivial (Job.only_call trivial)).bind fun uploaded ↦ ?_
      cases uploaded <;> trivial

theorem only_pipeline (b : Backupper) : Only Call.IsOfStage (pipeline b) :=
  (only_stages b).bind fun _ ↦ Job.only_call_bind trivial fun _ ↦ trivial

theorem only_attempt : Only (Call.IsOfBackup target version) (attempt target version) := by
  refine Job.only_call_bind ⟨rfl, rfl⟩ fun opened ↦ ?_
  cases opened with
  | error e => trivial
  | ok b => exact (only_pipeline b).mono fun c hc ↦ hc.isOfBackup target version

/-- A retried backup only makes requests of that backup. -/
theorem only_withRetries (policy : RetryPolicy) :
    Only (Call.IsOfBackup target version) (withRetries target version policy) :=
  Retry.only_attemptFrom (Job.only_call trivial) (fun _ ↦ only_attempt target version) _ _

/-- A retried backup takes at least one attempt, and no more than the policy grants otherwise. -/
theorem attempts_withRetries {policy : RetryPolicy} {es : List (Exchange Calls)}
    {r : Retried Error Outcome}
    (h : (withRetries target version policy).Leads es (.done r)) :
    1 ≤ r.attempts ∧ r.attempts ≤ max policy.maxAttempts.toNat 1 := by
  have := Retry.attempts_of_leads h
  omega

end Backup

namespace Runner

variable {ctx : Context} {record : Record} {target : Target} {version : Datastore}

/-! ### One sub-status -/

/-- The policy for the attempts that a sub-status has left. -/
def remainingPolicy (ctx : Context) (sub : SubStatus) : RetryPolicy :=
  { ctx.retry with
    maxAttempts := UInt32.ofNat (ctx.retry.maxAttempts.toNat - sub.attempts.toNat) }

/-- The rules by which a sub-status that is not done moves on at a time, and the exchanges of each
move: it is marked as running, skipped for want of settings, failed for want of attempts, or the
backup is made. -/
inductive Moves (ctx : Context) (target : Target) (version : Datastore) (now : Instant)
    (sub : SubStatus) : List (Exchange Calls) → SubStatus → Prop
  | start (fresh : sub.started = none) :
      Moves ctx target version now sub [] { sub with started := some now, state := .running }
  | skip (started : sub.started.isSome) (incomplete : ¬target.isComplete version) :
      Moves ctx target version now sub [] { sub with state := .skipped, finished := some now }
  | exhaust (started : sub.started.isSome) (complete : target.isComplete version)
      (spent : ctx.retry.maxAttempts.toNat ≤ sub.attempts.toNat) :
      Moves ctx target version now sub [] { sub with
        state := .failed
        finished := some now
        latestError :=
          if sub.latestError.isEmpty then attemptsExhausted else sub.latestError }
  | attempt (started : sub.started.isSome) (complete : target.isComplete version)
      (left : sub.attempts.toNat < ctx.retry.maxAttempts.toNat) {es : List (Exchange Calls)}
      {retried : Retried Error Backup.Outcome}
      (course : (Backup.withRetries target version (remainingPolicy ctx sub)).Leads es
        (.done retried)) (finished : Instant) :
      Moves ctx target version now sub
        (es ++ [⟨.now, finished⟩, ⟨.measure ⟨target.name, version, retried.attempts,
          retried.result.toOption, finished⟩, ()⟩])
        (SubStatus.finish sub retried finished)

theorem moves_of_leads {now : Instant} {sub sub' : SubStatus} {es : List (Exchange Calls)}
    (h : (advanceSub ctx target version now sub).Leads es (.done sub')) :
    Moves ctx target version now sub es sub' := by
  unfold advanceSub at h
  split at h
  case isTrue fresh =>
    cases h
    exact .start (Option.isNone_iff_eq_none.1 fresh)
  case isFalse started =>
    have started : sub.started.isSome := by
      simpa only [Bool.not_eq_true, Option.isNone_eq_false_iff] using started
    split at h
    case isTrue incomplete =>
      cases h
      exact .skip started incomplete
    case isFalse complete =>
      have complete : target.isComplete version := by simpa using complete
      dsimp only at h
      split at h
      case isTrue spent =>
        cases h
        exact .exhaust started complete (Nat.sub_eq_zero_iff_le.1 spent)
      case isFalse left =>
        obtain ⟨es, retried, behind, rfl, course, hbehind⟩ := leads_bind_done_iff.1 h
        obtain ⟨finished, _, rfl, hmeasure⟩ := Job.leads_call_bind_done_iff.1 hbehind
        obtain ⟨_, _, rfl, hend⟩ := Job.leads_call_bind_done_iff.1 hmeasure
        cases hend
        exact .attempt started complete (by omega) course finished

/-- Makers of backups are only opened for a sub-status that was started. -/
theorem Moves.opened {now : Instant} {sub sub' : SubStatus} {es : List (Exchange Calls)}
    (h : Moves ctx target version now sub es sub') {e : Exchange Calls} (he : e ∈ es)
    {t : Target} {v : Datastore} (hopen : e.request = .openBackupper t v) :
    t = target ∧ v = version ∧ sub.started.isSome := by
  cases h with
  | start | skip | exhaust => cases he
  | attempt started complete left course finished =>
    rcases List.mem_append.1 he with he | he
    · have := (Backup.only_withRetries target version _).request course e he
      rw [hopen] at this
      exact ⟨this.1, this.2, started⟩
    · simp only [List.mem_cons, List.not_mem_nil, or_false] at he
      rcases he with rfl | rfl <;> cases hopen

/-! ### The targets one after the other -/

/-- The first name whose reason is new, by the list search of the library. -/
theorem recordUnresolved_eq (status : Status) (names : List Unresolved) :
    recordUnresolved status names =
      (names.find? fun u ↦ (status.entry u.name).error ≠ some u.reason).map fun u ↦
        status.withReason u.name u.reason := by
  induction names with
  | nil => rfl
  | cons u rest ih =>
    by_cases known : (status.entry u.name).error = some u.reason
    · rw [List.find?_cons_of_neg (by simpa using known), ← ih]
      exact if_pos known
    · rw [List.find?_cons_of_pos (by simpa using known)]
      exact if_neg known

/-- The first name whose reason is new is noted, and nothing else. -/
theorem exists_of_recordUnresolved {status next : Status} {names : List Unresolved}
    (h : recordUnresolved status names = some next) :
    ∃ u ∈ names, (status.entry u.name).error ≠ some u.reason ∧
      next = status.withReason u.name u.reason := by
  rw [recordUnresolved_eq, Option.map_eq_some_iff] at h
  obtain ⟨u, found, rfl⟩ := h
  exact ⟨u, List.mem_of_find?_eq_some found, by simpa using List.find?_some found, rfl⟩

/-- The course of a round up to the first target that is not done: the clock is read for each. -/
inductive Visits (ctx : Context) (version : Datastore) (status : Status) :
    List Target → List (Exchange Calls) → Option Status → Prop
  | nil : Visits ctx version status [] [] none
  | done {target : Target} {rest : List Target} {es : List (Exchange Calls)}
      {next : Option Status} (now : Instant)
      (terminal : (status.sub target.name version).state.isTerminal)
      (others : Visits ctx version status rest es next) :
      Visits ctx version status (target :: rest) (⟨.now, now⟩ :: es) next
  | work {target : Target} {rest : List Target} {now : Instant} {es : List (Exchange Calls)}
      {sub : SubStatus} (unfinished : (status.sub target.name version).state.isTerminal = false)
      (moves : Moves ctx target version now (status.sub target.name version) es sub) :
      Visits ctx version status (target :: rest) (⟨.now, now⟩ :: es)
        (some (status.withSub target.name version sub))

theorem visits_of_leads {status : Status} {targets : List Target} {es : List (Exchange Calls)}
    {next : Option Status}
    (h : (advanceFirst ctx version status targets).Leads es (.done next)) :
    Visits ctx version status targets es next := by
  induction targets generalizing es with
  | nil =>
    cases h
    exact .nil
  | cons target targets ih =>
    obtain ⟨first, advanced, others, rfl, hfirst, hothers⟩ := leads_bind_done_iff.1 h
    obtain ⟨now, es, rfl, hadvance⟩ := Job.leads_call_bind_done_iff.1 hfirst
    dsimp only at hadvance
    split at hadvance
    case isTrue terminal =>
      cases hadvance
      exact .done now terminal (ih hothers)
    case isFalse unfinished =>
      obtain ⟨es, sub, _, rfl, hsub, hend⟩ := leads_bind_done_iff.1 hadvance
      cases hend
      cases hothers
      rw [List.append_nil, List.append_nil]
      exact .work (Bool.eq_false_iff.2 unfinished) (moves_of_leads hsub)

theorem Visits.change {status : Status} {targets : List Target} {es : List (Exchange Calls)}
    {result : Option Status} (h : Visits ctx version status targets es result) {next : Status}
    (hnext : result = some next) :
    ∃ target ∈ targets, ∃ now moved sub,
      (status.sub target.name version).state.isTerminal = false ∧
      Moves ctx target version now (status.sub target.name version) moved sub ∧
      next = status.withSub target.name version sub := by
  induction h with
  | nil => cases hnext
  | done now terminal others ih =>
    obtain ⟨target, htarget, hchange⟩ := ih hnext
    exact ⟨target, List.mem_cons_of_mem _ htarget, hchange⟩
  | work unfinished moves =>
    cases hnext
    exact ⟨_, List.mem_cons_self, _, _, _, unfinished, moves, rfl⟩

/-- A course without work to do finds every target done. -/
theorem Visits.isTerminal {status : Status} {targets : List Target} {es : List (Exchange Calls)}
    {result : Option Status} (h : Visits ctx version status targets es result)
    (hresult : result = none) :
    ∀ t ∈ targets, (status.sub t.name version).state.isTerminal := by
  induction h with
  | nil => exact List.forall_mem_nil _
  | done now terminal others ih => exact List.forall_mem_cons.2 ⟨terminal, ih hresult⟩
  | work unfinished moves => cases hresult

/-! ### The selection -/

/-- The tenant clusters were looked up for a selection, or they were not needed. -/
theorem cases_of_leads_select {look : List (Exchange Calls)} {selected : Except Error Selection}
    (h : (select ctx record).Leads look (.done selected)) :
    (Selection.needsTenants record.spec = true ∧ ∃ answer, look = [⟨.discover, answer⟩] ∧
      selected = answer.bind (Selection.ofSpec record.spec ctx.management ctx.skipManagement)) ∨
    (Selection.needsTenants record.spec = false ∧ look = [] ∧
      selected = Selection.ofSpec record.spec ctx.management ctx.skipManagement []) := by
  unfold select at h
  dsimp only at h
  split at h
  case isTrue needed =>
    obtain ⟨answer, rest, rfl, hend⟩ := Job.leads_call_bind_done_iff.1 h
    cases answer <;> cases hend <;> exact Or.inl ⟨needed, _, rfl, rfl⟩
  case isFalse needless =>
    rw [Bool.not_eq_true] at needless
    cases h
    exact Or.inr ⟨needless, rfl, rfl⟩

/-- A selection is one of some tenant clusters. -/
theorem exists_ofSpec_of_leads {look : List (Exchange Calls)} {selection : Selection}
    (h : (select ctx record).Leads look (.done (.ok selection))) :
    ∃ tenants, Selection.ofSpec record.spec ctx.management ctx.skipManagement tenants =
      .ok selection := by
  rcases cases_of_leads_select h with ⟨-, answer, -, hselected⟩ | ⟨-, -, hselected⟩
  · cases answer with
    | error e => cases hselected
    | ok tenants => exact ⟨tenants, hselected.symm⟩
  · exact ⟨[], hselected.symm⟩

/-! ### The plan of a round -/

/-- The next piece of work of a round as the status that records it, if there is any work left. -/
def plan (ctx : Context) (record : Record) (status : Status) (version : Datastore) :
    Job (Except Error (Option Status)) := do
  match ← select ctx record with
  | .error e => pure (.error e)
  | .ok selection =>
    match recordUnresolved status selection.unresolved with
    | some next => pure (.ok (some next))
    | none => do
      let next ← advanceFirst ctx version status selection.targets
      pure (.ok next)

/-- Writes the status that a plan came to. -/
def writePlanned (record : Record) : Except Error (Option Status) → Job (Except Error Bool)
  | .error e => pure (.error e)
  | .ok none => pure (.ok false)
  | .ok (some next) => do
    match ← persistStatus record next with
    | .error e => pure (.error e)
    | .ok () => pure (.ok true)

/-- A round is its plan and the write of the planned status. -/
theorem run_eq (ctx : Context) (record : Record) (status : Status) (version : Datastore) :
    run ctx record status version = plan ctx record status version >>= writePlanned record := by
  unfold run plan
  rw [bind_assoc]
  refine congrArg (select ctx record >>= ·) (funext fun selected ↦ ?_)
  cases selected with
  | error e => rfl
  | ok selection =>
    dsimp only
    cases recordUnresolved status selection.unresolved with
    | some next => rfl
    | none =>
      dsimp only
      rw [bind_assoc]
      refine congrArg (advanceFirst ctx version status selection.targets >>= ·) ?_
      funext next
      cases next <;> rfl

/-- The rules for the next piece of work of a round, and the exchanges that lead to it: a reason
is noted, work is done on a target, or there is nothing left to do. -/
inductive Planned (ctx : Context) (record : Record) (status : Status) (version : Datastore) :
    List (Exchange Calls) → Option Status → Prop
  | note {look : List (Exchange Calls)} {selection : Selection}
      (selected : (select ctx record).Leads look (.done (.ok selection))) {next : Status}
      (unrecorded : recordUnresolved status selection.unresolved = some next) :
      Planned ctx record status version look (some next)
  | visit {look es : List (Exchange Calls)} {selection : Selection} {next : Option Status}
      (selected : (select ctx record).Leads look (.done (.ok selection)))
      (recorded : recordUnresolved status selection.unresolved = none)
      (visits : Visits ctx version status selection.targets es next) :
      Planned ctx record status version (look ++ es) next

theorem planned_of_leads {status : Status} {es : List (Exchange Calls)} {next : Option Status}
    (h : (plan ctx record status version).Leads es (.done (.ok next))) :
    Planned ctx record status version es next := by
  obtain ⟨look, selected, es, rfl, hselect, hplan⟩ := leads_bind_done_iff.1 h
  cases selected with
  | error e => cases hplan
  | ok selection =>
    dsimp only at hplan
    split at hplan
    case h_1 next unrecorded =>
      cases hplan
      rw [List.append_nil]
      exact .note hselect unrecorded
    case h_2 recorded =>
      obtain ⟨es, next', _, rfl, hvisits, hend⟩ := leads_bind_done_iff.1 hplan
      cases hend
      rw [List.append_nil]
      exact .visit hselect recorded (visits_of_leads hvisits)

/-- A plan only fails if the selection of the targets fails. -/
theorem select_of_plan_error {status : Status} {es : List (Exchange Calls)} {e : Error}
    (h : (plan ctx record status version).Leads es (.done (.error e))) :
    (select ctx record).Leads es (.done (.error e)) := by
  obtain ⟨look, selected, rest, rfl, hselect, hplan⟩ := leads_bind_done_iff.1 h
  cases selected with
  | error e =>
    cases hplan
    rw [List.append_nil]
    exact hselect
  | ok selection =>
    dsimp only at hplan
    split at hplan
    · cases hplan
    · obtain ⟨_, next, _, -, -, hend⟩ := leads_bind_done_iff.1 hplan
      cases hend

/-- A plan follows what is selected: it notes the reason for an unresolved name, or moves on the
sub-status of a target. -/
theorem Planned.selected_change {status next : Status} {es : List (Exchange Calls)}
    (h : Planned ctx record status version es (some next)) :
    ∃ look rest selection, es = look ++ rest ∧
      (select ctx record).Leads look (.done (.ok selection)) ∧
      ((∃ u ∈ selection.unresolved, next = status.withReason u.name u.reason) ∨
        ∃ t ∈ selection.targets, ∃ sub, next = status.withSub t.name version sub) := by
  cases h with
  | @note look selection selected next unrecorded =>
    obtain ⟨u, hu, -, hnext⟩ := exists_of_recordUnresolved unrecorded
    exact ⟨es, [], selection, (List.append_nil _).symm, selected, Or.inl ⟨u, hu, hnext⟩⟩
  | @visit look rest selection next selected recorded visits =>
    obtain ⟨t, ht, -, -, sub, -, -, hnext⟩ := visits.change rfl
    exact ⟨look, rest, selection, rfl, selected, Or.inr ⟨t, ht, sub, hnext⟩⟩

/-- What a plan changes: a reason is noted, or one sub-status that is not done moves on. -/
theorem Planned.change {status next : Status} {es : List (Exchange Calls)}
    (h : Planned ctx record status version es (some next)) :
    (∃ name reason, next = status.withReason name reason) ∨
      ∃ target now moved sub, (status.sub target.name version).state.isTerminal = false ∧
        Moves ctx target version now (status.sub target.name version) moved sub ∧
        next = status.withSub target.name version sub := by
  cases h with
  | note selected unrecorded =>
    obtain ⟨u, -, -, rfl⟩ := exists_of_recordUnresolved unrecorded
    exact Or.inl ⟨_, _, rfl⟩
  | visit selected recorded visits =>
    obtain ⟨target, -, hchange⟩ := visits.change rfl
    exact Or.inr ⟨target, hchange⟩

/-! ### The requests of a plan -/

theorem only_select : Only (fun c : Call ↦ c = .discover) (select ctx record) := by
  unfold select
  dsimp only
  split
  · refine Job.only_call_bind rfl fun tenants ↦ ?_
    cases tenants <;> trivial
  · trivial

theorem only_advanceFirst (status : Status) (targets : List Target) :
    Only (¬Call.IsOnRecord ·) (advanceFirst ctx version status targets) := by
  have hbackup (target : Target) (policy : RetryPolicy) :
      Only (¬Call.IsOnRecord ·) (Backup.withRetries target version policy) :=
    (Backup.only_withRetries target version policy).mono fun c hc ↦ by
      cases c <;> first | exact hc.elim | exact fun h ↦ h
  have hsub (target : Target) (now : Instant) (sub : SubStatus) :
      Only (¬Call.IsOnRecord ·) (advanceSub ctx target version now sub) := by
    unfold advanceSub
    split
    · trivial
    · split
      · trivial
      · dsimp only
        split
        · trivial
        · exact (hbackup target _).bind fun _ ↦ Job.only_call_bind id fun _ ↦
            Job.only_call_bind id fun _ ↦ trivial
  induction targets with
  | nil => trivial
  | cons target targets ih =>
    refine Only.bind (Job.only_call_bind id fun now ↦ ?_) fun advanced ↦ ?_
    · dsimp only
      split
      · trivial
      · exact (hsub target now _).bind fun _ ↦ trivial
    · cases advanced with
      | none => exact ih
      | some next => trivial

/-- A plan neither reads nor writes a stored request. -/
theorem only_plan (status : Status) :
    Only (¬Call.IsOnRecord ·) (plan ctx record status version) := by
  refine Only.bind (only_select.mono fun c hc ↦ by rw [hc]; exact id) fun selected ↦ ?_
  cases selected with
  | error e => trivial
  | ok selection =>
    dsimp only
    split
    · trivial
    · exact (only_advanceFirst status _).bind fun _ ↦ trivial

/-- The sub-status was started and is not done. -/
def IsUnderWay (sub : SubStatus) : Prop := sub.state.isTerminal = false ∧ sub.started.isSome

theorem Visits.opensFor {status : Status} {targets : List Target} {es : List (Exchange Calls)}
    {next : Option Status} (h : Visits ctx version status targets es next) :
    OpensFor es fun t v ↦ v = version ∧ IsUnderWay (status.sub t.name v) := by
  induction h with
  | nil => exact .nil _
  | done now terminal others ih => exact ih.cons nofun
  | @work target rest now es sub unfinished moves =>
    refine OpensFor.cons ?_ nofun
    refine ⟨target, fun e he t v hopen ↦ ?_⟩
    obtain ⟨rfl, rfl, started⟩ := moves.opened he hopen
    exact ⟨rfl, rfl, unfinished, started⟩

/-- A plan opens makers of backups for one target at most, whose sub-status is under way. -/
theorem opensFor_of_leads {status : Status} {es : List (Exchange Calls)}
    {result : Except Error (Option Status)}
    (h : (plan ctx record status version).Leads es (.done result)) :
    OpensFor es fun t v ↦ v = version ∧ IsUnderWay (status.sub t.name v) := by
  obtain ⟨look, selected, es, rfl, hselect, hplan⟩ := leads_bind_done_iff.1 h
  have hlook (e : Exchange Calls) (he : e ∈ look) (t : Target) (v : Datastore) :
      e.request ≠ .openBackupper t v := by
    rw [only_select.request hselect e he]
    exact nofun
  refine OpensFor.append_left hlook ?_
  cases selected with
  | error e =>
    cases hplan
    exact .nil _
  | ok selection =>
    dsimp only at hplan
    split at hplan
    · cases hplan
      exact .nil _
    · obtain ⟨es, next, _, rfl, hvisits, hend⟩ := leads_bind_done_iff.1 hplan
      cases hend
      rw [List.append_nil]
      exact (visits_of_leads hvisits).opensFor

end Runner

end EtcdBackup
