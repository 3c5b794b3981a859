import EtcdBackup.Proofs.Interleaving.RoundEnd
import EtcdBackup.Proofs.Selection

/-!
# Reasons beside sub-statuses

The entry of a name holds a reason if the name could not be resolved, and a sub-status for each
datastore that was worked on. Both may be there, since every pass selects anew: a name that is no
target now can be one in the next pass, and what is noted stays (`exists_run_resolved_late`).

What an entry holds goes back to the selections of the passes that wrote it
(`Status.IsAccountedFor`): a reason to one that had the name as unresolved for this reason, a
sub-status to one that had a target of the name. So an entry with both is one of two passes that
selected differently (`reason_and_work_apart`).
-/

set_option autoImplicit false
set_option relaxedAutoImplicit false

namespace EtcdBackup

open Dialogue

/-! ### Where the content of an entry comes from -/

/-- Every reason is one for an unresolved name of a selection of the kind, and every sub-status is
of a target of such a selection. -/
structure Status.IsAccountedFor (made : Selection → Prop) (s : Status) : Prop where
  reason : ∀ name reason, s.reason? name = some reason →
    ∃ selection, made selection ∧ ⟨name, reason⟩ ∈ selection.unresolved
  work : ∀ name version sub, s.sub? name version = some sub →
    ∃ selection, made selection ∧ ∃ t ∈ selection.targets, t.name = name

namespace Status.IsAccountedFor

variable {made made' : Selection → Prop} {s s' : Status} {selection : Selection}

theorem of_instances_eq_empty (h : s.instances = ∅) : s.IsAccountedFor made where
  reason name reason hreason := by
    rw [reason?_of_instances_eq_empty name h] at hreason
    cases hreason
  work name version sub hsub := by
    rw [sub?_of_instances_eq_empty name version h] at hsub
    cases hsub

theorem of_instances_eq (h : s.IsAccountedFor made) (hsame : s'.instances = s.instances) :
    s'.IsAccountedFor made where
  reason name reason hreason := h.reason name reason (by rwa [reason?, hsame] at hreason)
  work name version sub hsub := h.work name version sub (by rwa [sub?, hsame] at hsub)

theorem mono (h : s.IsAccountedFor made) (hmade : ∀ selection, made selection → made' selection) :
    s.IsAccountedFor made' where
  reason name reason hreason := (h.reason name reason hreason).imp fun _ ↦ .imp_left (hmade _)
  work name version sub hsub := (h.work name version sub hsub).imp fun _ ↦ .imp_left (hmade _)

theorem withReason (h : s.IsAccountedFor made) (hmade : made selection) {u : Unresolved}
    (hu : u ∈ selection.unresolved) : (s.withReason u.name u.reason).IsAccountedFor made where
  reason name reason hreason := by
    rw [reason?_withReason] at hreason
    split at hreason
    case isTrue hname =>
      cases hreason
      exact ⟨selection, hmade, hname ▸ hu⟩
    case isFalse => exact h.reason name reason hreason
  work name version sub hsub := h.work name version sub (by rwa [sub?_withReason] at hsub)

theorem withSub (h : s.IsAccountedFor made) (hmade : made selection) {t : Target}
    (ht : t ∈ selection.targets) (version : Datastore) (sub : SubStatus) :
    (s.withSub t.name version sub).IsAccountedFor made where
  reason name reason hreason := h.reason name reason (by rwa [reason?_withSub] at hreason)
  work name other sub' hsub := by
    rw [sub?_withSub] at hsub
    split at hsub
    case isTrue hsame => exact ⟨selection, hmade, t, ht, hsame.1⟩
    case isFalse => exact h.work name other sub' hsub

end Status.IsAccountedFor

namespace Pass

variable {ctx : Context} {record : Record} {now : Instant} {es : List (Exchange Calls)}
  {made : Selection → Prop}

/-- Some of the first exchanges are those of the selection. -/
def Chooses (ctx : Context) (record : Record) (es : List (Exchange Calls)) (selection : Selection) :
    Prop :=
  ∃ look rest, es = look ++ rest ∧ (Runner.select ctx record).Leads look (.done (.ok selection))

/-- What a pass writes is accounted for by what was there and by its own selection. -/
theorem Decided.isAccountedFor {decision : Decision} (h : Decided ctx record now es decision)
    {next : Status} (hnext : decision.status? = some next)
    (before : (record.status.getD {}).IsAccountedFor made)
    (own : ∀ selection, Chooses ctx record es selection → made selection) :
    next.IsAccountedFor made := by
  cases h with
  | start =>
    cases hnext
    exact .of_instances_eq_empty rfl
  | work phase planned =>
    cases hnext
    obtain ⟨look, rest, selection, hes, selected, hchange⟩ := planned.selected_change
    have hmade := own selection ⟨look, rest, hes, selected⟩
    rcases hchange with ⟨u, hu, rfl⟩ | ⟨t, ht, sub, rfl⟩
    · exact before.withReason hmade hu
    · exact before.withSub hmade ht _ sub
  | reject | enter | close | proceed | judge =>
    cases hnext
    exact before.of_instances_eq rfl
  | retireFinished | retireSkipped =>
    rw [Decision.status?_retire] at hnext
    cases hnext

end Pass

/-! ### The selections of a run -/

namespace Interleaving

variable {store : Store} {events past later : List Event} {u v w w' : World} {e : Event} {id : Nat}
  {before after given : Record} {answer : Except Error Unit} {name target reason : String}
  {version : Datastore}

/-- A pass over the request of the name made the selection and wrote a status; the request was not
created anew since then. -/
def IsMade (name : String) (past : List Event) (ctx : Context) (selection : Selection) : Prop :=
  ∃ early id given answer before after since current now es,
    past = early ++ .committed id given answer before after :: since ∧
    (∀ e ∈ since, ¬e.Creates name) ∧ .started id ctx name ∈ early ∧
    Event.exchanges id early = ⟨.get name, .ok current⟩ :: ⟨.now, now⟩ :: es ++
      [⟨.get current.name, .ok before⟩] ∧
    Pass.Chooses ctx current es selection ∧ after.name = name

theorem IsMade.append_singleton {ctx : Context} {selection : Selection}
    (h : IsMade name past ctx selection) (kept : ¬e.Creates name) :
    IsMade name (past ++ [e]) ctx selection := by
  obtain ⟨early, id, given, answer, before, after, since, current, now, es, rfl, hsince, hmade⟩ := h
  refine ⟨early, id, given, answer, before, after, since ++ [e], current, now, es, by simp, ?_,
    hmade⟩
  exact List.forall_mem_append.2 ⟨hsince, List.forall_mem_singleton.2 kept⟩

/-- While the management cluster has its reserved name, no name is a target and unresolved at
once. -/
theorem IsMade.name_ne {ctx : Context} {selection : Selection}
    (h : IsMade name past ctx selection) (reserved : ctx.management.name = managementName)
    {t : Target} (ht : t ∈ selection.targets) {u : Unresolved} (hu : u ∈ selection.unresolved) :
    t.name ≠ u.name := by
  obtain ⟨_, _, _, _, _, _, _, _, _, _, -, -, -, -, ⟨_, _, -, selected⟩, -⟩ := h
  obtain ⟨tenants, hselected⟩ := Runner.exists_ofSpec_of_leads selected
  exact Selection.name_ne_of_ofSpec hselected reserved ht hu

/-- What is stored under a name is accounted for by the selections of the passes so far. -/
structure Explained (name : String) (past : List Event) (w : World) : Prop where
  heard : w.IsHeard
  traced : w.IsTraced past
  entries : ∀ r, w.store.get? name = some r →
    (r.status.getD {}).IsAccountedFor fun selection ↦ ∃ ctx, IsMade name past ctx selection

theorem Step.explained_of_committed
    (h : Step w (.committed id given answer before after) w') (hw : Explained name past w)
    (hname : after.name = name) : (after.status.getD {}).IsAccountedFor fun selection ↦
      ∃ ctx, IsMade name (past ++ [.committed id given answer before after]) ctx selection := by
  cases h.commitOf hw.heard with
  | @intro th current now es decision status _ thread hpast hread decided hstatus same stored
      overwritten =>
    subst overwritten
    have hthread : th.name = name := (Store.name_eq_of_get? stored).symm.trans hname
    have hstarted := hw.traced.started id th thread
    have hexchanges := hw.traced.traced id th thread
    rw [hthread] at hstarted hpast stored
    -- What was there is from earlier passes, and what is new from the selection of this one.
    refine (Pass.decided_of_leads decided).isAccountedFor hstatus ?_ fun selection chooses ↦ ?_
    · rw [← same]
      exact (hw.entries before stored).mono fun selection ⟨ctx, hmade⟩ ↦
        ⟨ctx, hmade.append_singleton nofun⟩
    · exact ⟨th.ctx, past, id, given, answer, before, _, [], current, now, es, rfl,
        List.forall_mem_nil _, hstarted, hexchanges.symm.trans hpast, chooses, hname⟩

theorem Step.explained (h : Step w e w') (leaves : e.LeavesStatus name)
    (hw : Explained name past w) : Explained name (past ++ [e]) w' := by
  refine ⟨h.isHeard hw.heard, h.isTraced hw.traced, fun r hr ↦ ?_⟩
  have hkept {r' : Record} (hr' : w.store.get? name = some r') :
      (r'.status.getD {}).IsAccountedFor fun selection ↦
        ∃ ctx, IsMade name (past ++ [e]) ctx selection :=
    (hw.entries r' hr').mono fun selection ⟨ctx, hmade⟩ ↦
      ⟨ctx, hmade.append_singleton (h.not_creates hr')⟩
  rcases h.get?_cases hr with hsame | ⟨id, given, answer, before, rfl, hbefore⟩ |
    ⟨rfl, hname⟩ | ⟨before, rfl, hbefore⟩
  · exact hkept hsame
  · exact h.explained_of_committed hw (Store.name_eq_of_get? hr)
  · rw [leaves hname]
    exact .of_instances_eq_empty rfl
  · rw [leaves (Store.name_eq_of_get? hbefore)]
    exact hkept hbefore

theorem explained_start (unwritten : ∀ r ∈ store.log, r.name = name → r.status = none) :
    Explained name [] (.start store) := by
  refine ⟨World.isHeard_start store, World.isTraced_start store, fun r hr ↦ ?_⟩
  rw [unwritten r (Store.mem_log_of_get? hr) (Store.name_eq_of_get? hr)]
  exact .of_instances_eq_empty rfl

/-- An entry with a reason and a sub-status is one of two passes: in the one the name was unresolved
for this reason, in the other it was that of a target. While the management cluster has its reserved
name, each of the two only selected the one way. -/
theorem reason_and_work_apart (run : Run (.start store) events w)
    (unwritten : ∀ r ∈ store.log, r.name = name → r.status = none)
    (leaves : ∀ e ∈ events, e.LeavesStatus name) {sub : SubStatus}
    (hevents : events = past ++ .committed id given answer before after :: later)
    (hname : after.name = name) (hreason : after.reason? target = some reason)
    (hsub : after.sub? target version = some sub) :
    (∃ ctx selection,
      IsMade name (past ++ [.committed id given answer before after]) ctx selection ∧
      ⟨target, reason⟩ ∈ selection.unresolved ∧
      (ctx.management.name = managementName → ∀ t ∈ selection.targets, t.name ≠ target)) ∧
    ∃ ctx selection,
      IsMade name (past ++ [.committed id given answer before after]) ctx selection ∧
      (∃ t ∈ selection.targets, t.name = target) ∧
      (ctx.management.name = managementName → ∀ u ∈ selection.unresolved, u.name ≠ target) := by
  subst hevents
  obtain ⟨u, v, first, step, -⟩ := run.exists_step
  have hu : Explained name ([] ++ past) u :=
    first.preserves (fun step hleaves hw ↦ step.explained hleaves hw)
      (fun e he ↦ leaves e (List.mem_append_left _ he)) (explained_start unwritten)
  obtain ⟨status, hstatus⟩ := step.exists_status hu.heard
  have explained := step.explained_of_committed hu hname
  rw [Record.reason?, hstatus] at hreason
  rw [Record.sub?, hstatus] at hsub
  rw [hstatus] at explained
  obtain ⟨selection, ⟨ctx, made⟩, unresolved⟩ := explained.reason target reason hreason
  obtain ⟨selection', ⟨ctx', made'⟩, t, ht, rfl⟩ := explained.work target version sub hsub
  exact ⟨⟨ctx, selection, made, unresolved, fun reserved _ ht ↦
      made.name_ne reserved ht unresolved⟩,
    ctx', selection', made', ⟨t, ht, rfl⟩, fun reserved _ hu ↦
      (made'.name_ne reserved ht hu).symm⟩

/-! ### A name that is resolved late -/

/-- The status of the request once its cluster was not found. -/
def missingStatus : Status :=
  ({ phase := .v2Running, started := some default } : Status).withReason "prod-a"
    Selection.notFoundReason

/-- The tenant cluster is not found, and then it is. The reason stays beside the backup that is
started. -/
theorem exists_run_resolved_late :
    ∃ past given before after w sub, Run (.start (.single tenantRequest))
        (past ++ [.committed 3 given (.ok ()) before after]) w ∧
      (∀ e ∈ past ++ [.committed 3 given (.ok ()) before after], e.LeavesStatus "b") ∧
      after.name = "b" ∧ after.reason? "prod-a" = some Selection.notFoundReason ∧
      after.sub? "prod-a" .v2 = some sub := by
  let ctx := Pass.plainContext true
  let sub : SubStatus := { state := .running, started := some default }
  let r₃ := written startedRequest missingStatus (some "3")
  let missing : Except Error (List Target) := .ok []
  let found : Except Error (List Target) := .ok [{ name := "prod-a" }]
  obtain ⟨_, w₂, h₂⟩ := exists_alone_started
  have decided₂ : (Pass.decide ctx startedRequest default).Leads [⟨.discover, missing⟩]
      (.done (.ok (.progress missingStatus))) := .ask (.rest _)
  have gives₂ : ∀ e ∈ ([⟨.discover, missing⟩] : List (Exchange Calls)),
      w₂.store.Gives e.request e.answer := List.forall_mem_singleton.2 trivial
  have new₂ : some "3" ∉ [some "2", some "1", some "0"] := by decide
  obtain ⟨_, w₃, h₃⟩ := h₂.pass gives₂ decided₂ rfl new₂
  have decided₃ : (Pass.decide ctx r₃ default).Leads [⟨.discover, found⟩, ⟨.now, default⟩]
      (.done (.ok (.progress (missingStatus.withSub "prod-a" .v2 sub)))) := .ask (.ask (.rest _))
  have gives₃ : ∀ e ∈ ([⟨.discover, found⟩, ⟨.now, default⟩] : List (Exchange Calls)),
      w₃.store.Gives e.request e.answer :=
    List.forall_mem_cons.2 ⟨trivial, List.forall_mem_singleton.2 trivial⟩
  have new₃ : some "4" ∉ [some "3", some "2", some "1", some "0"] := by decide
  obtain ⟨past, w, run, leaves⟩ := h₃.commit gives₃ decided₃ rfl new₃
  exact ⟨past, _, _, _, w, sub, run, leaves, rfl, rfl, rfl⟩

/-- So an entry with a reason may have a sub-status. -/
theorem not_unstarted_of_reason :
    ¬∀ {store events past later w name id given answer before after},
      Run (.start store) events w →
      (∀ r ∈ store.log, r.name = name → r.status = none) →
      (∀ e ∈ events, e.LeavesStatus name) →
      events = past ++ .committed id given answer before after :: later →
      after.name = name →
      ∀ target reason, after.reason? target = some reason →
        after.sub? target .v2 = none ∧ after.sub? target .v3 = none := by
  intro h
  obtain ⟨past, given, before, after, w, sub, run, leaves, hname, hreason, hsub⟩ :=
    exists_run_resolved_late
  have hnone := (h run (unwritten_tenantRequest _) leaves rfl hname "prod-a" _ hreason).1
  rw [hsub] at hnone
  cases hnone

/-- In that run the two passes selected differently. -/
theorem reason_and_work_apart_once :
    ∃ past given before after w sub, Run (.start (.single tenantRequest))
        (past ++ [.committed 3 given (.ok ()) before after]) w ∧
      after.reason? "prod-a" = some Selection.notFoundReason ∧
      after.sub? "prod-a" .v2 = some sub ∧
      (∃ ctx selection,
        IsMade "b" (past ++ [.committed 3 given (.ok ()) before after]) ctx selection ∧
        ⟨"prod-a", Selection.notFoundReason⟩ ∈ selection.unresolved) ∧
      ∃ ctx selection,
        IsMade "b" (past ++ [.committed 3 given (.ok ()) before after]) ctx selection ∧
        ∃ t ∈ selection.targets, t.name = "prod-a" := by
  obtain ⟨past, given, before, after, w, sub, run, leaves, hname, hreason, hsub⟩ :=
    exists_run_resolved_late
  obtain ⟨⟨ctx, selection, made, unresolved, -⟩, ctx', selection', made', target, -⟩ :=
    reason_and_work_apart run (unwritten_tenantRequest _) leaves rfl hname hreason hsub
  exact ⟨past, given, before, after, w, sub, run, hreason, hsub,
    ⟨ctx, selection, made, unresolved⟩, ctx', selection', made', target⟩

end Interleaving

end EtcdBackup
