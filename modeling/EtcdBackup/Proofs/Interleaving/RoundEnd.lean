import EtcdBackup.Proofs.Controller.Round
import EtcdBackup.Proofs.Interleaving.Checkpoint

/-!
# The end of a round

A round over the datastores of one version ends when a pass finds no work left among the targets
that it selects. What it selects depends on the request and the tenant clusters at that time, so a
target of an earlier pass can be missing: its sub-status is then left as it is, also while it is
running (`exists_run_unfinished`). Apart from the targets that were left out in this way every
sub-status of the version is done behind the round (`unfinished_left_out`).
-/

set_option autoImplicit false
set_option relaxedAutoImplicit false

namespace EtcdBackup

open Dialogue

namespace Phase

/-- The round over the datastores of the version is over, and the cycle went on. -/
def isBehind : Datastore → Phase → Bool
  | .v2, .v2Completed | .v2, .v3Running | .v2, .v3Completed | .v2, .completed => true
  | .v3, .v3Completed | .v3, .completed => true
  | _, _ => false

@[simp] theorem isBehind_running_self (version : Datastore) :
    isBehind version (running version) = false := by
  cases version <;> rfl

/-- The rounds come one after the other. -/
theorem isBehind_running {version other : Datastore} (hne : version ≠ other)
    (h : isBehind version (closed other)) : isBehind version (running other) := by
  cases version <;> cases other <;> first | rfl | exact (hne rfl).elim | cases h

end Phase

namespace Pass

variable {ctx : Context} {record : Record} {now : Instant} {es : List (Exchange Calls)}

/-- The pass closes a round: the targets that it selects are done. -/
inductive Closes (ctx : Context) (record : Record) (version : Datastore) (selection : Selection) :
    List (Exchange Calls) → Status → Prop
  | intro {look rest : List (Exchange Calls)} (phase : record.phase = .running version)
      (selected : (Runner.select ctx record).Leads look (.done (.ok selection)))
      (finished : ∀ t ∈ selection.targets, ∃ sub,
        (record.status.getD {}).sub? t.name version = some sub ∧ sub.state.isTerminal) :
      Closes ctx record version selection (look ++ rest)
        { record.status.getD {} with phase := .closed version }

/-- Behind a round the sub-statuses of its version are those at its end. -/
theorem Decided.of_isBehind {decision : Decision} (h : Decided ctx record now es decision)
    {next : Status} (hnext : decision.status? = some next) {version : Datastore}
    (behind : next.phase.isBehind version) :
    (∃ selection, Closes ctx record version selection es next) ∨
      (record.phase.isBehind version ∧
        ∀ target, next.sub? target version = (record.status.getD {}).sub? target version) := by
  cases h with
  | reject | start =>
    cases hnext
    cases version <;> cases behind
  | enter phase all =>
    cases hnext
    simp only [admission] at behind
    split at behind <;> cases version <;> cases behind
  | @work other phase es next planned =>
    cases hnext
    have hchange := planned.change
    have hphase : next.phase = record.phase := by
      rcases hchange with ⟨name, reason, rfl⟩ | ⟨target, at', moved, sub, -, -, rfl⟩ <;> rfl
    rw [hphase] at behind
    refine Or.inr ⟨behind, fun target ↦ ?_⟩
    have hother : other ≠ version := by
      rintro rfl
      rw [phase, Phase.isBehind_running_self] at behind
      cases behind
    rcases hchange with ⟨name, reason, rfl⟩ | ⟨worked, at', moved, sub, -, -, rfl⟩
    · exact Status.sub?_withReason _ _ _ _ _
    · exact (Status.sub?_withSub _ _ _ _ _ _).trans (if_neg fun h ↦ hother h.2)
  | @close other phase es planned =>
    cases hnext
    by_cases hsame : version = other
    · subst hsame
      cases planned with
      | visit selected recorded visits =>
        have finished := visits.isTerminal rfl
        exact Or.inl ⟨_, .intro phase selected fun t ht ↦
          Status.isDone_iff.2 (finished t ht)⟩
    · refine Or.inr ⟨?_, fun target ↦ rfl⟩
      rw [phase]
      exact Phase.isBehind_running hsame behind
  | proceed phase =>
    cases hnext
    refine Or.inr ⟨?_, fun target ↦ rfl⟩
    rw [phase]
    cases version <;> first | rfl | cases behind
  | judge phase =>
    cases hnext
    refine Or.inr ⟨?_, fun target ↦ rfl⟩
    rw [phase]
    cases version <;> rfl
  | retireFinished | retireSkipped =>
    rw [Decision.status?_retire] at hnext
    cases hnext

end Pass

/-! ### Closed rounds -/

namespace Interleaving

variable {store : Store} {events past later : List Event} {u v w w' : World} {e : Event} {id : Nat}
  {before after given : Record} {answer : Except Error Unit} {name target : String}
  {version : Datastore}

/-- A pass over the request of the name closed the round of the version, having found all targets of
the selection done; the request was not created anew since then. -/
def IsClosed (name : String) (version : Datastore) (selection : Selection) (past : List Event) :
    Prop :=
  ∃ early id given answer before after since ctx current now es status,
    past = early ++ .committed id given answer before after :: since ∧
    (∀ e ∈ since, ¬e.Creates name) ∧ .started id ctx name ∈ early ∧
    Event.exchanges id early = ⟨.get name, .ok current⟩ :: ⟨.now, now⟩ :: es ++
      [⟨.get current.name, .ok before⟩] ∧
    Pass.Closes ctx current version selection es status ∧ after.name = name ∧
    after.status = some status

/-- The round of the version was closed by a pass that did not select the target. -/
def IsLeftOut (name : String) (version : Datastore) (target : String) (past : List Event) : Prop :=
  ∃ selection, IsClosed name version selection past ∧ ∀ t ∈ selection.targets, t.name ≠ target

theorem IsLeftOut.append_singleton (h : IsLeftOut name version target past)
    (kept : ¬e.Creates name) : IsLeftOut name version target (past ++ [e]) := by
  obtain ⟨selection, ⟨early, id, given, answer, before, after, since, ctx, current, now, es, status,
    rfl, hsince, hclosed⟩, hselection⟩ := h
  refine ⟨selection, ⟨early, id, given, answer, before, after, since ++ [e], ctx, current, now, es,
    status, by simp, ?_, hclosed⟩, hselection⟩
  exact List.forall_mem_append.2 ⟨hsince, List.forall_mem_singleton.2 kept⟩

/-- Behind a round its sub-statuses are done, but for those of targets that were left out. -/
structure Finished (name : String) (past : List Event) (w : World) : Prop where
  heard : w.IsHeard
  traced : w.IsTraced past
  done : ∀ r, w.store.get? name = some r → ∀ version, r.phase.isBehind version →
    ∀ target sub, r.sub? target version = some sub →
      sub.state.isTerminal ∨ IsLeftOut name version target past

theorem Step.finished_of_committed
    (h : Step w (.committed id given answer before after) w') (hw : Finished name past w)
    (hname : after.name = name) (behind : after.phase.isBehind version) {sub : SubStatus}
    (hsub : after.sub? target version = some sub) :
    sub.state.isTerminal ∨
      IsLeftOut name version target (past ++ [.committed id given answer before after]) := by
  cases h.commitOf hw.heard with
  | @intro th current now es decision status _ thread hpast hread decided hstatus same stored
      overwritten =>
    subst overwritten
    have hthread : th.name = name := (Store.name_eq_of_get? stored).symm.trans hname
    rcases (Pass.decided_of_leads decided).of_isBehind hstatus behind with
      ⟨selection, closes⟩ | ⟨behind, hsame⟩
    · by_cases hselected : ∃ t ∈ selection.targets, t.name = target
      · obtain ⟨t, ht, rfl⟩ := hselected
        cases closes with
        | intro phase selected finished =>
          obtain ⟨sub', hsub', hdone⟩ := finished t ht
          have hrecorded : some sub' = some sub := hsub'.symm.trans hsub
          cases hrecorded
          exact Or.inl hdone
      · have hstarted := hw.traced.started id th thread
        have hexchanges := hw.traced.traced id th thread
        rw [hthread] at hstarted hpast
        exact Or.inr ⟨selection, ⟨past, id, given, answer, before, _, [], th.ctx, current, now, es,
          status, rfl, List.forall_mem_nil _, hstarted, hexchanges.symm.trans hpast, closes, hname,
          rfl⟩, fun t ht htarget ↦ hselected ⟨t, ht, htarget⟩⟩
    · have hphase : before.phase = current.phase := Record.phase_congr same
      have hbefore : before.sub? target version = some sub := by
        rw [← Record.sub?_getD, same, ← hsame]
        exact hsub
      rw [hthread] at stored
      exact (hw.done before stored version (hphase ▸ behind) target sub hbefore).imp_right
        (·.append_singleton nofun)

/-- What is stored under a name is not created. -/
theorem Step.not_creates (h : Step w e w') {r : Record} (hr : w.store.get? name = some r) :
    ¬e.Creates name := by
  cases h with
  | created absent fresh =>
    rintro rfl
    rw [hr] at absent
    cases absent
  | started | asked | committed | deleted | edited | removed => exact id

theorem Step.finished (h : Step w e w') (leaves : e.LeavesStatus name)
    (hw : Finished name past w) : Finished name (past ++ [e]) w' := by
  refine ⟨h.isHeard hw.heard, h.isTraced hw.traced, fun r hr version behind target sub hsub ↦ ?_⟩
  rcases h.get?_cases hr with hsame | ⟨id, given, answer, before, rfl, hbefore⟩ |
    ⟨rfl, hname⟩ | ⟨before, rfl, hbefore⟩
  · exact (hw.done r hsame version behind target sub hsub).imp_right
      (·.append_singleton (h.not_creates hsame))
  · exact h.finished_of_committed hw (Store.name_eq_of_get? hr) behind hsub
  · rw [Record.sub?, leaves hname] at hsub
    cases hsub
  · have hstatus := leaves (Store.name_eq_of_get? hbefore)
    rw [Record.phase_congr hstatus] at behind
    rw [Record.sub?, hstatus] at hsub
    exact (hw.done before hbefore version behind target sub hsub).imp_right
      (·.append_singleton (h.not_creates hbefore))

theorem finished_start (unwritten : ∀ r ∈ store.log, r.name = name → r.status = none) :
    Finished name [] (.start store) := by
  refine ⟨World.isHeard_start store, World.isTraced_start store, fun r hr _ _ target sub hsub ↦ ?_⟩
  rw [Record.sub?, unwritten r (Store.mem_log_of_get? hr) (Store.name_eq_of_get? hr)] at hsub
  cases hsub

/-- Behind a round every sub-status of its version is done, unless its target was left out by the
pass that closed the round. -/
theorem unfinished_left_out (run : Run (.start store) events w)
    (unwritten : ∀ r ∈ store.log, r.name = name → r.status = none)
    (leaves : ∀ e ∈ events, e.LeavesStatus name) {sub : SubStatus}
    (hevents : events = past ++ .committed id given answer before after :: later)
    (hname : after.name = name) (behind : after.phase.isBehind version)
    (hsub : after.sub? target version = some sub) :
    sub.state.isTerminal ∨
      IsLeftOut name version target (past ++ [.committed id given answer before after]) := by
  subst hevents
  obtain ⟨u, v, first, step, -⟩ := run.exists_step
  have hu : Finished name ([] ++ past) u :=
    first.preserves (fun step hleaves hw ↦ step.finished hleaves hw)
      (fun e he ↦ leaves e (List.mem_append_left _ he)) (finished_start unwritten)
  exact step.finished_of_committed hu hname behind hsub

/-! ### A target that is left out -/

/-- A request for one tenant cluster. -/
def tenantRequest : Record where
  metadata := { name := some "b", resourceVersion := some "0" }
  spec := { clusterNames := ["prod-a"] }

theorem unwritten_tenantRequest (name : String) :
    ∀ r ∈ (Store.single tenantRequest).log, r.name = name → r.status = none :=
  fun r hr _ ↦ Store.unwritten_single rfl r hr

/-- The request once its round is open. -/
def startedRequest : Record :=
  written (written tenantRequest { phase := .pending } (some "1"))
    { phase := .v2Running, started := some default } (some "2")

/-- Two passes admit the request and open its round. -/
theorem exists_alone_started : ∃ events w,
    Alone tenantRequest 2 events w startedRequest [some "2", some "1", some "0"] := by
  let ctx := Pass.plainContext true
  let started : Status := { phase := .v2Running, started := some default }
  have decided₀ : (Pass.decide ctx tenantRequest default).Leads [⟨.list, .ok [tenantRequest]⟩]
      (.done (.ok (.advance { phase := .pending }))) := .ask (.rest _)
  have gives₀ : ∀ e ∈ ([⟨.list, .ok [tenantRequest]⟩] : List (Exchange Calls)),
      (Store.single tenantRequest).Gives e.request e.answer :=
    List.forall_mem_singleton.2 (List.Perm.refl _)
  have new₀ : some "1" ∉ [some "0"] := by decide
  obtain ⟨_, w₁, h₁⟩ := (Alone.start tenantRequest).pass gives₀ decided₀ rfl new₀
  have decided₁ : (Pass.decide ctx (written tenantRequest { phase := .pending } (some "1"))
      default).Leads [] (.done (.ok (.advance started))) := .rest _
  have new₁ : some "2" ∉ [some "1", some "0"] := by decide
  exact h₁.pass (List.forall_mem_nil _) decided₁ rfl new₁

/-- The status of the request once the backup is marked as running. -/
def workingStatus : Status :=
  ({ phase := .v2Running, started := some default } : Status).withSub "prod-a" .v2
    { state := .running, started := some default }

/-- The status of the request once the release of its cluster was found to be too old. -/
def leftOutStatus : Status := workingStatus.withReason "prod-a" Selection.unsupportedReason

/-- The backup of a tenant cluster is marked as running, and then its release is found to be too
old. The round ends without it. -/
theorem exists_run_unfinished :
    ∃ past given before after w sub, Run (.start (.single tenantRequest))
        (past ++ [.committed 4 given (.ok ()) before after]) w ∧
      (∀ e ∈ past ++ [.committed 4 given (.ok ()) before after], e.LeavesStatus "b") ∧
      after.name = "b" ∧ after.phase = .v2Completed ∧ after.sub? "prod-a" .v2 = some sub ∧
      sub.state.isTerminal = false := by
  let ctx := Pass.plainContext true
  let r₃ := written startedRequest workingStatus (some "3")
  let r₄ := written r₃ leftOutStatus (some "4")
  let found : Except Error (List Target) := .ok [{ name := "prod-a" }]
  let tooOld : Except Error (List Target) := .ok [{ name := "prod-a", supported := false }]
  have discovered (w : World) : ∀ e ∈ ([⟨.discover, tooOld⟩] : List (Exchange Calls)),
      w.store.Gives e.request e.answer :=
    List.forall_mem_singleton.2 trivial
  obtain ⟨_, w₂, h₂⟩ := exists_alone_started
  -- The cluster is found, and then it is not supported any more.
  have decided₂ : (Pass.decide ctx startedRequest default).Leads
      [⟨.discover, found⟩, ⟨.now, default⟩] (.done (.ok (.progress workingStatus))) :=
    .ask (.ask (.rest _))
  have gives₂ : ∀ e ∈ ([⟨.discover, found⟩, ⟨.now, default⟩] : List (Exchange Calls)),
      w₂.store.Gives e.request e.answer :=
    List.forall_mem_cons.2 ⟨trivial, List.forall_mem_singleton.2 trivial⟩
  have new₂ : some "3" ∉ [some "2", some "1", some "0"] := by decide
  obtain ⟨_, w₃, h₃⟩ := h₂.pass gives₂ decided₂ rfl new₂
  have decided₃ : (Pass.decide ctx r₃ default).Leads [⟨.discover, tooOld⟩]
      (.done (.ok (.progress leftOutStatus))) := .ask (.rest _)
  have new₃ : some "4" ∉ [some "3", some "2", some "1", some "0"] := by decide
  obtain ⟨_, w₄, h₄⟩ := h₃.pass (discovered w₃) decided₃ rfl new₃
  -- The round has no work left.
  have decided₄ : (Pass.decide ctx r₄ default).Leads [⟨.discover, tooOld⟩]
      (.done (.ok (.advance { leftOutStatus with phase := .v2Completed }))) := .ask (.rest _)
  have new₄ : some "5" ∉ [some "4", some "3", some "2", some "1", some "0"] := by decide
  obtain ⟨past, w, run, leaves⟩ := h₄.commit (discovered w₄) decided₄ rfl new₄
  exact ⟨past, _, _, _, w, _, run, leaves, rfl, rfl, rfl, rfl⟩

/-- So what the phases promise of the sub-statuses does not hold of every request. -/
theorem not_isTerminal_of_phase :
    ¬∀ {store events past later w name id given answer before after},
      Run (.start store) events w →
      (∀ r ∈ store.log, r.name = name → r.status = none) →
      (∀ e ∈ events, e.LeavesStatus name) →
      events = past ++ .committed id given answer before after :: later →
      after.name = name →
      (after.phase = .v2Completed → ∀ target sub, after.sub? target .v2 = some sub →
        sub.state.isTerminal) ∧
      (after.phase = .v3Completed ∨ after.phase = .completed →
        ∀ version target sub, after.sub? target version = some sub → sub.state.isTerminal) := by
  intro h
  obtain ⟨past, given, before, after, w, sub, run, leaves, hname, hphase, hsub, hstate⟩ :=
    exists_run_unfinished
  have unwritten : ∀ r ∈ (Store.single tenantRequest).log, r.name = "b" → r.status = none :=
    fun r hr _ ↦ Store.unwritten_single rfl r hr
  have hdone := (h run unwritten leaves rfl hname).1 hphase "prod-a" sub hsub
  rw [hstate] at hdone
  cases hdone

/-- In that run the target was left out. -/
theorem unfinished_left_out_once :
    ∃ past given before after w sub, Run (.start (.single tenantRequest))
        (past ++ [.committed 4 given (.ok ()) before after]) w ∧
      after.phase.isBehind .v2 ∧ after.sub? "prod-a" .v2 = some sub ∧
      sub.state.isTerminal = false ∧
      IsLeftOut "b" .v2 "prod-a" (past ++ [.committed 4 given (.ok ()) before after]) := by
  obtain ⟨past, given, before, after, w, sub, run, leaves, hname, hphase, hsub, hstate⟩ :=
    exists_run_unfinished
  have behind : after.phase.isBehind .v2 := by rw [hphase]; rfl
  have unwritten : ∀ r ∈ (Store.single tenantRequest).log, r.name = "b" → r.status = none :=
    fun r hr _ ↦ Store.unwritten_single rfl r hr
  have hleft := unfinished_left_out run unwritten leaves rfl hname behind hsub
  have unfinished : ¬sub.state.isTerminal := Bool.eq_false_iff.1 hstate
  exact ⟨past, given, before, after, w, sub, run, behind, hsub, hstate,
    hleft.resolve_left unfinished⟩

end Interleaving

end EtcdBackup
