import EtcdBackup.Proofs.Interleaving.NoLostUpdate

/-!
# The order of the phases

The phase of a record goes round a fixed cycle, whatever passes and other parties interleave: each
write of a pass replaces a phase by another one along an edge of the cycle, or by the failure of a
request whose patterns cannot be used (`Run.phaseChange`). This is said of the phase that is
replaced, which is the one that the pass decided from. The edges lead to later phases only, so the
phase of a record never goes back (`Run.rank_le`), and there is no edge too many
(`occurs_of_mem_edges`).
-/

set_option autoImplicit false
set_option relaxedAutoImplicit false

namespace EtcdBackup

open Dialogue

/-! ### The edges -/

namespace Phase

/-- The edges of the cycle. -/
def cycleEdges : List (Phase × Phase) :=
  [(.empty, .pending), (.empty, .skipped), (.pending, .v2Running), (.v2Running, .v2Running),
    (.v2Running, .v2Completed), (.v2Completed, .v3Running), (.v3Running, .v3Running),
    (.v3Running, .v3Completed), (.v3Completed, .completed), (.v3Completed, .failed)]

/-- The edges out of the cycle for a request whose patterns cannot be used. -/
def rejectionEdges : List (Phase × Phase) :=
  [(.pending, .failed), (.v2Running, .failed), (.v3Running, .failed)]

theorem rank_le_of_mem_edges {p q : Phase} (h : (p, q) ∈ cycleEdges ++ rejectionEdges) :
    p.rank ≤ q.rank := by
  have hall : ∀ edge ∈ cycleEdges ++ rejectionEdges, edge.1.rank ≤ edge.2.rank := by decide
  exact hall (p, q) h

theorem isTerminal_of_mem_edges {p q : Phase} (h : (p, q) ∈ cycleEdges ++ rejectionEdges) :
    p.isTerminal = false := by
  have hall : ∀ edge ∈ cycleEdges ++ rejectionEdges, edge.1.isTerminal = false := by decide
  exact hall (p, q) h

end Phase

namespace Pass

variable {ctx : Context} {record : Record} {now : Instant} {es : List (Exchange Calls)}

/-- Each decision to write follows an edge. -/
theorem Decided.mem_edges {decision : Decision} (h : Decided ctx record now es decision)
    {next : Status} (hnext : decision.status? = some next) :
    (record.phase, next.phase) ∈ Phase.cycleEdges ∨
      ((record.phase, next.phase) ∈ Phase.rejectionEdges ∧
        ∃ e, Selection.checkPatterns record.spec = .error e) := by
  cases h with
  | reject reads invalid =>
    cases hnext
    refine Or.inr ⟨?_, _, invalid⟩
    dsimp only
    cases hphase : record.phase <;> rw [hphase] at reads <;> first | decide | cases reads
  | enter phase all =>
    cases hnext
    rw [phase]
    simp only [admission]
    split <;> exact Or.inl (by decide)
  | @work version phase es next planned =>
    cases hnext
    have hphase : next.phase = (record.status.getD {}).phase := by
      rcases planned.change with ⟨name, reason, rfl⟩ | ⟨target, at', moved, sub, -, -, rfl⟩ <;> rfl
    rw [hphase]
    change (record.phase, record.phase) ∈ _ ∨ _
    rw [phase]
    cases version <;> exact Or.inl (by decide)
  | @close version phase es planned =>
    cases hnext
    rw [phase]
    dsimp only
    cases version <;> exact Or.inl (by decide)
  | start phase | proceed phase =>
    cases hnext
    rw [phase]
    dsimp only
    exact Or.inl (by decide)
  | judge phase =>
    cases hnext
    rw [phase]
    dsimp only
    split <;> exact Or.inl (by decide)
  | retireFinished | retireSkipped =>
    rw [Decision.status?_retire] at hnext
    cases hnext

/-- Progress is only made within a round. -/
theorem Decided.exists_running {next : Status} (h : Decided ctx record now es (.progress next)) :
    ∃ version, record.phase = .running version := by
  generalize hdecision : Decision.progress next = decision at h
  cases h with
  | work phase => exact ⟨_, phase⟩
  | reject | enter | start | close | proceed | judge => cases hdecision
  | retireFinished | retireSkipped =>
    have hnone := congrArg Decision.status? hdecision
    rw [Decision.status?_retire] at hnone
    cases hnone

/-- Progress within a round is made and written by the run over the targets. -/
theorem run_of_progress {next : Status}
    (h : (decide ctx record now).Leads es (.done (.ok (.progress next)))) :
    ∃ version k, record.phase = .running version ∧
      (Runner.run ctx record (record.status.getD {}) version).Leads es
        (persistStatus record next >>= k) := by
  obtain ⟨version, phase⟩ := (decided_of_leads h).exists_running
  cases hchecked : Selection.checkPatterns record.spec with
  | error e =>
    have reads : readsPatterns record.phase := by
      rw [phase]
      cases version <;> rfl
    rw [decide_of_invalid ctx now reads hchecked] at h
    cases h
  | ok _ =>
    rw [decide_of_running ctx now phase hchecked] at h
    obtain ⟨es, planned, _, rfl, hplan, hend⟩ := leads_bind_done_iff.1 h
    cases planned with
    | error e => cases hend
    | ok planned =>
      cases planned with
      | none => cases hend
      | some planned =>
        cases hend
        have hrun := hplan.bind (Runner.writePlanned record)
        rw [← Runner.run_eq] at hrun
        rw [List.append_nil]
        exact ⟨version, _, phase, hrun⟩

/-- A status with the same phase is progress within a round. -/
theorem Decided.eq_progress {decision : Decision} (h : Decided ctx record now es decision)
    {next : Status} (hnext : decision.status? = some next) (hphase : next.phase = record.phase) :
    decision = .progress next := by
  cases decision with
  | advance status =>
    cases hnext
    have := h.rank_lt rfl
    rw [hphase] at this
    exact (Nat.lt_irrefl _ this).elim
  | progress status =>
    cases hnext
    rfl
  | delete | keep => cases hnext

end Pass

/-! ### The phases that passes replace -/

namespace Interleaving

variable {store : Store} {events past later : List Event} {u v w : World} {id : Nat}
  {before after given : Record} {answer : Except Error Unit} {name : String}

/-- The commit of a pass that had some events before follows an edge. -/
structure PhaseChange (past : List Event) (id : Nat) (before after : Record) : Prop where
  /-- A failure out of order comes of the patterns in the record that the pass read. -/
  edge : (before.phase, after.phase) ∈ Phase.cycleEdges ∨
    ((before.phase, after.phase) ∈ Phase.rejectionEdges ∧
      ∃ name current e, (Event.exchanges id past).head? = some ⟨.get name, .ok current⟩ ∧
        Selection.checkPatterns current.spec = .error e)
  /-- Nothing is written to a record whose cycle is over. -/
  unfinished : before.phase.isTerminal = false
  /-- A phase only stays the same if the run over the targets writes the status. -/
  loop : after.phase = before.phase → ∃ ctx name current now version es status k,
    .started id ctx name ∈ past ∧
    Event.exchanges id past = ⟨.get name, .ok current⟩ :: ⟨.now, now⟩ :: es ++
      [⟨.get current.name, .ok before⟩] ∧
    current.phase = .running version ∧ after.status = some status ∧
    (Runner.run ctx current (current.status.getD {}) version).Leads es
      (persistStatus current status >>= k)

theorem Run.phaseChange (h : Run (.start store) (past ++ .committed id given answer before after ::
    later) w) : PhaseChange past id before after := by
  obtain ⟨u, v, first, step, -⟩ := h.exists_step
  cases step.commitOf (first.isHeard (World.isHeard_start store)) with
  | @intro th current now es decision status version thread hpast hread decided hstatus same stored
      overwritten =>
    subst overwritten
    obtain ⟨hexchanges, hstarted⟩ := first.past_eq thread
    rw [hpast] at hexchanges
    have hdecided := Pass.decided_of_leads decided
    have hphase : before.phase = current.phase := Record.phase_congr same
    have hedge := hdecided.mem_edges hstatus
    rw [← hphase] at hedge
    constructor
    case edge =>
      refine hedge.imp_right fun hrejected ↦ ⟨hrejected.1, th.name, current, ?_⟩
      obtain ⟨e, invalid⟩ := hrejected.2
      exact ⟨e, by rw [← hexchanges]; rfl, invalid⟩
    case unfinished =>
      exact Phase.isTerminal_of_mem_edges (List.mem_append.2 (hedge.imp_right And.left))
    case loop =>
      intro hsame
      have hnext := hdecided.eq_progress hstatus (hsame.trans hphase)
      rw [hnext] at decided
      obtain ⟨version, k, phase, run⟩ := Pass.run_of_progress decided
      exact ⟨th.ctx, th.name, current, now, version, es, status, k, hstarted, hexchanges.symm,
        phase, rfl, run⟩

theorem PhaseChange.mem_edges (h : PhaseChange past id before after) :
    (before.phase, after.phase) ∈ Phase.cycleEdges ++ Phase.rejectionEdges :=
  List.mem_append.2 (h.edge.imp_right And.left)

/-- The phase of a record never goes back while only the passes write its status. -/
theorem Run.rank_le {mid : List Event} (first : Run (.start store) past u) (h : Run u mid v)
    (leaves : ∀ e ∈ mid, e.LeavesStatus name) (kept : ∀ e ∈ mid, ¬e.Creates name)
    {r r' : Record} (hr : u.store.get? name = some r) (hr' : v.store.get? name = some r') :
    r.phase.rank ≤ r'.phase.rank := by
  have commits {id : Nat} {given before after : Record} {answer : Except Error Unit}
      (hmem : .committed id given answer before after ∈ mid) (_ : before.name = name) :
      before.phase.rank ≤ after.phase.rank := by
    obtain ⟨pre, post, rfl⟩ := List.append_of_mem hmem
    have hrun := first.trans h
    rw [← List.append_assoc] at hrun
    exact Phase.rank_le_of_mem_edges hrun.phaseChange.mem_edges
  exact h.related (R := fun s s' ↦ (s.getD {}).phase.rank ≤ (s'.getD {}).phase.rank)
    (fun _ ↦ Nat.le_refl _) (fun h₁ h₂ ↦ Nat.le_trans h₁ h₂) commits leaves kept hr hr'

/-! ### Every edge occurs -/

/-- Some pass of some run writes along the edge. -/
def Occurs (edge : Phase × Phase) : Prop :=
  ∃ store events w id given answer before after, Run (.start store) events w ∧
    .committed id given answer before after ∈ events ∧ (before.phase, after.phase) = edge

/-- Decisions that the store does not contradict occur. -/
theorem occurs_of_decided (store : Store) (version : Option String) {ctx : Context} {r : Record}
    {now : Instant} {es : List (Exchange Calls)} {decision : Pass.Decision} {status : Status}
    (stored : store.get? r.name = some r) (gives : ∀ e ∈ es, store.Gives e.request e.answer)
    (decided : (Pass.decide ctx r now).Leads es (.done (.ok decision)))
    (hstatus : decision.status? = some status)
    (fresh : store.IsFresh (written r status version)) : Occurs (r.phase, status.phase) := by
  have unused : (World.start store).threads 0 = none := rfl
  obtain ⟨w, run, -, -, -⟩ := exists_run_pass unused stored gives decided hstatus fresh
  exact ⟨_, _, w, 0, _, .ok (), r, _, run,
    List.mem_append_right _ (List.mem_cons_of_mem _ List.mem_cons_self), rfl⟩

/-- A stored record. -/
def storedRecord (name : String) (spec : Spec) (status : Status) : Record where
  metadata := { name := some name, resourceVersion := some "1" }
  spec := spec
  status := some status

/-- Decisions about a record that is stored alone occur. -/
theorem occurs_alone (ctx : Context) (spec : Spec) (s : Status) {es : List (Exchange Calls)}
    {decision : Pass.Decision} {status : Status}
    (decided : (Pass.decide ctx (storedRecord "b" spec s) default).Leads es (.done (.ok decision)))
    (gives : ∀ e ∈ es, (Store.single (storedRecord "b" spec s)).Gives e.request e.answer)
    (hstatus : decision.status? = some status) : Occurs (s.phase, status.phase) := by
  have hversion : some "1" ≠ some "2" := by decide
  exact occurs_of_decided _ (some "2") (Store.get?_single _) gives decided hstatus
    (Store.isFresh_single hversion)

theorem occurs_admitted : Occurs (.empty, .pending) := by
  have decided : (Pass.decide (Pass.plainContext true) (storedRecord "b" {} {}) default).Leads
      [⟨.list, .ok [storedRecord "b" {} {}]⟩] (.done (.ok (.advance { phase := .pending }))) :=
    .ask (.rest _)
  refine occurs_alone _ {} {} decided ?_ rfl
  intro e he
  rw [List.mem_singleton.1 he]
  exact .refl _

/-- Another record in the middle of its cycle comes first. -/
theorem occurs_superseded : Occurs (.empty, .skipped) := by
  let other := storedRecord "c" {} { phase := .pending }
  let record := storedRecord "b" {} {}
  have hname : other.name ≠ record.name := by decide
  let store := (Store.single other).put record fun old hold hsame ↦ by
    cases List.mem_singleton.1 hold
    exact (hname hsame).elim
  have hvalues : (((∅ : Keyed Record).insert "c"
      (storedRecord "c" {} { phase := .pending })).insert "b" (storedRecord "b" {} {})).values =
        [storedRecord "b" {} {}, storedRecord "c" {} { phase := .pending }] := by
    decide +kernel
  have hadmission : Pass.admission (storedRecord "b" {} {})
      [storedRecord "b" {} {}, storedRecord "c" {} { phase := .pending }] = .skipped := by
    decide +kernel
  have decided : (Pass.decide (Pass.plainContext true) record default).Leads
      [⟨.list, .ok [record, other]⟩]
      (.done (.ok (.advance { phase := Pass.admission record [record, other] }))) :=
    .ask (.rest _)
  rw [hadmission] at decided
  refine occurs_of_decided store (some "2") ?_ ?_ decided rfl ?_
  · exact (Store.get?_put _ _).trans (if_pos rfl)
  · intro e he
    rw [List.mem_singleton.1 he]
    exact List.Perm.of_eq hvalues.symm
  · intro old hold hsame
    rcases List.mem_cons.1 hold with rfl | hold
    · decide
    · cases List.mem_singleton.1 hold
      exact (hname hsame).elim

theorem occurs_at_once (ctx : Context) (spec : Spec) (s : Status) {decision : Pass.Decision}
    {status : Status}
    (decided : Pass.decide ctx (storedRecord "b" spec s) default = .done (.ok decision))
    (hstatus : decision.status? = some status) : Occurs (s.phase, status.phase) := by
  have course := Leads.rest (Pass.decide ctx (storedRecord "b" spec s) default)
  rw [decided] at course
  exact occurs_alone ctx spec s (decided ▸ course) (List.forall_mem_nil _) hstatus

theorem occurs_started : Occurs (.pending, .v2Running) :=
  occurs_at_once (Pass.plainContext true) {} { phase := .pending } rfl rfl

/-- A round over the management cluster has work to do. -/
theorem occurs_work (version : Datastore) : Occurs (.running version, .running version) := by
  let s : Status := { phase := .running version }
  obtain ⟨status, decided, hphase⟩ : ∃ status : Status,
      (Pass.decide (Pass.plainContext false) (storedRecord "b" {} s) default).Leads
        [⟨.now, default⟩] (.done (.ok (.progress status))) ∧ status.phase = .running version := by
    cases version <;> exact ⟨_, .ask (.rest _), rfl⟩
  have hoccurs := occurs_alone _ {} s decided (fun e he ↦ by
    rw [List.mem_singleton.1 he]
    trivial) rfl
  rwa [hphase] at hoccurs

/-- A round over no targets does not. -/
theorem occurs_closed (version : Datastore) : Occurs (.running version, .closed version) := by
  cases version with
  | v2 => exact occurs_at_once (Pass.plainContext true) {} { phase := .v2Running } rfl rfl
  | v3 => exact occurs_at_once (Pass.plainContext true) {} { phase := .v3Running } rfl rfl

theorem occurs_proceeded : Occurs (.v2Completed, .v3Running) :=
  occurs_at_once (Pass.plainContext true) {} { phase := .v2Completed } rfl rfl

theorem occurs_completed : Occurs (.v3Completed, .completed) :=
  occurs_at_once (Pass.plainContext true) {} { phase := .v3Completed } rfl rfl

/-- A failed target fails the request. -/
theorem occurs_failed : Occurs (.v3Completed, .failed) :=
  occurs_at_once (Pass.plainContext true) {}
    { phase := .v3Completed
      instances := Keyed.insert ∅ "x" { name := "x", v2 := some { state := .failed } } } rfl rfl

/-- So does a pattern that cannot be used. -/
theorem occurs_rejected {phase : Phase} (reads : Pass.readsPatterns phase) :
    Occurs (phase, .failed) := by
  let spec : Spec := { guestBackup := true, clustersRegex := some "(" }
  have hinvalid : (Selection.checkPatterns
      { guestBackup := true, clustersRegex := some "(" }).toOption = none := by decide +kernel
  cases hchecked : Selection.checkPatterns spec with
  | ok _ =>
    rw [hchecked] at hinvalid
    cases hinvalid
  | error e =>
    have decided := Pass.decide_of_invalid (Pass.plainContext true) default
      (show Pass.readsPatterns (storedRecord "b" spec { phase := phase }).phase from reads) hchecked
    exact occurs_at_once (Pass.plainContext true) spec { phase := phase } decided rfl

theorem occurs_of_mem_edges {edge : Phase × Phase}
    (h : edge ∈ Phase.cycleEdges ++ Phase.rejectionEdges) : Occurs edge := by
  simp only [Phase.cycleEdges, Phase.rejectionEdges, List.cons_append, List.nil_append,
    List.mem_cons, List.not_mem_nil, or_false] at h
  rcases h with rfl | rfl | rfl | rfl | rfl | rfl | rfl | rfl | rfl | rfl | rfl | rfl | rfl
  · exact occurs_admitted
  · exact occurs_superseded
  · exact occurs_started
  · exact occurs_work .v2
  · exact occurs_closed .v2
  · exact occurs_proceeded
  · exact occurs_work .v3
  · exact occurs_closed .v3
  · exact occurs_completed
  · exact occurs_failed
  · exact occurs_rejected rfl
  · exact occurs_rejected rfl
  · exact occurs_rejected rfl

/-- Whatever passes and other parties interleave, each write of a pass follows an edge of the cycle,
or of the rejection of the patterns that the pass read; the phase of a record never goes back
while only passes write its status; and every edge occurs. -/
theorem committed_phases (run : Run (.start store) events w) :
    (∀ {past id given answer before after later},
      events = past ++ .committed id given answer before after :: later →
        PhaseChange past id before after) ∧
    (∀ {past mid later u v name r r'}, events = past ++ (mid ++ later) →
      Run (.start store) past u → Run u mid v → (∀ e ∈ mid, e.LeavesStatus name) →
        (∀ e ∈ mid, ¬e.Creates name) → u.store.get? name = some r →
          v.store.get? name = some r' → r.phase.rank ≤ r'.phase.rank) ∧
    (∀ edge, Occurs edge ↔ edge ∈ Phase.cycleEdges ++ Phase.rejectionEdges) := by
  refine ⟨?_, ?_, fun edge ↦ ⟨?_, occurs_of_mem_edges⟩⟩
  · rintro past id given answer before after later rfl
    exact run.phaseChange
  · intro past mid later u v name r r' _ first second leaves kept hr hr'
    exact first.rank_le second leaves kept hr hr'
  · rintro ⟨store, events, w, id, given, answer, before, after, run, hmem, rfl⟩
    obtain ⟨past, later, rfl⟩ := List.append_of_mem hmem
    exact run.phaseChange.mem_edges

/-- A pass that takes a request from one round to the next while nothing else happens. -/
theorem committed_phases_proceed :
    ∃ store past given before after w,
      Run (.start store) (past ++ [.committed 0 given (.ok ()) before after]) w ∧
      before.phase = .v2Completed ∧ PhaseChange past 0 before after := by
  let r := storedRecord "b" {} { phase := .v2Completed }
  have unused : (World.start (.single r)).threads 0 = none := rfl
  have decided : (Pass.decide (Pass.plainContext true) r default).Leads []
      (.done (.ok (.advance { phase := .v3Running }))) := .rest _
  have fresh : (Store.single r).IsFresh (written r { phase := .v3Running } (some "2")) :=
    Store.isFresh_single (by decide)
  obtain ⟨w, run, -, -, -⟩ := exists_run_pass unused (Store.get?_single r) (List.forall_mem_nil _)
    decided rfl fresh
  rw [writeEvents, List.append_cons] at run
  exact ⟨_, _, _, _, _, w, run, rfl, (committed_phases run).1 rfl⟩

end Interleaving

end EtcdBackup
