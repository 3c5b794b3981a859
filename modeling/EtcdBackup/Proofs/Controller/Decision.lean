import EtcdBackup.Controller.Pass
import EtcdBackup.Proofs.Controller.Plan

/-!
# What a pass decides, and how it is carried out

A pass first decides what to do, and then does it by at most one change of the store. `decide` is
the first half, which leaves the stored request alone, and `Decision.carryOut` the second;
`reconcile_eq` says that a pass is nothing else, and `step_eq` says the same of the step inside it.

`Decided` lists the rules for a decision, one for each edge of the cycle. Each full course of
`decide` follows one of them (`decided_of_leads`), so what is true of every decision is a case
analysis over the rules.
-/

set_option autoImplicit false
set_option relaxedAutoImplicit false

namespace EtcdBackup

open Dialogue

namespace Phase

/-- The phase of the round over the datastores of a version. -/
def running : Datastore → Phase
  | .v2 => .v2Running
  | .v3 => .v3Running

/-- The phase behind the round over the datastores of a version. -/
def closed : Datastore → Phase
  | .v2 => .v2Completed
  | .v3 => .v3Completed

theorem rank_running_lt_rank_closed (version : Datastore) :
    (running version).rank < (closed version).rank := by
  cases version <;> decide

@[simp] theorem isTerminal_running (version : Datastore) :
    (running version).isTerminal = false := by
  cases version <;> rfl

end Phase

namespace Pass

variable {ctx : Context} {record : Record} {now : Instant}

/-- What a pass is to do with the record that it read. -/
inductive Decision
  /-- The cycle goes on to the phase of this status. -/
  | advance (status : Status)
  /-- A round got on with its work. -/
  | progress (status : Status)
  | delete
  | keep

/-- A finished request is deleted in time. -/
def Decision.retire (reference : Option Instant) (retention : Duration) (now : Instant) :
    Decision :=
  if reference.any (isDue · now retention) then .delete else .keep

/-- The decision within a round. -/
def decideRound (ctx : Context) (record : Record) (status : Status) (version : Datastore) :
    Job (Except Error Decision) := do
  match ← Runner.plan ctx record status version with
  | .error e => pure (.error e)
  | .ok (some next) => pure (.ok (.progress next))
  | .ok none => pure (.ok (.advance { status with phase := .closed version }))

/-- What is to be done with a record as it was read. -/
def decide (ctx : Context) (record : Record) (now : Instant) : Job (Except Error Decision) := do
  let status := record.status.getD {}
  match if readsPatterns status.phase then Selection.checkPatterns record.spec else .ok () with
  | .error e =>
    pure (.ok (.advance { status with
      error := some e.message, finished := some now, phase := .failed }))
  | .ok () =>
    match status.phase with
    | .empty =>
      match ← Job.call .list with
      | .error e => pure (.error e)
      | .ok all => pure (.ok (.advance { status with phase := admission record all }))
    | .pending =>
      pure (.ok (.advance { status with
        started := some now, instances := ∅, phase := .v2Running }))
    | .v2Running => decideRound ctx record status .v2
    | .v2Completed => pure (.ok (.advance { status with phase := .v3Running }))
    | .v3Running => decideRound ctx record status .v3
    | .v3Completed =>
      let verdict : Phase := if status.anyFailed then .failed else .completed
      pure (.ok (.advance { status with finished := some now, phase := verdict }))
    | .completed | .failed =>
      pure (.ok (.retire (record.finished <|> record.created) ctx.retention.completed now))
    | .skipped => pure (.ok (.retire record.created ctx.retention.skipped now))

/-- Goes on unless there was an error. -/
def onOk {α β : Type} (f : α → Job (Except Error β)) : Except Error α → Job (Except Error β)
  | .error e => pure (.error e)
  | .ok a => f a

/-- What the step of a pass does about a decision. -/
def Decision.within (record : Record) : Decision → Job (Except Error Transition)
  | .advance status => pure (.ok (.advance status))
  | .progress status =>
    persistStatus record status >>= onOk fun _ ↦ pure (.ok .progressed)
  | .delete => Job.call (.delete record.name) >>= onOk fun _ ↦ pure (.ok .deleted)
  | .keep => pure (.ok .idle)

/-- What a pass does about a decision. -/
def Decision.carryOut (record : Record) : Decision → Job (Except Error Action)
  | .advance status | .progress status =>
    persistStatus record status >>= onOk fun _ ↦ pure (.ok (.requeue progressDelay))
  | .delete => Job.call (.delete record.name) >>= onOk fun _ ↦ pure (.ok .awaitChange)
  | .keep => pure (.ok (.requeue retentionDelay))

/-! ### The rules for a decision -/

/-- The rules for what is done with a record that was read, and the exchanges that lead to it. -/
inductive Decided (ctx : Context) (record : Record) (now : Instant) :
    List (Exchange Calls) → Decision → Prop
  /-- The patterns cannot be used. -/
  | reject (reads : readsPatterns record.phase) {e : Error}
      (invalid : Selection.checkPatterns record.spec = .error e) :
      Decided ctx record now [] (.advance { record.status.getD {} with
        error := some e.message, finished := some now, phase := .failed })
  | enter (phase : record.phase = .empty) (all : List Record) :
      Decided ctx record now [⟨.list, .ok all⟩]
        (.advance { record.status.getD {} with phase := admission record all })
  | start (phase : record.phase = .pending) :
      Decided ctx record now [] (.advance { record.status.getD {} with
        started := some now, instances := ∅, phase := .v2Running })
  /-- A round has work left. -/
  | work {version : Datastore} (phase : record.phase = .running version)
      {es : List (Exchange Calls)} {next : Status}
      (planned : Runner.Planned ctx record (record.status.getD {}) version es (some next)) :
      Decided ctx record now es (.progress next)
  /-- A round has no work left. -/
  | close {version : Datastore} (phase : record.phase = .running version)
      {es : List (Exchange Calls)}
      (planned : Runner.Planned ctx record (record.status.getD {}) version es none) :
      Decided ctx record now es
        (.advance { record.status.getD {} with phase := .closed version })
  | proceed (phase : record.phase = .v2Completed) :
      Decided ctx record now [] (.advance { record.status.getD {} with phase := .v3Running })
  /-- The verdict over all targets. -/
  | judge (phase : record.phase = .v3Completed) :
      Decided ctx record now [] (.advance { record.status.getD {} with
        finished := some now
        phase := if (record.status.getD {}).anyFailed then .failed else .completed })
  | retireFinished (phase : record.phase = .completed ∨ record.phase = .failed) :
      Decided ctx record now []
        (.retire (record.finished <|> record.created) ctx.retention.completed now)
  | retireSkipped (phase : record.phase = .skipped) :
      Decided ctx record now [] (.retire record.created ctx.retention.skipped now)

/-- A decision within a round is about its plan. -/
theorem planned_of_leads_round {status : Status} {version : Datastore}
    {es : List (Exchange Calls)} {decision : Decision}
    (h : (decideRound ctx record status version).Leads es (.done (.ok decision))) :
    ∃ planned, Runner.Planned ctx record status version es planned ∧
      decision = planned.elim (.advance { status with phase := .closed version }) .progress := by
  obtain ⟨es, planned, _, rfl, hplan, hend⟩ := leads_bind_done_iff.1 h
  cases planned with
  | error e => cases hend
  | ok planned =>
    refine ⟨planned, ?_⟩
    cases planned with
    | none =>
      cases hend
      rw [List.append_nil]
      exact ⟨Runner.planned_of_leads hplan, rfl⟩
    | some next =>
      cases hend
      rw [List.append_nil]
      exact ⟨Runner.planned_of_leads hplan, rfl⟩

theorem decided_of_leads_round (version : Datastore) {es : List (Exchange Calls)}
    {decision : Decision} (phase : record.phase = .running version)
    (h : (decideRound ctx record (record.status.getD {}) version).Leads es
      (.done (.ok decision))) : Decided ctx record now es decision := by
  obtain ⟨planned, hplanned, rfl⟩ := planned_of_leads_round h
  cases planned with
  | none => exact .close phase hplanned
  | some next => exact .work phase hplanned

/-- Each decision follows one of the rules. -/
theorem decided_of_leads {es : List (Exchange Calls)} {decision : Decision}
    (h : (decide ctx record now).Leads es (.done (.ok decision))) :
    Decided ctx record now es decision := by
  unfold decide at h
  dsimp only at h
  split at h
  case h_1 e rejected =>
    split at rejected
    case isTrue reads =>
      cases h
      exact .reject reads rejected
    case isFalse => cases rejected
  case h_2 =>
    split at h
    case h_1 phase =>
      obtain ⟨answer, es, rfl, hend⟩ := Job.leads_call_bind_done_iff.1 h
      cases answer with
      | error e => cases hend
      | ok all =>
        cases hend
        exact .enter phase all
    case h_2 phase =>
      cases h
      exact .start phase
    case h_3 phase => exact decided_of_leads_round .v2 phase h
    case h_4 phase =>
      cases h
      exact .proceed phase
    case h_5 phase => exact decided_of_leads_round .v3 phase h
    case h_6 phase =>
      cases h
      exact .judge phase
    case h_7 phase =>
      cases h
      exact .retireFinished (Or.inl phase)
    case h_8 phase =>
      cases h
      exact .retireFinished (Or.inr phase)
    case h_9 phase =>
      cases h
      exact .retireSkipped phase

/-- A pass only fails to decide if the list of all requests fails, or the selection of the targets
of a request whose patterns passed their check. -/
theorem undecided_of_leads {es : List (Exchange Calls)} {e : Error}
    (h : (decide ctx record now).Leads es (.done (.error e))) :
    es = [⟨.list, .error e⟩] ∨ Selection.checkPatterns record.spec = .ok () ∧
      (Runner.select ctx record).Leads es (.done (.error e)) := by
  have hround {status : Status} {version : Datastore}
      (h : (decideRound ctx record status version).Leads es (.done (.error e))) :
      (Runner.select ctx record).Leads es (.done (.error e)) := by
    obtain ⟨look, planned, rest, rfl, hplan, hend⟩ := leads_bind_done_iff.1 h
    cases planned with
    | error e =>
      cases hend
      rw [List.append_nil]
      exact Runner.select_of_plan_error hplan
    | ok next => cases next <;> cases hend
  unfold decide at h
  dsimp only at h
  split at h
  case h_1 => cases h
  case h_2 checked =>
    split at h
    case h_1 =>
      obtain ⟨answer, rest, rfl, hend⟩ := Job.leads_call_bind_done_iff.1 h
      cases answer <;> cases hend
      exact Or.inl rfl
    case h_3 phase =>
      rw [phase] at checked
      exact Or.inr ⟨checked, hround h⟩
    case h_5 phase =>
      rw [phase] at checked
      exact Or.inr ⟨checked, hround h⟩
    all_goals cases h

/-- A request whose patterns cannot be used fails, if they are to be read. -/
theorem decide_of_invalid (ctx : Context) (now : Instant) {e : Error}
    (reads : readsPatterns record.phase)
    (invalid : Selection.checkPatterns record.spec = .error e) :
    decide ctx record now = .done (.ok (.advance { record.status.getD {} with
      error := some e.message, finished := some now, phase := .failed })) := by
  have hchecked : (if readsPatterns (record.status.getD {}).phase then
      Selection.checkPatterns record.spec else .ok ()) = .error e := (if_pos reads).trans invalid
  unfold decide
  dsimp only
  rw [hchecked]
  rfl

/-- A request that is in a round gets on with it, unless its patterns cannot be used. -/
theorem decide_of_running (ctx : Context) (now : Instant) {version : Datastore}
    (phase : record.phase = .running version) {valid : Unit}
    (checked : Selection.checkPatterns record.spec = .ok valid) :
    decide ctx record now = decideRound ctx record (record.status.getD {}) version := by
  have hchecked : (if readsPatterns (record.status.getD {}).phase then
      Selection.checkPatterns record.spec else .ok ()) = .ok () := by
    rw [checked]
    exact ite_self _
  have hphase : (record.status.getD {}).phase = .running version := phase
  unfold decide
  dsimp only
  rw [hchecked, hphase]
  cases version <;> rfl

/-- Time passes by the decision to keep or delete a request, but no status comes out of it. -/
theorem Decision.retire_cases (reference : Option Instant) (retention : Duration) (now : Instant) :
    Decision.retire reference retention now = .delete ∨
      Decision.retire reference retention now = .keep := by
  unfold Decision.retire
  split
  · exact Or.inl rfl
  · exact Or.inr rfl

/-- The cycle only goes on to later phases. -/
theorem Decided.rank_lt {es : List (Exchange Calls)} {decision : Decision}
    (h : Decided ctx record now es decision) {next : Status} (hnext : decision = .advance next) :
    record.phase.rank < next.phase.rank := by
  cases h with
  | reject reads invalid =>
    cases hnext
    cases hphase : record.phase <;> simp_all [readsPatterns, Phase.rank]
  | enter phase all =>
    cases hnext
    rw [phase]
    simp only [admission]
    split <;> decide
  | start phase =>
    cases hnext
    rw [phase]
    exact Nat.one_lt_two
  | work => cases hnext
  | close phase =>
    cases hnext
    rw [phase]
    exact Phase.rank_running_lt_rank_closed _
  | proceed phase =>
    cases hnext
    rw [phase]
    exact Nat.lt_succ_self 3
  | judge phase =>
    cases hnext
    rw [phase]
    dsimp only
    split <;> decide
  | retireFinished | retireSkipped =>
    rcases Decision.retire_cases _ _ _ with hretire | hretire <;> rw [hretire] at hnext <;>
      cases hnext

/-- A decision on a request whose cycle is over is to keep or to delete it, at once. -/
theorem Decided.of_isTerminal {es : List (Exchange Calls)} {decision : Decision}
    (h : Decided ctx record now es decision) (terminal : record.phase.isTerminal) :
    es = [] ∧ (decision = .delete ∨ decision = .keep) := by
  cases h with
  | reject reads invalid =>
    cases hphase : record.phase <;> simp_all [readsPatterns, Phase.isTerminal]
  | enter phase | start phase | proceed phase | judge phase =>
    rw [phase] at terminal
    cases terminal
  | work phase | close phase =>
    rw [phase, Phase.isTerminal_running] at terminal
    cases terminal
  | retireFinished | retireSkipped => exact ⟨rfl, Decision.retire_cases _ _ _⟩

/-- Only a request whose cycle is over is kept or deleted. -/
theorem Decided.isTerminal {es : List (Exchange Calls)} {decision : Decision}
    (h : Decided ctx record now es decision) (hend : decision = .delete ∨ decision = .keep) :
    record.phase.isTerminal := by
  cases h with
  | reject | enter | start | work | close | proceed | judge =>
    rcases hend with hend | hend <;> cases hend
  | retireFinished phase => rcases phase with phase | phase <;> rw [phase] <;> rfl
  | retireSkipped phase =>
    rw [phase]
    rfl

/-! ### A pass as a decision and what is done about it -/

theorem retire_eq (reference : Option Instant) (retention : Duration) :
    retire record reference retention now =
      (Decision.retire reference retention now).within record := by
  unfold retire retireRecord Decision.retire
  cases reference with
  | none => rfl
  | some reference =>
    dsimp only [Option.any_some]
    by_cases due : isDue reference now retention
    · rw [if_pos due, if_pos due]
      refine congrArg (Dialogue.ask _) (funext fun answer ↦ ?_)
      cases answer <;> rfl
    · rw [if_neg due, if_neg due]
      rfl

theorem round_eq (status : Status) (version : Datastore) :
    round ctx record status version (.closed version) =
      decideRound ctx record status version >>= onOk (·.within record) := by
  unfold round decideRound
  rw [Runner.run_eq, bind_assoc, bind_assoc]
  refine congrArg (Runner.plan ctx record status version >>= ·) (funext fun planned ↦ ?_)
  cases planned with
  | error e => rfl
  | ok next =>
    cases next with
    | none => rfl
    | some next =>
      change (persistStatus record next >>= _) >>= _ = persistStatus record next >>= _
      rw [bind_assoc]
      refine congrArg (persistStatus record next >>= ·) (funext fun written ↦ ?_)
      cases written <;> rfl

/-- The step of a pass is its decision, with a write or a deletion only where the step itself is
to make it. -/
theorem step_eq (ctx : Context) (record : Record) (now : Instant) :
    step ctx record now = decide ctx record now >>= onOk (·.within record) := by
  unfold step decide
  dsimp only
  generalize (record.status.getD {}).phase = phase
  generalize (if readsPatterns phase then Selection.checkPatterns record.spec else .ok ()) =
    checked
  cases checked with
  | error e => rfl
  | ok _ =>
    cases phase with
    | empty =>
      refine congrArg (Dialogue.ask _) (funext fun answer ↦ ?_)
      cases answer <;> rfl
    | pending | v2Completed | v3Completed => rfl
    | v2Running => exact round_eq _ .v2
    | v3Running => exact round_eq _ .v3
    | completed | failed | skipped => exact retire_eq _ _

theorem conclude_within {es : List (Exchange Calls)} {decision : Decision}
    (h : Decided ctx record now es decision) :
    (decision.within record >>= onOk (conclude record)) = decision.carryOut record := by
  cases decision with
  | advance next =>
    change conclude record (.advance next) = _
    rw [conclude, if_pos (h.rank_lt rfl)]
    refine congrArg (persistStatus record next >>= ·) (funext fun written ↦ ?_)
    cases written <;> rfl
  | progress next =>
    change (persistStatus record next >>= _) >>= _ = persistStatus record next >>= _
    rw [bind_assoc]
    refine congrArg (persistStatus record next >>= ·) (funext fun written ↦ ?_)
    cases written <;> rfl
  | delete =>
    refine congrArg (Dialogue.ask _) (funext fun answer ↦ ?_)
    cases answer <;> rfl
  | keep => rfl

/-- What a pass does once it has read its record. -/
def work (ctx : Context) (record : Record) (now : Instant) : Job (Except Error Action) :=
  decide ctx record now >>= onOk (·.carryOut record)

/-- A pass reads its record and the clock, decides, and carries its decision out. -/
theorem reconcile_eq (ctx : Context) (name : String) :
    reconcile ctx name = Job.call (.get name) >>= fun answer ↦
      match answer with
      | .error e => pure (if e.isNotFound then .ok .awaitChange else .error e)
      | .ok record => Job.call .now >>= work ctx record := by
  unfold reconcile work
  refine congrArg (Dialogue.ask _) (funext fun answer ↦ ?_)
  cases answer with
  | error e => rfl
  | ok record =>
    refine congrArg (Dialogue.ask _) (funext fun now ↦ ?_)
    change step ctx record now >>= _ = _
    rw [step_eq, bind_assoc]
    refine bind_congr_of_leads fun es decided h ↦ ?_
    cases decided with
    | error e => rfl
    | ok decision =>
      rw [onOk, onOk, ← conclude_within (decided_of_leads h)]
      refine congrArg (decision.within record >>= ·) (funext fun transition ↦ ?_)
      cases transition <;> rfl

/-! ### The requests of a decision -/

theorem only_decideRound (status : Status) (version : Datastore) :
    Only (¬Call.IsOnRecord ·) (decideRound ctx record status version) := by
  refine (Runner.only_plan status).bind fun planned ↦ ?_
  cases planned with
  | error e => trivial
  | ok next => cases next <;> trivial

/-- A decision neither reads nor writes a stored request. -/
theorem only_decide (ctx : Context) (record : Record) (now : Instant) :
    Only (¬Call.IsOnRecord ·) (decide ctx record now) := by
  unfold decide
  dsimp only
  split
  · trivial
  · split
    · refine Job.only_call_bind id fun answer ↦ ?_
      cases answer <;> trivial
    · trivial
    · exact only_decideRound _ _
    · trivial
    · exact only_decideRound _ _
    all_goals trivial

/-- The exchanges of a decision within a round are those of its plan. -/
theorem exists_plan_of_leads_round {status : Status} {version : Datastore}
    {es : List (Exchange Calls)} {result : Except Error Decision}
    (h : (decideRound ctx record status version).Leads es (.done result)) :
    ∃ planned, (Runner.plan ctx record status version).Leads es (.done planned) := by
  obtain ⟨es, planned, after, rfl, hplan, hend⟩ := leads_bind_done_iff.1 h
  have hafter : after = [] := by
    cases planned with
    | error e => cases hend; rfl
    | ok next => cases next <;> cases hend <;> rfl
  rw [hafter, List.append_nil]
  exact ⟨planned, hplan⟩

/-- On the way to a decision makers of backups are opened for one target at most, and for the
version of the round that the request is in; its sub-status is under way. -/
theorem opensFor_of_leads {es : List (Exchange Calls)} {result : Except Error Decision}
    (h : (decide ctx record now).Leads es (.done result)) :
    OpensFor es fun t v ↦ record.phase = .running v ∧
      Runner.IsUnderWay ((record.status.getD {}).sub t.name v) := by
  have hround (version : Datastore) (phase : record.phase = .running version)
      (hcourse : (decideRound ctx record (record.status.getD {}) version).Leads es
        (.done result)) : OpensFor es fun t v ↦ record.phase = .running v ∧
          Runner.IsUnderWay ((record.status.getD {}).sub t.name v) := by
    obtain ⟨planned, hplan⟩ := exists_plan_of_leads_round hcourse
    refine (Runner.opensFor_of_leads hplan).mono fun t v hv ↦ ⟨?_, hv.2⟩
    rw [hv.1, phase]
  unfold decide at h
  dsimp only at h
  split at h
  · cases h
    exact .nil _
  · split at h
    case h_1 =>
      obtain ⟨answer, es, rfl, hend⟩ := Job.leads_call_bind_done_iff.1 h
      cases answer <;> cases hend <;> exact (OpensFor.nil _).cons nofun
    case h_3 phase => exact hround .v2 phase h
    case h_5 phase => exact hround .v3 phase h
    all_goals
      cases h
      exact .nil _

end Pass

end EtcdBackup
