import EtcdBackup.Proofs.Controller.Decision

/-!
# What a pass does to the store

The rules for the full courses of a pass are `Passed`: it reads its record and the clock, decides,
and then changes the store at most once, by the write of a status (`Saved`) or by a deletion. A
course that is cut short is the first part of a full one, so what is true of every full course
bounds what a pass may have done at any time.

The result of a pass tells what it did to the store (`changes_and_result_of_leads`).
-/

set_option autoImplicit false
set_option relaxedAutoImplicit false

namespace EtcdBackup

open Dialogue

/-- The request is one to change the store. -/
def Call.IsMutation : Call → Prop
  | .updateStatus _ | .delete _ => True
  | _ => False

/-- One of the exchanges was the successful write of a status. -/
def HasWritten (es : List (Exchange Calls)) : Prop :=
  ∃ record, (⟨.updateStatus record, .ok ()⟩ : Exchange Calls) ∈ es

/-- One of the exchanges was a successful deletion. -/
def HasDeleted (es : List (Exchange Calls)) : Prop :=
  ∃ name, (⟨.delete name, .ok ()⟩ : Exchange Calls) ∈ es

/-! ### Writing a status back -/

/-- The rules for writing a status back: the stored record cannot be read, its status is another
one, or the write is tried and answered. -/
inductive Saved (known : Record) (status : Status) :
    List (Exchange Calls) → Except Error Unit → Prop
  | unread (e : Error) : Saved known status [⟨.get known.name, .error e⟩] (.error e)
  | moved {fresh : Record} (differs : fresh.status ≠ known.status) :
      Saved known status [⟨.get known.name, .ok fresh⟩]
        (.error (.conflict (.statusMoved known.name)))
  | tried {fresh : Record} (same : fresh.status = known.status) (answer : Except Error Unit) :
      Saved known status [⟨.get known.name, .ok fresh⟩,
        ⟨.updateStatus { fresh with status := some status }, answer⟩] answer

theorem saved_of_leads {known : Record} {status : Status} {es : List (Exchange Calls)}
    {result : Except Error Unit} (h : (persistStatus known status).Leads es (.done result)) :
    Saved known status es result := by
  obtain ⟨answer, es, rfl, hread⟩ := Job.leads_call_bind_done_iff.1 h
  cases answer with
  | error e =>
    cases hread
    exact .unread e
  | ok fresh =>
    dsimp only at hread
    split at hread
    case isTrue same =>
      obtain ⟨_, _, rfl, hend⟩ := leads_ask_done_iff.1 hread
      cases hend
      exact .tried same result
    case isFalse differs =>
      cases hread
      exact .moved differs

theorem Saved.leads {known : Record} {status : Status} {es : List (Exchange Calls)}
    {result : Except Error Unit} (h : Saved known status es result) :
    (persistStatus known status).Leads es (.done result) := by
  cases h with
  | unread e => exact .ask (.rest _)
  | @moved fresh differs =>
    refine .ask ?_
    change Leads (if fresh.status = known.status then _ else _) _ _
    rw [if_neg differs]
    exact .rest _
  | @tried fresh same =>
    refine .ask ?_
    change Leads (if fresh.status = known.status then _ else _) _ _
    rw [if_pos same]
    exact .ask (.rest _)

/-- Nothing is changed before the last request of a write. -/
theorem Saved.not_isMutation_of_mem_dropLast {known : Record} {status : Status}
    {es : List (Exchange Calls)} {result : Except Error Unit} (h : Saved known status es result) :
    ∀ e ∈ es.dropLast, ¬e.request.IsMutation := by
  cases h with
  | unread | moved => exact List.forall_mem_nil _
  | tried same answer =>
    intro e he
    rw [List.mem_singleton.1 he]
    exact id

/-- A write succeeds exactly if the status was written. -/
theorem Saved.hasWritten_iff {known : Record} {status : Status} {es : List (Exchange Calls)}
    {result : Except Error Unit} (h : Saved known status es result) :
    HasWritten es ↔ result = .ok () := by
  cases h with
  | unread e => simp [HasWritten]
  | moved differs => simp [HasWritten]
  | tried same answer =>
    constructor
    · rintro ⟨record, hmem⟩
      simp only [List.mem_cons, List.not_mem_nil, or_false] at hmem
      rcases hmem with hmem | hmem
      · cases hmem
      · cases hmem
        rfl
    · rintro rfl
      exact ⟨_, List.mem_cons_of_mem _ List.mem_cons_self⟩

theorem Saved.not_hasDeleted {known : Record} {status : Status} {es : List (Exchange Calls)}
    {result : Except Error Unit} (h : Saved known status es result) : ¬HasDeleted es := by
  cases h <;> simp [HasDeleted]

/-! ### Exchanges that change nothing -/

/-- No exchange is one to change the store. -/
def AreQuiet (es : List (Exchange Calls)) : Prop := ∀ e ∈ es, ¬e.request.IsMutation

theorem Call.not_isMutation_of_not_isOnRecord {c : Call} (h : ¬c.IsOnRecord) : ¬c.IsMutation := by
  cases c <;> first | exact id | exact (h trivial).elim

namespace AreQuiet

variable {es es' : List (Exchange Calls)}

theorem not_hasWritten (h : AreQuiet es) : ¬HasWritten es :=
  fun ⟨_, hmem⟩ ↦ h _ hmem trivial

theorem not_hasDeleted (h : AreQuiet es) : ¬HasDeleted es :=
  fun ⟨_, hmem⟩ ↦ h _ hmem trivial

theorem hasWritten_append_iff (h : AreQuiet es) : HasWritten (es ++ es') ↔ HasWritten es' := by
  constructor
  · rintro ⟨record, hmem⟩
    rcases List.mem_append.1 hmem with hmem | hmem
    · exact (h _ hmem trivial).elim
    · exact ⟨record, hmem⟩
  · rintro ⟨record, hmem⟩
    exact ⟨record, List.mem_append_right _ hmem⟩

theorem hasDeleted_append_iff (h : AreQuiet es) : HasDeleted (es ++ es') ↔ HasDeleted es' := by
  constructor
  · rintro ⟨name, hmem⟩
    rcases List.mem_append.1 hmem with hmem | hmem
    · exact (h _ hmem trivial).elim
    · exact ⟨name, hmem⟩
  · rintro ⟨name, hmem⟩
    exact ⟨name, List.mem_append_right _ hmem⟩

theorem append_iff (h : AreQuiet es) : AreQuiet (es ++ es') ↔ AreQuiet es' := by
  unfold AreQuiet at *
  rw [List.forall_mem_append]
  exact and_iff_right h

theorem dropLast (h : AreQuiet es) : AreQuiet es.dropLast :=
  fun e he ↦ h e (List.dropLast_subset es he)

theorem dropLast_append (h : AreQuiet es) (h' : AreQuiet es'.dropLast) :
    AreQuiet (es ++ es').dropLast := by
  intro e he
  by_cases hnil : es' = []
  · rw [hnil, List.append_nil] at he
    exact h.dropLast e he
  · rw [List.dropLast_append_of_ne_nil hnil] at he
    rcases List.mem_append.1 he with he | he
    · exact h e he
    · exact h' e he

end AreQuiet

namespace Pass

variable {ctx : Context} {name : String} {current record : Record} {now : Instant}

/-- The exchanges of a decision change nothing. -/
theorem areQuiet_of_leads {es : List (Exchange Calls)} {result : Except Error Decision}
    (h : (decide ctx current now).Leads es (.done result)) : AreQuiet es :=
  fun e he ↦ Call.not_isMutation_of_not_isOnRecord ((only_decide ctx current now).request h e he)

/-- Nor does the start of a pass, which reads a record and the clock. -/
theorem areQuiet_read {es : List (Exchange Calls)} (name : String)
    (answer : Except Error Record) (now : Instant) (h : AreQuiet es) :
    AreQuiet (⟨.get name, answer⟩ :: ⟨.now, now⟩ :: es) := by
  intro e he
  rcases List.mem_cons.1 he with rfl | he
  · exact id
  · rcases List.mem_cons.1 he with rfl | he
    · exact id
    · exact h e he

/-! ### The courses of a pass -/

/-- The status that a decision is to write. -/
def Decision.status? : Decision → Option Status
  | .advance status | .progress status => some status
  | .delete | .keep => none

/-- A request whose cycle is over keeps its status. -/
@[simp] theorem Decision.status?_retire (reference : Option Instant) (retention : Duration)
    (now : Instant) : (Decision.retire reference retention now).status? = none := by
  rcases Decision.retire_cases reference retention now with h | h <;> rw [h] <;> rfl

/-- The rules for carrying out a decision about a record. -/
inductive CarriedOut (record : Record) :
    Decision → List (Exchange Calls) → Except Error Action → Prop
  | write {decision : Decision} {status : Status} (hstatus : decision.status? = some status)
      {es : List (Exchange Calls)} {result : Except Error Unit}
      (saved : Saved record status es result) :
      CarriedOut record decision es (result.map fun _ ↦ .requeue progressDelay)
  | delete (answer : Except Error Unit) :
      CarriedOut record .delete [⟨.delete record.name, answer⟩]
        (answer.map fun _ ↦ .awaitChange)
  | keep : CarriedOut record .keep [] (.ok (.requeue retentionDelay))

theorem carriedOut_of_leads {decision : Decision} {es : List (Exchange Calls)}
    {result : Except Error Action} (h : (decision.carryOut record).Leads es (.done result)) :
    CarriedOut record decision es result := by
  have hwrite (status : Status) (hstatus : decision.status? = some status)
      (hcourse : (persistStatus record status >>=
        onOk fun _ ↦ pure (.ok (.requeue progressDelay))).Leads es (.done result)) :
      CarriedOut record decision es result := by
    obtain ⟨es, answer, _, rfl, hsave, hend⟩ := leads_bind_done_iff.1 hcourse
    have hcarried := CarriedOut.write hstatus (saved_of_leads hsave)
    cases answer <;> cases hend <;> rw [List.append_nil] <;> exact hcarried
  cases decision with
  | advance status => exact hwrite status rfl h
  | progress status => exact hwrite status rfl h
  | delete =>
    obtain ⟨answer, es, rfl, hend⟩ := Job.leads_call_bind_done_iff.1 h
    cases answer <;> cases hend <;> exact .delete _
  | keep =>
    cases h
    exact .keep

theorem CarriedOut.leads {decision : Decision} {es : List (Exchange Calls)}
    {result : Except Error Action} (h : CarriedOut record decision es result) :
    (decision.carryOut record).Leads es (.done result) := by
  cases h with
  | @write decision status hstatus es result saved =>
    have hcourse : (persistStatus record status >>=
        onOk fun _ ↦ pure (.ok (Action.requeue progressDelay))).Leads es
          (.done (result.map fun _ ↦ Action.requeue progressDelay)) := by
      have := saved.leads.bind
        (onOk fun _ : Unit ↦ pure (.ok (Action.requeue progressDelay)))
      cases result <;> exact this
    cases decision <;> cases hstatus <;> exact hcourse
  | delete answer => cases answer <;> exact .ask (.rest _)
  | keep => exact .rest _

/-- The rules for a full course of a pass: it cannot read its record, fails to decide, or carries
its decision out. -/
inductive Passed (ctx : Context) (name : String) :
    List (Exchange Calls) → Except Error Action → Prop
  | unread (e : Error) :
      Passed ctx name [⟨.get name, .error e⟩] (if e.isNotFound then .ok .awaitChange else .error e)
  | undecided {current : Record} {now : Instant} {es : List (Exchange Calls)} {e : Error}
      (failed : (decide ctx current now).Leads es (.done (.error e))) :
      Passed ctx name (⟨.get name, .ok current⟩ :: ⟨.now, now⟩ :: es) (.error e)
  | decided {current : Record} {now : Instant} {es es' : List (Exchange Calls)}
      {decision : Decision} {result : Except Error Action}
      (decided : (decide ctx current now).Leads es (.done (.ok decision)))
      (carriedOut : CarriedOut current decision es' result) :
      Passed ctx name (⟨.get name, .ok current⟩ :: ⟨.now, now⟩ :: es ++ es') result

/-- Each full course of a pass follows one of the rules. -/
theorem passed_of_leads {es : List (Exchange Calls)} {result : Except Error Action}
    (h : (reconcile ctx name).Leads es (.done result)) : Passed ctx name es result := by
  rw [reconcile_eq] at h
  obtain ⟨answer, es, rfl, hread⟩ := Job.leads_call_bind_done_iff.1 h
  cases answer with
  | error e =>
    cases hread
    exact .unread e
  | ok current =>
    obtain ⟨now, es, rfl, hwork⟩ := Job.leads_call_bind_done_iff.1 hread
    obtain ⟨es, decision, es', rfl, hdecide, hcarry⟩ := leads_bind_done_iff.1 hwork
    cases decision with
    | error e =>
      cases hcarry
      rw [List.append_nil]
      exact .undecided hdecide
    | ok decision => exact .decided hdecide (carriedOut_of_leads hcarry)

theorem Passed.leads {es : List (Exchange Calls)} {result : Except Error Action}
    (h : Passed ctx name es result) : (reconcile ctx name).Leads es (.done result) := by
  rw [reconcile_eq]
  cases h with
  | unread e => exact .ask (.rest _)
  | @undecided current now es e failed =>
    exact .ask (.ask (failed.bind (onOk (·.carryOut current))))
  | decided decided carriedOut => exact .ask (.ask (decided.bind_done carriedOut.leads))

/-- A course of a pass goes on to a full one. -/
theorem exists_passed_of_leads {es : List (Exchange Calls)} {rest : Job (Except Error Action)}
    (h : (reconcile ctx name).Leads es rest) :
    ∃ es' result, rest.Leads es' (.done result) ∧ Passed ctx name (es ++ es') result := by
  obtain ⟨es', result, hrest⟩ := Leads.exists_done rest
  exact ⟨es', result, hrest, passed_of_leads (h.trans hrest)⟩

/-! ### What the result tells -/

theorem CarriedOut.areQuiet_dropLast {decision : Decision} {es : List (Exchange Calls)}
    {result : Except Error Action} (h : CarriedOut record decision es result) :
    AreQuiet es.dropLast := by
  cases h with
  | write hstatus saved => exact saved.not_isMutation_of_mem_dropLast
  | delete | keep => exact List.forall_mem_nil _

theorem CarriedOut.hasWritten_iff {decision : Decision} {es : List (Exchange Calls)}
    {result : Except Error Action} (h : CarriedOut record decision es result) :
    HasWritten es ↔ result = .ok (.requeue progressDelay) := by
  cases h with
  | @write decision status hstatus es result saved =>
    rw [saved.hasWritten_iff]
    cases result <;> simp [Except.map]
  | delete answer => cases answer <;> simp [HasWritten, Except.map]
  | keep =>
    have hdelay : retentionDelay ≠ progressDelay := by decide
    simp [HasWritten, hdelay]

theorem CarriedOut.hasDeleted_iff {decision : Decision} {es : List (Exchange Calls)}
    {result : Except Error Action} (h : CarriedOut record decision es result) :
    HasDeleted es ↔ result = .ok .awaitChange := by
  cases h with
  | @write decision status hstatus es result saved =>
    have hkept := saved.not_hasDeleted
    cases result <;> simp [hkept, Except.map]
  | delete answer =>
    cases answer with
    | error e => simp [HasDeleted, Except.map]
    | ok _ => simp [HasDeleted, Except.map]
  | keep => simp [HasDeleted]

/-- A request is kept exactly if its cycle is over and nothing is tried. -/
theorem CarriedOut.kept_iff {decision : Decision} {before es : List (Exchange Calls)}
    {result : Except Error Action} (h : CarriedOut record decision es result)
    (decided : Decided ctx record now before decision) :
    result = .ok (.requeue retentionDelay) ↔ record.phase.isTerminal ∧ AreQuiet es := by
  cases h with
  | @write decision status hstatus es result saved =>
    have hdelay : progressDelay ≠ retentionDelay := by decide
    have hphase : ¬record.phase.isTerminal := by
      intro terminal
      rcases (decided.of_isTerminal terminal).2 with rfl | rfl <;> cases hstatus
    cases result <;> simp [hphase, hdelay, Except.map]
  | delete answer =>
    have hloud : ¬AreQuiet [⟨.delete record.name, answer⟩] :=
      fun quiet ↦ quiet _ List.mem_cons_self trivial
    cases answer <;> simp [hloud, Except.map]
  | keep =>
    have hphase := decided.isTerminal (Or.inr rfl)
    simp [hphase, AreQuiet]

/-- A request whose cycle goes on is neither kept nor deleted: its status is written, or nothing
is achieved. -/
theorem CarriedOut.hasWritten_of_ok {decision : Decision} {before es : List (Exchange Calls)}
    {result : Except Error Action} (h : CarriedOut record decision es result)
    (decided : Decided ctx record now before decision) (active : record.phase.isTerminal = false)
    {action : Action} (hresult : result = .ok action) : HasWritten es := by
  cases h with
  | @write decision status hstatus es result saved =>
    cases result with
    | error e => cases hresult
    | ok _ => exact saved.hasWritten_iff.2 rfl
  | delete =>
    rw [decided.isTerminal (Or.inl rfl)] at active
    cases active
  | keep =>
    rw [decided.isTerminal (Or.inr rfl)] at active
    cases active

theorem CarriedOut.cases_ok {decision : Decision} {es : List (Exchange Calls)}
    {result : Except Error Action} (h : CarriedOut record decision es result) :
    result = .ok (.requeue progressDelay) ∨ result = .ok .awaitChange ∨
      result = .ok (.requeue retentionDelay) ∨ ∃ e, result = .error e := by
  cases h with
  | @write decision status hstatus es result saved => cases result <;> simp [Except.map]
  | delete answer => cases answer <;> simp [Except.map]
  | keep => exact Or.inr (Or.inr (Or.inl rfl))

/-- A request whose cycle is over is decided on without fail. -/
theorem exists_decide_eq_of_isTerminal (ctx : Context) (now : Instant)
    (terminal : record.phase.isTerminal) :
    ∃ decision, decide ctx record now = .done (.ok decision) := by
  have hreads : readsPatterns (record.status.getD {}).phase = false := by
    change readsPatterns record.phase = false
    cases hphase : record.phase <;> simp_all [readsPatterns, Phase.isTerminal]
  unfold decide
  dsimp only
  rw [hreads]
  change (record.status.getD {}).phase.isTerminal at terminal
  cases hphase : (record.status.getD {}).phase with
  | completed | failed | skipped => exact ⟨_, rfl⟩
  | empty | pending | v2Running | v2Completed | v3Running | v3Completed =>
    rw [hphase] at terminal
    cases terminal

/-- What the result of a full course of a pass tells about the store. -/
structure Reports (name : String) (es : List (Exchange Calls)) (result : Except Error Action) :
    Prop where
  /-- A status was written. -/
  written : result = .ok (.requeue progressDelay) ↔ HasWritten es
  /-- There is no such request, or none any more. -/
  gone : result = .ok .awaitChange ↔
    (∃ e, es.head? = some ⟨.get name, .error e⟩ ∧ e.isNotFound) ∨ HasDeleted es
  /-- The request is finished, and nothing was tried. -/
  kept : result = .ok (.requeue retentionDelay) ↔
    (∃ record, es.head? = some ⟨.get name, .ok record⟩ ∧ record.phase.isTerminal) ∧ AreQuiet es
  /-- There is no other success. -/
  failed : (∃ e, result = .error e) ↔ result ≠ .ok (.requeue progressDelay) ∧
    result ≠ .ok .awaitChange ∧ result ≠ .ok (.requeue retentionDelay)
  /-- A failed pass changed nothing. -/
  unchanged : ∀ e, result = .error e → ¬HasWritten es ∧ ¬HasDeleted es
  /-- A pass over an unfinished request is only a success if it wrote a status. -/
  committed : ∀ record, es.head? = some ⟨.get name, .ok record⟩ →
    record.phase.isTerminal = false → ∀ action, result = .ok action → HasWritten es

theorem CarriedOut.not_openBackupper {decision : Decision} {es : List (Exchange Calls)}
    {result : Except Error Action} (h : CarriedOut record decision es result) :
    ∀ e ∈ es, ∀ t v, e.request ≠ .openBackupper t v := by
  cases h with
  | write hstatus saved => cases saved <;> simp
  | delete answer => simp
  | keep => exact List.forall_mem_nil _

/-- A pass opens makers of backups for one target at most, and only for the version of the round
that the record it read is in, if the sub-status in that record is under way. -/
theorem Passed.opensFor {es : List (Exchange Calls)} {result : Except Error Action}
    (h : Passed ctx name es result) :
    OpensFor es fun t v ↦ ∃ current, es.head? = some ⟨.get name, .ok current⟩ ∧
      current.phase = .running v ∧
        Runner.IsUnderWay ((current.status.getD {}).sub t.name v) := by
  have hread {current : Record} {now : Instant} {es : List (Exchange Calls)}
      {p : Target → Datastore → Prop} (hes : OpensFor es p) :
      OpensFor (⟨.get name, .ok current⟩ :: ⟨.now, now⟩ :: es) p :=
    (hes.cons (e := ⟨.now, now⟩) nofun).cons nofun
  cases h with
  | unread e => exact (OpensFor.nil _).cons nofun
  | undecided failed =>
    exact hread ((opensFor_of_leads failed).mono fun t v hv ↦ ⟨_, rfl, hv⟩)
  | decided decided carriedOut =>
    refine OpensFor.append_right carriedOut.not_openBackupper ?_
    exact hread ((opensFor_of_leads decided).mono fun t v hv ↦ ⟨_, rfl, hv⟩)

theorem Passed.areQuiet_dropLast {es : List (Exchange Calls)} {result : Except Error Action}
    (h : Passed ctx name es result) : AreQuiet es.dropLast := by
  cases h with
  | unread e => exact List.forall_mem_nil _
  | undecided failed => exact (areQuiet_read _ _ _ (areQuiet_of_leads failed)).dropLast
  | decided decided carriedOut =>
    exact (areQuiet_read _ _ _ (areQuiet_of_leads decided)).dropLast_append
      carriedOut.areQuiet_dropLast

theorem reports_unread (name : String) (e : Error) :
    Reports name [⟨.get name, .error e⟩]
      (if e.isNotFound then .ok .awaitChange else .error e) := by
  have hquiet : AreQuiet [⟨.get name, .error e⟩] := by
    intro exchange hmem
    rw [List.mem_singleton.1 hmem]
    exact id
  have hwritten := hquiet.not_hasWritten
  have hdeleted := hquiet.not_hasDeleted
  cases hfound : e.isNotFound <;> constructor <;> simp [hwritten, hdeleted, hfound]

theorem reports_undecided {es : List (Exchange Calls)} {e : Error}
    (failed : (decide ctx current now).Leads es (.done (.error e))) :
    Reports name (⟨.get name, .ok current⟩ :: ⟨.now, now⟩ :: es) (.error e) := by
  have hquiet := areQuiet_read name (.ok current) now (areQuiet_of_leads failed)
  have hwritten := hquiet.not_hasWritten
  have hdeleted := hquiet.not_hasDeleted
  have hactive : ¬current.phase.isTerminal := by
    intro terminal
    obtain ⟨decision, hdecide⟩ := exists_decide_eq_of_isTerminal ctx now terminal
    rw [hdecide] at failed
    cases failed
  constructor <;> simp [hwritten, hdeleted, hactive]

theorem reports_decided {es es' : List (Exchange Calls)} {decision : Decision}
    {result : Except Error Action}
    (course : (decide ctx current now).Leads es (.done (.ok decision)))
    (carriedOut : CarriedOut current decision es' result) :
    Reports name (⟨.get name, .ok current⟩ :: ⟨.now, now⟩ :: es ++ es') result := by
  have hquiet := areQuiet_read name (.ok current) now (areQuiet_of_leads course)
  have hdecided := decided_of_leads course
  constructor
  case written => rw [hquiet.hasWritten_append_iff, carriedOut.hasWritten_iff]
  case gone =>
    rw [hquiet.hasDeleted_append_iff, carriedOut.hasDeleted_iff]
    simp
  case kept =>
    rw [carriedOut.kept_iff hdecided, hquiet.append_iff]
    simp
  case failed =>
    have hdelay : progressDelay ≠ retentionDelay := by decide
    rcases carriedOut.cases_ok with h | h | h | ⟨e, h⟩ <;> simp [h, hdelay]
  case unchanged =>
    rintro e rfl
    rw [hquiet.hasWritten_append_iff, hquiet.hasDeleted_append_iff, carriedOut.hasWritten_iff,
      carriedOut.hasDeleted_iff]
    simp
  case committed =>
    intro record hread active action hresult
    cases hread
    rw [hquiet.hasWritten_append_iff]
    exact carriedOut.hasWritten_of_ok hdecided active hresult

theorem Passed.reports {es : List (Exchange Calls)} {result : Except Error Action}
    (h : Passed ctx name es result) : Reports name es result := by
  cases h with
  | unread e => exact reports_unread name e
  | undecided failed => exact reports_undecided failed
  | decided decided carriedOut => exact reports_decided decided carriedOut

/-- A pass is over with its request to change the store. -/
theorem passed_of_isMutation {es : List (Exchange Calls)} {rest : Job (Except Error Action)}
    (course : (reconcile ctx name).Leads es rest) {e : Exchange Calls} (he : e ∈ es)
    (hmutation : e.request.IsMutation) :
    ∃ result, rest = .done result ∧ Passed ctx name es result := by
  obtain ⟨es', result, hrest, hpassed⟩ := exists_passed_of_leads course
  by_cases hnil : es' = []
  · rw [hnil] at hrest
    cases hrest
    exact ⟨result, rfl, passed_of_leads course⟩
  · have hquiet := hpassed.areQuiet_dropLast
    rw [List.dropLast_append_of_ne_nil hnil] at hquiet
    exact (hquiet e (List.mem_append_left _ he) hmutation).elim

/-- A pass makes at most one request to change the store, its last, and opens makers of backups for
one target at most; it can be cut short anywhere before that request without any change, and its
result tells what it did. -/
theorem changes_and_result_of_leads {es : List (Exchange Calls)}
    {rest : Job (Except Error Action)} (course : (reconcile ctx name).Leads es rest) :
    (∀ e ∈ es.dropLast, ¬e.request.IsMutation) ∧
      ((∃ e ∈ es, e.request.IsMutation) → ∃ result, rest = .done result) ∧
      (∃ target, ∀ e ∈ es, ∀ t v, e.request = .openBackupper t v → t = target) ∧
      (∃ es' result, rest.Leads es' (.done result)) ∧
      ∀ result, rest = .done result → Reports name es result := by
  obtain ⟨es', result, hrest, hpassed⟩ := exists_passed_of_leads course
  have hquiet := hpassed.areQuiet_dropLast
  refine ⟨?_, ?_, ?_, ⟨es', result, hrest⟩, ?_⟩
  · intro e he
    refine hquiet e ?_
    by_cases hnil : es' = []
    · rwa [hnil, List.append_nil]
    · rw [List.dropLast_append_of_ne_nil hnil]
      exact List.mem_append_left _ (List.dropLast_subset es he)
  · rintro ⟨e, he, hmutation⟩
    obtain ⟨result, hdone, -⟩ := passed_of_isMutation course he hmutation
    exact ⟨result, hdone⟩
  · obtain ⟨target, hopen⟩ := hpassed.opensFor
    exact ⟨target, fun e he t v hrequest ↦ (hopen e (List.mem_append_left _ he) t v hrequest).1⟩
  · rintro result rfl
    exact (passed_of_leads course).reports

/-! ### The write of a pass -/

/-- The courses of a pass up to the write of a status, with the record that it gives to the store:
the stored record with the status that it decided on. -/
inductive Writes (ctx : Context) (name : String) : List (Exchange Calls) → Record → Prop
  | intro {current fresh : Record} {now : Instant} {es : List (Exchange Calls)}
      {decision : Decision} {status : Status}
      (decided : (decide ctx current now).Leads es (.done (.ok decision)))
      (hstatus : decision.status? = some status) (same : fresh.status = current.status) :
      Writes ctx name
        (⟨.get name, .ok current⟩ :: ⟨.now, now⟩ :: es ++ [⟨.get current.name, .ok fresh⟩])
        { fresh with status := some status }

theorem CarriedOut.of_updateStatus {decision : Decision} {es : List (Exchange Calls)}
    {result : Except Error Action} (h : CarriedOut record decision es result) {given : Record}
    {answer : Except Error Unit} (hmem : ⟨.updateStatus given, answer⟩ ∈ es) :
    ∃ status fresh, decision.status? = some status ∧ fresh.status = record.status ∧
      given = { fresh with status := some status } ∧
      es = [⟨.get record.name, .ok fresh⟩, ⟨.updateStatus given, answer⟩] ∧
      result = answer.map fun _ ↦ .requeue progressDelay := by
  cases h with
  | write hstatus saved =>
    cases saved with
    | unread | moved => simp at hmem
    | tried same answer =>
      simp only [List.mem_cons, List.not_mem_nil, or_false] at hmem
      rcases hmem with hmem | hmem
      · cases hmem
      · cases hmem
        exact ⟨_, _, hstatus, same, rfl, rfl, rfl⟩
  | delete | keep => simp at hmem

/-- A pass that writes a status has nothing else to do. -/
theorem writes_of_leads {es : List (Exchange Calls)} {given : Record}
    {answer : Except Error Unit} {rest : Job (Except Error Action)}
    (course : (reconcile ctx name).Leads (es ++ [⟨.updateStatus given, answer⟩]) rest) :
    Writes ctx name es given ∧ rest = .done (answer.map fun _ ↦ .requeue progressDelay) := by
  have hmem : ⟨.updateStatus given, answer⟩ ∈ es ++ [⟨.updateStatus given, answer⟩] :=
    List.mem_append_right _ List.mem_cons_self
  obtain ⟨result, rfl, hpassed⟩ := passed_of_isMutation course hmem trivial
  generalize hall : es ++ [⟨.updateStatus given, answer⟩] = all at hpassed hmem
  cases hpassed with
  | unread e => simp at hmem
  | undecided failed =>
    exact ((areQuiet_read _ _ _ (areQuiet_of_leads failed)) _ hmem trivial).elim
  | @decided current now _ _ _ _ decided carriedOut =>
    have hquiet := areQuiet_read name (.ok current) now (areQuiet_of_leads decided)
    rcases List.mem_append.1 hmem with hmem | hmem
    · exact (hquiet _ hmem trivial).elim
    · obtain ⟨status, fresh, hstatus, same, rfl, rfl, rfl⟩ := carriedOut.of_updateStatus hmem
      obtain ⟨rfl, -⟩ := List.append_inj' (hall.trans (List.append_cons _ _ _)) rfl
      exact ⟨.intro decided hstatus same, rfl⟩

/-- Default settings, for a management cluster that no datastore is known of. -/
def plainContext (skipManagement : Bool) : Context where
  management := { name := managementName }
  skipManagement := skipManagement
  retry := {}
  retention := {}
  azureMinimum := ⟨0, 2, 0, [], []⟩

/-- A pass that takes a request from one round to the next. -/
theorem changes_and_result_of_leads_proceed :
    let record : Record :=
      { metadata := { name := some "b" }, status := some { phase := .v2Completed } }
    let es : List (Exchange Calls) := [⟨.get "b", .ok record⟩, ⟨.now, default⟩,
      ⟨.get "b", .ok record⟩,
      ⟨.updateStatus { record with status := some { phase := .v3Running } }, .ok ()⟩]
    Leads (reconcile (plainContext true) "b") es (.done (.ok (.requeue progressDelay))) ∧
      Reports "b" es (.ok (.requeue progressDelay)) := by
  intro record es
  have saved : Saved record { phase := .v3Running } [⟨.get "b", .ok record⟩,
      ⟨.updateStatus { record with status := some { phase := .v3Running } }, .ok ()⟩] (.ok ()) :=
    .tried rfl (.ok ())
  have decided : Leads (decide (plainContext true) record default) []
      (.done (.ok (.advance { phase := .v3Running }))) := .rest _
  have course : Leads (reconcile (plainContext true) "b") es
      (.done (.ok (.requeue progressDelay))) :=
    (Passed.decided decided (.write rfl saved)).leads
  exact ⟨course, (changes_and_result_of_leads course).2.2.2.2 _ rfl⟩

end Pass

end EtcdBackup
