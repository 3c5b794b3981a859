import EtcdBackup.Operator
import EtcdBackup.Proofs.Controller.Effects
import EtcdBackup.Proofs.Selection

/-!
# The gates in front of a selection

Three places look at a specification before targets are selected from it: whether its patterns can
be used, whether tenant clusters are needed, and what the targets are. They agree: a selection
fails exactly if the check of the patterns does, and then with the same error, which is about the
first pattern that cannot be used (`Selection.checkPatterns_eq_error_iff`); and one that needs no
tenant clusters is the same without looking them up (`Runner.select_eq_done`).

So what the check lets through can only fail to be selected if the tenant clusters cannot be
looked up (`Runner.eq_discover_of_select_error`), and a pass that fails was answered its error, or
found another status than it started from (`Pass.Passed.isFailureIn`). The operator itself never
answers that something is invalid (`Operator.Answers.not_fails`), so no pass fails because of its
patterns again and again: they end the cycle of their request (`Pass.gates_agree`).
-/

set_option autoImplicit false
set_option relaxedAutoImplicit false

namespace EtcdBackup

open Dialogue

namespace Selection

variable {spec : Spec} {e : Error}

/-- The text of a field is no pattern, and the error says why. -/
def IsFaulty (field : PatternField) (text : Option String) (e : Error) : Prop :=
  ∃ t fault, text = some t ∧ t ≠ "" ∧ Pattern.compile t = .error fault ∧
    e = .validation (.pattern field t fault)

theorem compilePattern_eq_error_iff {field : PatternField} {text : Option String} :
    compilePattern field text = .error e ↔ IsFaulty field text e := by
  unfold IsFaulty
  cases text with
  | none => exact iff_of_false nofun fun ⟨_, _, h, _⟩ ↦ nomatch h
  | some t =>
    unfold compilePattern
    dsimp only
    split
    case isTrue hempty =>
      refine iff_of_false nofun ?_
      rintro ⟨_, _, ⟨⟩, hne, -⟩
      exact hne (String.isEmpty_iff.1 hempty)
    case isFalse hsome =>
      cases compiled : Pattern.compile t with
      | ok p =>
        refine iff_of_false nofun ?_
        rintro ⟨_, _, ⟨⟩, -, hfault, -⟩
        rw [compiled] at hfault
        cases hfault
      | error fault =>
        constructor
        · rintro ⟨⟩
          exact ⟨t, fault, rfl, mt String.isEmpty_iff.2 hsome, compiled, rfl⟩
        · rintro ⟨_, _, ⟨⟩, -, hfault, rfl⟩
          rw [compiled] at hfault
          cases hfault
          rfl

/-- The check refuses a request for tenant clusters without names if one of its patterns cannot be
used, and names the first of them. -/
theorem checkPatterns_eq_error_iff : checkPatterns spec = .error e ↔
    spec.clusterNames = [] ∧ spec.guestBackup = true ∧
      (IsFaulty .included spec.clustersRegex e ∨
        (∀ e', ¬IsFaulty .included spec.clustersRegex e') ∧
          IsFaulty .excluded spec.clustersToExcludeRegex e) := by
  have hcompile : compilePatterns spec = .error e ↔ IsFaulty .included spec.clustersRegex e ∨
      (∀ e', ¬IsFaulty .included spec.clustersRegex e') ∧
        IsFaulty .excluded spec.clustersToExcludeRegex e := by
    simp only [← compilePattern_eq_error_iff]
    unfold compilePatterns
    cases compilePattern .included spec.clustersRegex with
    | error e' => simp [Bind.bind, Except.bind]
    | ok _ =>
      cases compilePattern .excluded spec.clustersToExcludeRegex <;> simp [Bind.bind, Except.bind]
  by_cases counts : spec.clusterNames = [] ∧ spec.guestBackup = true
  · rw [checkPatterns_of_guests counts.1 counts.2, ← hcompile]
    cases compilePatterns spec <;> simp [Except.map, counts]
  · have ignored : usesPatterns spec = false := by
      rw [usesPatterns, Bool.and_eq_false_iff, ← Bool.not_eq_true, List.isEmpty_iff,
        ← Bool.not_eq_true]
      exact not_and_or.1 counts
    rw [checkPatterns, ignored]
    exact iff_of_false nofun fun ⟨unnamed, guests, _⟩ ↦ counts ⟨unnamed, guests⟩

/-- What the gates in front of a selection tell about it. -/
structure HasGates (spec : Spec) (management : Target) (skipManagement : Bool)
    (tenants : List Target) : Prop where
  /-- The selection fails as the check of the patterns does. -/
  fails_iff : ∀ e, ofSpec spec management skipManagement tenants = .error e ↔
    checkPatterns spec = .error e
  /-- The check fails on patterns that count and cannot be used. -/
  invalid_iff : ∀ e, checkPatterns spec = .error e ↔
    spec.clusterNames = [] ∧ spec.guestBackup = true ∧
      (IsFaulty .included spec.clustersRegex e ∨
        (∀ e', ¬IsFaulty .included spec.clustersRegex e') ∧
          IsFaulty .excluded spec.clustersToExcludeRegex e)
  /-- Where no tenant clusters are needed, they do not matter. -/
  needless : needsTenants spec = false → ∀ others,
    ofSpec spec management skipManagement others = ofSpec spec management skipManagement tenants

theorem hasGates (spec : Spec) (management : Target) (skipManagement : Bool)
    (tenants : List Target) : HasGates spec management skipManagement tenants where
  fails_iff _ := ofSpec_eq_error_iff
  invalid_iff _ := checkPatterns_eq_error_iff
  needless h others := ofSpec_eq_of_not_needsTenants h management skipManagement others tenants

end Selection

namespace Runner

variable {ctx : Context} {record : Record}

/-- Without a need for tenant clusters, a selection is what it would be with any of them, and none
are looked up. -/
theorem select_eq_done (needless : Selection.needsTenants record.spec = false)
    (tenants : List Target) : select ctx record =
      .done (Selection.ofSpec record.spec ctx.management ctx.skipManagement tenants) := by
  rw [Selection.ofSpec_eq_of_not_needsTenants needless _ _ tenants []]
  unfold select
  rw [needless]
  rfl

/-- A selection from patterns that passed their check fails with the lookup of the tenant
clusters, or not at all. -/
theorem eq_discover_of_select_error (checked : Selection.checkPatterns record.spec = .ok ())
    {look : List (Exchange Calls)} {e : Error}
    (h : (select ctx record).Leads look (.done (.error e))) : look = [⟨.discover, .error e⟩] := by
  have hselected (tenants : List Target) :
      Selection.ofSpec record.spec ctx.management ctx.skipManagement tenants ≠ .error e := by
    rw [Ne, Selection.ofSpec_eq_error_iff, checked]
    exact nofun
  rcases cases_of_leads_select h with ⟨-, answer, rfl, hanswer⟩ | ⟨-, -, hselect⟩
  · cases answer with
    | error e' =>
      cases hanswer
      rfl
    | ok tenants => exact (hselected tenants hanswer.symm).elim
  · exact (hselected [] hselect.symm).elim

end Runner

/-! ### Where the error of a pass comes from -/

/-- The exchange is a request that failed with an error. -/
inductive Fails (e : Error) : Exchange Calls → Prop
  | get (name : String) : Fails e ⟨.get name, .error e⟩
  | list : Fails e ⟨.list, .error e⟩
  | discover : Fails e ⟨.discover, .error e⟩
  | updateStatus (record : Record) : Fails e ⟨.updateStatus record, .error e⟩
  | delete (name : String) : Fails e ⟨.delete name, .error e⟩

/-- The error was answered, or it is that the status is not the one that was read. -/
def IsFailureIn (e : Error) (es : List (Exchange Calls)) : Prop :=
  (∃ x ∈ es, Fails e x) ∨ ∃ name, e = .conflict (.statusMoved name)

theorem IsFailureIn.append {e : Error} {es' : List (Exchange Calls)} (h : IsFailureIn e es')
    (es : List (Exchange Calls)) : IsFailureIn e (es ++ es') :=
  h.imp_left fun ⟨x, hx, fails⟩ ↦ ⟨x, List.mem_append_right _ hx, fails⟩

theorem Saved.isFailureIn {known : Record} {status : Status} {es : List (Exchange Calls)}
    {result : Except Error Unit} (h : Saved known status es result) {e : Error}
    (hresult : result = .error e) : IsFailureIn e es := by
  cases h with
  | unread =>
    cases hresult
    exact .inl ⟨_, .head _, .get _⟩
  | moved =>
    cases hresult
    exact .inr ⟨_, rfl⟩
  | tried =>
    rw [hresult]
    exact .inl ⟨_, .tail _ (.head _), .updateStatus _⟩

namespace Pass

variable {ctx : Context} {name : String} {record : Record} {now : Instant}

theorem CarriedOut.isFailureIn {decision : Decision} {es : List (Exchange Calls)}
    {result : Except Error Action} (h : CarriedOut record decision es result) {e : Error}
    (hresult : result = .error e) : IsFailureIn e es := by
  cases h with
  | @write _ _ _ es written saved =>
    cases written with
    | ok _ => cases hresult
    | error e' =>
      cases hresult
      exact saved.isFailureIn rfl
  | delete answer =>
    cases answer with
    | ok _ => cases hresult
    | error e' =>
      cases hresult
      exact .inl ⟨_, .head _, .delete _⟩
  | keep => cases hresult

theorem isFailureIn_of_decide {es : List (Exchange Calls)} {e : Error}
    (h : (decide ctx record now).Leads es (.done (.error e))) : IsFailureIn e es := by
  rcases undecided_of_leads h with rfl | ⟨checked, hselect⟩
  · exact .inl ⟨_, .head _, .list⟩
  · rw [Runner.eq_discover_of_select_error checked hselect]
    exact .inl ⟨_, .head _, .discover⟩

/-- A pass that fails was answered its error, or found another status than it started from. -/
theorem Passed.isFailureIn {es : List (Exchange Calls)} {result : Except Error Action}
    (h : Passed ctx name es result) {e : Error} (hresult : result = .error e) :
    IsFailureIn e es := by
  cases h with
  | unread e' =>
    split at hresult
    · cases hresult
    · cases hresult
      exact .inl ⟨_, .head _, .get _⟩
  | @undecided current now es _ failed =>
    cases hresult
    exact (isFailureIn_of_decide failed).append [_, _]
  | decided _ carriedOut => exact (carriedOut.isFailureIn hresult).append _

/-! ### Patterns that cannot be used -/

/-- The status of a request that failed for a reason of its own. -/
def rejection (status : Status) (e : Error) (now : Instant) : Status :=
  { status with error := some e.message, finished := some now, phase := .failed }

/-- A pass over a request whose patterns cannot be used writes the reason, and does nothing else. -/
theorem work_of_invalid (ctx : Context) (now : Instant) {e : Error}
    (reads : readsPatterns record.phase)
    (invalid : Selection.checkPatterns record.spec = .error e) :
    work ctx record now =
      Decision.carryOut record (.advance (rejection (record.status.getD {}) e now)) := by
  unfold work
  rw [decide_of_invalid ctx now reads invalid]
  rfl

theorem only_persistStatus (known : Record) (status : Status) :
    Only Call.IsOnRecord (persistStatus known status) := by
  refine Job.only_call_bind trivial fun fresh ↦ ?_
  cases fresh with
  | error e => trivial
  | ok fresh =>
    dsimp only
    split
    · exact Job.only_call trivial
    · trivial

theorem only_carryOut (decision : Decision) :
    Only Call.IsOnRecord (decision.carryOut record) := by
  have hdone {α β : Type} (f : α → β) (answer : Except Error α) :
      Only Call.IsOnRecord (onOk (fun a ↦ pure (.ok (f a))) answer) := by
    cases answer <;> trivial
  cases decision with
  | advance status => exact (only_persistStatus record status).bind (hdone _)
  | progress status => exact (only_persistStatus record status).bind (hdone _)
  | delete => exact Job.only_call_bind trivial (hdone _)
  | keep => trivial

/-- What a pass does once it has read its record and the clock. -/
theorem leads_work {es : List (Exchange Calls)} {rest : Job (Except Error Action)}
    (h : (reconcile ctx name).Leads (⟨.get name, .ok record⟩ :: ⟨.now, now⟩ :: es) rest) :
    (work ctx record now).Leads es rest := by
  rw [reconcile_eq] at h
  cases h with
  | ask h =>
    cases h with
    | ask h => exact h

/-- What the check of the patterns makes of a pass that read a record and the clock, made the
exchanges `es` since and is left with `rest`. -/
structure IsGated (ctx : Context) (record : Record) (now : Instant) (es : List (Exchange Calls))
    (rest : Job (Except Error Action)) : Prop where
  /-- With patterns that cannot be used, neither tenant clusters nor makers of backups are asked
  for. -/
  spared : ∀ e, Selection.checkPatterns record.spec = .error e → ∀ x ∈ es,
    x.request ≠ .discover ∧ ∀ t v, x.request ≠ .openBackupper t v
  /-- All that is done is to write that the request failed, and why. -/
  rejected : ∀ e, Selection.checkPatterns record.spec = .error e → ∀ result, rest = .done result →
    ∃ written, Saved record (rejection (record.status.getD {}) e now) es written ∧
      result = written.map fun _ ↦ .requeue progressDelay
  /-- Otherwise a selection only fails with the lookup of the tenant clusters. -/
  selects : Selection.checkPatterns record.spec = .ok () → ∀ look e,
    (Runner.select ctx record).Leads look (.done (.error e)) → look = [⟨.discover, .error e⟩]
  /-- A failure was answered to the pass, or the status is not the one that was read. -/
  failed : ∀ e, rest = .done (.error e) → IsFailureIn e es

theorem isGated_of_leads (reads : readsPatterns record.phase) {es : List (Exchange Calls)}
    {rest : Job (Except Error Action)} (h : (work ctx record now).Leads es rest) :
    IsGated ctx record now es rest where
  spared e invalid x hx := by
    rw [work_of_invalid ctx now reads invalid] at h
    have hrecord := (only_carryOut _).request h x hx
    constructor
    · intro hdiscover
      rw [hdiscover] at hrecord
      exact hrecord
    · intro t v hopen
      rw [hopen] at hrecord
      exact hrecord
  rejected e invalid result hdone := by
    rw [work_of_invalid ctx now reads invalid, hdone] at h
    cases carriedOut_of_leads h with
    | write hstatus saved =>
      cases hstatus
      exact ⟨_, saved, rfl⟩
  selects checked look e hselect := Runner.eq_discover_of_select_error checked hselect
  failed e hdone := by
    rw [hdone] at h
    obtain ⟨before, decision, after, rfl, hdecide, hcarry⟩ := leads_bind_done_iff.1 h
    cases decision with
    | error e' =>
      cases hcarry
      rw [List.append_nil]
      exact isFailureIn_of_decide hdecide
    | ok decision => exact ((carriedOut_of_leads hcarry).isFailureIn rfl).append _

end Pass

/-! ### What the operator answers a pass -/

namespace Operator

variable {setup : Setup}

/-- The answer is one that the operator comes to. -/
def Answers (setup : Setup) (x : Exchange Calls) : Prop :=
  ∃ o es o', (answer setup x.request o).Leads es (.done (x.answer, o'))

/-- What the operator comes to with a computation is a course of it, with the answers of the
operator. -/
theorem exists_leads_of_run {α : Type} {job : Job α} {o o' : Operator}
    {es : List (Exchange Effects)} {a : α} (h : (run setup job o).Leads es (.done (a, o'))) :
    ∃ xs, job.Leads xs (.done a) ∧ ∀ x ∈ xs, Answers setup x := by
  induction job generalizing o es with
  | done b =>
    cases h
    exact ⟨[], .rest _, List.forall_mem_nil _⟩
  | ask request next ih =>
    change (answer setup request o >>= fun p ↦ run setup (next p.1) p.2).Leads es _ at h
    obtain ⟨first, ⟨reply, between⟩, second, rfl, hanswer, hnext⟩ := leads_bind_done_iff.1 h
    obtain ⟨xs, course, answers⟩ := ih reply hnext
    exact ⟨⟨request, reply⟩ :: xs, .ask course,
      List.forall_mem_cons.2 ⟨⟨o, first, between, hanswer⟩, answers⟩⟩

/-- A computation that leaves the operator as it is. -/
theorem leads_of_lift {α : Type} {d : Work α} {o o' : Operator} {es : List (Exchange Effects)}
    {a : α} (h : ((StateT.lift d : Run α) o).Leads es (.done (a, o'))) : d.Leads es (.done a) := by
  obtain ⟨first, b, second, rfl, hd, hend⟩ := leads_bind_done_iff.1 h
  cases hend
  rw [List.append_nil]
  exact hd

/-- The operator never answers a pass that something is invalid. -/
theorem Answers.not_fails {x : Exchange Calls} (h : Answers setup x) (cause : Invalid) :
    ¬Fails (.validation cause) x := by
  obtain ⟨o, es, o', hanswer⟩ := h
  intro fails
  cases fails with
  | get name =>
    obtain ⟨_, answer, _, -, -, hend⟩ := leads_bind_done_iff.1 (leads_of_lift hanswer)
    cases answer <;> cases hend
  | list =>
    obtain ⟨_, answer, _, -, -, hend⟩ := leads_bind_done_iff.1 (leads_of_lift hanswer)
    cases answer <;> cases hend
  | discover =>
    obtain ⟨_, found, _, -, -, hend⟩ := leads_bind_done_iff.1 (leads_of_lift hanswer)
    cases found with
    | none => cases hend
    | some found =>
      obtain ⟨_, _, _, -, -, hresolve⟩ := leads_bind_done_iff.1 hend
      obtain ⟨_, targets, _, -, -, hdone⟩ := leads_bind_done_iff.1 hresolve
      cases hdone
  | updateStatus record =>
    obtain ⟨_, answer, _, -, -, hend⟩ := leads_bind_done_iff.1 (leads_of_lift hanswer)
    cases answer with
    | ok _ => cases hend
    | error e =>
      dsimp only at hend
      split at hend <;> cases hend
  | delete name =>
    obtain ⟨_, answer, _, -, -, hend⟩ := leads_bind_done_iff.1 (leads_of_lift hanswer)
    cases answer with
    | ok _ => cases hend
    | error e =>
      dsimp only at hend
      cases hfound : (Error.kube e).isNotFound <;> rw [hfound] at hend <;> cases hend

end Operator

namespace Pass

/-- The check of the patterns, the question whether tenant clusters are needed and the selection
agree for every specification, so a pass over a request whose patterns are read gets past them or
ends the cycle of its request with the reason; no pass of the operator fails because something is
invalid. -/
theorem gates_agree :
    (∀ spec management skipManagement tenants,
      Selection.HasGates spec management skipManagement tenants) ∧
    (∀ ctx record, Selection.needsTenants record.spec = false → ∀ tenants,
      Runner.select ctx record =
        .done (Selection.ofSpec record.spec ctx.management ctx.skipManagement tenants)) ∧
    (∀ ctx name record now es rest,
      record.phase = .pending ∨ record.phase = .v2Running ∨ record.phase = .v3Running →
      (reconcile ctx name).Leads (⟨.get name, .ok record⟩ :: ⟨.now, now⟩ :: es) rest →
      IsGated ctx record now es rest) ∧
    ∀ setup ctx name o es result o',
      (Operator.run setup (reconcile ctx name) o).Leads es (.done (result, o')) →
      ∀ cause, result ≠ .error (.validation cause) := by
  refine ⟨Selection.hasGates, fun _ _ ↦ Runner.select_eq_done, ?_, ?_⟩
  · intro ctx name record now es rest phase course
    have reads : readsPatterns record.phase := by
      rcases phase with phase | phase | phase <;> rw [phase] <;> rfl
    exact isGated_of_leads reads (leads_work course)
  · rintro setup ctx name o es result o' course cause rfl
    obtain ⟨xs, hpass, answers⟩ := Operator.exists_leads_of_run course
    rcases (passed_of_leads hpass).isFailureIn rfl with ⟨x, hx, fails⟩ | ⟨_, hmoved⟩
    · exact (answers x hx).not_fails cause fails
    · cases hmoved

/-- A group that is not closed, in a request whose first round has begun: the request fails with
the reason, by one write. -/
theorem gates_agree_unclosed :
    let spec : Spec := { guestBackup := true, clustersRegex := some "(" }
    let e : Error := .validation (.pattern .included "(" .unclosedGroup)
    let record : Record := { spec := spec, status := some { phase := .v2Running } }
    let failed : Status := { error := some e.message, finished := some default, phase := .failed }
    let es : List (Exchange Calls) := [⟨.get record.name, .ok record⟩,
      ⟨.updateStatus { record with status := some failed }, .ok ()⟩]
    Selection.ofSpec spec (plainContext false).management false [] = .error e ∧
      (reconcile (plainContext false) record.name).Leads
        (⟨.get record.name, .ok record⟩ :: ⟨.now, default⟩ :: es)
        (.done (.ok (.requeue progressDelay))) ∧
      ∀ x ∈ es, x.request ≠ .discover := by
  intro spec e record failed es
  have invalid : Selection.checkPatterns spec = .error e := by decide +kernel
  have decided : (decide (plainContext false) record default).Leads []
      (.done (.ok (.advance failed))) := by
    rw [decide_of_invalid _ _ rfl invalid]
    exact .rest _
  have course : (reconcile (plainContext false) record.name).Leads
      (⟨.get record.name, .ok record⟩ :: ⟨.now, default⟩ :: es)
      (.done (.ok (.requeue progressDelay))) :=
    (Passed.decided decided (.write rfl (.tried rfl (.ok ())))).leads
  have gated := gates_agree.2.2.1 _ _ _ _ _ _ (.inr (.inl rfl)) course
  exact ⟨((gates_agree.1 spec _ false []).fails_iff e).2 invalid, course,
    fun x hx ↦ (gated.spared e invalid x hx).1⟩

end Pass

end EtcdBackup
