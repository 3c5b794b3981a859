import EtcdBackup.Proofs.Backup.Successes
import EtcdBackup.Proofs.Controller.Effects
import EtcdBackup.Proofs.Metrics

/-!
# What a pass reports

A pass makes one retried backup at most. Once that is over, the pass reads the clock and reports
what it came to, before it writes anything (`BacksUp`). So a pass that is over has reported all
attempts that it made (`isReported_of_leads`), and one that is cut short has reported all of them or
none (`measurements_of_leads`).
-/

set_option autoImplicit false
set_option relaxedAutoImplicit false

namespace EtcdBackup

open Dialogue

/-- The measurement that an exchange reports. -/
def Exchange.measurement? : Exchange Calls → Option Measurement
  | ⟨.measure x, _⟩ => some x
  | _ => none

/-- What some exchanges report. -/
def measurements (es : List (Exchange Calls)) : List Measurement :=
  es.filterMap Exchange.measurement?

theorem measurements_append (es es' : List (Exchange Calls)) :
    measurements (es ++ es') = measurements es ++ measurements es' := List.filterMap_append

/-- The request has no part in a backup. -/
def Call.IsAside : Call → Prop
  | .now | .get _ | .list | .updateStatus _ | .delete _ | .discover => True
  | _ => False

/-- No exchange has a part in a backup. -/
def AreAside (es : List (Exchange Calls)) : Prop := ∀ e ∈ es, e.request.IsAside

/-- What is reported of a retried backup. -/
def Measurement.ofRetried (target : Target) (version : Datastore)
    (retried : Retried Error Backup.Outcome) (finished : Instant) : Measurement :=
  ⟨target.name, version, retried.attempts, retried.result.toOption, finished⟩

theorem Measurement.isSome_outcome_ofRetried (target : Target) (version : Datastore)
    (retried : Retried Error Backup.Outcome) (finished : Instant) :
    (ofRetried target version retried finished).outcome.isSome = retried.result.isOk := by
  unfold ofRetried
  cases retried.result <;> rfl

/-- The exchanges behind a retried backup: the clock is read, and then it is reported. -/
def Measurement.report (x : Measurement) : List (Exchange Calls) :=
  [⟨.now, x.finished⟩, ⟨.measure x, ()⟩]

/-- In the exchanges one retried backup is made, and then it is reported. -/
inductive BacksUp : List (Exchange Calls) → Measurement → Prop
  | intro {before made behind : List (Exchange Calls)} {target : Target} {version : Datastore}
      {policy : RetryPolicy} {retried : Retried Error Backup.Outcome} (aside : AreAside before)
      (course : (Backup.withRetries target version policy).Leads made (.done retried))
      (finished : Instant) (aside' : AreAside behind) :
      BacksUp (before ++ (made ++ (Measurement.ofRetried target version retried finished).report) ++
        behind) (.ofRetried target version retried finished)

/-- No backup is made in the exchanges, or one that is reported. -/
def IsReported (es : List (Exchange Calls)) : Prop := AreAside es ∨ ∃ x, BacksUp es x

/-- No backup is under way: none was begun, or it was reported. -/
def IsSettled (es : List (Exchange Calls)) : Prop :=
  measurements es = [] → ∀ target version, openings target version es = 0

section

variable {es es' : List (Exchange Calls)} {e : Exchange Calls} {x : Measurement}
  {target : String} {version : Datastore}

theorem Call.IsAside.opens_eq_false {c : Call} (h : c.IsAside) :
    c.opens target version = false := by
  cases c <;> first | exact h.elim | rfl

theorem Exchange.stage?_of_isAside (h : e.request.IsAside) : e.stage? = none := by
  obtain ⟨c, answer⟩ := e
  cases c <;> first | exact h.elim | rfl

theorem Exchange.measurement?_of_isAside (h : e.request.IsAside) : e.measurement? = none := by
  obtain ⟨c, answer⟩ := e
  cases c <;> first | exact h.elim | rfl

theorem Exchange.measurement?_of_isOfBackup {t : Target} {v : Datastore}
    (h : e.request.IsOfBackup t v) : e.measurement? = none := by
  obtain ⟨c, answer⟩ := e
  cases c <;> first | exact h.elim | rfl

/-- A retried backup only makes attempts for its own datastore. -/
theorem Backup.opens_eq_false_of_leads {t : Target} {v : Datastore} {policy : RetryPolicy}
    {r : Retried Error Outcome} (course : (withRetries t v policy).Leads es (.done r))
    (other : ¬(t.name = target ∧ v = version)) :
    ∀ e ∈ es, e.request.opens target version = false := by
  refine fun e he ↦ Bool.eq_false_iff.2 fun opens ↦ ?_
  obtain ⟨t', hrequest, hname⟩ := Call.opens_iff.1 opens
  have own := (only_withRetries t v policy).request course e he
  rw [hrequest] at own
  exact other ⟨own.1 ▸ hname, own.2.symm⟩

theorem Backup.measurements_eq_nil_of_leads {t : Target} {v : Datastore} {policy : RetryPolicy}
    {r : Retried Error Outcome} (course : (withRetries t v policy).Leads es (.done r)) :
    measurements es = [] :=
  List.filterMap_eq_nil_iff.2 fun e he ↦
    Exchange.measurement?_of_isOfBackup ((only_withRetries t v policy).request course e he)

namespace AreAside

theorem append (h : AreAside es) (h' : AreAside es') : AreAside (es ++ es') :=
  List.forall_mem_append.2 ⟨h, h'⟩

theorem openings_eq_zero (h : AreAside es) : openings target version es = 0 :=
  EtcdBackup.openings_eq_zero fun e he ↦ (h e he).opens_eq_false

theorem measurements_eq_nil (h : AreAside es) : measurements es = [] :=
  List.filterMap_eq_nil_iff.2 fun e he ↦ Exchange.measurement?_of_isAside (h e he)

theorem successes_append (h : AreAside es) :
    successes target version (es ++ es') = successes target version es' :=
  successes_append_of_forall fun e he ↦ (h e he).opens_eq_false

theorem startsAfresh (h : AreAside es) : StartsAfresh es :=
  startsAfresh_of_forall fun e he ↦ Exchange.stage?_of_isAside (h e he)

end AreAside

namespace BacksUp

theorem append_left (h : BacksUp es x) (aside : AreAside es') : BacksUp (es' ++ es) x := by
  cases h with
  | intro aside₁ course finished aside₂ =>
    rw [← List.append_assoc, ← List.append_assoc]
    exact .intro (aside.append aside₁) course finished aside₂

theorem append_right (h : BacksUp es x) (aside : AreAside es') : BacksUp (es ++ es') x := by
  cases h with
  | intro aside₁ course finished aside₂ =>
    rw [List.append_assoc]
    exact .intro aside₁ course finished (aside₂.append aside)

theorem measurements_eq (h : BacksUp es x) : measurements es = [x] := by
  cases h with
  | @intro before made behind target version policy retried aside course finished aside' =>
    rw [measurements_append, measurements_append, measurements_append, aside.measurements_eq_nil,
      aside'.measurements_eq_nil, Backup.measurements_eq_nil_of_leads course]
    rfl

/-- The attempts that are reported are those that were made. -/
theorem openings_eq (h : BacksUp es x) (name : String) (version : Datastore) :
    openings name version es = if x.isAbout name version then x.attempts else 0 := by
  cases h with
  | @intro before made behind target other policy retried aside course finished aside' =>
    have hreport : openings name version
        (Measurement.ofRetried target other retried finished).report = 0 := rfl
    rw [openings_append, openings_append, openings_append, aside.openings_eq_zero,
      aside'.openings_eq_zero, hreport, Nat.zero_add]
    by_cases own : target.name = name ∧ other = version
    · rw [if_pos (Measurement.isAbout_iff.2 own), ← own.1, ← own.2]
      exact Backup.openings_withRetries target other course
    · rw [if_neg (mt Measurement.isAbout_iff.1 own)]
      exact EtcdBackup.openings_eq_zero (Backup.opens_eq_false_of_leads course own)

/-- A success is reported if there was one. -/
theorem successes_eq (h : BacksUp es x) (name : String) (version : Datastore) :
    successes name version es =
      if x.isAbout name version ∧ x.outcome.isSome then 1 else 0 := by
  cases h with
  | @intro before made behind target other policy retried aside course finished aside' =>
    have afresh : StartsAfresh
        ((Measurement.ofRetried target other retried finished).report ++ behind) :=
      (aside'.startsAfresh.cons rfl).cons rfl
    have hbehind : successes name version behind = 0 := by
      rw [← List.append_nil behind, aside'.successes_append]
      rfl
    have hreport : successes name version
        ((Measurement.ofRetried target other retried finished).report ++ behind) = 0 :=
      (successes_cons rfl).trans ((successes_cons rfl).trans hbehind)
    rw [List.append_assoc, aside.successes_append, List.append_assoc, successes_append afresh,
      hreport, Nat.add_zero]
    by_cases own : target.name = name ∧ other = version
    · obtain ⟨rfl, rfl⟩ := own
      have about : (Measurement.ofRetried target other retried finished).isAbout target.name other :=
        Measurement.isAbout_iff.2 ⟨rfl, rfl⟩
      rw [Backup.successes_withRetries course]
      simp only [about, true_and, Measurement.isSome_outcome_ofRetried]
    · rw [if_neg fun about ↦ own (Measurement.isAbout_iff.1 about.1), ← List.append_nil made,
        successes_append_of_forall (Backup.opens_eq_false_of_leads course own)]
      rfl

theorem attempts_pos (h : BacksUp es x) : 1 ≤ x.attempts := by
  cases h with
  | intro aside course finished aside' => exact (Backup.attempts_withRetries _ _ course).1

end BacksUp

namespace IsReported

theorem append_left (h : IsReported es) (aside : AreAside es') : IsReported (es' ++ es) :=
  h.imp aside.append fun ⟨x, hx⟩ ↦ ⟨x, hx.append_left aside⟩

theorem append_right (h : IsReported es) (aside : AreAside es') : IsReported (es ++ es') :=
  h.imp (·.append aside) fun ⟨x, hx⟩ ↦ ⟨x, hx.append_right aside⟩

theorem cons (h : IsReported es) (he : e.request.IsAside) : IsReported (e :: es) :=
  @append_left es [e] h (List.forall_mem_singleton.2 he)

theorem isSettled (h : IsReported es) : IsSettled es := by
  rcases h with aside | ⟨x, hx⟩
  · exact fun _ _ _ ↦ aside.openings_eq_zero
  · intro none
    rw [hx.measurements_eq] at none
    cases none

/-- Exchanges that are cut short have nothing that is reported, or a whole backup. -/
theorem of_append (h : IsReported (es ++ es')) : measurements es = [] ∨ ∃ x, BacksUp es x := by
  rcases h with aside | ⟨x, hx⟩
  · exact .inl (AreAside.measurements_eq_nil fun e he ↦ aside e (List.mem_append_left _ he))
  generalize hall : es ++ es' = all at hx
  cases hx with
  | @intro before made behind target version policy retried aside course finished aside' =>
    rcases List.append_eq_append_iff.1 hall with ⟨cut, hcut, -⟩ | ⟨rest, rfl, rfl⟩
    · rcases List.eq_nil_or_concat cut with rfl | ⟨cut, last, rfl⟩
      · rw [List.append_nil] at hcut
        rw [← hcut, ← List.append_nil (before ++ _)]
        exact .inr ⟨_, .intro aside course finished (List.forall_mem_nil _)⟩
      · -- The report is cut off.
        have hquiet : measurements (before ++ made ++ [⟨.now, finished⟩]) = [] := by
          rw [measurements_append, measurements_append, aside.measurements_eq_nil,
            Backup.measurements_eq_nil_of_leads course]
          rfl
        have hcut' : before ++ made ++ [⟨.now, finished⟩] ++
            [⟨.measure (.ofRetried target version retried finished), ()⟩] = es ++ cut ++ [last] := by
          simpa [Measurement.report, Measurement.ofRetried] using hcut
        rw [(List.append_inj' hcut' rfl).1, measurements_append] at hquiet
        exact .inl (List.append_eq_nil_iff.1 hquiet).1
    · exact .inr ⟨_, .intro aside course finished
        fun e he ↦ aside' e (List.mem_append_left _ he)⟩

end IsReported

end

/-! ### The courses of a pass -/

namespace Runner

variable {ctx : Context} {record : Record} {target : Target} {version : Datastore}
  {status : Status} {es : List (Exchange Calls)}

theorem Moves.isReported {now : Instant} {sub sub' : SubStatus}
    (h : Moves ctx target version now sub es sub') : IsReported es := by
  cases h with
  | start | skip | exhaust => exact .inl (List.forall_mem_nil _)
  | @attempt started complete left es retried course finished =>
    have whole := BacksUp.intro (List.forall_mem_nil _) course finished (List.forall_mem_nil _)
    rw [List.append_nil] at whole
    exact .inr ⟨_, whole⟩

theorem Visits.isReported {targets : List Target} {next : Option Status}
    (h : Visits ctx version status targets es next) : IsReported es := by
  induction h with
  | nil => exact .inl (List.forall_mem_nil _)
  | done now terminal others ih => exact ih.cons trivial
  | work unfinished moves => exact moves.isReported.cons trivial

theorem isReported_of_leads {result : Except Error (Option Status)}
    (h : (plan ctx record status version).Leads es (.done result)) : IsReported es := by
  obtain ⟨look, selected, es, rfl, hselect, hplan⟩ := leads_bind_done_iff.1 h
  have aside : AreAside look := fun e he ↦ by
    rw [only_select.request hselect e he]
    trivial
  refine IsReported.append_left ?_ aside
  cases selected with
  | error e =>
    cases hplan
    exact .inl (List.forall_mem_nil _)
  | ok selection =>
    dsimp only at hplan
    split at hplan
    · cases hplan
      exact .inl (List.forall_mem_nil _)
    · obtain ⟨es, next, _, rfl, hvisits, hend⟩ := leads_bind_done_iff.1 hplan
      cases hend
      rw [List.append_nil]
      exact (visits_of_leads hvisits).isReported

end Runner

namespace Pass

variable {ctx : Context} {record : Record} {now : Instant} {name : String}
  {es : List (Exchange Calls)} {result : Except Error Action}

theorem isReported_of_leads_decide {result : Except Error Decision}
    (h : (decide ctx record now).Leads es (.done result)) : IsReported es := by
  have hround (version : Datastore)
      (hcourse : (decideRound ctx record (record.status.getD {}) version).Leads es
        (.done result)) : IsReported es := by
    obtain ⟨planned, hplan⟩ := exists_plan_of_leads_round hcourse
    exact Runner.isReported_of_leads hplan
  unfold decide at h
  dsimp only at h
  split at h
  · cases h
    exact .inl (List.forall_mem_nil _)
  · split at h
    case h_1 =>
      obtain ⟨answer, es, rfl, hend⟩ := Job.leads_call_bind_done_iff.1 h
      cases answer <;> cases hend <;> exact .inl (List.forall_mem_singleton.2 trivial)
    case h_3 => exact hround .v2 h
    case h_5 => exact hround .v3 h
    all_goals
      cases h
      exact .inl (List.forall_mem_nil _)

theorem CarriedOut.areAside {decision : Decision} (h : CarriedOut record decision es result) :
    AreAside es := by
  cases h with
  | write hstatus saved => cases saved <;> simp [AreAside, Call.IsAside]
  | delete | keep => simp [AreAside, Call.IsAside]

/-- A pass reads its request and the clock first, and has no part in a backup till then. -/
theorem isReported_read (name : String) (answer : Except Error Record) (now : Instant)
    (h : IsReported es) : IsReported (⟨.get name, answer⟩ :: ⟨.now, now⟩ :: es) :=
  IsReported.cons (e := ⟨.get name, answer⟩) (IsReported.cons (e := ⟨.now, now⟩) h trivial) trivial

/-- A pass that is over has reported the backup that it made, if any. -/
theorem isReported_of_leads (h : (reconcile ctx name).Leads es (.done result)) :
    IsReported es := by
  cases passed_of_leads h with
  | unread e => exact .inl (List.forall_mem_singleton.2 trivial)
  | undecided failed => exact isReported_read _ _ _ (isReported_of_leads_decide failed)
  | decided decided carriedOut =>
    exact (isReported_read _ _ _ (isReported_of_leads_decide decided)).append_right
      carriedOut.areAside

/-- A pass that is cut short has reported nothing, or all of a backup. -/
theorem measurements_of_leads {rest : Job (Except Error Action)}
    (h : (reconcile ctx name).Leads es rest) : measurements es = [] ∨ ∃ x, BacksUp es x := by
  obtain ⟨es', result, hrest⟩ := Leads.exists_done rest
  exact (isReported_of_leads (h.trans hrest)).of_append

end Pass

end EtcdBackup
