import EtcdBackup.Proofs.Backup.Trace
import EtcdBackup.Proofs.Controller.Attempts

/-!
# Counting the attempts that succeed

Whether an attempt succeeded can be told from its exchanges: behind the opening of its maker, and in
front of that of the next one, each of the three steps was answered with a success. A retried backup
has one such attempt if it comes to an outcome, and none otherwise
(`Backup.successes_withRetries`).
-/

set_option autoImplicit false
set_option relaxedAutoImplicit false

namespace EtcdBackup

open Dialogue

/-- The request opens a maker of backups. -/
def Call.isOpening : Call → Bool
  | .openBackupper _ _ => true
  | _ => false

/-- The step of a backup that succeeds by an exchange. -/
def Exchange.stage? : Exchange Calls → Option Stage
  | ⟨.create _, .ok _⟩ => some .creation
  | ⟨.encrypt _, .ok _⟩ => some .encryption
  | ⟨.upload _, .ok _⟩ => some .upload
  | _ => none

/-- The exchanges in front of the next opening of a maker. -/
def untilOpening (es : List (Exchange Calls)) : List (Exchange Calls) :=
  es.takeWhile fun e ↦ !e.request.isOpening

/-- All steps of a backup succeed before the next maker is opened. -/
def succeeds (es : List (Exchange Calls)) : Bool :=
  Backup.allStages.all fun stage ↦ (untilOpening es).any (·.stage? = some stage)

/-- The number of attempts for a datastore version of a target that succeed in some exchanges. -/
def successes (target : String) (version : Datastore) : List (Exchange Calls) → Nat
  | [] => 0
  | e :: es =>
    (if e.request.opens target version ∧ succeeds es then 1 else 0) + successes target version es

section

variable {target : String} {version : Datastore} {es es' : List (Exchange Calls)}
  {e : Exchange Calls}

theorem untilOpening_cons (h : e.request.isOpening = false) :
    untilOpening (e :: es) = e :: untilOpening es := by
  simp [untilOpening, h]

theorem untilOpening_of_isOpening (h : e.request.isOpening) : untilOpening (e :: es) = [] := by
  simp [untilOpening, h]

/-- No step succeeds in the exchanges before a maker is opened. -/
def StartsAfresh (es : List (Exchange Calls)) : Prop := ∀ e ∈ untilOpening es, e.stage? = none

theorem StartsAfresh.cons (h : StartsAfresh es) (he : e.stage? = none) :
    StartsAfresh (e :: es) := by
  cases hopening : e.request.isOpening with
  | false =>
    rw [StartsAfresh, untilOpening_cons hopening]
    exact List.forall_mem_cons.2 ⟨he, h⟩
  | true =>
    rw [StartsAfresh, untilOpening_of_isOpening hopening]
    exact List.forall_mem_nil _

theorem startsAfresh_of_isOpening (h : e.request.isOpening) : StartsAfresh (e :: es) := by
  rw [StartsAfresh, untilOpening_of_isOpening h]
  exact List.forall_mem_nil _

theorem startsAfresh_of_forall (h : ∀ e ∈ es, e.stage? = none) : StartsAfresh es :=
  fun e he ↦ h e (List.takeWhile_subset _ he)

/-- What starts afresh has no part in the attempt before it. -/
theorem succeeds_append (h : StartsAfresh es') : succeeds (es ++ es') = succeeds es := by
  have hany (stage : Stage) : (untilOpening (es ++ es')).any (·.stage? = some stage) =
      (untilOpening es).any (·.stage? = some stage) := by
    induction es with
    | nil =>
      have hnone : (untilOpening es').any (·.stage? = some stage) = false := by
        refine List.any_eq_false.2 fun e he ↦ ?_
        rw [h e he]
        simp
      exact hnone
    | cons e es ih =>
      rw [List.cons_append]
      cases hopening : e.request.isOpening with
      | false =>
        rw [untilOpening_cons hopening, untilOpening_cons hopening, List.any_cons, List.any_cons,
          ih]
      | true => rw [untilOpening_of_isOpening hopening, untilOpening_of_isOpening hopening]
  unfold succeeds
  simp only [hany]

theorem successes_append (h : StartsAfresh es') : successes target version (es ++ es') =
    successes target version es + successes target version es' := by
  induction es with
  | nil => simp [successes]
  | cons e es ih =>
    rw [List.cons_append, successes, successes, succeeds_append h, ih, Nat.add_assoc]

theorem successes_cons (h : e.request.opens target version = false) :
    successes target version (e :: es) = successes target version es := by
  simp [successes, h]

/-- There is no success without an attempt. -/
theorem successes_append_of_forall (h : ∀ e ∈ es, e.request.opens target version = false) :
    successes target version (es ++ es') = successes target version es' := by
  induction es with
  | nil => rfl
  | cons e es ih =>
    rw [List.cons_append, successes_cons (h e List.mem_cons_self)]
    exact ih fun e he ↦ h e (List.mem_cons_of_mem _ he)

end

namespace Backup

variable {target : Target} {version : Datastore} {es : List (Exchange Calls)}

/-- All steps are answered with a success exactly if the attempt comes to an outcome. -/
theorem Trial.successes_exchanges (x : Trial) (target : Target) (version : Datastore) :
    successes target.name version (x.exchanges target version) =
      if x.outcome.isOk then 1 else 0 := by
  have hopens : Call.opens target.name version (.openBackupper target version) :=
    Call.opens_iff.2 ⟨target, rfl, rfl⟩
  unfold exchanges
  simp only [successes, hopens, true_and]
  obtain ⟨opened, created, encrypted, uploaded, cleaned, before, after⟩ := x
  cases opened with
  | error e => rfl
  | ok b =>
    cases created with
    | error e => rfl
    | ok archive =>
      cases encrypted with
      | error e => rfl
      | ok path => cases uploaded <;> rfl

theorem successes_attempt {result : Except Error Outcome}
    (h : (attempt target version).Leads es (.done result)) :
    successes target.name version es = if result.isOk then 1 else 0 := by
  obtain ⟨x, rfl, rfl⟩ := leads_attempt_iff.1 h
  exact x.successes_exchanges target version

theorem startsAfresh_attempt {result : Except Error Outcome}
    (h : (attempt target version).Leads es (.done result)) (es' : List (Exchange Calls)) :
    StartsAfresh (es ++ es') := by
  obtain ⟨answer, es, rfl, -⟩ := Job.leads_call_bind_done_iff.1 h
  exact startsAfresh_of_isOpening rfl

section

variable {policy : RetryPolicy} {r : Retried Error Outcome}

theorem successes_attemptFrom {number remaining : Nat}
    (h : (Retry.attemptFrom (Job.call (.sleep policy.delay)) (fun _ ↦ attempt target version)
      number remaining).Leads es (.done r)) :
    StartsAfresh es ∧ successes target.name version es = if r.result.isOk then 1 else 0 := by
  induction remaining generalizing number es with
  | zero =>
    obtain ⟨first, result, _, rfl, hfirst, h⟩ := leads_bind_done_iff.1 h
    cases h
    rw [List.append_nil, successes_attempt hfirst]
    exact ⟨List.append_nil first ▸ startsAfresh_attempt hfirst [], rfl⟩
  | succ remaining ih =>
    obtain ⟨first, result, others, rfl, hfirst, h⟩ := leads_bind_done_iff.1 h
    refine ⟨startsAfresh_attempt hfirst others, ?_⟩
    cases result with
    | ok value =>
      cases h
      rw [List.append_nil, successes_attempt hfirst]
    | error e =>
      obtain ⟨_, rest, rfl, hnext⟩ := Job.leads_call_bind_done_iff.1 h
      obtain ⟨afresh, hsuccesses⟩ := ih hnext
      rw [successes_append (afresh.cons rfl), successes_attempt hfirst, successes_cons rfl,
        hsuccesses]
      exact Nat.zero_add _

/-- One of the attempts of a retried backup succeeds if it comes to an outcome, and none
otherwise. -/
theorem successes_withRetries (h : (withRetries target version policy).Leads es (.done r)) :
    successes target.name version es = if r.result.isOk then 1 else 0 :=
  (successes_attemptFrom h).2

end

end Backup

end EtcdBackup
