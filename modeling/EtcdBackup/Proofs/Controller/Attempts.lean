import EtcdBackup.Proofs.Controller.Progress

/-!
# Counting the attempts

Every attempt of a backup opens one maker, so the attempts that a pass makes for a datastore of a
target are counted by the makers in its exchanges (`openings`). A retried backup opens as many
makers as it reports attempts (`Backup.openings_withRetries`). From there the count is carried
through the work on a sub-status, a round and a decision: the sub-status that a pass decides to
write has the attempts that were read and those that the pass made (`Decided.counts`).
-/

set_option autoImplicit false
set_option relaxedAutoImplicit false

namespace EtcdBackup

open Dialogue

/-- The request opens a maker of backups for a datastore version of a target. -/
def Call.opens (target : String) (version : Datastore) : Call → Bool
  | .openBackupper t v => t.name = target && v = version
  | _ => false

/-- The number of makers that some exchanges open for a datastore version of a target. -/
def openings (target : String) (version : Datastore) (es : List (Exchange Calls)) : Nat :=
  es.countP (·.request.opens target version)

section

variable {target : String} {version : Datastore} {es es' : List (Exchange Calls)}

theorem Call.opens_iff {c : Call} :
    c.opens target version ↔ ∃ t, c = .openBackupper t version ∧ t.name = target := by
  cases c with
  | openBackupper t v => simp [opens, and_comm]
  | _ => simp [opens]

theorem Call.IsOfStage.opens_eq_false {c : Call} (h : c.IsOfStage) :
    c.opens target version = false := by
  cases c <;> first | exact h.elim | rfl

theorem openings_cons (e : Exchange Calls) : openings target version (e :: es) =
    openings target version es + if e.request.opens target version then 1 else 0 :=
  List.countP_cons

theorem openings_append :
    openings target version (es ++ es') =
      openings target version es + openings target version es' :=
  List.countP_append

theorem openings_eq_zero (h : ∀ e ∈ es, e.request.opens target version = false) :
    openings target version es = 0 :=
  List.countP_eq_zero.2 fun e he ↦ Bool.eq_false_iff.1 (h e he)

end

namespace Retry

variable {S : Signature} {ε α : Type} {pause : Dialogue S Unit}
  {operation : Nat → Dialogue S (Except ε α)}

/-- If every run of the operation counts once, and the pauses do not count, then the count of a
repeated operation is the number of its attempts. -/
theorem countP_of_leads {p : Exchange S → Bool}
    (hpause : ∀ {es u}, pause.Leads es (.done u) → es.countP p = 0)
    (hoperation : ∀ {n es result}, (operation n).Leads es (.done result) → es.countP p = 1)
    {attempt remaining : Nat} {es : List (Exchange S)} {r : Retried ε α}
    (h : (attemptFrom pause operation attempt remaining).Leads es (.done r)) :
    attempt + es.countP p = r.attempts + 1 := by
  induction remaining generalizing attempt es with
  | zero =>
    obtain ⟨first, result, _, rfl, hfirst, h⟩ := leads_bind_done_iff.1 h
    cases h
    rw [List.append_nil, hoperation hfirst]
  | succ remaining ih =>
    obtain ⟨first, result, others, rfl, hfirst, h⟩ := leads_bind_done_iff.1 h
    rw [List.countP_append, hoperation hfirst]
    cases result with
    | ok value =>
      cases h
      rfl
    | error e =>
      obtain ⟨waited, _, rest, rfl, hwaited, h⟩ := leads_bind_done_iff.1 h
      have := ih h
      rw [List.countP_append, hpause hwaited]
      omega

end Retry

namespace Backup

variable (target : Target) (version : Datastore)

/-- One attempt opens one maker. -/
theorem openings_attempt {es : List (Exchange Calls)} {result : Except Error Outcome}
    (h : (attempt target version).Leads es (.done result)) :
    openings target.name version es = 1 := by
  obtain ⟨answer, es, rfl, hpipeline⟩ := Job.leads_call_bind_done_iff.1 h
  have hopens : Call.opens target.name version (.openBackupper target version) :=
    Call.opens_iff.2 ⟨target, rfl, rfl⟩
  have hrest : openings target.name version es = 0 := by
    cases answer with
    | error e =>
      cases hpipeline
      rfl
    | ok b =>
      exact openings_eq_zero fun e he ↦ ((only_pipeline b).request hpipeline e he).opens_eq_false
  rw [openings_cons, hrest, if_pos hopens]

/-- A retried backup opens a maker for each of its attempts. -/
theorem openings_withRetries {policy : RetryPolicy} {es : List (Exchange Calls)}
    {r : Retried Error Outcome} (h : (withRetries target version policy).Leads es (.done r)) :
    openings target.name version es = r.attempts := by
  have hpause {es : List (Exchange Calls)} {u : Unit}
      (pause : (Job.call (.sleep policy.delay)).Leads es (.done u)) :
      openings target.name version es = 0 := by
    obtain rfl := Job.leads_call_done_iff.1 pause
    rfl
  have := Retry.countP_of_leads hpause (openings_attempt target version) h
  unfold openings
  omega

end Backup

namespace Runner

variable {ctx : Context} {record : Record} {version : Datastore} {name : String}
  {other : Datastore}

theorem attempts_finish (sub : SubStatus) (retried : Retried Error Backup.Outcome)
    (finished : Instant) : (SubStatus.finish sub retried finished).attempts =
      sub.attempts + UInt32.ofNat retried.attempts := by
  unfold SubStatus.finish
  cases retried.result <;> rfl

/-- The attempts of a sub-status that moves on are those before and those made; none are made
beyond the limit. -/
theorem Moves.attempts_eq {target : Target} {now : Instant} {sub sub' : SubStatus}
    {es : List (Exchange Calls)} (h : Moves ctx target version now sub es sub') :
    sub'.attempts.toNat = sub.attempts.toNat + openings target.name version es ∧
      (openings target.name version es = 0 ∨
        sub'.attempts.toNat ≤ ctx.retry.maxAttempts.toNat) := by
  cases h with
  | start | skip | exhaust => exact ⟨rfl, Or.inl rfl⟩
  | @attempt started complete left es retried course finished =>
    obtain ⟨hsum, -, hmax⟩ := toNat_attempts_add left course
    rw [attempts_finish, hsum, openings_append, Backup.openings_withRetries target version course]
    exact ⟨rfl, Or.inr hmax⟩

/-- The attempts that are recorded for a datastore version of a target. -/
def attempts (status : Status) (name : String) (version : Datastore) : Nat :=
  (status.sub name version).attempts.toNat

theorem attempts_default (name : String) (version : Datastore) : attempts {} name version = 0 := by
  rw [attempts, Status.sub_eq_getD, Status.sub?_of_instances_eq_empty name version rfl]
  rfl

theorem attempts_withSub (status : Status) (target : String) (sub : SubStatus) :
    attempts (status.withSub target version sub) name other =
      if target = name ∧ version = other then sub.attempts.toNat
      else attempts status name other := by
  simp only [attempts, Status.sub_eq_getD, Status.sub?_withSub]
  split <;> rfl

theorem attempts_withReason (status : Status) (target reason : String) :
    attempts (status.withReason target reason) name other = attempts status name other := by
  simp only [attempts, Status.sub_eq_getD, Status.sub?_withReason]

theorem attempts_congr {s s' : Status} (h : s'.instances = s.instances) (name : String)
    (version : Datastore) : attempts s' name version = attempts s name version := by
  simp only [attempts, Status.sub_eq_getD, Status.sub?_congr h]

/-- The second status has the attempts of the first one and those that the exchanges made for the
sub-status; none are made beyond the limit. -/
def Counts (ctx : Context) (name : String) (version : Datastore) (es : List (Exchange Calls))
    (s s' : Status) : Prop :=
  attempts s' name version = attempts s name version + openings name version es ∧
    (openings name version es = 0 ∨ attempts s' name version ≤ ctx.retry.maxAttempts.toNat)

/-- Exchanges that open no maker leave the attempts alone. -/
theorem Counts.of_openings_eq_zero {s s' : Status} {es : List (Exchange Calls)}
    (h : openings name version es = 0)
    (hsame : attempts s' name version = attempts s name version) :
    Counts ctx name version es s s' :=
  ⟨by rw [hsame, h]; rfl, Or.inl h⟩

theorem Visits.counts {status : Status} {targets : List Target} {es : List (Exchange Calls)}
    {result : Option Status} (h : Visits ctx other status targets es result) (name : String)
    (version : Datastore) : Counts ctx name version es status (result.getD status) := by
  induction h with
  | nil => exact .of_openings_eq_zero rfl rfl
  | done now terminal others ih => exact ih
  | @work target rest now es sub unfinished moves =>
    by_cases hsame : target.name = name ∧ other = version
    · obtain ⟨rfl, rfl⟩ := hsame
      have hmoves := moves.attempts_eq
      unfold Counts
      rw [Option.getD_some, attempts_withSub, if_pos ⟨rfl, rfl⟩]
      exact hmoves
    · refine .of_openings_eq_zero (openings_eq_zero fun e he ↦ ?_) ?_
      · refine Bool.eq_false_iff.2 fun hopens ↦ ?_
        obtain ⟨t, hrequest, ht⟩ := Call.opens_iff.1 hopens
        rcases List.mem_cons.1 he with rfl | he
        · cases hrequest
        · obtain ⟨rfl, hversion, -⟩ := moves.opened he hrequest
          exact hsame ⟨ht, hversion.symm⟩
      · rw [Option.getD_some, attempts_withSub, if_neg hsame]

theorem openings_select {look : List (Exchange Calls)} {rest : Job (Except Error Selection)}
    (h : (select ctx record).Leads look rest) : openings name version look = 0 :=
  openings_eq_zero fun e he ↦ by rw [only_select.request h e he]; rfl

theorem Planned.counts {status : Status} {es : List (Exchange Calls)} {result : Option Status}
    (h : Planned ctx record status other es result) (name : String) (version : Datastore) :
    Counts ctx name version es status (result.getD status) := by
  cases h with
  | note selected unrecorded =>
    obtain ⟨u, -, -, rfl⟩ := exists_of_recordUnresolved unrecorded
    exact .of_openings_eq_zero (openings_select selected) (attempts_withReason status _ _)
  | visit selected recorded visits =>
    have hvisits := visits.counts name version
    unfold Counts at hvisits ⊢
    rwa [openings_append, openings_select selected, Nat.zero_add]

end Runner

namespace Pass

open Runner

variable {ctx : Context} {record : Record} {now : Instant} {es : List (Exchange Calls)}

/-- The attempts of a status that is decided on are those that were read and those that were made
on the way to the decision. -/
theorem Decided.counts {decision : Decision} (h : Decided ctx record now es decision)
    {next : Status} (hnext : decision.status? = some next)
    (sound : (record.status.getD {}).Sound) (name : String) (version : Datastore) :
    Counts ctx name version es (record.status.getD {}) next := by
  cases h with
  | reject | enter | proceed | judge =>
    cases hnext
    exact .of_openings_eq_zero rfl (attempts_congr rfl name version)
  | start phase =>
    cases hnext
    exact .of_openings_eq_zero rfl
      (attempts_congr (sound.fresh (Or.inr phase)).1.symm name version)
  | work phase planned =>
    cases hnext
    exact planned.counts name version
  | close phase planned =>
    cases hnext
    exact planned.counts name version
  | retireFinished | retireSkipped =>
    rw [Decision.status?_retire] at hnext
    cases hnext

end Pass

end EtcdBackup
