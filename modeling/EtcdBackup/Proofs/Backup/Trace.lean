import EtcdBackup.Proofs.Controller.Plan
import Mathlib.Data.List.Basic
import Mathlib.Data.List.Find

/-!
# The trace of a retried backup

What happens in the attempts at a backup is settled by what they are answered. `Trial` holds the
answers that one attempt can get, step by step, and says which of the steps are taken
(`Trial.stages`), which requests are made (`Trial.exchanges`) and what comes of it
(`Trial.outcome`). A script has a trial for each attempt, by its number.

The courses of a retried backup are exactly those that go by a script (`leads_withRetries_iff`): the
attempts are made one after the other up to the first one that succeeds, or up to the last one that
is granted, with a pause behind each of them but the last.
-/

set_option autoImplicit false
set_option relaxedAutoImplicit false

namespace EtcdBackup

open Dialogue

/-! ### Retries -/

namespace Retry

/-- The number of the attempt that ends an operation which is at the attempt `attempt` and may be
repeated `remaining` times: the first one that succeeds, or the last one that is left. -/
def lastFrom (succeeds : Nat → Bool) (attempt remaining : Nat) : Nat :=
  ((List.range' attempt (remaining + 1)).find? succeeds).getD (attempt + remaining)

/-- The number of attempts that a policy grants, which is one at least. -/
def granted (policy : RetryPolicy) : Nat := max policy.maxAttempts.toNat 1

/-- The number of the attempt that ends a repeated operation: the first one that succeeds, or the
last one that is granted. -/
def lastAttempt (policy : RetryPolicy) (succeeds : Nat → Bool) : Nat :=
  ((List.range' 1 (granted policy)).find? succeeds).getD (granted policy)

/-- What is exchanged in the attempts from one number to another, with a pause behind each of them
but the last. -/
def trace {E : Type} (log : Nat → List E) (pause : List E) (first last : Nat) : List E :=
  (List.range' first (last - first)).flatMap (fun n ↦ log n ++ pause) ++ log last

section

variable {p q : Nat → Bool} {attempt remaining last : Nat} {policy : RetryPolicy}

theorem lastFrom_zero : lastFrom p attempt 0 = attempt := by
  cases h : p attempt <;> simp [lastFrom, h]

theorem lastFrom_of_success (h : p attempt) : lastFrom p attempt remaining = attempt := by
  simp [lastFrom, List.range'_succ, h]

theorem lastFrom_of_failure (h : p attempt = false) :
    lastFrom p attempt (remaining + 1) = lastFrom p (attempt + 1) remaining := by
  have hsum : attempt + (remaining + 1) = attempt + 1 + remaining := by omega
  unfold lastFrom
  rw [List.range'_succ, List.find?_cons_of_neg (Bool.eq_false_iff.1 h), hsum]

theorem le_lastFrom : attempt ≤ lastFrom p attempt remaining := by
  unfold lastFrom
  cases h : (List.range' attempt (remaining + 1)).find? p with
  | none => exact Nat.le_add_right _ _
  | some n => exact (List.mem_range'_1.1 (List.mem_of_find?_eq_some h)).1

theorem lastFrom_congr (h : ∀ n, attempt ≤ n → p n = q n) :
    lastFrom p attempt remaining = lastFrom q attempt remaining := by
  unfold lastFrom
  rw [List.find?_congr fun n hn ↦ h n (List.mem_range'_1.1 hn).1]

theorem lastAttempt_eq (policy : RetryPolicy) (p : Nat → Bool) :
    lastAttempt policy p = lastFrom p 1 (policy.maxAttempts.toNat - 1) := by
  have hgranted : granted policy = policy.maxAttempts.toNat - 1 + 1 := by
    unfold granted
    omega
  unfold lastAttempt lastFrom
  rw [hgranted, Nat.add_comm 1]

variable {E : Type} {log log' : Nat → List E} {pause : List E}

theorem trace_self : trace log pause attempt attempt = log attempt := by
  simp [trace]

theorem trace_of_lt (h : attempt < last) :
    trace log pause attempt last = log attempt ++ pause ++ trace log pause (attempt + 1) last := by
  obtain ⟨n, rfl⟩ := Nat.exists_eq_add_of_lt h
  have hfirst : attempt + n + 1 - attempt = n + 1 := by omega
  have hnext : attempt + n + 1 - (attempt + 1) = n := by omega
  simp only [trace, hfirst, hnext, List.range'_succ, List.flatMap_cons, List.append_assoc]

theorem trace_congr (hle : attempt ≤ last) (h : ∀ n, attempt ≤ n → log n = log' n) :
    trace log pause attempt last = trace log' pause attempt last := by
  unfold trace
  rw [h last hle]
  refine congrArg (· ++ log' last) (List.flatMap_congr fun n hn ↦ ?_)
  rw [h n (List.mem_range'_1.1 hn).1]

end

section

variable {S : Signature} {ε α β : Type} {pause : Dialogue S Unit}
  {operation : Nat → Dialogue S (Except ε α)} {waited : List (Exchange S)}
  {log : Nat → β → List (Exchange S)} {result : Nat → β → Except ε α}

/-- A repeated operation can go by any script, which has what happens in each attempt by its
number. -/
theorem leads_trace (hpause : pause.Leads waited (.done ()))
    (hoperation : ∀ n b, (operation n).Leads (log n b) (.done (result n b))) (script : Nat → β)
    (attempt remaining : Nat) {last : Nat}
    (hlast : last = lastFrom (fun n ↦ (result n (script n)).isOk) attempt remaining) :
    (attemptFrom pause operation attempt remaining).Leads
      (trace (fun n ↦ log n (script n)) waited attempt last)
      (.done ⟨last, result last (script last)⟩) := by
  have made := hoperation attempt (script attempt)
  induction remaining generalizing attempt with
  | zero =>
    obtain rfl : last = attempt := hlast.trans lastFrom_zero
    rw [trace_self, ← List.append_nil (log last _)]
    exact made.bind_done (.rest _)
  | succ remaining ih =>
    cases hresult : result attempt (script attempt) with
    | ok value =>
      have success : (result attempt (script attempt)).isOk := by rw [hresult]; rfl
      obtain rfl : last = attempt := hlast.trans (lastFrom_of_success success)
      rw [trace_self, ← List.append_nil (log last _), hresult]
      rw [hresult] at made
      exact made.bind_done (.rest _)
    | error e =>
      have failure : (result attempt (script attempt)).isOk = false := by rw [hresult]; rfl
      rw [lastFrom_of_failure failure] at hlast
      have hlater : attempt + 1 ≤ last := hlast ▸ le_lastFrom
      rw [trace_of_lt hlater, List.append_assoc]
      rw [hresult] at made
      exact made.bind_done (hpause.bind_done (ih (attempt + 1) hlast (hoperation _ _)))

/-- There are no other courses of a repeated operation than those that go by a script. -/
theorem exists_script_of_leads
    (hpause : ∀ {es u}, pause.Leads es (.done u) → es = waited)
    (hoperation : ∀ {n es x}, (operation n).Leads es (.done x) →
      ∃ b, es = log n b ∧ x = result n b)
    {attempt remaining : Nat} {es : List (Exchange S)} {r : Retried ε α}
    (h : (attemptFrom pause operation attempt remaining).Leads es (.done r)) :
    ∃ script : Nat → β,
      r.attempts = lastFrom (fun n ↦ (result n (script n)).isOk) attempt remaining ∧
      r.result = result r.attempts (script r.attempts) ∧
      es = trace (fun n ↦ log n (script n)) waited attempt r.attempts := by
  induction remaining generalizing attempt es with
  | zero =>
    obtain ⟨_, x, _, rfl, hattempt, h⟩ := leads_bind_done_iff.1 h
    cases h
    obtain ⟨b, rfl, rfl⟩ := hoperation hattempt
    exact ⟨fun _ ↦ b, lastFrom_zero.symm, rfl, by rw [trace_self, List.append_nil]⟩
  | succ remaining ih =>
    obtain ⟨_, x, others, rfl, hattempt, h⟩ := leads_bind_done_iff.1 h
    obtain ⟨b, rfl, hx⟩ := hoperation hattempt
    cases x with
    | ok value =>
      cases h
      have success : (result attempt b).isOk := by rw [← hx]; rfl
      exact ⟨fun _ ↦ b, (lastFrom_of_success success).symm, hx,
        by rw [trace_self, List.append_nil]⟩
    | error e =>
      obtain ⟨_, _, others, rfl, hwaited, h⟩ := leads_bind_done_iff.1 h
      obtain rfl := hpause hwaited
      obtain ⟨script, hattempts, hresult, rfl⟩ := ih h
      -- The script has the attempts behind this one, so this one can be put in.
      let whole (n : Nat) : β := if n = attempt then b else script n
      have whole_self : whole attempt = b := if_pos rfl
      have whole_later (n : Nat) (hn : attempt + 1 ≤ n) : whole n = script n :=
        if_neg (Nat.ne_of_gt hn)
      have failure : (result attempt (whole attempt)).isOk = false := by
        rw [whole_self, ← hx]
        rfl
      have hlater : attempt + 1 ≤ r.attempts := hattempts ▸ le_lastFrom
      refine ⟨whole, ?_, ?_, ?_⟩
      · rw [lastFrom_of_failure failure, hattempts]
        exact lastFrom_congr fun n hn ↦ by rw [whole_later n hn]
      · rw [whole_later _ hlater, hresult]
      · rw [trace_of_lt hlater, whole_self, List.append_assoc]
        refine congrArg (log attempt b ++ ·) (congrArg _ (trace_congr hlater fun n hn ↦ ?_))
        rw [whole_later n hn]

/-- If it is known what can come of attempt number `n`, for each `n`, then so is what can come of
the repeated operation: it goes by a script up to the last attempt. -/
theorem leads_run_iff {sleep : Duration → Dialogue S Unit} {policy : RetryPolicy}
    (hsleep : ∀ {es u}, (sleep policy.delay).Leads es (.done u) ↔ es = waited)
    (hoperation : ∀ {n es x}, (operation n).Leads es (.done x) ↔
      ∃ b, es = log n b ∧ x = result n b)
    {es : List (Exchange S)} {r : Retried ε α} :
    (run sleep policy operation).Leads es (.done r) ↔
      ∃ script : Nat → β,
        r.attempts = lastAttempt policy (fun n ↦ (result n (script n)).isOk) ∧
        r.result = result r.attempts (script r.attempts) ∧
        es = trace (fun n ↦ log n (script n)) waited 1 r.attempts := by
  simp only [lastAttempt_eq]
  constructor
  · exact exists_script_of_leads hsleep.1 hoperation.1
  · rintro ⟨script, hattempts, hresult, rfl⟩
    obtain ⟨attempts, x⟩ := r
    obtain rfl : x = result attempts (script attempts) := hresult
    exact leads_trace (hsleep.2 rfl) (fun n b ↦ hoperation.2 ⟨b, rfl, rfl⟩) script 1 _ hattempts

end

end Retry

namespace Backup

/-- The steps of a backup in their order. -/
def allStages : List Stage := [.creation, .encryption, .upload]

/-- The answers that one attempt gets; those to requests that it does not come to do not count. -/
structure Trial where
  opened : Except Error Backupper := default
  created : Except Error String := default
  encrypted : Except Error String := default
  uploaded : Except Error UInt64 := default
  cleaned : Except Error Unit := default
  /-- The reading of the clock in front of each step. -/
  before : Stage → Duration := default
  /-- The reading of the clock behind each step that succeeds. -/
  after : Stage → Duration := default

/-- The failure of a result, if it is one. -/
def failureOf {α : Type} : Except Error α → Option Error
  | .ok _ => none
  | .error e => some e

namespace Trial

variable (x : Trial)

/-- Why a step fails, if it does. -/
def failure : Stage → Option Error
  | .creation => failureOf x.created
  | .encryption => failureOf x.encrypted
  | .upload => failureOf x.uploaded

/-- The path that sealing comes to. -/
def path : String := x.encrypted.toOption.getD ""

/-- The request of a step, which is answered. -/
def exchange (b : Backupper) : Stage → Exchange Calls
  | .creation => ⟨.create b, x.created⟩
  | .encryption => ⟨.encrypt b, x.encrypted⟩
  | .upload => ⟨.upload x.path, x.uploaded⟩

/-- The steps that are taken: all up to the first one that fails, which is the last one then. -/
def stages : List Stage :=
  allStages.take (allStages.findIdx (fun stage ↦ (x.failure stage).isSome) + 1)

/-- A step with the readings of the clock around it. -/
def timed (b : Backupper) (stage : Stage) : List (Exchange Calls) :=
  ⟨.stopwatch, x.before stage⟩ :: x.exchange b stage ::
    if (x.failure stage).isNone then [⟨.stopwatch, x.after stage⟩] else []

/-- All that is asked in the attempt, with the answers: a maker is opened, takes its steps and
cleans up. -/
def exchanges (target : Target) (version : Datastore) : List (Exchange Calls) :=
  ⟨.openBackupper target version, x.opened⟩ ::
    match x.opened with
    | .error _ => []
    | .ok b => x.stages.flatMap (x.timed b) ++ [⟨.cleanup b, x.cleaned⟩]

/-- The time that a step takes. -/
def duration (stage : Stage) : Duration := (x.after stage).since (x.before stage)

/-- What the steps of a maker come to. -/
def made (b : Backupper) : Except Error Outcome :=
  match allStages.findSome? fun stage ↦ (x.failure stage).map (stage, ·) with
  | some (stage, e) => .error (.backup b.version.tag stage.name e.message)
  | none => .ok {
      creation := x.duration .creation
      encryption := x.duration .encryption
      upload := x.duration .upload
      size := x.uploaded.toOption.getD 0
      filename := (Path.fileName? x.path).getD "" }

/-- What the attempt comes to: the size and the name of the file that was stored, or the failure
of the step that failed, with the version that the maker is for, the name of the step and the words
of the failure. That no maker could be opened is told as it is. -/
def outcome : Except Error Outcome :=
  match x.opened with
  | .error e => .error e
  | .ok b => x.made b

end Trial

section

variable {α : Type} {target : Target} {version : Datastore} {es : List (Exchange Calls)}

/-- A timed step failed, or it succeeded and the clock was read again. -/
theorem cases_of_leads_timed {act : Job (Except Error α)} {stage : Stage}
    {result : Except Error (α × Duration)}
    (h : (timed version stage act).Leads es (.done result)) :
    ∃ before acted,
      (∃ e, es = ⟨.stopwatch, before⟩ :: acted ∧ result = .error (.ofStage version stage e) ∧
        act.Leads acted (.done (.error e))) ∨
      ∃ a after, es = ⟨.stopwatch, before⟩ :: (acted ++ [⟨.stopwatch, after⟩]) ∧
        result = .ok (a, after.since before) ∧ act.Leads acted (.done (.ok a)) := by
  obtain ⟨before, es, rfl, hread⟩ := Job.leads_call_bind_done_iff.1 h
  obtain ⟨acted, answer, behind, rfl, hact, hbehind⟩ := leads_bind_done_iff.1 hread
  refine ⟨before, acted, ?_⟩
  cases answer with
  | error e =>
    cases hbehind
    exact Or.inl ⟨e, by rw [List.append_nil], rfl, hact⟩
  | ok a =>
    obtain ⟨after, _, rfl, hend⟩ := Job.leads_call_bind_done_iff.1 hbehind
    cases hend
    exact Or.inr ⟨a, after, rfl, rfl, hact⟩

/-- The steps of a maker go by a trial. -/
theorem leads_made (x : Trial) (b : Backupper) :
    (Backup.stages b).Leads (x.stages.flatMap (x.timed b)) (.done (x.made b)) := by
  obtain ⟨opened, created, encrypted, uploaded, cleaned, before, after⟩ := x
  cases created with
  | error e => exact .ask (.ask (.rest _))
  | ok made =>
    cases encrypted with
    | error e => exact .ask (.ask (.ask (.ask (.ask (.rest _)))))
    | ok path =>
      cases uploaded with
      | error e => exact .ask (.ask (.ask (.ask (.ask (.ask (.ask (.ask (.rest _))))))))
      | ok size => exact .ask (.ask (.ask (.ask (.ask (.ask (.ask (.ask (.ask (.rest _)))))))))

/-- There are no other courses of the steps than those that go by a trial. -/
theorem exists_trial_of_leads {b : Backupper} {result : Except Error Outcome}
    (h : (Backup.stages b).Leads es (.done result)) :
    ∃ x : Trial, es = x.stages.flatMap (x.timed b) ∧ result = x.made b := by
  let readings (t₁ t₂ t₃ : Duration) : Stage → Duration
    | .creation => t₁
    | .encryption => t₂
    | .upload => t₃
  obtain ⟨_, created, _, rfl, first, hencrypt⟩ := leads_bind_done_iff.1 h
  obtain ⟨t₁, acted, ⟨e, rfl, rfl, call⟩ | ⟨archive, t₁', rfl, rfl, call⟩⟩ :=
    cases_of_leads_timed first
  · cases hencrypt
    obtain rfl := Job.leads_call_done_iff.1 call
    exact ⟨{ created := .error e, before := fun _ ↦ t₁ }, rfl, rfl⟩
  obtain rfl := Job.leads_call_done_iff.1 call
  obtain ⟨_, encrypted, _, rfl, second, hupload⟩ := leads_bind_done_iff.1 hencrypt
  obtain ⟨t₂, acted, ⟨e, rfl, rfl, call⟩ | ⟨path, t₂', rfl, rfl, call⟩⟩ :=
    cases_of_leads_timed second
  · cases hupload
    obtain rfl := Job.leads_call_done_iff.1 call
    exact ⟨{
      created := .ok archive, encrypted := .error e
      before := readings t₁ t₂ t₂, after := fun _ ↦ t₁' }, rfl, rfl⟩
  obtain rfl := Job.leads_call_done_iff.1 call
  obtain ⟨_, uploaded, _, rfl, third, hend⟩ := leads_bind_done_iff.1 hupload
  obtain ⟨t₃, acted, ⟨e, rfl, rfl, call⟩ | ⟨size, t₃', rfl, rfl, call⟩⟩ :=
    cases_of_leads_timed third
  · cases hend
    obtain rfl := Job.leads_call_done_iff.1 call
    exact ⟨{
      created := .ok archive, encrypted := .ok path, uploaded := .error e
      before := readings t₁ t₂ t₃, after := readings t₁' t₂' t₂' }, rfl, rfl⟩
  · cases hend
    obtain rfl := Job.leads_call_done_iff.1 call
    exact ⟨{
      created := .ok archive, encrypted := .ok path, uploaded := .ok size
      before := readings t₁ t₂ t₃, after := readings t₁' t₂' t₃' }, rfl, rfl⟩

/-- The courses of an attempt are those that go by a trial. -/
theorem leads_attempt_iff {result : Except Error Outcome} :
    (attempt target version).Leads es (.done result) ↔
      ∃ x : Trial, es = x.exchanges target version ∧ result = x.outcome := by
  constructor
  · intro h
    obtain ⟨opened, _, rfl, hopened⟩ := Job.leads_call_bind_done_iff.1 h
    cases opened with
    | error e =>
      cases hopened
      exact ⟨{ opened := .error e }, rfl, rfl⟩
    | ok b =>
      obtain ⟨_, made, _, rfl, hstages, hcleanup⟩ := leads_bind_done_iff.1 hopened
      obtain ⟨cleaned, _, rfl, hend⟩ := Job.leads_call_bind_done_iff.1 hcleanup
      cases hend
      obtain ⟨x, rfl, rfl⟩ := exists_trial_of_leads hstages
      exact ⟨{ x with opened := .ok b, cleaned := cleaned }, rfl, rfl⟩
  · rintro ⟨x, rfl, rfl⟩
    refine .ask ?_
    unfold Trial.outcome
    cases x.opened with
    | error e => exact .rest _
    | ok b => exact (leads_made x b).bind_done (.ask (.rest _))

/-- The courses of a retried backup are those that go by a script: each attempt is made with a
fresh maker, up to the first one that succeeds or the last one that is granted, with a pause behind
each but the last, and the result is that of the last attempt made. -/
theorem leads_withRetries_iff {policy : RetryPolicy} {r : Retried Error Outcome} :
    (withRetries target version policy).Leads es (.done r) ↔
      ∃ script : Nat → Trial,
        r.attempts = Retry.lastAttempt policy (fun n ↦ (script n).outcome.isOk) ∧
        r.result = (script r.attempts).outcome ∧
        es = Retry.trace (fun n ↦ (script n).exchanges target version)
          [⟨.sleep policy.delay, ()⟩] 1 r.attempts :=
  Retry.leads_run_iff Job.leads_call_done_iff leads_attempt_iff

end

end Backup

end EtcdBackup
