import EtcdBackup.Proofs.Backup.Successes

/-!
# Spending the attempts of a sub-status

The limit on the attempts holds for all passes together, so a pass has the limit less what is
recorded (`attemptsLeft`), whatever number stands there. Of these it makes as many as it takes to
succeed, or all of them (`attemptsMade`), and none if none is left.

The courses of a step for a datastore that is under way are those that go by a script of what each
attempt is answered: `spending` has the exchanges and `spent` the sub-status. What they come to,
without a word of the retries, is `KeepsBudget`; the main statement is `keepsBudget_of_advance`.
-/

set_option autoImplicit false
set_option relaxedAutoImplicit false

namespace EtcdBackup

open Dialogue

/-- Milliseconds beyond the largest word are recorded as the largest word. -/
theorem Duration.toNat_millisWord (d : Duration) :
    d.millisWord.toNat = min d.millis (UInt64.size - 1) := by
  unfold millisWord
  split
  case isTrue fits =>
    rw [UInt64.toNat_ofNatLT, UInt64.size] at *
    omega
  case isFalse exceeds =>
    rw [UInt64.toNat_ofNat', UInt64.size] at *
    omega

/-- The number of makers of backups that some exchanges open. -/
def makers (es : List (Exchange Calls)) : Nat := es.countP (·.request.isOpening)

/-- The makers of one datastore version of a target are all that are opened. -/
theorem makers_eq_openings {target : Target} {version : Datastore} {es : List (Exchange Calls)}
    (h : ∀ e ∈ es, ∀ t v, e.request = .openBackupper t v → t = target ∧ v = version) :
    makers es = openings target.name version es := by
  refine List.countP_congr fun e he ↦ ?_
  have hopened := h e he
  cases hrequest : e.request with
  | openBackupper t v =>
    obtain ⟨rfl, rfl⟩ := hopened t v hrequest
    simp [Call.isOpening, Call.opens]
  | _ => simp [Call.isOpening, Call.opens]

/-- A sub-status records the measurements of a backup, and no error. -/
structure SubStatus.Records (sub : SubStatus) (o : Backup.Outcome) : Prop where
  latestError : sub.latestError = ""
  size : sub.size = o.size
  filename : sub.filename = some o.filename
  creationMillis : sub.creationMillis.toNat = min o.creation.millis (UInt64.size - 1)
  encryptionMillis : sub.encryptionMillis.toNat = min o.encryption.millis (UInt64.size - 1)
  uploadMillis : sub.uploadMillis.toNat = min o.upload.millis (UInt64.size - 1)

namespace Runner

open Backup (Trial)

/-- The attempts that a sub-status has left: the limit less those recorded, none if those are
more. -/
def attemptsLeft (ctx : Context) (sub : SubStatus) : Nat :=
  ctx.retry.maxAttempts.toNat - sub.attempts.toNat

/-- The attempts that are made by a script: up to the first one that succeeds, or all that are
left. -/
def attemptsMade (ctx : Context) (sub : SubStatus) (script : Nat → Trial) : Nat :=
  ((List.range' 1 (attemptsLeft ctx sub)).find? fun n ↦ (script n).outcome.isOk).getD
    (attemptsLeft ctx sub)

/-- The exchanges of the step for a started datastore by a script. The clock is read, and again
behind the attempts, if there are any; these are reported. -/
def spending (ctx : Context) (target : Target) (version : Datastore) (sub : SubStatus)
    (script : Nat → Trial) (now finished : Instant) : List (Exchange Calls) :=
  let made := attemptsMade ctx sub script
  ⟨.now, now⟩ ::
    if attemptsLeft ctx sub = 0 then []
    else
      Retry.trace (fun n ↦ (script n).exchanges target version) [⟨.sleep ctx.retry.delay, ()⟩] 1
        made ++ [⟨.now, finished⟩,
          ⟨.measure ⟨target.name, version, made, (script made).outcome.toOption, finished⟩, ()⟩]

/-- The sub-status of a started datastore behind the step by a script. -/
def spent (ctx : Context) (sub : SubStatus) (script : Nat → Trial) (now finished : Instant) :
    SubStatus :=
  let made := attemptsMade ctx sub script
  if attemptsLeft ctx sub = 0 then
    { sub with
      state := .failed
      finished := some now
      latestError := if sub.latestError.isEmpty then attemptsExhausted else sub.latestError }
  else SubStatus.finish sub ⟨made, (script made).outcome⟩ finished

/-- What the step for a started datastore comes to by a script, with `m` for the limit and `a` for
the attempts recorded before. -/
structure KeepsBudget (ctx : Context) (target : Target) (version : Datastore) (sub : SubStatus)
    (script : Nat → Trial) (es : List (Exchange Calls)) (sub' : SubStatus) : Prop where
  /-- Makers are opened for this datastore alone. -/
  opened : ∀ e ∈ es, ∀ t v, e.request = .openBackupper t v → t = target ∧ v = version
  /-- With `a ≥ m` no attempt is made. -/
  none_left : ctx.retry.maxAttempts.toNat ≤ sub.attempts.toNat → makers es = 0
  /-- The first success is the last attempt, if it is among the `m - a` that are left. -/
  success : ∀ n, 1 ≤ n → n ≤ ctx.retry.maxAttempts.toNat - sub.attempts.toNat →
    (script n).outcome.isOk → (∀ k, 1 ≤ k → k < n → ¬(script k).outcome.isOk) → makers es = n
  /-- Without a success all of them are made. -/
  failures : (∀ n, 1 ≤ n → n ≤ ctx.retry.maxAttempts.toNat - sub.attempts.toNat →
    ¬(script n).outcome.isOk) → makers es = ctx.retry.maxAttempts.toNat - sub.attempts.toNat
  /-- The sum is that of the numbers, not of the words. -/
  sum : sub'.attempts.toNat = sub.attempts.toNat + makers es
  sum_le : sub'.attempts.toNat ≤ max sub.attempts.toNat ctx.retry.maxAttempts.toNat
  /-- The datastore is completed exactly if one of the attempts made succeeds. -/
  completed_iff : sub'.state = .completed ↔ ∃ n, 1 ≤ n ∧ n ≤ makers es ∧ (script n).outcome.isOk
  failed : sub'.state ≠ .completed → sub'.state = .failed
  /-- What is recorded then is of the attempt that succeeds. -/
  records : ∀ n o, 1 ≤ n → n ≤ makers es → (script n).outcome = .ok o → sub'.Records o
  /-- A failure is told in the words of the last attempt's error. -/
  latestError : ∀ e, 1 ≤ makers es → (script (makers es)).outcome = .error e →
    sub'.latestError = e.message
  /-- Without an attempt the error stays, or it is said that none was left. -/
  noAttempt : makers es = 0 → sub'.latestError =
    if sub.latestError = "" then "maximum number of backup attempts reached" else sub.latestError

variable {ctx : Context} {status : Status} {target : Target} {version : Datastore}
  {sub : SubStatus} {script : Nat → Trial} {now finished : Instant}

/-! ### How many attempts are made -/

theorem attemptsMade_le : attemptsMade ctx sub script ≤ attemptsLeft ctx sub := by
  unfold attemptsMade
  cases h : (List.range' 1 (attemptsLeft ctx sub)).find? fun n ↦ (script n).outcome.isOk with
  | none => exact Nat.le_refl _
  | some n =>
    have := List.mem_range'_1.1 (List.mem_of_find?_eq_some h)
    rw [Option.getD_some]
    omega

theorem attemptsMade_of_success {n : Nat} (hone : 1 ≤ n) (hleft : n ≤ attemptsLeft ctx sub)
    (ok : (script n).outcome.isOk) (first : ∀ k, 1 ≤ k → k < n → ¬(script k).outcome.isOk) :
    attemptsMade ctx sub script = n := by
  have hfind : ((List.range' 1 (attemptsLeft ctx sub)).find? fun n ↦ (script n).outcome.isOk) =
      some n := by
    rw [List.find?_range'_eq_some]
    exact ⟨ok, List.mem_range'_1.2 ⟨hone, by omega⟩, fun k hk hn ↦ by simpa using first k hk hn⟩
  rw [attemptsMade, hfind, Option.getD_some]

theorem attemptsMade_of_failures
    (h : ∀ n, 1 ≤ n → n ≤ attemptsLeft ctx sub → ¬(script n).outcome.isOk) :
    attemptsMade ctx sub script = attemptsLeft ctx sub := by
  have hfind : ((List.range' 1 (attemptsLeft ctx sub)).find? fun n ↦ (script n).outcome.isOk) =
      none := by
    rw [List.find?_eq_none]
    intro n hn
    have := List.mem_range'_1.1 hn
    exact h n this.1 (by omega)
  rw [attemptsMade, hfind, Option.getD_none]

/-- All attempts in front of the last one fail. -/
theorem not_isOk_of_lt {n : Nat} (hone : 1 ≤ n) (hlt : n < attemptsMade ctx sub script) :
    ¬(script n).outcome.isOk := by
  have hle : attemptsMade ctx sub script ≤ attemptsLeft ctx sub := attemptsMade_le
  unfold attemptsMade at hlt hle
  cases h : (List.range' 1 (attemptsLeft ctx sub)).find? fun n ↦ (script n).outcome.isOk with
  | none => exact List.find?_eq_none.1 h n (List.mem_range'_1.2 ⟨hone, by omega⟩)
  | some last =>
    rw [h, Option.getD_some] at hlt
    simpa using (List.find?_range'_eq_some.1 h).2.2 n hone hlt

/-- No attempt is made behind one that succeeds. -/
theorem attemptsMade_of_isOk {n : Nat} (hone : 1 ≤ n) (hmade : n ≤ attemptsMade ctx sub script)
    (ok : (script n).outcome.isOk) : attemptsMade ctx sub script = n :=
  (hmade.lt_or_eq.resolve_left fun hlt ↦ not_isOk_of_lt hone hlt ok).symm

theorem exists_isOk_iff : (∃ n, 1 ≤ n ∧ n ≤ attemptsMade ctx sub script ∧
    (script n).outcome.isOk) ↔
      1 ≤ attemptsMade ctx sub script ∧ (script (attemptsMade ctx sub script)).outcome.isOk := by
  constructor
  · rintro ⟨n, hone, hmade, ok⟩
    have hlast := attemptsMade_of_isOk hone hmade ok
    exact ⟨by omega, hlast ▸ ok⟩
  · rintro ⟨hone, ok⟩
    exact ⟨_, hone, Nat.le_refl _, ok⟩

theorem attemptsMade_of_none_left (h : attemptsLeft ctx sub = 0) :
    attemptsMade ctx sub script = 0 :=
  Nat.le_zero.1 (h ▸ attemptsMade_le)

theorem one_le_attemptsMade (h : attemptsLeft ctx sub ≠ 0) :
    1 ≤ attemptsMade ctx sub script := by
  unfold attemptsMade
  cases hfind : (List.range' 1 (attemptsLeft ctx sub)).find? fun n ↦ (script n).outcome.isOk with
  | none => exact Nat.one_le_iff_ne_zero.2 h
  | some n => exact (List.mem_range'_1.1 (List.mem_of_find?_eq_some hfind)).1

/-- A policy grants one attempt at least, which is no more than what is left. -/
theorem lastAttempt_remainingPolicy (h : attemptsLeft ctx sub ≠ 0) (script : Nat → Trial) :
    Retry.lastAttempt (remainingPolicy ctx sub) (fun n ↦ (script n).outcome.isOk) =
      attemptsMade ctx sub script := by
  have hgranted : Retry.granted (remainingPolicy ctx sub) = attemptsLeft ctx sub := by
    rw [Retry.granted, toNat_remainingPolicy]
    exact Nat.max_eq_left (Nat.one_le_iff_ne_zero.2 h)
  rw [Retry.lastAttempt, hgranted, attemptsMade]

/-! ### The courses -/

theorem leads_withRetries (h : attemptsLeft ctx sub ≠ 0) (script : Nat → Trial) :
    (Backup.withRetries target version (remainingPolicy ctx sub)).Leads
      (Retry.trace (fun n ↦ (script n).exchanges target version) [⟨.sleep ctx.retry.delay, ()⟩] 1
        (attemptsMade ctx sub script))
      (.done ⟨attemptsMade ctx sub script, (script (attemptsMade ctx sub script)).outcome⟩) :=
  Backup.leads_withRetries_iff.2
    ⟨script, (lastAttempt_remainingPolicy h script).symm, rfl, rfl⟩

/-- What is asked and decided for a started datastore goes by a script. -/
theorem leads_advanceSub_iff (started : sub.started.isSome) (complete : target.isComplete version)
    {es : List (Exchange Calls)} {sub' : SubStatus} :
    (advanceSub ctx target version now sub).Leads es (.done sub') ↔
      ∃ script finished, ⟨.now, now⟩ :: es = spending ctx target version sub script now finished ∧
        sub' = spent ctx sub script now finished := by
  have hstarted : ¬sub.started.isNone := by simpa [Option.isSome_iff_ne_none] using started
  unfold advanceSub
  rw [if_neg hstarted, if_neg (not_not_intro complete)]
  change Leads (if attemptsLeft ctx sub = 0 then _ else _) _ _ ↔ _
  by_cases left : attemptsLeft ctx sub = 0
  · rw [if_pos left]
    simp only [spending, spent, if_pos left]
    constructor
    · intro h
      cases h
      exact ⟨fun _ ↦ {}, default, rfl, rfl⟩
    · rintro ⟨script, finished, hes, rfl⟩
      cases hes
      exact .rest _
  · rw [if_neg left]
    simp only [spending, spent, if_neg left]
    constructor
    · intro h
      obtain ⟨tried, retried, behind, rfl, course, hbehind⟩ := leads_bind_done_iff.1 h
      obtain ⟨script, hattempts, hresult, rfl⟩ := Backup.leads_withRetries_iff.1 course
      obtain ⟨finished, _, rfl, hmeasure⟩ := Job.leads_call_bind_done_iff.1 hbehind
      obtain ⟨_, _, rfl, hend⟩ := Job.leads_call_bind_done_iff.1 hmeasure
      cases hend
      obtain ⟨attempts, result⟩ := retried
      obtain rfl : attempts = attemptsMade ctx sub script :=
        hattempts.trans (lastAttempt_remainingPolicy left script)
      obtain rfl : result = (script (attemptsMade ctx sub script)).outcome := hresult
      exact ⟨script, finished, rfl, rfl⟩
    · rintro ⟨script, finished, hes, rfl⟩
      cases hes
      exact (leads_withRetries left script).bind_done (.ask (.ask (.rest _)))

/-- The courses of a step for a started datastore are those that go by a script. -/
theorem leads_advance_iff (stored : status.sub? target.name version = some sub)
    (started : sub.started.isSome) (unfinished : sub.state.isTerminal = false)
    (complete : target.isComplete version) {es : List (Exchange Calls)} {result : Option Status} :
    (advance ctx status target version).Leads es (.done result) ↔
      ∃ script now finished, es = spending ctx target version sub script now finished ∧
        result = some (status.withSub target.name version (spent ctx sub script now finished)) := by
  have hsub : (status.entry target.name).sub version = sub := by
    change status.sub target.name version = sub
    rw [Status.sub_eq_getD, stored, Option.getD_some]
  unfold advance
  simp only [hsub, unfinished, Bool.false_eq_true, if_false]
  constructor
  · intro h
    obtain ⟨now, es, rfl, hadvance⟩ := Job.leads_call_bind_done_iff.1 h
    obtain ⟨es, sub', _, rfl, course, hend⟩ := leads_bind_done_iff.1 hadvance
    cases hend
    obtain ⟨script, finished, hes, rfl⟩ := (leads_advanceSub_iff started complete).1 course
    exact ⟨script, now, finished, by rw [List.append_nil, hes], rfl⟩
  · rintro ⟨script, now, finished, rfl, rfl⟩
    have course : (advanceSub ctx target version now sub).Leads _ (.done _) :=
      (leads_advanceSub_iff started complete).2 ⟨script, finished, rfl, rfl⟩
    exact .ask (course.bind _)

/-! ### The budget -/

theorem opened_of_mem_spending (started : sub.started.isSome)
    (complete : target.isComplete version) {e : Exchange Calls}
    (he : e ∈ spending ctx target version sub script now finished) {t : Target} {v : Datastore}
    (hopen : e.request = .openBackupper t v) : t = target ∧ v = version := by
  have course : (advanceSub ctx target version now sub).Leads _ (.done _) :=
    (leads_advanceSub_iff started complete).2 ⟨script, finished, rfl, rfl⟩
  rcases List.mem_cons.1 he with rfl | he
  · cases hopen
  · obtain ⟨ht, hv, -⟩ := (moves_of_leads course).opened he hopen
    exact ⟨ht, hv⟩

/-- One maker is opened for each attempt. -/
theorem makers_spending (started : sub.started.isSome) (complete : target.isComplete version) :
    makers (spending ctx target version sub script now finished) =
      attemptsMade ctx sub script := by
  rw [makers_eq_openings fun e he t v ↦ opened_of_mem_spending started complete he]
  by_cases left : attemptsLeft ctx sub = 0
  · simp only [spending, if_pos left, attemptsMade_of_none_left left]
    rfl
  · simp only [spending, if_neg left]
    rw [openings_cons, openings_append,
      Backup.openings_withRetries target version (leads_withRetries left script)]
    rfl

theorem spent_of_none_left (h : attemptsLeft ctx sub = 0) :
    spent ctx sub script now finished = { sub with
      state := .failed
      finished := some now
      latestError := if sub.latestError.isEmpty then attemptsExhausted else sub.latestError } :=
  if_pos h

theorem spent_of_left (h : attemptsLeft ctx sub ≠ 0) :
    spent ctx sub script now finished = SubStatus.finish sub
      ⟨attemptsMade ctx sub script, (script (attemptsMade ctx sub script)).outcome⟩ finished :=
  if_neg h

theorem records_finish (sub : SubStatus) (attempts : Nat) (o : Backup.Outcome)
    (finished : Instant) : (SubStatus.finish sub ⟨attempts, .ok o⟩ finished).Records o where
  latestError := rfl
  size := rfl
  filename := rfl
  creationMillis := Duration.toNat_millisWord _
  encryptionMillis := Duration.toNat_millisWord _
  uploadMillis := Duration.toNat_millisWord _

theorem attempts_spent : (spent ctx sub script now finished).attempts.toNat =
    sub.attempts.toNat + attemptsMade ctx sub script := by
  by_cases left : attemptsLeft ctx sub = 0
  · rw [spent_of_none_left left, attemptsMade_of_none_left left]
    rfl
  · have some_left : sub.attempts.toNat < ctx.retry.maxAttempts.toNat := by
      unfold attemptsLeft at left
      omega
    have course : (Backup.withRetries default default (remainingPolicy ctx sub)).Leads _ (.done _) :=
      leads_withRetries left script
    rw [spent_of_left left, attempts_finish]
    exact (toNat_attempts_add some_left course).1

theorem state_finish (sub : SubStatus) (retried : Retried Error Backup.Outcome)
    (finished : Instant) : (SubStatus.finish sub retried finished).state =
      if retried.result.isOk then .completed else .failed := by
  unfold SubStatus.finish
  cases retried.result <;> rfl

theorem state_spent : (spent ctx sub script now finished).state =
    if 1 ≤ attemptsMade ctx sub script ∧ (script (attemptsMade ctx sub script)).outcome.isOk then
      .completed
    else .failed := by
  by_cases left : attemptsLeft ctx sub = 0
  · rw [spent_of_none_left left, attemptsMade_of_none_left left]
    exact (if_neg (by simp)).symm
  · rw [spent_of_left left, state_finish]
    simp [one_le_attemptsMade left]

theorem latestError_spent_of_none (h : attemptsMade ctx sub script = 0) :
    (spent ctx sub script now finished).latestError =
      if sub.latestError = "" then "maximum number of backup attempts reached"
      else sub.latestError := by
  have left : attemptsLeft ctx sub = 0 := by
    by_contra left
    have hone : 1 ≤ attemptsMade ctx sub script := one_le_attemptsMade left
    omega
  rw [spent_of_none_left left]
  simp [attemptsExhausted]

/-- The budget of a datastore that is under way holds, whatever number of attempts is recorded: the
courses of its next step are those that go by a script, and each of them keeps it. -/
theorem keepsBudget_of_advance (stored : status.sub? target.name version = some sub)
    (started : sub.started.isSome) (unfinished : sub.state.isTerminal = false)
    (complete : target.isComplete version) :
    (∀ es result, (advance ctx status target version).Leads es (.done result) ↔
      ∃ script now finished, es = spending ctx target version sub script now finished ∧
        result = some (status.withSub target.name version (spent ctx sub script now finished))) ∧
    ∀ script now finished, KeepsBudget ctx target version sub script
      (spending ctx target version sub script now finished)
      (spent ctx sub script now finished) := by
  refine ⟨fun es result ↦ leads_advance_iff stored started unfinished complete,
    fun script now finished ↦ ?_⟩
  have hmakers : makers (spending ctx target version sub script now finished) =
      attemptsMade ctx sub script := makers_spending started complete
  have left {n : Nat} (h : 1 ≤ n ∧ n ≤ attemptsMade ctx sub script) : attemptsLeft ctx sub ≠ 0 := by
    intro none_left
    have hnone : attemptsMade ctx sub script = 0 := attemptsMade_of_none_left none_left
    omega
  exact {
    opened := fun e he t v ↦ opened_of_mem_spending started complete he
    none_left := fun h ↦ hmakers.trans (attemptsMade_of_none_left (Nat.sub_eq_zero_of_le h))
    success := fun n hone hleft ok first ↦
      hmakers.trans (attemptsMade_of_success hone hleft ok first)
    failures := fun h ↦ hmakers.trans (attemptsMade_of_failures h)
    sum := by rw [attempts_spent, hmakers]
    sum_le := by
      have hle : attemptsMade ctx sub script ≤ attemptsLeft ctx sub := attemptsMade_le
      rw [attempts_spent]
      unfold attemptsLeft at hle
      omega
    completed_iff := by rw [hmakers, exists_isOk_iff, state_spent]; simp
    failed := fun h ↦ by
      rw [state_spent] at h ⊢
      exact if_neg fun success ↦ h (if_pos success)
    records := fun n o hone hmade ho ↦ by
      rw [hmakers] at hmade
      obtain rfl := attemptsMade_of_isOk hone hmade (by rw [ho]; rfl)
      rw [spent_of_left (left ⟨hone, hmade⟩), ho]
      exact records_finish _ _ _ _
    latestError := fun e hone he ↦ by
      rw [hmakers] at hone he
      rw [spent_of_left (left ⟨hone, Nat.le_refl _⟩), he]
      rfl
    noAttempt := fun h ↦ latestError_spent_of_none (hmakers ▸ h) }

/-- One attempt is left below the largest word. -/
theorem keepsBudget_of_advance_largest :
    let ctx : Context :=
      { Pass.plainContext false with retry := { maxAttempts := 4294967295 } }
    let sub : SubStatus :=
      { state := .running, attempts := 4294967294, started := some default }
    let status := ({ phase := .v2Running } : Status).withSub "prod-a" .v2 sub
    let target : Target := { name := "prod-a", dataDir := "/var/lib/etcd" }
    status.sub? target.name .v2 = some sub ∧ sub.started.isSome ∧
      sub.state.isTerminal = false ∧ target.isComplete .v2 ∧
      ∀ script now finished, KeepsBudget ctx target .v2 sub script
        (spending ctx target .v2 sub script now finished) (spent ctx sub script now finished) := by
  intro ctx sub status target
  have stored : status.sub? target.name .v2 = some sub := rfl
  have complete : target.isComplete .v2 := by decide
  exact ⟨stored, rfl, rfl, complete, (keepsBudget_of_advance stored rfl rfl complete).2⟩

end Runner

end EtcdBackup
