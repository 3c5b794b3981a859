import EtcdBackup.Proofs.Undisturbed.Cycle
import EtcdBackup.Proofs.Undisturbed.Outline
import EtcdBackup.Proofs.Undisturbed.Script

/-!
# Two runs in step

What a pass does next does not depend on what came of the backups that are done. Two decisions on
statuses that are abreast note the same reason, or work on the same sub-status, the first one that
is not done in both (`Visits.together`, `Planned.together`); and if they make the attempts at a
backup, they both do (`Moves.together`). The two statuses that come out are abreast again: always if
the attempts were at another backup, and otherwise if one script answered them
(`Together.abreast`). That holds in every phase of the cycle (`Pass.together_of_leads`).
-/

set_option autoImplicit false
set_option relaxedAutoImplicit false

namespace EtcdBackup

open Dialogue

namespace Runner

open Undisturbed

variable {ctx : Context} {target : Target} {version : Datastore} {sub sub' : SubStatus}
  {es : List (Exchange Calls)}

/-- The attempts that are left are made, and the sub-status is closed with their result. -/
inductive Tries (ctx : Context) (target : Target) (version : Datastore) (sub : SubStatus) :
    List (Exchange Calls) → SubStatus → Prop
  | intro (started : sub.started.isSome) (left : sub.attempts.toNat < ctx.retry.maxAttempts.toNat)
      {es : List (Exchange Calls)} {retried : Retried Error Backup.Outcome}
      (course : (Backup.withRetries target version (remainingPolicy ctx sub)).Leads es
        (.done retried)) (finished : Instant) :
      Tries ctx target version sub
        (es ++ [⟨.now, finished⟩, ⟨.measure ⟨target.name, version, retried.attempts,
          retried.result.toOption, finished⟩, ()⟩])
        (SubStatus.finish sub retried finished)

/-- The attempts end the work on the sub-status, which was started before. -/
theorem Tries.closes (h : Tries ctx target version sub es sub') :
    sub'.state.isTerminal ∧ sub'.started.isSome := by
  cases h with
  | @intro started left es retried course finished =>
    unfold SubStatus.finish
    cases retried.result <;> exact ⟨rfl, started⟩

/-- Each of the attempts opens a maker for this backup, and no other one is opened. -/
theorem callers_of_leads {policy : RetryPolicy} {retried : Retried Error Backup.Outcome}
    (course : (Backup.withRetries target version policy).Leads es (.done retried)) :
    callers es = List.replicate retried.attempts (target.name, version) := by
  have hall : ∀ caller ∈ callers es, caller = (target.name, version) := by
    intro caller hcaller
    obtain ⟨e, he, hcaller⟩ := List.mem_filterMap.1 hcaller
    have hbackup := (Backup.only_withRetries target version policy).request course e he
    obtain ⟨request, answer⟩ := e
    cases request with
    | openBackupper t v =>
      obtain ⟨rfl, rfl⟩ := hbackup
      exact (Option.some.inj hcaller).symm
    | _ => cases hcaller
  rw [← Backup.openings_withRetries target version course, openings_eq_count,
    List.count_eq_length.2 fun caller h ↦ (hall caller h).symm]
  exact List.eq_replicate_of_mem hall

theorem Tries.callers_eq (h : Tries ctx target version sub es sub') :
    ∃ n, callers es = List.replicate (n + 1) (target.name, version) := by
  cases h with
  | @intro started left es retried course finished =>
    obtain ⟨n, hn⟩ := Nat.exists_eq_add_of_le' (Backup.attempts_withRetries target version course).1
    refine ⟨n, ?_⟩
    rw [callers_append, callers_of_leads course, hn]
    exact List.append_nil _

/-- What the end of retries makes of a sub-status, times and durations aside. -/
theorem timeless_finish (sub : SubStatus) (retried : Retried Error Backup.Outcome)
    (finished : Instant) :
    (SubStatus.finish sub retried finished).timeless =
      let closed := { sub.timeless with
        attempts := sub.timeless.attempts + UInt32.ofNat retried.attempts
        finished := some .epoch }
      match retried.result.map told with
      | .ok (size, filename) => { closed with
        state := .completed
        latestError := ""
        size := size
        filename := some filename }
      | .error e => { closed with state := .failed, latestError := e.message } := by
  unfold SubStatus.finish
  cases retried.result <;> rfl

/-- Attempts that are answered by one script are as many in both cases, and change sub-statuses that
are alike in the same way. -/
theorem Tries.same {a a' b b' : SubStatus} {es es' : List (Exchange Calls)}
    {script : Nat → Outcomes} {turn turn' : Turn} (ha : Tries ctx target version a es a')
    (hb : Tries ctx target version b es' b') (alike : a.timeless = b.timeless)
    (fits : (scripted target.name version script).AllFit turn es)
    (fits' : (scripted target.name version script).AllFit turn' es')
    (same : turn.attempts = turn'.attempts) :
    a'.timeless = b'.timeless ∧ callers es = callers es' := by
  have policy : remainingPolicy ctx a.timeless = remainingPolicy ctx b.timeless := by rw [alike]
  change remainingPolicy ctx a = remainingPolicy ctx b at policy
  have foreseen {sub : SubStatus} {turn : Turn} {es : List (Exchange Calls)}
      {retried : Retried Error Backup.Outcome}
      (course : (Backup.withRetries target version (remainingPolicy ctx sub)).Leads es
        (.done retried)) (fits : (scripted target.name version script).AllFit turn es) :
      (⟨retried.attempts, retried.result.map told⟩ : Retried _ _) =
        Retry.foreseen (remainingPolicy ctx sub) fun n ↦
          (script (turn.attempts + (n - 1))).result := by
    cases ((ensures_withRetries rfl _ turn).of_leads course fits).2 with
    | done h => exact h
  cases ha with
  | @intro started left es retried course finished =>
  cases hb with
  | @intro started' left' es' retried' course' finished' =>
    have foreseen₁ := foreseen course (Monitor.allFit_append.1 fits).1
    have foreseen₂ := foreseen course' (Monitor.allFit_append.1 fits').1
    rw [← policy, ← same, ← foreseen₁] at foreseen₂
    obtain ⟨hattempts, hresult⟩ := Retried.mk.inj foreseen₂
    refine ⟨?_, ?_⟩
    · rw [timeless_finish, timeless_finish, alike, hattempts, hresult]
    · rw [callers_append, callers_append, callers_of_leads course, callers_of_leads course',
        hattempts]
      rfl

/-- Sub-statuses that are alike move on in the same way, up to what comes of the attempts. -/
theorem Moves.together {a a' b b' : SubStatus} {now now' : Instant} {es es' : List (Exchange Calls)}
    (ha : Moves ctx target version now a es a') (hb : Moves ctx target version now' b es' b')
    (alike : a.timeless = b.timeless) :
    es = [] ∧ es' = [] ∧ a'.timeless = b'.timeless ∨
      Tries ctx target version a es a' ∧ Tries ctx target version b es' b' := by
  have hstarted : a.started.isSome = b.started.isSome := (Parallel.of_timeless alike).started
  have hattempts : a.timeless.attempts = b.timeless.attempts := by rw [alike]
  cases ha with
  | start fresh =>
    rw [fresh] at hstarted
    cases hb with
    | start fresh' =>
      exact Or.inl ⟨rfl, rfl, congrArg (fun x : SubStatus ↦
        { x with started := some .epoch, state := .running }) alike⟩
    | skip started | exhaust started | attempt started =>
      rw [started] at hstarted
      cases hstarted
  | skip started incomplete =>
    rw [started] at hstarted
    cases hb with
    | start fresh =>
      rw [fresh] at hstarted
      cases hstarted
    | skip =>
      exact Or.inl ⟨rfl, rfl, congrArg (fun x : SubStatus ↦
        { x with state := .skipped, finished := some .epoch }) alike⟩
    | exhaust _ complete | attempt _ complete => exact (incomplete complete).elim
  | exhaust started complete spent =>
    rw [started] at hstarted
    cases hb with
    | start fresh =>
      rw [fresh] at hstarted
      cases hstarted
    | skip _ incomplete => exact (incomplete complete).elim
    | exhaust =>
      exact Or.inl ⟨rfl, rfl, congrArg (fun x : SubStatus ↦ { x with
        state := .failed
        finished := some .epoch
        latestError := if x.latestError.isEmpty then attemptsExhausted else x.latestError }) alike⟩
    | attempt _ _ left =>
      change a.attempts = b.attempts at hattempts
      rw [hattempts] at spent
      omega
  | attempt started complete left course finished =>
    rw [started] at hstarted
    cases hb with
    | start fresh =>
      rw [fresh] at hstarted
      cases hstarted
    | skip _ incomplete => exact (incomplete complete).elim
    | exhaust _ _ spent =>
      change a.attempts = b.attempts at hattempts
      rw [hattempts] at left
      omega
    | attempt started' _ left' course' finished' =>
      exact Or.inr ⟨.intro started left course finished, .intro started' left' course' finished'⟩

/-! ### The plan of a round -/

/-- What two runs write next, and the exchanges that lead to it. Either no maker is opened and the
new statuses are abreast, or the attempts at the same backup are made in both. -/
inductive Together (ctx : Context) (name : String) (version : Datastore) (s s' : Status) :
    List (Exchange Calls) → Status → List (Exchange Calls) → Status → Prop
  | quiet {look look' : List (Exchange Calls)} {next next' : Status} (idle : work look = [])
      (idle' : work look' = []) (abreast : Abreast name version next next') :
      Together ctx name version s s' look next look' next'
  | tries {target : Target} {v : Datastore} {look look' es es' : List (Exchange Calls)}
      {sub sub' : SubStatus}
      (alike : (s.sub target.name v).timeless = (s'.sub target.name v).timeless)
      (tries : Tries ctx target v (s.sub target.name v) es sub)
      (tries' : Tries ctx target v (s'.sub target.name v) es' sub')
      (same : work look = work es) (same' : work look' = work es') :
      Together ctx name version s s' look (s.withSub target.name v sub) look'
        (s'.withSub target.name v sub')

variable {record record' : Record} {name : String} {s s' : Status}
  {discovery : Except Error (List Target)}

theorem Together.congr_work {look look' es es' : List (Exchange Calls)} {next next' : Status}
    (h : Together ctx name version s s' es next es' next') (same : work look = work es)
    (same' : work look' = work es') : Together ctx name version s s' look next look' next' := by
  cases h with
  | quiet idle idle' abreast => exact .quiet (same.trans idle) (same'.trans idle') abreast
  | tries alike tries tries' hsame hsame' =>
    exact .tries alike tries tries' (same.trans hsame) (same'.trans hsame')

/-- In both runs nothing is left to do, or the same is done next. -/
inductive BothOrNone (ctx : Context) (name : String) (version : Datastore) (s s' : Status) :
    List (Exchange Calls) → Option Status → List (Exchange Calls) → Option Status → Prop
  | none {look look' : List (Exchange Calls)} (idle : work look = []) (idle' : work look' = []) :
      BothOrNone ctx name version s s' look none look' none
  | both {look look' : List (Exchange Calls)} {next next' : Status}
      (together : Together ctx name version s s' look next look' next') :
      BothOrNone ctx name version s s' look (some next) look' (some next')

theorem BothOrNone.congr_work {look look' es es' : List (Exchange Calls)}
    {next next' : Option Status} (h : BothOrNone ctx name version s s' es next es' next')
    (same : work look = work es) (same' : work look' = work es') :
    BothOrNone ctx name version s s' look next look' next' := by
  cases h with
  | none idle idle' => exact .none (same.trans idle) (same'.trans idle')
  | both together => exact .both (together.congr_work same same')

/-- The same reason is noted first. -/
theorem recordUnresolved_together (abreast : Abreast name version s s') (names : List Unresolved) :
    recordUnresolved s names = none ∧ recordUnresolved s' names = none ∨
      ∃ u : Unresolved, recordUnresolved s names = some (s.withReason u.name u.reason) ∧
        recordUnresolved s' names = some (s'.withReason u.name u.reason) := by
  induction names with
  | nil => exact Or.inl ⟨rfl, rfl⟩
  | cons u names ih =>
    simp only [recordUnresolved, ← abreast.error_eq]
    by_cases known : (s.entry u.name).error = some u.reason
    · rw [if_pos known, if_pos known]
      exact ih
    · rw [if_neg known, if_neg known]
      exact Or.inr ⟨u, rfl, rfl⟩

/-- The same target is the first that is not done. -/
theorem Visits.together {v : Datastore} {targets : List Target} {es es' : List (Exchange Calls)}
    {next next' : Option Status} (h : Visits ctx v s targets es next)
    (h' : Visits ctx v s' targets es' next') (abreast : Abreast name version s s') :
    BothOrNone ctx name version s s' es next es' next' := by
  induction h generalizing es' with
  | nil =>
    cases h'
    exact .none rfl rfl
  | @done target rest es next now terminal others ih =>
    have parallel := abreast.parallel target.name v
    cases h' with
    | done now' terminal' others' => exact (ih others').congr_work rfl rfl
    | work unfinished' =>
      rw [parallel.isTerminal, unfinished'] at terminal
      cases terminal
  | @work target rest now es sub unfinished moves =>
    have parallel := abreast.parallel target.name v
    cases h' with
    | done now' terminal' =>
      rw [parallel.isTerminal, terminal'] at unfinished
      cases unfinished
    | @work _ _ now' es' sub' unfinished' moves' =>
      have alike := parallel.unfinished unfinished
      rcases moves.together moves' alike with ⟨rfl, rfl, hsub⟩ | ⟨tries, tries'⟩
      · exact .both (.quiet rfl rfl
          (abreast.withSub target.name v (.of_timeless hsub) fun _ ↦ hsub))
      · exact .both (.tries alike tries tries' rfl rfl)

/-- Whenever the tenant clusters are looked up, the answer is the same. -/
def Finds (discovery : Except Error (List Target)) (es : List (Exchange Calls)) : Prop :=
  ∀ answer, (⟨.discover, answer⟩ : Exchange Calls) ∈ es → answer = discovery

/-- The selection depends on what is asked for and on the answer to the lookup. -/
theorem select_unique {look look' : List (Exchange Calls)}
    {selected selected' : Except Error Selection} {discovery : Except Error (List Target)}
    (h : (select ctx record).Leads look (.done selected))
    (h' : (select ctx record').Leads look' (.done selected')) (spec : record'.spec = record.spec)
    (finds : Finds discovery look) (finds' : Finds discovery look') : selected = selected' := by
  rcases cases_of_leads_select h with ⟨needed, answer, rfl, rfl⟩ | ⟨needless, -, rfl⟩ <;>
    rcases cases_of_leads_select h' with ⟨needed', answer', rfl, rfl⟩ | ⟨needless', -, rfl⟩
  · obtain rfl := finds answer List.mem_cons_self
    obtain rfl := finds' answer' List.mem_cons_self
    rw [spec]
  · rw [spec, needed] at needless'
    cases needless'
  · rw [spec, needless] at needed'
    cases needed'
  · rw [spec]

theorem work_select {look : List (Exchange Calls)} {selected : Except Error Selection}
    (h : (select ctx record).Leads look (.done selected)) : work look = [] :=
  work_eq_nil fun e he ↦ by rw [only_select.request h e he]; rfl

/-- What a plan is for a selection. -/
theorem Planned.exists_selection {v : Datastore} {es : List (Exchange Calls)}
    {next : Option Status} (h : Planned ctx record s v es next) :
    ∃ look rest selection, es = look ++ rest ∧
      (select ctx record).Leads look (.done (.ok selection)) ∧
      match recordUnresolved s selection.unresolved with
      | some noted => rest = [] ∧ next = some noted
      | none => Visits ctx v s selection.targets rest next := by
  cases h with
  | note selected unrecorded =>
    refine ⟨_, [], _, (List.append_nil _).symm, selected, ?_⟩
    rw [unrecorded]
    exact ⟨rfl, rfl⟩
  | visit selected recorded visits =>
    refine ⟨_, _, _, rfl, selected, ?_⟩
    rw [recorded]
    exact visits

/-- A plan finds the same to do in both runs, if the lookups of the clusters are answered alike. -/
theorem Planned.together {v : Datastore} {es es' : List (Exchange Calls)}
    {next next' : Option Status} (h : Planned ctx record s v es next)
    (h' : Planned ctx record' s' v es' next') (abreast : Abreast name version s s')
    (spec : record'.spec = record.spec) (finds : Finds discovery es)
    (finds' : Finds discovery es') :
    BothOrNone ctx name version s s' es next es' next' := by
  obtain ⟨look, rest, selection, rfl, selected, hrest⟩ := h.exists_selection
  obtain ⟨look', rest', selection', rfl, selected', hrest'⟩ := h'.exists_selection
  obtain rfl : selection = selection' := Except.ok.inj (select_unique selected selected' spec
    (fun answer h ↦ finds answer (List.mem_append_left rest h))
    fun answer h ↦ finds' answer (List.mem_append_left rest' h))
  have hwork : work (look ++ rest) = work rest := by
    rw [work_append, work_select selected, List.nil_append]
  have hwork' : work (look' ++ rest') = work rest' := by
    rw [work_append, work_select selected', List.nil_append]
  rcases recordUnresolved_together abreast selection.unresolved with ⟨none, none'⟩ | ⟨u, hu, hu'⟩
  · rw [none] at hrest
    rw [none'] at hrest'
    exact (hrest.together hrest' abreast).congr_work hwork hwork'
  · rw [hu] at hrest
    rw [hu'] at hrest'
    obtain ⟨rfl, rfl⟩ := hrest
    obtain ⟨rfl, rfl⟩ := hrest'
    exact .both (.quiet hwork hwork' (abreast.withReason u.name u.reason))

/-! ### What the attempts leave -/

/-- What one run writes is abreast of what the other one writes, if the attempts at the one backup
are answered by one script. -/
theorem Together.abreast {look look' : List (Exchange Calls)} {next next' : Status}
    {script : Nat → Outcomes} {turn turn' : Turn}
    (h : Together ctx name version s s' look next look' next') (abreast : Abreast name version s s')
    (fits : (scripted name version script).AllFit turn look)
    (fits' : (scripted name version script).AllFit turn' look')
    (same : turn.attempts = turn'.attempts) :
    Abreast name version next next' ∧
      openings name version look = openings name version look' := by
  rw [openings_eq_count, openings_eq_count, ← callers_work, ← callers_work look']
  cases h with
  | quiet idle idle' next =>
    rw [idle, idle']
    exact ⟨next, rfl⟩
  | @tries target v _ _ es es' sub sub' alike tries tries' hsame hsame' =>
    rw [hsame, hsame', callers_work, callers_work]
    rw [← allFit_work, hsame, allFit_work] at fits
    rw [← allFit_work, hsame', allFit_work] at fits'
    have parallel : Parallel sub sub' := by
      obtain ⟨terminal, started⟩ := tries.closes
      obtain ⟨terminal', started'⟩ := tries'.closes
      refine ⟨terminal.trans terminal'.symm, started.trans started'.symm, fun unfinished ↦ ?_⟩
      rw [terminal] at unfinished
      cases unfinished
    by_cases hown : target.name = name ∧ v = version
    · obtain ⟨rfl, rfl⟩ := hown
      obtain ⟨htimeless, hcallers⟩ := tries.same tries' alike fits fits' same
      exact ⟨abreast.withSub target.name v parallel fun _ ↦ htimeless, by rw [hcallers]⟩
    · refine ⟨abreast.withSub target.name v parallel fun h ↦ (hown h).elim, ?_⟩
      obtain ⟨n, hn⟩ := tries.callers_eq
      obtain ⟨n', hn'⟩ := tries'.callers_eq
      have hne : ¬((target.name, v) == (name, version)) = true := fun h ↦
        hown (Prod.mk.inj (eq_of_beq h))
      rw [hn, hn', List.count_replicate, List.count_replicate, if_neg hne, if_neg hne]

/-- Makers are first opened in the same order. -/
theorem Together.eraseDups_callers {look look' past past' : List (Exchange Calls)}
    {next next' : Status} (h : Together ctx name version s s' look next look' next')
    (same : (callers past).eraseDups = (callers past').eraseDups) :
    (callers (past ++ look)).eraseDups = (callers (past' ++ look')).eraseDups := by
  rw [callers_append, callers_append, ← callers_work look, ← callers_work look']
  cases h with
  | quiet idle idle' next =>
    rw [idle, idle']
    simpa [callers] using same
  | @tries target v _ _ es es' sub sub' alike tries tries' hsame hsame' =>
    obtain ⟨n, hn⟩ := tries.callers_eq
    obtain ⟨n', hn'⟩ := tries'.callers_eq
    rw [hsame, hsame', callers_work, callers_work, hn, hn', eraseDups_append_replicate,
      eraseDups_append_replicate, same]

end Runner

namespace Pass

open Runner Undisturbed

variable {ctx : Context} {r r' : Record} {now now' : Instant} {name : String}
  {version : Datastore} {look look' : List (Exchange Calls)}
  {discovery : Except Error (List Target)}

/-- Two decisions within a round go on together. -/
theorem together_of_leads_round {s s' : Status} {v : Datastore} {decision decision' : Decision}
    {next next' : Status} (h : (decideRound ctx r s v).Leads look (.done (.ok decision)))
    (h' : (decideRound ctx r' s' v).Leads look' (.done (.ok decision')))
    (hnext : decision.status? = some next) (hnext' : decision'.status? = some next')
    (abreast : Abreast name version s s') (spec : r'.spec = r.spec)
    (finds : Finds discovery look) (finds' : Finds discovery look') :
    Together ctx name version s s' look next look' next' := by
  obtain ⟨planned, hplanned, rfl⟩ := planned_of_leads_round h
  obtain ⟨planned', hplanned', rfl⟩ := planned_of_leads_round h'
  cases hplanned.together hplanned' abreast spec finds finds' with
  | none idle idle' =>
    cases hnext
    cases hnext'
    exact .quiet idle idle' (abreast.withPhase (.closed v))
  | both together =>
    cases hnext
    cases hnext'
    exact together

/-- Two decisions on statuses that are abreast go on together. -/
theorem together_of_leads {decision decision' : Decision} {next next' : Status}
    (h : (decide ctx r now).Leads look (.done (.ok decision)))
    (h' : (decide ctx r' now').Leads look' (.done (.ok decision')))
    (hnext : decision.status? = some next) (hnext' : decision'.status? = some next')
    (abreast : Abreast name version (r.status.getD {}) (r'.status.getD {}))
    (spec : r'.spec = r.spec) (finds : Finds discovery look) (finds' : Finds discovery look')
    (admitted : r.phase = .empty → ∀ all all', (⟨.list, .ok all⟩ : Exchange Calls) ∈ look →
      (⟨.list, .ok all'⟩ : Exchange Calls) ∈ look' → admission r' all' = admission r all) :
    Together ctx name version (r.status.getD {}) (r'.status.getD {}) look next look' next' := by
  have active : (r.status.getD {}).phase.isTerminal = false := by
    refine Bool.eq_false_iff.2 fun terminal ↦ ?_
    rcases (decided_of_leads h).of_isTerminal terminal with ⟨-, rfl | rfl⟩ <;> cases hnext
  unfold decide at h h'
  dsimp only at h h'
  rw [spec, abreast.phase_eq active] at h'
  generalize (if readsPatterns (r.status.getD {}).phase then Selection.checkPatterns r.spec
    else .ok ()) = checked at h h'
  cases checked with
  | error e =>
    cases h
    cases h'
    cases hnext
    cases hnext'
    exact .quiet rfl rfl (abreast.rejected now now' e.message)
  | ok _ =>
    dsimp only at h h'
    cases phase : (r.status.getD {}).phase with
    | empty =>
      rw [phase] at h h'
      obtain ⟨answer, es, rfl, hend⟩ := Job.leads_call_bind_done_iff.1 h
      obtain ⟨answer', es', rfl, hend'⟩ := Job.leads_call_bind_done_iff.1 h'
      cases answer with
      | error e => cases hend
      | ok all =>
      cases answer' with
      | error e => cases hend'
      | ok all' =>
        cases hend
        cases hend'
        cases hnext
        cases hnext'
        rw [admitted phase all all' List.mem_cons_self List.mem_cons_self]
        exact .quiet rfl rfl (abreast.withPhase _)
    | pending =>
      rw [phase] at h h'
      cases h
      cases h'
      cases hnext
      cases hnext'
      exact .quiet rfl rfl (abreast.opened now now' .v2Running)
    | v2Running =>
      rw [phase] at h h'
      exact together_of_leads_round h h' hnext hnext' abreast spec finds finds'
    | v3Running =>
      rw [phase] at h h'
      exact together_of_leads_round h h' hnext hnext' abreast spec finds finds'
    | v2Completed =>
      rw [phase] at h h'
      cases h
      cases h'
      cases hnext
      cases hnext'
      exact .quiet rfl rfl (abreast.withPhase .v3Running)
    | v3Completed =>
      rw [phase] at h h'
      cases h
      cases h'
      cases hnext
      cases hnext'
      have verdict (s : Status) : (if s.anyFailed then Phase.failed else .completed) = .failed ∨
          (if s.anyFailed then Phase.failed else .completed) = .completed := by
        cases s.anyFailed <;> simp
      exact .quiet rfl rfl (abreast.withVerdict now now' (verdict _) (verdict _))
    | completed | failed | skipped =>
      rw [phase] at active
      cases active

end Pass

end EtcdBackup
