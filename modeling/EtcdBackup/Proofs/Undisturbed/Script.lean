import EtcdBackup.Proofs.Controller.Attempts
import EtcdBackup.Proofs.Monitor

/-!
# Attempts that go by a script

What comes of the attempts at one backup can be laid down beforehand. `Outcomes` holds the answers
that one attempt gets, step by step, and a script has them for each attempt. Exchanges go by the
script of a datastore version of a target if each attempt at it was answered so, whatever came of
the attempts at others (`scripted`). A retried backup then comes to what the same retries come to
over the script alone (`ensures_withRetries`), up to the durations that were measured.
-/

set_option autoImplicit false
set_option relaxedAutoImplicit false

namespace EtcdBackup

open Dialogue

/-! ### Retries of an operation with known results -/

namespace Retry

variable {S : Signature} {ε α β : Type} {pause : Dialogue S Unit}
  {operation : Nat → Dialogue S (Except ε α)}

/-- What retries come to if the result of each attempt is known. -/
def foreseen (policy : RetryPolicy) (results : Nat → Except ε β) : Retried ε β :=
  Id.run (run (fun _ ↦ pure ()) policy fun n ↦ pure (results n))

/-- Retries of an operation come to what is foreseen, if each attempt does. -/
theorem ensures_attemptFrom {State : Type} {m : Monitor S State} {f : α → β}
    {results : Nat → Except ε β} (ready : Nat → State → Prop)
    (hpause : ∀ n s, ready n s → pause.Ensures m s fun s' _ ↦ ready n s')
    (hoperation : ∀ n s, ready n s → (operation n).Ensures m s fun s' result ↦
      ready (n + 1) s' ∧ result.map f = results n)
    (attempt remaining : Nat) {s : State} (h : ready attempt s) :
    (attemptFrom pause operation attempt remaining).Ensures m s fun _ r ↦
      (⟨r.attempts, r.result.map f⟩ : Retried ε β) =
        Id.run (attemptFrom (pure ()) (fun n ↦ pure (results n)) attempt remaining) := by
  induction remaining generalizing attempt s with
  | zero =>
    refine (hoperation attempt s h).bind fun s' result hresult ↦ .done ?_
    rw [hresult.2]
    rfl
  | succ remaining ih =>
    refine (hoperation attempt s h).bind fun s' result hresult ↦ ?_
    obtain ⟨hready, hresult⟩ := hresult
    cases result with
    | ok value =>
      refine .done ?_
      rw [attemptFrom, ← hresult]
      rfl
    | error e =>
      have hforeseen : Id.run (attemptFrom (pure ()) (fun n ↦ pure (results n)) attempt
          (remaining + 1)) =
          Id.run (attemptFrom (pure ()) (fun n ↦ pure (results n)) (attempt + 1) remaining) := by
        rw [attemptFrom, ← hresult]
        rfl
      rw [hforeseen]
      exact (hpause (attempt + 1) s' hready).bind fun s'' _ h ↦ ih (attempt + 1) h

end Retry

/-- The request is made for the work of an attempt. -/
def Call.isWork : Call → Bool
  | .openBackupper _ _ | .create _ | .encrypt _ | .upload _ => true
  | _ => false

namespace Undisturbed

/-- The exchanges that are made for the work of attempts. -/
def work (es : List (Exchange Calls)) : List (Exchange Calls) := es.filter (·.request.isWork)

/-- The backups that makers are opened for, in the order of the makers. -/
def callers (es : List (Exchange Calls)) : List (String × Datastore) :=
  es.filterMap fun e ↦
    match e.request with
    | .openBackupper t v => some (t.name, v)
    | _ => none

section

variable {es es' : List (Exchange Calls)} {name : String} {version : Datastore}

@[simp] theorem work_append : work (es ++ es') = work es ++ work es' := List.filter_append _ _

theorem work_eq_nil (h : ∀ e ∈ es, e.request.isWork = false) : work es = [] :=
  List.filter_eq_nil_iff.2 fun e he ↦ Bool.eq_false_iff.1 (h e he)

theorem callers_append : callers (es ++ es') = callers es ++ callers es' := List.filterMap_append

theorem callers_work (es : List (Exchange Calls)) : callers (work es) = callers es := by
  unfold callers work
  rw [List.filterMap_filter]
  refine congrArg (List.filterMap · es) (funext fun e ↦ ?_)
  cases hrequest : e.request <;> simp [Call.isWork]

/-- Whether one caller follows or several makes no difference to the order of the first ones. -/
theorem eraseDups_append_replicate (past : List (String × Datastore)) (n : Nat)
    (caller : String × Datastore) : (past ++ List.replicate (n + 1) caller).eraseDups =
      if caller ∈ past.eraseDups then past.eraseDups else past.eraseDups ++ [caller] := by
  have hfilter : (List.replicate (n + 1) caller).removeAll past =
      if caller ∈ past then [] else List.replicate (n + 1) caller := by
    simp only [List.removeAll, List.filter_replicate]
    by_cases known : caller ∈ past <;> simp [known]
  rw [List.eraseDups_append, hfilter]
  by_cases known : caller ∈ past
  · rw [if_pos known, if_pos (List.mem_eraseDups.2 known)]
    exact List.append_nil _
  · rw [if_neg known, if_neg (mt List.mem_eraseDups.1 known), List.replicate_succ,
      List.eraseDups_cons, List.filter_replicate]
    simp

theorem openings_eq_count : openings name version es = (callers es).count (name, version) := by
  induction es with
  | nil => rfl
  | cons e es ih =>
    rw [openings_cons, ih]
    obtain ⟨request, answer⟩ := e
    cases request with
    | openBackupper t v =>
      simp [callers, Call.opens, List.count_cons]
    | _ => rfl

end

/-- The answers that one attempt at a backup gets: the version of its maker, the path of the
artifact, that of the file to upload, and the size of what was stored. -/
structure Outcomes where
  opened : Except Error Datastore
  created : Except Error String
  encrypted : Except Error String
  uploaded : Except Error UInt64

/-- What the attempt comes to: the size and the name of the file, or the failure of the first step
that fails. -/
def Outcomes.result (x : Outcomes) : Except Error (UInt64 × String) := do
  let version ← x.opened
  let _ ← x.created.mapError (.ofStage version .creation)
  let path ← x.encrypted.mapError (.ofStage version .encryption)
  let size ← x.uploaded.mapError (.ofStage version .upload)
  pure (size, (Path.fileName? path).getD "")

/-- What a backup came to without the durations. -/
def told (outcome : Backup.Outcome) : UInt64 × String := (outcome.size, outcome.filename)

/-- How far the attempts have got: how many were begun, and which one is under way. -/
structure Turn where
  attempts : Nat := 0
  current : Option Nat := none

/-- The attempts at a datastore version of a target are answered by a script. -/
def scripted (name : String) (version : Datastore) (script : Nat → Outcomes) :
    Monitor Calls Turn where
  after turn e :=
    match e.request with
    | .openBackupper t v =>
      if t.name = name ∧ v = version then ⟨turn.attempts + 1, some turn.attempts⟩
      else { turn with current := none }
    | _ => turn
  fits turn e :=
    match e with
    | ⟨.openBackupper t v, answer⟩ =>
      t.name = name ∧ v = version →
        answer.map Backupper.version = (script turn.attempts).opened
    | ⟨.create _, answer⟩ => ∀ k ∈ turn.current, answer = (script k).created
    | ⟨.encrypt _, answer⟩ => ∀ k ∈ turn.current, answer = (script k).encrypted
    | ⟨.upload _, answer⟩ => ∀ k ∈ turn.current, answer = (script k).uploaded
    | _ => True
  may _ _ := True

section

variable {name : String} {version : Datastore} {script : Nat → Outcomes} {turn : Turn}
  {target : Target}

/-- The attempts are counted by their makers. -/
theorem attempts_foldl_after (es : List (Exchange Calls)) (turn : Turn) :
    (es.foldl (scripted name version script).after turn).attempts =
      turn.attempts + openings name version es := by
  have attempts_after (e : Exchange Calls) (turn : Turn) :
      ((scripted name version script).after turn e).attempts =
        turn.attempts + if e.request.opens name version then 1 else 0 := by
    obtain ⟨request, answer⟩ := e
    cases request with
    | openBackupper t v =>
      by_cases hsame : t.name = name ∧ v = version <;> simp [scripted, Call.opens, hsame]
    | _ => rfl
  induction es generalizing turn with
  | nil => rfl
  | cons e es ih =>
    rw [List.foldl_cons, ih, attempts_after, openings_cons]
    omega

/-- Other exchanges do not matter to the script. -/
theorem allFit_work {es : List (Exchange Calls)} :
    (scripted name version script).AllFit turn (work es) ↔
      (scripted name version script).AllFit turn es := by
  refine Monitor.allFit_filter fun turn e h ↦ ?_
  obtain ⟨request, answer⟩ := e
  cases request <;> first | exact ⟨trivial, rfl⟩ | cases h

/-! ### What one attempt comes to -/

/-- A step of a backup is timed without changing what comes of it. -/
theorem ensures_timed {α : Type} {act : Job (Except Error α)} {answer : Except Error α}
    (v : Datastore) (stage : Stage)
    (h : act.Ensures (scripted name version script) turn fun turn' result ↦
      turn' = turn ∧ result = answer) :
    (Backup.timed v stage act).Ensures (scripted name version script) turn fun turn' result ↦
      turn' = turn ∧ result.map Prod.fst = answer.mapError (.ofStage v stage) := by
  refine .ask trivial fun before _ ↦ h.bind fun turn' result hresult ↦ ?_
  obtain ⟨rfl, rfl⟩ := hresult
  cases result with
  | error e => exact .done ⟨rfl, rfl⟩
  | ok a => exact .ask trivial fun after _ ↦ .done ⟨rfl, rfl⟩

/-- The steps with a maker that is open come to what the script says. -/
theorem ensures_stages (b : Backupper) {k : Nat} (current : turn.current = some k)
    (opened : (script k).opened = .ok b.version) :
    (Backup.stages b).Ensures (scripted name version script) turn fun turn' result ↦
      turn' = turn ∧ result.map told = (script k).result := by
  have hresult : (script k).result = (do
      let _ ← (script k).created.mapError (.ofStage b.version .creation)
      let path ← (script k).encrypted.mapError (.ofStage b.version .encryption)
      let size ← (script k).uploaded.mapError (.ofStage b.version .upload)
      pure (size, (Path.fileName? path).getD "")) := by
    rw [Outcomes.result, opened]
    rfl
  have created : (Job.call (.create b)).Ensures (scripted name version script) turn
      fun turn' answer ↦ turn' = turn ∧ answer = (script k).created :=
    .ask trivial fun got h ↦ .done ⟨rfl, h k current⟩
  have encrypted : (Job.call (.encrypt b)).Ensures (scripted name version script) turn
      fun turn' answer ↦ turn' = turn ∧ answer = (script k).encrypted :=
    .ask trivial fun got h ↦ .done ⟨rfl, h k current⟩
  have uploaded (path : String) : (Job.call (.upload path)).Ensures
      (scripted name version script) turn
      fun turn' answer ↦ turn' = turn ∧ answer = (script k).uploaded :=
    .ask trivial fun got h ↦ .done ⟨rfl, h k current⟩
  rw [hresult]
  unfold Backup.stages
  refine (ensures_timed b.version .creation created).bind fun turn' result hcreated ↦ ?_
  obtain ⟨rfl, hcreated⟩ := hcreated
  rw [← hcreated]
  cases result with
  | error e => exact .done ⟨rfl, rfl⟩
  | ok made =>
    refine (ensures_timed b.version .encryption encrypted).bind fun turn' result hencrypted ↦ ?_
    obtain ⟨rfl, hencrypted⟩ := hencrypted
    rw [← hencrypted]
    cases result with
    | error e => exact .done ⟨rfl, rfl⟩
    | ok covered =>
      refine (ensures_timed b.version .upload (uploaded covered.1)).bind
        fun turn' result huploaded ↦ ?_
      obtain ⟨rfl, huploaded⟩ := huploaded
      rw [← huploaded]
      cases result with
      | error e => exact .done ⟨rfl, rfl⟩
      | ok stored => exact .done ⟨rfl, rfl⟩

/-- An attempt at the backup of the script comes to what the script says. -/
theorem ensures_attempt (hname : target.name = name) (turn : Turn) :
    (Backup.attempt target version).Ensures (scripted name version script) turn
      fun turn' result ↦ turn'.attempts = turn.attempts + 1 ∧
        result.map told = (script turn.attempts).result := by
  refine .ask trivial fun answer fits ↦ ?_
  have opened : answer.map Backupper.version = (script turn.attempts).opened := fits ⟨hname, rfl⟩
  have next : (scripted name version script).after turn ⟨.openBackupper target version, answer⟩ =
      ⟨turn.attempts + 1, some turn.attempts⟩ := if_pos ⟨hname, rfl⟩
  rw [next]
  cases answer with
  | error e =>
    have failed : (script turn.attempts).result = .error e := by
      rw [Outcomes.result, ← opened]
      rfl
    exact .done ⟨rfl, failed.symm⟩
  | ok b =>
    refine (ensures_stages b rfl opened.symm).bind fun turn' result hresult ↦ ?_
    obtain ⟨rfl, hresult⟩ := hresult
    exact .ask trivial fun _ _ ↦ .done ⟨rfl, hresult⟩

/-- Retries of the backup of the script come to what the same retries come to over the script. -/
theorem ensures_withRetries (hname : target.name = name) (policy : RetryPolicy) (turn : Turn) :
    (Backup.withRetries target version policy).Ensures (scripted name version script) turn
      fun _ retried ↦ (⟨retried.attempts, retried.result.map told⟩ : Retried _ _) =
        Retry.foreseen policy fun n ↦ (script (turn.attempts + (n - 1))).result := by
  let ready (n : Nat) (turn' : Turn) : Prop := 0 < n ∧ turn'.attempts = turn.attempts + (n - 1)
  refine Retry.ensures_attemptFrom ready (fun n turn' h ↦ .ask trivial fun _ _ ↦ .done h)
    (fun n turn' h ↦ ?_) _ _ ⟨Nat.one_pos, rfl⟩
  refine (ensures_attempt hname turn').mono fun turn'' result hresult ↦ ?_
  obtain ⟨hturn, hresult⟩ := hresult
  refine ⟨⟨Nat.succ_pos n, ?_⟩, ?_⟩
  · have := h.1
    have := h.2
    omega
  · rw [hresult, h.2]

end

end Undisturbed

end EtcdBackup
