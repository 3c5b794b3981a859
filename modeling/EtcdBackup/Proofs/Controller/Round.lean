import EtcdBackup.Proofs.Controller.Effects
import EtcdBackup.Proofs.Lookup

/-!
# One piece of work a round

A round takes up the first work that its selection leaves: the first name whose reason is not
noted, or else the first target that is not done (`IsFirst`). What it writes is the status it began
with, but for the entry of that one piece of work (`Status.DiffersAt`), and if there is no work it
writes nothing.

A round may as well be done on a working copy of the status, in which looking up an entry or a
sub-status adds a missing one (`runInPlace`). Nothing is added for what is noted or done already,
so the copy comes to the status that is written, or stays as it was (`runInPlace_eq`). The main
statement, `first_work_of_leads`, is about the two together.
-/

set_option autoImplicit false
set_option relaxedAutoImplicit false

namespace EtcdBackup

open Dialogue

namespace Status

/-- The reason for an unresolved name is noted already. -/
def HasNoted (s : Status) (u : Unresolved) : Prop := s.reason? u.name = some u.reason

instance (s : Status) (u : Unresolved) : Decidable (s.HasNoted u) :=
  inferInstanceAs (Decidable (s.reason? u.name = some u.reason))

/-- A datastore version of a target is done. -/
def IsDone (s : Status) (name : String) (version : Datastore) : Prop :=
  ∃ sub, s.sub? name version = some sub ∧ sub.state.isTerminal

/-- The second status differs from the first one in the entry under a name, and nowhere else. -/
structure DiffersAt (s next : Status) (name : String) (entry : InstanceStatus) : Prop where
  entry_eq : next.instances.get? name = some entry
  entry_new : s.instances.get? name ≠ some entry
  others : ∀ other, other ≠ name → next.instances.get? other = s.instances.get? other
  phase : next.phase = s.phase
  started : next.started = s.started
  finished : next.finished = s.finished
  error : next.error = s.error

/-- The status in which the entry of a name was looked up: a missing one is added. -/
def withLooked (s : Status) (name : String) : Status :=
  { s with instances := s.instances.insert name (s.entry name) }

variable {s : Status} {name : String} {version : Datastore} {u : Unresolved}
  {entry : InstanceStatus}

theorem hasNoted_iff : s.HasNoted u ↔ (s.entry u.name).error = some u.reason := by
  rw [reason?_entry, HasNoted]

/-- What was not started is not done. -/
theorem isDone_iff : s.IsDone name version ↔ (s.sub name version).state.isTerminal := by
  unfold IsDone
  rw [sub_eq_getD]
  cases s.sub? name version with
  | none => simp [InstanceState.isTerminal]
  | some sub => simp

theorem not_isDone_iff :
    ¬s.IsDone name version ↔ (s.sub name version).state.isTerminal = false := by
  rw [isDone_iff, Bool.not_eq_true]

/-- Only the entry under the name is written. -/
theorem differsAt_insert (new : s.instances.get? name ≠ some entry) :
    s.DiffersAt { s with instances := s.instances.insert name entry } name entry where
  entry_eq := by simp
  entry_new := new
  others other hother := by simp [hother.symm]
  phase := rfl
  started := rfl
  finished := rfl
  error := rfl

/-! ### Lookups that add what is missing -/

@[simp] theorem entry_withLooked : (s.withLooked name).entry name = s.entry name := by
  simp [entry, withLooked]

@[simp] theorem withReason_withLooked (reason : String) :
    (s.withLooked name).withReason name reason = s.withReason name reason := by
  rw [withReason, entry_withLooked]
  simp [withLooked, withReason]

/-- An entry that is there is not added. -/
theorem withLooked_of_isSome (h : (s.instances.get? name).isSome) : s.withLooked name = s := by
  obtain ⟨entry, hentry⟩ := Option.isSome_iff_exists.1 h
  have hsame : s.entry name = entry := by rw [Status.entry, hentry, Option.getD_some]
  rw [withLooked, hsame, Keyed.insert_eq_self hentry]

theorem withLooked_of_hasNoted (h : s.HasNoted u) : s.withLooked u.name = s := by
  obtain ⟨entry, hentry, -⟩ := Option.bind_eq_some_iff.1 h
  exact withLooked_of_isSome (Option.isSome_iff_exists.2 ⟨entry, hentry⟩)

@[simp] theorem withSub_withSub (first second : SubStatus) :
    (s.withSub name version first).withSub name version second = s.withSub name version second := by
  unfold withSub entry
  cases version <;> simp [InstanceStatus.withSub]

/-- A sub-status that is there is not added. -/
theorem withSub_of_isDone (h : s.IsDone name version) :
    s.withSub name version (s.sub name version) = s := by
  obtain ⟨sub, hsub, -⟩ := h
  obtain ⟨entry, hentry, hsame⟩ := Option.bind_eq_some_iff.1 hsub
  have hlooked : s.entry name = entry := by rw [Status.entry, hentry, Option.getD_some]
  have hunchanged : entry.withSub version sub = entry := by
    obtain ⟨n, error, v2, v3⟩ := entry
    cases version <;> cases hsame <;> rfl
  rw [sub_eq_getD, hsub, Option.getD_some, withSub, hlooked, hunchanged,
    Keyed.insert_eq_self hentry]

end Status

namespace Runner

variable {ctx : Context} {record : Record} {s : Status} {version : Datastore}
  {selection : Selection}

/-! ### The first work of a selection -/

/-- A piece of work for a round. -/
inductive Work
  /-- The reason why a name is no target is noted. -/
  | note (u : Unresolved)
  /-- A datastore of a target moves on. -/
  | visit (target : Target)

/-- The name whose entry a piece of work is about. -/
def Work.name : Work → String
  | .note u => u.name
  | .visit target => target.name

/-- A selection leaves nothing to do: all reasons are noted, and all targets are done. -/
structure HasNoWork (s : Status) (version : Datastore) (selection : Selection) : Prop where
  noted : ∀ u ∈ selection.unresolved, s.HasNoted u
  done : ∀ t ∈ selection.targets, s.IsDone t.name version

/-- The first work that a selection leaves: the first name whose reason is not noted, or, if there
is none, the first target that is not done. -/
inductive IsFirst (s : Status) (version : Datastore) (selection : Selection) : Work → Prop
  | note {before after : List Unresolved} {u : Unresolved}
      (split : selection.unresolved = before ++ u :: after)
      (noted : ∀ v ∈ before, s.HasNoted v) (new : ¬s.HasNoted u) :
      IsFirst s version selection (.note u)
  | visit (noted : ∀ u ∈ selection.unresolved, s.HasNoted u) {before after : List Target}
      {t : Target} (split : selection.targets = before ++ t :: after)
      (done : ∀ d ∈ before, s.IsDone d.name version) (unfinished : ¬s.IsDone t.name version) :
      IsFirst s version selection (.visit t)

theorem IsFirst.not_hasNoWork {work : Work} (first : IsFirst s version selection work) :
    ¬HasNoWork s version selection := by
  intro idle
  cases first with
  | note split noted new =>
    exact new (idle.noted _ (split ▸ List.mem_append_right _ List.mem_cons_self))
  | visit noted split done unfinished =>
    exact unfinished (idle.done _ (split ▸ List.mem_append_right _ List.mem_cons_self))

/-- How a piece of work is done: the exchanges it takes, and the entry that is left. Nothing is
asked for a reason, and its entry keeps all progress. On the way to a target the clock is read, and
its entry keeps the reason and the other datastore version. -/
inductive Work.Does (ctx : Context) (s : Status) (version : Datastore) :
    Work → List (Exchange Calls) → InstanceStatus → Prop
  | note (u : Unresolved) :
      Does ctx s version (.note u) [] { s.entry u.name with error := some u.reason }
  | visit {t : Target} {clocks moved : List (Exchange Calls)} {now : Instant} {sub : SubStatus}
      (skipping : ∀ e ∈ clocks, e.request = .now)
      (moves : Moves ctx t version now (s.sub t.name version) moved sub) :
      Does ctx s version (.visit t) (clocks ++ ⟨.now, now⟩ :: moved)
        ((s.entry t.name).withSub version sub)

/-- One more target that is done on the way. -/
theorem Work.Does.cons {t : Target} {search : List (Exchange Calls)} {entry : InstanceStatus}
    (does : (Work.visit t).Does ctx s version search entry) (now : Instant) :
    (Work.visit t).Does ctx s version (⟨.now, now⟩ :: search) entry := by
  cases does with
  | visit skipping moves =>
    rw [← List.cons_append]
    exact .visit (List.forall_mem_cons.2 ⟨rfl, skipping⟩) moves

/-- A piece of work opens makers of backups only for a target that is visited. -/
theorem Work.Does.opened {work : Work} {search : List (Exchange Calls)} {entry : InstanceStatus}
    (does : work.Does ctx s version search entry) {e : Exchange Calls} (he : e ∈ search)
    {t : Target} {v : Datastore} (hopen : e.request = .openBackupper t v) :
    work = .visit t ∧ v = version := by
  cases does with
  | note u => cases he
  | visit skipping moves =>
    rcases List.mem_append.1 he with he | he
    · rw [skipping e he] at hopen
      cases hopen
    · rcases List.mem_cons.1 he with rfl | he
      · cases hopen
      · obtain ⟨rfl, hversion, -⟩ := moves.opened he hopen
        exact ⟨rfl, hversion⟩

/-- A sub-status that is not done comes to another one. -/
theorem Moves.ne {target : Target} {now : Instant} {sub sub' : SubStatus}
    {es : List (Exchange Calls)} (h : Moves ctx target version now sub es sub')
    (unfinished : sub.state.isTerminal = false) : sub' ≠ sub := by
  intro hsame
  have hstate : sub'.state.isTerminal = false := by rw [hsame, unfinished]
  cases h with
  | start fresh =>
    have hstarted := congrArg SubStatus.started hsame
    rw [fresh] at hstarted
    cases hstarted
  | skip | exhaust => cases hstate
  | @attempt started complete left es retried course finished =>
    unfold SubStatus.finish at hstate
    cases hresult : retried.result <;> simp [hresult, InstanceState.isTerminal] at hstate

/-- The first work changes the entry that it is about. -/
theorem IsFirst.entry_new {work : Work} {search : List (Exchange Calls)} {entry : InstanceStatus}
    (first : IsFirst s version selection work) (does : work.Does ctx s version search entry) :
    s.instances.get? work.name ≠ some entry := by
  intro hsame
  cases does with
  | note u =>
    cases first with
    | note split noted new => exact new (Option.bind_eq_some_iff.2 ⟨_, hsame, rfl⟩)
  | @visit t clocks moved now sub skipping moves =>
    cases first with
    | visit noted split done unfinished =>
      have hsub : s.sub? t.name version = some sub :=
        Option.bind_eq_some_iff.2 ⟨_, hsame, by simp⟩
      refine moves.ne (Status.not_isDone_iff.1 unfinished) ?_
      rw [Status.sub_eq_getD, hsub, Option.getD_some]

/-! ### Finding it -/

theorem hasNoted_of_recordUnresolved {names : List Unresolved}
    (h : recordUnresolved s names = none) : ∀ u ∈ names, s.HasNoted u := by
  rw [recordUnresolved_eq, Option.map_eq_none_iff, List.find?_eq_none] at h
  intro u hu
  exact Status.hasNoted_iff.2 (by simpa using h u hu)

theorem append_of_recordUnresolved {names : List Unresolved} {next : Status}
    (h : recordUnresolved s names = some next) :
    ∃ before u after, names = before ++ u :: after ∧ (∀ v ∈ before, s.HasNoted v) ∧
      ¬s.HasNoted u ∧ next = s.withReason u.name u.reason := by
  rw [recordUnresolved_eq, Option.map_eq_some_iff] at h
  obtain ⟨u, found, rfl⟩ := h
  obtain ⟨new, before, after, split, noted⟩ := List.find?_eq_some_iff_append.1 found
  refine ⟨before, u, after, split, fun v hv ↦ Status.hasNoted_iff.2 ?_, ?_, rfl⟩
  · simpa using noted v hv
  · simpa [Status.hasNoted_iff] using new

/-- On a way without work to do the clock is all that is read. -/
theorem Visits.clock_of_none {targets : List Target} {es : List (Exchange Calls)}
    {next : Option Status} (h : Visits ctx version s targets es next) (hnext : next = none) :
    ∀ e ∈ es, e.request = .now := by
  induction h with
  | nil => exact List.forall_mem_nil _
  | done now terminal others ih => exact List.forall_mem_cons.2 ⟨rfl, ih hnext⟩
  | work => cases hnext

theorem Visits.exists_append {targets : List Target} {es : List (Exchange Calls)}
    {result : Option Status} (h : Visits ctx version s targets es result) {next : Status}
    (hnext : result = some next) :
    ∃ before t after entry, targets = before ++ t :: after ∧
      (∀ d ∈ before, s.IsDone d.name version) ∧ ¬s.IsDone t.name version ∧
      (Work.visit t).Does ctx s version es entry ∧
      next = { s with instances := s.instances.insert t.name entry } := by
  induction h with
  | nil => cases hnext
  | @done target rest es _ now terminal others ih =>
    obtain ⟨before, t, after, entry, rfl, hdone, unfinished, does, hnext⟩ := ih hnext
    exact ⟨target :: before, t, after, entry, rfl,
      List.forall_mem_cons.2 ⟨Status.isDone_iff.2 terminal, hdone⟩, unfinished, does.cons now,
      hnext⟩
  | @work target rest now es sub unfinished moves =>
    cases hnext
    have skipping : ∀ e ∈ ([] : List (Exchange Calls)), e.request = .now := List.forall_mem_nil _
    exact ⟨[], target, rest, _, rfl, List.forall_mem_nil _, Status.not_isDone_iff.2 unfinished,
      .visit skipping moves, rfl⟩

/-- The status that records the first work of a selection, if there is any. -/
def pursue (ctx : Context) (version : Datastore) (s : Status) (selection : Selection) :
    Job (Option Status) :=
  match recordUnresolved s selection.unresolved with
  | some next => pure (some next)
  | none => advanceFirst ctx version s selection.targets

/-- A round pursues what is selected, and writes the status that this comes to. -/
theorem run_eq_select (ctx : Context) (record : Record) (s : Status) (version : Datastore) :
    run ctx record s version = select ctx record >>= fun selected ↦
      match selected with
      | .error e => pure (.error e)
      | .ok selection =>
        pursue ctx version s selection >>= fun next ↦ writePlanned record (.ok next) := by
  unfold run
  refine congrArg (select ctx record >>= ·) (funext fun selected ↦ ?_)
  cases selected with
  | error e => rfl
  | ok selection =>
    unfold pursue
    dsimp only
    cases recordUnresolved s selection.unresolved with
    | some next => rfl
    | none => exact congrArg (_ >>= ·) (funext fun next ↦ by cases next <;> rfl)

theorem writePlanned_some (record : Record) (next : Status) :
    writePlanned record (.ok (some next)) =
      persistStatus record next >>= fun written ↦ pure (written.map fun _ ↦ true) :=
  congrArg (_ >>= ·) (funext fun written ↦ by cases written <;> rfl)

/-- Nothing is found only if there is nothing to do, and then the clock is all that is read. -/
theorem hasNoWork_of_leads {es : List (Exchange Calls)}
    (h : (pursue ctx version s selection).Leads es (.done none)) :
    HasNoWork s version selection ∧ ∀ e ∈ es, e.request = .now := by
  unfold pursue at h
  cases hrecord : recordUnresolved s selection.unresolved with
  | some next =>
    rw [hrecord] at h
    cases h
  | none =>
    rw [hrecord] at h
    have visits := visits_of_leads h
    exact ⟨⟨hasNoted_of_recordUnresolved hrecord,
      fun t ht ↦ Status.isDone_iff.2 (visits.isTerminal rfl t ht)⟩, visits.clock_of_none rfl⟩

/-- What is found is the first work, done on the entry that it is about. -/
theorem exists_isFirst_of_leads {es : List (Exchange Calls)} {next : Status}
    (h : (pursue ctx version s selection).Leads es (.done (some next))) :
    ∃ work entry, IsFirst s version selection work ∧ work.Does ctx s version es entry ∧
      next = { s with instances := s.instances.insert work.name entry } := by
  unfold pursue at h
  cases hrecord : recordUnresolved s selection.unresolved with
  | some recorded =>
    rw [hrecord] at h
    cases h
    obtain ⟨before, u, after, split, noted, new, rfl⟩ := append_of_recordUnresolved hrecord
    exact ⟨.note u, _, .note split noted new, .note u, rfl⟩
  | none =>
    rw [hrecord] at h
    obtain ⟨before, t, after, entry, split, done, unfinished, does, hnext⟩ :=
      (visits_of_leads h).exists_append rfl
    exact ⟨.visit t, entry, .visit (hasNoted_of_recordUnresolved hrecord) split done unfinished,
      does, hnext⟩

/-! ### On a working copy -/

/-- Notes the first reason that is new in a working copy; whether there was one. The entry of each
name on the way is added if it is missing. -/
def noteInPlace (copy : Status) : List Unresolved → Bool × Status
  | [] => (false, copy)
  | u :: rest =>
    let copy := copy.withLooked u.name
    if (copy.entry u.name).error = some u.reason then noteInPlace copy rest
    else (true, copy.withReason u.name u.reason)

/-- Takes the next step for the first target that is not done in a working copy; whether there was
one. The sub-status of each target on the way is added if it is missing. -/
def advanceInPlace (ctx : Context) (version : Datastore) (copy : Status) :
    List Target → Job (Bool × Status)
  | [] => pure (false, copy)
  | target :: rest => do
    let now ← Job.call .now
    let copy := copy.withSub target.name version (copy.sub target.name version)
    let sub := copy.sub target.name version
    if sub.state.isTerminal then advanceInPlace ctx version copy rest
    else
      let sub ← advanceSub ctx target version now sub
      pure (true, copy.withSub target.name version sub)

/-- A round on a working copy of the status, with what is left of the copy. -/
def runInPlace (ctx : Context) (record : Record) (status : Status) (version : Datastore) :
    Job (Except Error Bool × Status) := do
  let write (copy : Status) : Job (Except Error Bool × Status) := do
    let written ← persistStatus record copy
    pure (written.map fun _ ↦ true, copy)
  match ← select ctx record with
  | .error e => pure (.error e, status)
  | .ok selection =>
    match noteInPlace status selection.unresolved with
    | (true, copy) => write copy
    | (false, copy) => do
      match ← advanceInPlace ctx version copy selection.targets with
      | (true, copy) => write copy
      | (false, copy) => pure (.ok false, copy)

theorem noteInPlace_eq (s : Status) (names : List Unresolved) :
    noteInPlace s names =
      ((recordUnresolved s names).isSome, (recordUnresolved s names).getD s) := by
  induction names with
  | nil => rfl
  | cons u rest ih =>
    simp only [noteInPlace, recordUnresolved, Status.entry_withLooked]
    split
    case isTrue known => rw [Status.withLooked_of_hasNoted (Status.hasNoted_iff.2 known), ih]
    case isFalse new => rw [Status.withReason_withLooked]; rfl

theorem advanceInPlace_eq (ctx : Context) (version : Datastore) (s : Status)
    (targets : List Target) :
    advanceInPlace ctx version s targets =
      advanceFirst ctx version s targets >>= fun next ↦ pure (next.isSome, next.getD s) := by
  induction targets with
  | nil => rfl
  | cons target rest ih =>
    rw [advanceInPlace, advanceFirst, advance, bind_assoc, bind_assoc]
    refine congrArg (Job.call .now >>= ·) (funext fun now ↦ ?_)
    simp only [Status.sub_withSub, Status.withSub_withSub, and_self, if_true]
    change _ = (if (s.sub target.name version).state.isTerminal then _ else _) >>= _
    split
    case isTrue terminal => rw [Status.withSub_of_isDone (Status.isDone_iff.2 terminal), ih]; rfl
    case isFalse unfinished => rw [bind_assoc]; rfl

/-- The working copy of a round is the status that is written, or what it was at first. -/
theorem runInPlace_eq (ctx : Context) (record : Record) (s : Status) (version : Datastore) :
    runInPlace ctx record s version = select ctx record >>= fun selected ↦
      match selected with
      | .error e => pure (.error e, s)
      | .ok selection =>
        pursue ctx version s selection >>= fun next ↦
          writePlanned record (.ok next) >>= fun result ↦ pure (result, next.getD s) := by
  unfold runInPlace
  refine congrArg (select ctx record >>= ·) (funext fun selected ↦ ?_)
  cases selected with
  | error e => rfl
  | ok selection =>
    unfold pursue
    simp only [noteInPlace_eq]
    cases recordUnresolved s selection.unresolved with
    | some next => simp [writePlanned_some]
    | none =>
      simp only [Option.isSome_none, Option.getD_none, advanceInPlace_eq, bind_assoc]
      refine congrArg (_ >>= ·) (funext fun next ↦ ?_)
      cases next with
      | none => rfl
      | some next => simp [writePlanned_some]

/-! ### A whole round -/

theorem only_pursue : Only (¬Call.IsOnRecord ·) (pursue ctx version s selection) := by
  unfold pursue
  split
  · trivial
  · exact only_advanceFirst s selection.targets

/-- What a round comes to behind its selection: nothing is left to do, the copy stays as it was and
only the clock was read; or the first work is done, and the copy is written once, whose success is
the success of the round. -/
inductive Completes (ctx : Context) (record : Record) (s : Status) (version : Datastore)
    (selection : Selection) : List (Exchange Calls) → Except Error Bool → Status → Prop
  | idle (noWork : HasNoWork s version selection) {es : List (Exchange Calls)}
      (clock : ∀ e ∈ es, e.request = .now) :
      Completes ctx record s version selection es (.ok false) s
  | work {work : Work} {entry : InstanceStatus} {search write : List (Exchange Calls)}
      {next : Status} {written : Except Error Unit}
      (first : IsFirst s version selection work) (does : work.Does ctx s version search entry)
      (differs : s.DiffersAt next work.name entry)
      (apart : ∀ e ∈ search, ¬e.request.IsOnRecord)
      (opened : ∀ e ∈ search, ∀ t v, e.request = .openBackupper t v →
        work = .visit t ∧ v = version)
      (saved : Saved record next write written) :
      Completes ctx record s version selection (search ++ write) (written.map fun _ ↦ true) next

theorem Completes.eq_false_iff {es : List (Exchange Calls)} {result : Except Error Bool}
    {left : Status} (h : Completes ctx record s version selection es result left) :
    result = .ok false ↔ HasNoWork s version selection := by
  cases h with
  | idle noWork clock => exact iff_of_true rfl noWork
  | @work _ _ _ _ _ written first does differs apart opened saved =>
    refine iff_of_false ?_ first.not_hasNoWork
    cases written <;> simp [Except.map]

theorem completes_of_leads {es write : List (Exchange Calls)} {next : Option Status}
    {result : Except Error Bool} (pursued : (pursue ctx version s selection).Leads es (.done next))
    (course : (writePlanned record (.ok next)).Leads write (.done result)) :
    Completes ctx record s version selection (es ++ write) result (next.getD s) := by
  cases next with
  | none =>
    cases course
    obtain ⟨noWork, clock⟩ := hasNoWork_of_leads pursued
    rw [List.append_nil]
    exact .idle noWork clock
  | some next =>
    obtain ⟨work, entry, first, does, rfl⟩ := exists_isFirst_of_leads pursued
    rw [writePlanned_some] at course
    obtain ⟨write, written, _, rfl, hwrite, hend⟩ := leads_bind_done_iff.1 course
    cases hend
    rw [List.append_nil]
    exact .work first does (Status.differsAt_insert (first.entry_new does))
      (only_pursue.request pursued) (fun e he t v ↦ does.opened he) (saved_of_leads hwrite)

/-- A round whose selection succeeds does the first work that it leaves, and no other; it reports
that nothing was left to do exactly if all reasons are noted and all targets are done. Done on a
working copy, it asks the same, comes to the same, and leaves the copy as it is written. -/
theorem first_work_of_leads {look es : List (Exchange Calls)} {result : Except Error Bool}
    (selected : (select ctx record).Leads look (.done (.ok selection)))
    (course : (run ctx record s version).Leads (look ++ es) (.done result)) :
    (∀ e ∈ look, e.request = .discover) ∧
    (result = .ok false ↔ HasNoWork s version selection) ∧
    ∃ left, (runInPlace ctx record s version).Leads (look ++ es) (.done (result, left)) ∧
      Completes ctx record s version selection es result left := by
  rw [run_eq_select, selected.bind_append_iff] at course
  obtain ⟨es, next, write, rfl, pursued, hwrite⟩ := leads_bind_done_iff.1 course
  have completes := completes_of_leads pursued hwrite
  refine ⟨only_select.request selected, completes.eq_false_iff, next.getD s, ?_, completes⟩
  rw [runInPlace_eq, selected.bind_append_iff]
  exact pursued.bind_done (hwrite.bind fun result ↦ pure (result, next.getD s))

/-- The reason for a name is noted, so the management cluster is started. -/
theorem first_work_of_leads_start :
    let ctx := Pass.plainContext true
    let s : Status :=
      ({ phase := .v2Running } : Status).withReason "prod-a" Selection.notFoundReason
    let record : Record :=
      { metadata := { name := some "b" }
        spec := { clusterNames := ["prod-a", managementName] }
        status := some s }
    let selection : Selection :=
      ⟨[ctx.management], [⟨"prod-a", Selection.notFoundReason⟩]⟩
    let next := s.withSub managementName .v2 { state := .running, started := some default }
    let look : List (Exchange Calls) := [⟨.discover, .ok []⟩]
    let es : List (Exchange Calls) := [⟨.now, default⟩, ⟨.get "b", .ok record⟩,
      ⟨.updateStatus { record with status := some next }, .ok ()⟩]
    (select ctx record).Leads look (.done (.ok selection)) ∧
      (run ctx record s .v2).Leads (look ++ es) (.done (.ok true)) ∧
      ∃ left, (runInPlace ctx record s .v2).Leads (look ++ es) (.done (.ok true, left)) ∧
        Completes ctx record s .v2 selection es (.ok true) left := by
  intro ctx s record selection next look es
  have selected : (select ctx record).Leads look (.done (.ok selection)) := .ask (.rest _)
  have noted : s.HasNoted ⟨"prod-a", Selection.notFoundReason⟩ :=
    Status.reason?_withReason _ _ _ _
  have pursued : (pursue ctx .v2 s selection).Leads [⟨.now, default⟩] (.done (some next)) := by
    rw [pursue, recordUnresolved_eq,
      List.find?_cons_of_neg (by simpa using Status.hasNoted_iff.1 noted)]
    exact .ask (.rest _)
  have saved : Saved record next es.tail (.ok ()) := .tried rfl (.ok ())
  have course : (run ctx record s .v2).Leads (look ++ es) (.done (.ok true)) := by
    rw [run_eq_select, selected.bind_append_iff]
    exact pursued.bind_done (saved.leads.bind _)
  exact ⟨selected, course, (first_work_of_leads selected course).2.2⟩

end Runner

end EtcdBackup
