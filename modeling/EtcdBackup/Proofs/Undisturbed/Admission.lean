import EtcdBackup.Proofs.Controller.Newest
import EtcdBackup.Proofs.Interleaving.Admission
import EtcdBackup.Proofs.Undisturbed.Passes

/-!
# Admission does not depend on the order of the passes

A pass over a fresh request changes what later passes find: the request is admitted or skipped by
then. That does not change their verdicts. The order of the requests by age stays the same, and a
request is only admitted if it is the newest of all, in which case every other one is skipped
anyway. So each verdict is the one that the first list would have given (`Settles.admission_eq`),
and the phases that passes over all fresh requests leave are the same in every order
(`admissions_of_passes`).
-/

set_option autoImplicit false
set_option relaxedAutoImplicit false

namespace EtcdBackup

open Dialogue Interleaving

namespace Pass

variable {ctx : Context} {record : Record} {now : Instant}

/-- A fresh request is decided on by the list of all requests alone. -/
theorem decide_of_empty (phase : record.phase = .empty) : decide ctx record now =
    Job.call .list >>= fun
      | .error e => pure (.error e)
      | .ok all => pure (.ok (.advance
          { record.status.getD {} with phase := admission record all })) := by
  have hphase : (record.status.getD {}).phase = .empty := phase
  unfold decide
  dsimp only
  rw [hphase]
  rfl

end Pass

namespace Undisturbed

open Pass

variable {s s₀ s' middle : Store} {name : String} {r r₀ other : Record}

theorem mem_values_iff : r ∈ s.records.values ↔ s.get? r.name = some r := by
  constructor
  · intro h
    obtain ⟨⟨name, held⟩, hmem, rfl⟩ := List.mem_map.1 h
    have hget : s.get? name = some held := s.records.ascending.find?_of_mem hmem
    rwa [← Store.name_eq_of_get? hget] at hget
  · exact Keyed.mem_values_of_get?

/-- Different requests are stored under different names. -/
theorem eq_of_name_eq (hr : r ∈ s.records.values) :
    ∀ a ∈ s.records.values, a.name = r.name → a = r := by
  intro a ha hname
  rw [mem_values_iff] at ha hr
  rw [hname, hr] at ha
  exact (Option.some.inj ha).symm

/-- The names of the requests that nobody has looked at. -/
def freshNames (s : Store) : List String :=
  (s.records.values.filter (·.phase = .empty)).map Record.name

theorem mem_freshNames_iff :
    name ∈ freshNames s ↔ ∃ r, s.get? name = some r ∧ r.phase = .empty := by
  simp only [freshNames, List.mem_map, List.mem_filter, mem_values_iff, decide_eq_true_eq]
  constructor
  · rintro ⟨r, ⟨stored, fresh⟩, rfl⟩
    exact ⟨r, stored, fresh⟩
  · rintro ⟨r, stored, fresh⟩
    obtain rfl := Store.name_eq_of_get? stored
    exact ⟨r, ⟨stored, fresh⟩, rfl⟩

theorem nodup_freshNames (s : Store) : (freshNames s).Nodup := by
  have hnames : s.records.values.map Record.name = s.records.keys := by
    unfold Keyed.values Keyed.keys
    rw [List.map_map]
    refine List.map_congr_left fun entry hentry ↦ ?_
    exact Store.name_eq_of_get? (s.records.ascending.find?_of_mem hentry)
  have hkeys : s.records.keys.Nodup :=
    (Keyed.ascending_iff.1 s.records.ascending).imp fun hlt ↦ String.ne_of_lt hlt
  rw [← hnames] at hkeys
  exact hkeys.sublist (List.filter_sublist.map Record.name)

/-- A pass over a fresh request writes the verdict of the list of all requests. -/
theorem Comes.of_empty {ctx : Context} {es : List (Exchange Calls)}
    {result : Except Error Action} (h : Comes s ctx r es result s') (fresh : r.phase = .empty) :
    ∃ all status version isFresh, all.Perm s.records.values ∧ status.phase = admission r all ∧
      s' = s.put (written r status version) isFresh := by
  have hlist {now : Instant} {look : List (Exchange Calls)} {decided : Except Error Decision}
      (course : (decide ctx r now).Leads look (.done decided)) (served : Served s look s) :
      ∃ all, all.Perm s.records.values ∧
        decided = .ok (.advance { r.status.getD {} with phase := admission r all }) := by
    rw [decide_of_empty fresh] at course
    obtain ⟨answer, rest, rfl, behind⟩ := Job.leads_call_bind_done_iff.1 course
    obtain ⟨middle, listing, -⟩ := served_cons_iff.1 served
    obtain ⟨all, rfl, order, -⟩ := listing.eq_of_list
    cases behind
    exact ⟨all, order, rfl⟩
  cases h with
  | undecided failed served =>
    obtain ⟨all, -, hdecided⟩ := hlist failed served
    cases hdecided
  | removed decided served =>
    obtain ⟨all, -, hdecided⟩ := hlist decided served
    cases hdecided
  | kept decided served =>
    obtain ⟨all, -, hdecided⟩ := hlist decided served
    cases hdecided
  | wrote decided served hstatus isFresh =>
    obtain ⟨all, order, hdecided⟩ := hlist decided served
    cases hdecided
    cases hstatus
    exact ⟨all, _, _, isFresh, order, rfl, rfl⟩

/-! ### The verdicts stay the same -/

/-- Some fresh requests of the first store have got the verdict of its list, and nothing else is
different in the second one. -/
structure Settles (s₀ s : Store) (done : List String) : Prop where
  kept : ∀ name, name ∉ done → s.get? name = s₀.get? name
  decided : ∀ name ∈ done, ∃ r status version, s₀.get? name = some r ∧ r.phase = .empty ∧
    s.get? name = some (written r status version) ∧
      status.phase = admission r s₀.records.values

namespace Settles

variable {done : List String}

theorem refl (s : Store) : Settles s s [] where
  kept _ _ := rfl
  decided := List.forall_mem_nil _

/-- A request that is stored now was stored so before, or has got its verdict. -/
theorem cases_of_get? (h : Settles s₀ s done) (stored : s.get? name = some other) :
    s₀.get? name = some other ∨ ∃ r status version, s₀.get? name = some r ∧ r.phase = .empty ∧
      other = written r status version ∧ status.phase = admission r s₀.records.values := by
  by_cases hdone : name ∈ done
  · obtain ⟨r, status, version, hr, fresh, hwritten, hphase⟩ := h.decided name hdone
    rw [stored] at hwritten
    exact Or.inr ⟨r, status, version, hr, fresh, Option.some.inj hwritten, hphase⟩
  · rw [h.kept name hdone] at stored
    exact Or.inl stored

/-- A request of the same age is stored as before, and the other way round. -/
theorem exists_ageKey_eq (h : Settles s₀ s done) :
    (∀ other ∈ s.records.values, ∃ r ∈ s₀.records.values, ageKey r = ageKey other) ∧
      ∀ r ∈ s₀.records.values, ∃ other ∈ s.records.values, ageKey other = ageKey r := by
  refine ⟨fun other hother ↦ ?_, fun r hr ↦ ?_⟩
  · rcases h.cases_of_get? (mem_values_iff.1 hother) with
      hsame | ⟨r, status, version, hr, -, rfl, -⟩
    · exact ⟨other, mem_values_iff.2 hsame, rfl⟩
    · have hname := Store.name_eq_of_get? hr
      exact ⟨r, mem_values_iff.2 (hname ▸ hr), rfl⟩
  · rw [mem_values_iff] at hr
    by_cases hdone : r.name ∈ done
    · obtain ⟨r', status, version, hr', -, hwritten, -⟩ := h.decided r.name hdone
      rw [hr] at hr'
      cases hr'
      have stored : s.get? (written r status version).name = some (written r status version) :=
        hwritten
      exact ⟨_, mem_values_iff.2 stored, rfl⟩
    · exact ⟨r, mem_values_iff.2 ((h.kept r.name hdone).trans hr), rfl⟩

theorem isNewest_iff (h : Settles s₀ s done) (r : Record) :
    IsNewest s.records.values r ↔ IsNewest s₀.records.values r := by
  obtain ⟨hbefore, hafter⟩ := h.exists_ageKey_eq
  exact ⟨fun newest ↦ newest.of_ageKey_eq hafter, fun newest ↦ newest.of_ageKey_eq hbefore⟩

/-- The newest request is blocked now exactly if it was before: those that got their verdict
meanwhile were superseded by it. -/
theorem isBlocked_iff (h : Settles s₀ s done) (hr : s₀.get? r.name = some r)
    (newest : IsNewest s₀.records.values r) :
    IsBlocked s.records.values r ↔ IsBlocked s₀.records.values r := by
  constructor
  · rintro ⟨other, hother, hne, active⟩
    rcases h.cases_of_get? (mem_values_iff.1 hother) with
      hsame | ⟨r', status, version, hr', -, rfl, hphase⟩
    · exact ⟨other, mem_values_iff.2 hsame, hne, active⟩
    · -- A request that got its verdict meanwhile is only active if it is the newest one itself.
      obtain hname := Store.name_eq_of_get? hr'
      have hmem : r' ∈ s₀.records.values := mem_values_iff.2 (hname ▸ hr')
      have hactive : status.phase.isTerminal = false := ((isActive_iff _).1 active).2
      rw [hphase] at hactive
      rcases admission_cases r' s₀.records.values with hpending | hskipped
      · have newest' := ((admission_eq_pending_iff hmem (eq_of_name_eq hmem)).1 hpending).1
        exact (hne (newest'.name_eq newest hmem (mem_values_iff.2 hr))).elim
      · rw [hskipped] at hactive
        cases hactive
  · rintro ⟨other, hother, hne, active⟩
    rw [mem_values_iff] at hother
    refine ⟨other, mem_values_iff.2 ?_, hne, active⟩
    rw [h.kept other.name fun hdone ↦ ?_, hother]
    obtain ⟨r', -, -, hr', fresh, -⟩ := h.decided other.name hdone
    rw [hother] at hr'
    cases hr'
    exact ((isActive_iff other).1 active).1 fresh

/-- A request that is still fresh gets the verdict of the first list, in whatever order the present
one is listed. -/
theorem admission_eq (h : Settles s₀ s done) (hr : s₀.get? r.name = some r)
    (stored : s.get? r.name = some r) {all : List Record} (order : all.Perm s.records.values) :
    admission r all = admission r s₀.records.values := by
  have hpending : admission r all = .pending ↔ admission r s₀.records.values = .pending := by
    have hmem : r ∈ s.records.values := mem_values_iff.2 stored
    have hperm : admission r all = .pending ↔ admission r s.records.values = .pending := by
      rw [admission_eq_pending_iff hmem (eq_of_name_eq hmem),
        admission_eq_pending_iff (order.mem_iff.2 hmem) fun a ha ↦
          eq_of_name_eq hmem a (order.mem_iff.1 ha)]
      simp only [IsNewest, IsBlocked, order.mem_iff]
    have hmem₀ : r ∈ s₀.records.values := mem_values_iff.2 hr
    rw [hperm, admission_eq_pending_iff hmem (eq_of_name_eq hmem),
      admission_eq_pending_iff hmem₀ (eq_of_name_eq hmem₀), h.isNewest_iff]
    exact and_congr_right fun newest ↦ not_congr (h.isBlocked_iff hr newest)
  rcases admission_cases r s₀.records.values with hverdict | hverdict
  · rw [hverdict, hpending, hverdict]
  · rcases admission_cases r all with hverdict' | hverdict'
    · rw [hpending.1 hverdict'] at hverdict
      cases hverdict
    · rw [hverdict, hverdict']

/-- The verdict of one more fresh request. -/
theorem pass (h : Settles s₀ s done) (hr : s₀.get? r.name = some r) (fresh : r.phase = .empty)
    (new : r.name ∉ done) {ctx : Context} {es : List (Exchange Calls)}
    {result : Except Error Action} (comes : Comes s ctx r es result s') :
    Settles s₀ s' (r.name :: done) := by
  obtain ⟨all, status, version, isFresh, order, hphase, rfl⟩ := comes.of_empty fresh
  rw [h.admission_eq hr ((h.kept r.name new).trans hr) order] at hphase
  have hname : (written r status version).name = r.name := rfl
  constructor
  · intro name hdone
    rw [List.mem_cons, not_or] at hdone
    rw [Store.get?_put_of_ne isFresh (Ne.symm hdone.1)]
    exact h.kept name hdone.2
  · rw [List.forall_mem_cons]
    refine ⟨⟨r, status, version, hr, fresh, Store.get?_put_self isFresh, hphase⟩, ?_⟩
    intro name hdone
    obtain ⟨r', status', version', hr', fresh', stored, hphase'⟩ := h.decided name hdone
    refine ⟨r', status', version', hr', fresh', ?_, hphase'⟩
    rwa [Store.get?_put_of_ne isFresh fun hsame ↦ new (hsame ▸ hdone)]

/-- The verdicts of all fresh requests that there are passes over. -/
theorem passes {passes : List WholePass} (run : Passes s passes s') (h : Settles s₀ s done)
    (fresh : ∀ pass ∈ passes, pass.name ∈ freshNames s₀)
    (once : (passes.map WholePass.name).Nodup) (new : ∀ pass ∈ passes, pass.name ∉ done) :
    ∃ all, Settles s₀ s' all ∧
      ∀ name, name ∈ all ↔ name ∈ done ∨ name ∈ passes.map WholePass.name := by
  induction run generalizing done with
  | nil => exact ⟨done, h, fun name ↦ by simp⟩
  | @cons s middle last pass passes served run ih =>
    rw [List.forall_mem_cons] at fresh new
    rw [List.map_cons, List.nodup_cons] at once
    obtain ⟨r, hr, hphase⟩ := mem_freshNames_iff.1 fresh.1
    obtain hname := Store.name_eq_of_get? hr
    rw [← hname] at new hr
    have stored : s.get? pass.name = some r := by rw [← hname, h.kept r.name new.1, hr]
    have next := h.pass hr hphase new.1 (pass.comes served stored)
    obtain ⟨all, hall, hmem⟩ := ih next fresh.2 once.2 fun other hother hdone ↦ by
      rcases List.mem_cons.1 hdone with hsame | hdone
      · exact once.1 (hname ▸ hsame ▸ List.mem_map_of_mem hother)
      · exact new.2 other hother hdone
    refine ⟨all, hall, fun name ↦ ?_⟩
    rw [hmem, List.mem_cons, List.map_cons, List.mem_cons, hname]
    tauto

end Settles

/-! ### Every order -/

/-- The phase of the request under a name. -/
def phase? (s : Store) (name : String) : Option Phase := (s.get? name).map Record.phase

/-- The request of the name is in the middle of its cycle in the second store only. -/
def BecomesActive (s s' : Store) (name : String) : Prop :=
  (∃ r, s'.get? name = some r ∧ isActive r) ∧ ¬∃ r, s.get? name = some r ∧ isActive r

/-- What passes over all fresh requests come to, where `newest` is the newest request of all. -/
structure Admits (s : Store) (newest : Record) (s' : Store) : Prop where
  /-- Only fresh requests are changed. -/
  kept : ∀ name, name ∉ freshNames s → s'.get? name = s.get? name
  superseded : ∀ name ∈ freshNames s, name ≠ newest.name → phase? s' name = some .skipped
  admitted : newest.phase = .empty → ¬IsBlocked s.records.values newest →
    phase? s' newest.name = some .pending
  blocked : newest.phase = .empty → IsBlocked s.records.values newest →
    phase? s' newest.name = some .skipped
  /-- At most one request is let into its cycle. -/
  single : ∀ name name', BecomesActive s s' name → BecomesActive s s' name' → name = name'

/-- Each fresh request ends with the verdict of the first list. -/
theorem Passes.settles {passes : List WholePass} (run : Passes s passes s')
    (once : (passes.map WholePass.name).Perm (freshNames s)) :
    (∀ name, name ∉ freshNames s → s'.get? name = s.get? name) ∧
      ∀ name r, s.get? name = some r → r.phase = .empty →
        phase? s' name = some (admission r s.records.values) := by
  have fresh (pass : WholePass) (hpass : pass ∈ passes) : pass.name ∈ freshNames s :=
    once.mem_iff.1 (List.mem_map_of_mem hpass)
  obtain ⟨all, settles, hall⟩ := Settles.passes run (.refl s) fresh
    (once.nodup_iff.2 (nodup_freshNames s)) fun _ _ ↦ List.not_mem_nil
  have hmem (name : String) : name ∈ all ↔ name ∈ freshNames s := by
    rw [hall, once.mem_iff]
    simp
  refine ⟨fun name hname ↦ settles.kept name fun h ↦ hname ((hmem name).1 h), ?_⟩
  intro name r hr hphase
  obtain ⟨r', status, version, hr', -, stored, hverdict⟩ :=
    settles.decided name ((hmem name).2 (mem_freshNames_iff.2 ⟨r, hr, hphase⟩))
  rw [hr] at hr'
  cases hr'
  rw [phase?, stored, Option.map_some, ← hverdict]
  rfl

theorem Passes.admits {passes : List WholePass} (run : Passes s passes s')
    (once : (passes.map WholePass.name).Perm (freshNames s)) {newest : Record}
    (stored : newest ∈ s.records.values) (isNewest : IsNewest s.records.values newest) :
    Admits s newest s' := by
  obtain ⟨kept, verdict⟩ := run.settles once
  have hpending {name : String} {r : Record} (hr : s.get? name = some r)
      (h : admission r s.records.values = .pending) : name = newest.name := by
    obtain rfl := Store.name_eq_of_get? hr
    have hmem := mem_values_iff.2 hr
    have isNewest' := ((admission_eq_pending_iff hmem (eq_of_name_eq hmem)).1 h).1
    exact isNewest'.name_eq isNewest hmem stored
  have hnewest := mem_values_iff.1 stored
  constructor
  case kept => exact kept
  case superseded =>
    intro name hname hne
    obtain ⟨r, hr, fresh⟩ := mem_freshNames_iff.1 hname
    rw [verdict name r hr fresh]
    rcases admission_cases r s.records.values with h | h
    · exact (hne (hpending hr h)).elim
    · rw [h]
  case admitted =>
    intro fresh free
    rw [verdict newest.name newest hnewest fresh,
      (admission_eq_pending_iff stored (eq_of_name_eq stored)).2 ⟨isNewest, free⟩]
  case blocked =>
    intro fresh blocked
    rw [verdict newest.name newest hnewest fresh]
    rcases admission_cases newest s.records.values with h | h
    · have free := ((admission_eq_pending_iff stored (eq_of_name_eq stored)).1 h).2
      exact (free blocked).elim
    · rw [h]
  case single =>
    have only (name : String) (h : BecomesActive s s' name) : name = newest.name := by
      obtain ⟨⟨r', hr', active⟩, before⟩ := h
      by_cases hname : name ∈ freshNames s
      · obtain ⟨r, hr, fresh⟩ := mem_freshNames_iff.1 hname
        have hphase := verdict name r hr fresh
        rw [phase?, hr', Option.map_some, Option.some.injEq] at hphase
        rcases admission_cases r s.records.values with h | h
        · exact hpending hr h
        · rw [isActive_iff, hphase, h] at active
          cases active.2
      · rw [kept name hname] at hr'
        exact (before ⟨r', hr', active⟩).elim
    intro name name' h h'
    rw [only name h, only name' h']

/-- Whole passes over all fresh requests can be made in every order, and in every order they come to
the same phases: the newest request is admitted, unless it is not fresh or another one is in the
middle of its cycle, and all other fresh ones are skipped. -/
theorem admissions_of_passes (s : Store) :
    (∀ order : List (Context × String), (order.map Prod.snd).Perm (freshNames s) →
      ∃ passes s', Passes s passes s' ∧
        passes.map (fun pass ↦ (pass.ctx, pass.name)) = order) ∧
      (∀ passes s' passes' s'', Passes s passes s' → Passes s passes' s'' →
        (passes.map WholePass.name).Perm (freshNames s) →
        (passes'.map WholePass.name).Perm (freshNames s) →
          ∀ name, phase? s' name = phase? s'' name) ∧
      (s.records.values ≠ [] →
        ∃ newest ∈ s.records.values, IsNewest s.records.values newest ∧
          ∀ passes s', Passes s passes s' → (passes.map WholePass.name).Perm (freshNames s) →
            Admits s newest s') := by
  refine ⟨fun order _ ↦ ?_, ?_, ?_⟩
  · obtain ⟨passes, s', run, horder, -⟩ :=
      exists_passes s order fun _ _ c ↦ Classical.choice inferInstance
    exact ⟨passes, s', run, horder⟩
  · intro passes s' passes' s'' run run' once once' name
    obtain ⟨kept, verdict⟩ := run.settles once
    obtain ⟨kept', verdict'⟩ := run'.settles once'
    by_cases hname : name ∈ freshNames s
    · obtain ⟨r, hr, fresh⟩ := mem_freshNames_iff.1 hname
      rw [verdict name r hr fresh, verdict' name r hr fresh]
    · rw [phase?, phase?, kept name hname, kept' name hname]
  · intro hne
    obtain ⟨newest, stored, isNewest⟩ := exists_isNewest hne
    exact ⟨newest, stored, isNewest, fun passes s' run once ↦ run.admits once stored isNewest⟩

/-- Two fresh requests, of which the second is the newer one by its name and is passed over
first. -/
theorem admissions_of_passes_two :
    ∃ (s : Store) (passes : List WholePass) (s' : Store), Passes s passes s' ∧
      passes.map WholePass.name = ["b", "a"] ∧ freshNames s = ["a", "b"] ∧
      phase? s' "b" = some .pending ∧ phase? s' "a" = some .skipped := by
  have hne : (freshRecord "a").name ≠ (freshRecord "b").name := by decide
  have isFresh : (Store.single (freshRecord "a")).IsFresh (freshRecord "b") :=
    List.forall_mem_singleton.2 fun hname ↦ (hne hname).elim
  let s : Store := (Store.single (freshRecord "a")).put (freshRecord "b") isFresh
  have inserted : (((∅ : Keyed Record).insert "a" (freshRecord "a")).insert "b"
      (freshRecord "b")).values = [freshRecord "a", freshRecord "b"] := by decide +kernel
  have values : s.records.values = [freshRecord "a", freshRecord "b"] := inserted
  have names : freshNames s = ["a", "b"] := by
    rw [freshNames, values]
    rfl
  obtain ⟨exist, -, admits⟩ := admissions_of_passes s
  obtain ⟨passes, s', run, horder⟩ :=
    exist [(plainContext true, "b"), (plainContext true, "a")] (by rw [names]; decide)
  have order : passes.map WholePass.name = ["b", "a"] := by
    have := congrArg (List.map Prod.snd) horder
    rwa [List.map_map] at this
  obtain ⟨newest, stored, isNewest, hadmits⟩ := admits (by rw [values]; exact List.cons_ne_nil _ _)
  have h := hadmits passes s' run (by rw [order, names]; decide)
  rw [values] at stored isNewest
  have hnewest : newest = freshRecord "b" := by
    simp only [List.mem_cons, List.not_mem_nil, or_false] at stored
    rcases stored with rfl | rfl
    · have older := isNewest (freshRecord "b") (by simp) hne.symm
      rw [IsOlder, Utf8.encode_lt_encode_iff] at older
      exact absurd older (by decide)
    · rfl
  subst hnewest
  refine ⟨s, passes, s', run, order, names, h.admitted rfl ?_, h.superseded "a" ?_ ?_⟩
  · rintro ⟨other, hother, -, active⟩
    rw [values] at hother
    simp only [List.mem_cons, List.not_mem_nil, or_false] at hother
    rcases hother with rfl | rfl <;> cases active
  · rw [names]
    exact List.mem_cons_self
  · exact hne

end Undisturbed

end EtcdBackup
