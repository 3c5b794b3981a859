import EtcdBackup.Proofs.Interleaving.PhaseOrder
import EtcdBackup.Proofs.Lookup

/-!
# The admission of a request

A fresh request is admitted if the list of all requests shows no other one in the middle of its
cycle. The pass asks for the list first and writes the admission later, and the store compares
nothing but the version of the admitted request itself. So what the list showed may be outdated by
the time of the write: two requests are in the middle of their cycles at once if one of them is
admitted between the list and the write of the other (`exists_run_overlapping`). There is no other
way to it (`overlaps_of_isActive`).
-/

set_option autoImplicit false
set_option relaxedAutoImplicit false

namespace EtcdBackup

open Dialogue

/-- The edge from a fresh request into the cycle is its admission. -/
theorem Phase.eq_pending_of_mem_edges {p q : Phase} (h : (p, q) ∈ cycleEdges ++ rejectionEdges)
    (fresh : p = .empty) (active : q.isTerminal = false) : q = .pending := by
  have hall : ∀ edge ∈ cycleEdges ++ rejectionEdges, edge.1 = .empty →
      edge.2.isTerminal = false → edge.2 = .pending := by decide
  exact hall (p, q) h fresh active

namespace Pass

variable {ctx : Context} {record : Record} {now : Instant} {es : List (Exchange Calls)}

theorem isActive_iff (r : Record) :
    isActive r ↔ r.phase ≠ .empty ∧ r.phase.isTerminal = false := by
  simp [isActive]

/-- No other request that was listed is in the middle of its cycle when a request is admitted. -/
theorem isActive_eq_false_of_admission {all : List Record} (h : admission record all = .pending)
    {r : Record} (hr : r ∈ all) (hname : r.name ≠ record.name) : isActive r = false := by
  unfold admission at h
  dsimp only at h
  split at h
  case isTrue => cases h
  case isFalse quiet =>
    have hblocked := (Bool.or_eq_false_iff.1 (Bool.eq_false_iff.2 quiet)).2
    simpa [hname] using List.any_eq_false.1 hblocked r hr

/-- The phase that a fresh request gets is the answer to the list of all requests. -/
theorem Decided.exists_list {decision : Decision} (h : Decided ctx record now es decision)
    {next : Status} (hnext : decision.status? = some next) (fresh : record.phase = .empty) :
    ∃ all, es = [⟨.list, .ok all⟩] ∧ next.phase = admission record all := by
  cases h with
  | enter phase all =>
    cases hnext
    exact ⟨all, rfl, rfl⟩
  | reject reads invalid =>
    rw [fresh] at reads
    cases reads
  | @work version phase | @close version phase =>
    rw [fresh] at phase
    cases version <;> cases phase
  | start phase | proceed phase | judge phase =>
    rw [fresh] at phase
    cases phase
  | retireFinished | retireSkipped =>
    rw [Decision.status?_retire] at hnext
    cases hnext

end Pass

namespace Interleaving

variable {store : Store} {events past mid later : List Event} {w w' : World} {e : Event} {id : Nat}
  {before after given : Record} {answer : Except Error Unit} {name first second : String}

/-- The event is the admission of the request of the name. -/
def Event.Admits (name : String) : Event → Prop
  | .committed _ _ _ before after =>
    after.name = name ∧ before.phase = .empty ∧ after.phase = .pending
  | _ => False

/-- The first request was admitted after the list that the second one was admitted by, which does
not show it in the middle of its cycle, and before the second one was. -/
def Overlaps (first second : String) (events : List Event) : Prop :=
  ∃ past id all mid e between given answer before after later,
    events = past ++ .asked id ⟨.list, .ok all⟩ :: (mid ++ e ::
      (between ++ .committed id given answer before after :: later)) ∧
    (∀ r ∈ all, r.name = first → Pass.isActive r = false) ∧ e.Admits first ∧
    (Event.committed id given answer before after).Admits second

/-- The request of the name was admitted, and every list since then showed it in the middle of its
cycle. -/
def IsShown (name : String) (past : List Event) : Prop :=
  ∃ early e since, past = early ++ e :: since ∧ e.Admits name ∧
    ∀ id all, .asked id ⟨.list, .ok all⟩ ∈ since → ∃ r ∈ all, r.name = name ∧ Pass.isActive r

theorem IsShown.append_singleton (h : IsShown name past)
    (he : ∀ id all, e = .asked id ⟨.list, .ok all⟩ → ∃ r ∈ all, r.name = name ∧ Pass.isActive r) :
    IsShown name (past ++ [e]) := by
  obtain ⟨early, admission, since, rfl, hadmits, hsince⟩ := h
  refine ⟨early, admission, since ++ [e], by simp, hadmits, fun id all hmem ↦ ?_⟩
  rcases List.mem_append.1 hmem with hmem | hmem
  · exact hsince id all hmem
  · exact he id all (List.mem_singleton.1 hmem).symm

/-! ### The commits of an admission -/

theorem CommitOf.phase_eq (h : CommitOf w id before after) :
    ∃ th current now es decision status, w.threads id = some th ∧
      (Pass.decide th.ctx current now).Leads es (.done (.ok decision)) ∧
      decision.status? = some status ∧ (∀ x ∈ es, x ∈ th.past) ∧ current.name = after.name ∧
      before.phase = current.phase ∧ after.phase = status.phase := by
  cases h with
  | @intro th current now es decision status version thread past hread decided hstatus same stored
      overwritten =>
    subst overwritten
    have hname : current.name = before.name :=
      hread.2.trans (Store.name_eq_of_get? stored).symm
    have hphase : before.phase = current.phase := Record.phase_congr same
    refine ⟨th, current, now, es, decision, status, thread, decided, hstatus, fun x hx ↦ ?_, hname,
      hphase, rfl⟩
    rw [past]
    exact List.mem_append_left _ (List.mem_cons_of_mem _ (List.mem_cons_of_mem _ hx))

/-- A write to a request follows an edge of the cycle. -/
theorem CommitOf.mem_edges (h : CommitOf w id before after) :
    (before.phase, after.phase) ∈ Phase.cycleEdges ++ Phase.rejectionEdges := by
  obtain ⟨th, current, now, es, decision, status, -, decided, hstatus, -, -, hbefore, hafter⟩ :=
    h.phase_eq
  rw [hbefore, hafter]
  exact List.mem_append.2
    (((Pass.decided_of_leads decided).mem_edges hstatus).imp_right And.left)

/-- The pass that admits a request had a list that shows no other one in the middle of its cycle. -/
theorem CommitOf.exists_list (h : CommitOf w id before after) (fresh : before.phase = .empty)
    (admitted : after.phase = .pending) :
    ∃ th all, w.threads id = some th ∧ ⟨.list, .ok all⟩ ∈ th.past ∧
      ∀ r ∈ all, r.name ≠ after.name → Pass.isActive r = false := by
  obtain ⟨th, current, now, es, decision, status, thread, decided, hstatus, hpast, hname, hbefore,
    hafter⟩ := h.phase_eq
  obtain ⟨all, rfl, hphase⟩ :=
    (Pass.decided_of_leads decided).exists_list hstatus (hbefore.symm.trans fresh)
  rw [hafter, hphase] at admitted
  refine ⟨th, all, thread, hpast _ List.mem_cons_self, fun r hr hne ↦ ?_⟩
  exact Pass.isActive_eq_false_of_admission admitted hr (hname ▸ hne)

/-! ### What the lists show -/

/-- Every request that is in the middle of its cycle was shown so since its admission. -/
structure Admitted (past : List Event) (w : World) : Prop where
  heard : w.IsHeard
  shown : ∀ name r, w.store.get? name = some r → Pass.isActive r → IsShown name past

theorem Step.admitted (h : Step w e w') (leaves : ∀ name, e.LeavesStatus name)
    (hw : Admitted past w) : Admitted (past ++ [e]) w' := by
  refine ⟨h.isHeard hw.heard, fun name r hr hactive ↦ ?_⟩
  rcases h.get?_cases hr with hsame | ⟨id, given, answer, before, rfl, hbefore⟩ |
    ⟨rfl, hname⟩ | ⟨before, rfl, hbefore⟩
  · refine (hw.shown name r hsame hactive).append_singleton fun id all he ↦ ?_
    subst he
    cases h with
    | asked thread gives next =>
      have hlisted : r ∈ all := gives.symm.mem_iff.1 (Keyed.mem_values_of_get? hsame)
      exact ⟨r, hlisted, Store.name_eq_of_get? hsame, hactive⟩
  · have hcommit := h.commitOf hw.heard
    by_cases fresh : before.phase = .empty
    · have hadmits : (Event.committed id given answer before r).Admits name := by
        have active := ((Pass.isActive_iff r).1 hactive).2
        exact ⟨Store.name_eq_of_get? hr, fresh,
          Phase.eq_pending_of_mem_edges hcommit.mem_edges fresh active⟩
      exact ⟨past, _, [], rfl, hadmits, nofun⟩
    · have hbefore' : Pass.isActive before :=
        (Pass.isActive_iff before).2 ⟨fresh, Phase.isTerminal_of_mem_edges hcommit.mem_edges⟩
      exact (hw.shown name before hbefore hbefore').append_singleton nofun
  · have hstatus := leaves name hname
    have hphase := ((Pass.isActive_iff r).1 hactive).1
    rw [Record.phase, hstatus] at hphase
    exact (hphase rfl).elim
  · have hstatus := leaves name (Store.name_eq_of_get? hbefore)
    have hbefore' : Pass.isActive before := by
      rw [Pass.isActive_iff, ← Record.phase_congr hstatus]
      exact (Pass.isActive_iff r).1 hactive
    exact (hw.shown name before hbefore hbefore').append_singleton nofun

theorem Run.admitted (h : Run (.start store) events w)
    (unwritten : ∀ r ∈ store.log, r.status = none)
    (leaves : ∀ e ∈ events, ∀ name, e.LeavesStatus name) : Admitted events w := by
  have hstart : Admitted [] (.start store) := by
    refine ⟨World.isHeard_start store, fun name r hr hactive ↦ ?_⟩
    have hphase := ((Pass.isActive_iff r).1 hactive).1
    rw [Record.phase, unwritten r (Store.mem_log_of_get? hr)] at hphase
    exact (hphase rfl).elim
  exact h.preserves (fun step hleaves hw ↦ step.admitted hleaves hw) leaves hstart

theorem Event.Admits.name_eq (h : e.Admits first) (h' : e.Admits second) : first = second := by
  cases e with
  | committed => exact h.1.symm.trans h'.1
  | started | asked | deleted | created | edited | removed => exact h.elim

/-- If the lists since the admission of the first request show it, then the list that the second
one was admitted by came before. -/
theorem Run.overlaps {early since : List Event} {e' : Event}
    (h : Run (.start store) (early ++ e :: since) w) (hne : first ≠ second)
    (hfirst : e.Admits first) (hsecond : e'.Admits second)
    (hshown : ∀ id all, .asked id ⟨.list, .ok all⟩ ∈ since →
      ∃ r ∈ all, r.name = first ∧ Pass.isActive r)
    (hrest : e :: since = mid ++ e' :: later) :
    Overlaps first second (early ++ e :: since) := by
  obtain ⟨mid, rfl⟩ : ∃ between, mid = e :: between := by
    cases mid with
    | nil =>
      cases hrest
      exact (hne (hfirst.name_eq hsecond)).elim
    | cons x mid =>
      cases hrest
      exact ⟨mid, rfl⟩
  rw [List.cons_append] at hrest
  obtain rfl := (List.cons.inj hrest).2
  cases e' with
  | committed id given answer before after =>
    have hrun : Run (.start store)
        ((early ++ e :: mid) ++ .committed id given answer before after :: later) w := by
      simpa only [List.append_assoc, List.cons_append] using h
    obtain ⟨u, v, run, step, -⟩ := hrun.exists_step
    obtain ⟨th, all, thread, hlist, hquiet⟩ :=
      (step.commitOf (run.isHeard (World.isHeard_start store))).exists_list hsecond.2.1 hsecond.2.2
    rw [(run.past_eq thread).1] at hlist
    have hunseen (r : Record) (hr : r ∈ all) (hname : r.name = first) :
        Pass.isActive r = false :=
      hquiet r hr (by rwa [hname, hsecond.1])
    obtain ⟨a, ha, hx⟩ := List.mem_filterMap.1 hlist
    have hasked : a = .asked id ⟨.list, .ok all⟩ := by
      rcases Event.cases_of_exchange hx with rfl | ⟨_, _, _, _, -, hx⟩ | ⟨_, _, -, hx⟩
      · rfl
      · cases hx
      · cases hx
    rw [hasked] at ha
    rcases List.mem_append.1 ha with ha | ha
    · obtain ⟨past, rest, rfl⟩ := List.append_of_mem ha
      exact ⟨past, id, all, rest, e, mid, given, answer, before, after, later,
        by simp only [List.append_assoc, List.cons_append], hunseen, hfirst, hsecond⟩
    · rcases List.mem_cons.1 ha with rfl | ha
      · exact hfirst.elim
      · obtain ⟨r, hr, hname, hactive⟩ := hshown id all (List.mem_append_left _ ha)
        rw [hunseen r hr hname] at hactive
        cases hactive
  | started | asked | deleted | created | edited | removed => exact hsecond.elim

/-- Two requests are only in the middle of their cycles at once if the admission of one of them
overlaps that of the other. -/
theorem overlaps_of_isActive (run : Run (.start store) events w)
    (unwritten : ∀ r ∈ store.log, r.status = none)
    (leaves : ∀ e ∈ events, ∀ name, e.LeavesStatus name) (hne : first ≠ second) {r r' : Record}
    (hr : w.store.get? first = some r) (hr' : w.store.get? second = some r')
    (hactive : Pass.isActive r) (hactive' : Pass.isActive r') :
    Overlaps first second events ∨ Overlaps second first events := by
  have hadmitted := run.admitted unwritten leaves
  obtain ⟨early, e, since, hevents, hadmits, hshown⟩ := hadmitted.shown first r hr hactive
  obtain ⟨early', e', since', hevents', hadmits', hshown'⟩ := hadmitted.shown second r' hr' hactive'
  have hsplit := hevents.symm.trans hevents'
  rcases List.append_eq_append_iff.1 hsplit with ⟨mid, -, hrest⟩ | ⟨mid, -, hrest⟩
  · rw [hevents] at run ⊢
    exact Or.inl (run.overlaps hne hadmits hadmits' hshown hrest)
  · rw [hevents'] at run ⊢
    exact Or.inr (run.overlaps hne.symm hadmits' hadmits hshown' hrest)

/-! ### Admissions that overlap -/

/-- A pass finds the request `a` alone and decides to admit it; before it writes that, the request
`b` is created and admitted by another pass, to which `a` looks fresh. -/
theorem exists_run_overlapping :
    ∃ events w r r', Run (.start (.single (freshRecord "a"))) events w ∧
      (∀ e ∈ events, ∀ name, e.LeavesStatus name) ∧ w.store.get? "a" = some r ∧
      w.store.get? "b" = some r' ∧ Pass.isActive r ∧ Pass.isActive r' := by
  let a := freshRecord "a"
  let b := freshRecord "b"
  let ctx := Pass.plainContext true
  let pending : Status := { phase := .pending }
  have hname : a.name ≠ b.name := by decide
  have hversion : some "1" ≠ some "2" := by decide
  have decided : (Pass.decide ctx a default).Leads [⟨.list, .ok [a]⟩]
      (.done (.ok (.advance pending))) := .ask (.rest _)
  have alone : ∀ e ∈ ([⟨.list, .ok [a]⟩] : List (Exchange Calls)),
      (Store.single a).Gives e.request e.answer := List.forall_mem_singleton.2 (.refl _)
  obtain ⟨u, th, k, first, hstore, hothers, hth, hrest⟩ := exists_run_of_decided
    (show (World.start (.single a)).threads 0 = none from rfl) (Store.get?_single a) alone decided
    rfl
  -- The other request comes up, and its pass runs to the end.
  have freshB : (Store.single a).IsFresh b := by
    intro old hold hsame
    cases List.mem_singleton.1 hold
    exact (hname hsame).elim
  obtain ⟨freshB', hcreated⟩ : ∃ fresh : u.store.IsFresh b,
      u.store.put b fresh = (Store.single a).put b freshB := by
    rw [hstore]
    exact ⟨freshB, rfl⟩
  have absent : u.store.get? b.name = none := by
    rw [hstore]
    exact Store.get?_put_of_ne (Store.isFresh_empty a) hname
  have created : Step u (.created b) (u.withStore ((Store.single a).put b freshB)) :=
    hcreated ▸ .created absent freshB'
  have listed : ∀ e ∈ ([⟨.list, .ok [a, b]⟩] : List (Exchange Calls)),
      ((Store.single a).put b freshB).Gives e.request e.answer := by
    have hvalues : (((∅ : Keyed Record).insert "a" (freshRecord "a")).insert "b"
        (freshRecord "b")).values = [freshRecord "a", freshRecord "b"] := by decide +kernel
    exact List.forall_mem_singleton.2 (.of_eq hvalues.symm)
  have admitted : Pass.admission (freshRecord "b") [freshRecord "a", freshRecord "b"] = .pending :=
    by decide +kernel
  have decided' : (Pass.decide ctx b default).Leads [⟨.list, .ok [a, b]⟩]
      (.done (.ok (.advance { phase := Pass.admission b [a, b] }))) := .ask (.rest _)
  rw [admitted] at decided'
  have newB : ((Store.single a).put b freshB).IsFresh (written b pending (some "2")) :=
    Store.isFresh_put freshB hversion (Store.isFresh_single hversion)
  obtain ⟨v, second, hstore', hheld, hothers'⟩ := exists_run_pass
    (w := u.withStore ((Store.single a).put b freshB)) (hothers 1 nofun)
    (Store.get?_put_self freshB) listed decided' rfl newB
  -- The first pass writes what it decided.
  have stored : v.store.get? a.name = some a := by
    rw [hstore']
    exact (Store.get?_put_of_ne newB hname.symm).trans
      ((Store.get?_put_of_ne freshB hname.symm).trans (Store.get?_single a))
  have newA : v.store.IsFresh (written a pending (some "2")) := by
    rw [hstore']
    exact Store.isFresh_put_of_ne newB hname.symm
      (Store.isFresh_put freshB hversion (Store.isFresh_single hversion))
  obtain ⟨w, last, hstore'', -⟩ :=
    exists_run_writeEvents stored ((hothers' 0 nofun).trans hth) hrest newA
  refine ⟨_, w, written a pending (some "2"), written b pending (some "2"),
    (first.trans (.cons created second)).trans last, ?_, ?_, ?_, rfl, rfl⟩
  · intro e he name
    rcases List.mem_append.1 he with he | he
    · rcases List.mem_append.1 he with he | he
      · exact leavesStatus_decisionEvents e he
      · rcases List.mem_cons.1 he with rfl | he
        · exact fun _ ↦ rfl
        · exact leavesStatus_pass e he
    · exact leavesStatus_writeEvents e he
  · rw [hstore'']
    exact Store.get?_put_self newA
  · rw [hstore'']
    exact (Store.get?_put_of_ne newA hname).trans hheld

/-- So requests are not kept from being in the middle of their cycles at once. -/
theorem not_one_active_at_a_time :
    ¬∀ {store events w}, Run (.start store) events w → (∀ r ∈ store.log, r.status = none) →
      (∀ e ∈ events, ∀ name, e.LeavesStatus name) → ∀ {first second r r'}, first ≠ second →
        w.store.get? first = some r → w.store.get? second = some r' →
          ¬(Pass.isActive r ∧ Pass.isActive r') := by
  intro h
  obtain ⟨events, w, r, r', run, leaves, hr, hr', hactive⟩ := exists_run_overlapping
  have hne : "a" ≠ "b" := by decide
  exact h run (Store.unwritten_single rfl) leaves hne hr hr' hactive

/-- The two admissions of that run overlap. -/
theorem overlaps_of_isActive_two :
    ∃ events w r r', Run (.start (.single (freshRecord "a"))) events w ∧
      w.store.get? "a" = some r ∧ w.store.get? "b" = some r' ∧ Pass.isActive r ∧
      Pass.isActive r' ∧ (Overlaps "a" "b" events ∨ Overlaps "b" "a" events) := by
  obtain ⟨events, w, r, r', run, leaves, hr, hr', hactive, hactive'⟩ := exists_run_overlapping
  have hne : "a" ≠ "b" := by decide
  exact ⟨events, w, r, r', run, hr, hr', hactive, hactive',
    overlaps_of_isActive run (Store.unwritten_single rfl) leaves hne hr hr' hactive hactive'⟩

end Interleaving

end EtcdBackup
