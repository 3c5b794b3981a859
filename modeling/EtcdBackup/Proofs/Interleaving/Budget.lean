import EtcdBackup.Proofs.Controller.Attempts
import EtcdBackup.Proofs.Interleaving.Checkpoint
import Mathlib.Data.List.Induction

/-!
# The budget of attempts

The attempts that a sub-status has left are read off the stored request. They are spent before the
write that records them, and this write may be refused, or never made: then the next pass finds
the old number and spends the same attempts again (`exists_run_spent_twice`). What is recorded are
just the attempts of the passes whose write the store took, and only these are bounded by the
limit (`attempts_recorded`).
-/

set_option autoImplicit false
set_option relaxedAutoImplicit false

namespace EtcdBackup.Interleaving

open Dialogue Runner

variable {store : Store} {events past later : List Event} {u v w w' : World} {e : Event} {id : Nat}
  {before after given : Record} {answer : Except Error Unit} {name target : String}
  {version : Datastore} {limit : UInt32}

/-! ### Attempts in a run -/

namespace Event

/-- The pass that opens a maker of backups for a datastore version of a target by the event. -/
def opener? (target : String) (version : Datastore) : Event → Option Nat
  | .asked id exchange => if exchange.request.opens target version then some id else none
  | _ => none

/-- The event is a write of the pass that the store took. -/
def commits (id : Nat) : Event → Bool
  | .committed other _ _ _ _ => id == other
  | _ => false

/-- The event is no pass over another request, nor one with another limit of attempts. -/
def HasLimit (name : String) (limit : UInt32) : Event → Prop
  | .started _ ctx other => other = name ∧ ctx.retry.maxAttempts = limit
  | _ => True

end Event

/-- The passes that opened makers, in order and once for each maker. -/
def openers (target : String) (version : Datastore) (events : List Event) : List Nat :=
  events.filterMap (Event.opener? target version)

/-- The number of makers opened for a datastore version of a target. -/
def calls (target : String) (version : Datastore) (events : List Event) : Nat :=
  (openers target version events).length

/-- A write of the pass was taken by the store. -/
def hasCommitted (events : List Event) (id : Nat) : Bool := events.any (Event.commits id)

/-- The number of makers opened by passes whose write was taken. -/
def recorded (target : String) (version : Datastore) (events : List Event) : Nat :=
  (openers target version events).countP (hasCommitted events)

/-- The number of makers opened by all other passes. -/
def unrecorded (target : String) (version : Datastore) (events : List Event) : Nat :=
  (openers target version events).countP fun id ↦ !hasCommitted events id

theorem calls_eq_add (target : String) (version : Datastore) (events : List Event) :
    calls target version events = recorded target version events +
      unrecorded target version events := by
  unfold calls recorded unrecorded
  rw [List.length_eq_countP_add_countP (hasCommitted events)]
  simp

theorem openers_append_singleton (past : List Event) (e : Event) :
    openers target version (past ++ [e]) =
      openers target version past ++ (e.opener? target version).toList := by
  unfold openers
  rw [List.filterMap_append]
  cases h : e.opener? target version <;> simp [h]

theorem hasCommitted_append_singleton (past : List Event) (e : Event) (id : Nat) :
    hasCommitted (past ++ [e]) id = (hasCommitted past id || e.commits id) := by
  simp [hasCommitted]

theorem Event.exists_of_commits (h : e.commits id) :
    ∃ given answer before after, e = .committed id given answer before after := by
  cases e with
  | committed other given answer before after =>
    cases eq_of_beq h
    exact ⟨given, answer, before, after, rfl⟩
  | started | asked | deleted | created | edited | removed => cases h

theorem Event.count_opener? (id : Nat) (e : Event) :
    (e.opener? target version).toList.count id =
      openings target version (e.exchange? id).toList := by
  cases e with
  | asked other x =>
    by_cases hid : other = id <;> by_cases hopens : x.request.opens target version <;>
      simp [opener?, exchange?, openings, hid, hopens]
  | committed other | deleted other =>
    by_cases hid : other = id <;> simp [opener?, exchange?, openings, hid, Call.opens]
  | started | created | edited | removed => rfl

/-- The makers that a pass opened are those of its exchanges. -/
theorem count_openers (id : Nat) (events : List Event) :
    (openers target version events).count id =
      openings target version (Event.exchanges id events) := by
  induction events using List.reverseRecOn with
  | nil => rfl
  | append_singleton events e ih =>
    rw [openers_append_singleton, List.count_append, Event.exchanges_append,
      Event.exchanges_singleton, openings_append, ih, Event.count_opener?]

/-- A pass that asks something has not written before. -/
theorem Step.hasCommitted_eq_false (h : Step w e w') (hw : w.IsTraced past) {x : Exchange Calls}
    (hx : e.exchange? id = some x) : hasCommitted past id = false := by
  obtain ⟨th, th', hth, -, hgoesOn⟩ := h.exists_of_exchange hx
  refine Bool.eq_false_iff.2 fun hcommitted ↦ ?_
  obtain ⟨e', he', hcommits⟩ := List.any_eq_true.1 hcommitted
  obtain ⟨given, answer, before, after, rfl⟩ := Event.exists_of_commits hcommits
  have hmem := Event.mem_exchanges he' (Event.exchange?_committed id given before after answer)
  rw [← hw.traced id th hth] at hmem
  obtain ⟨result, hrest, -⟩ := Pass.passed_of_isMutation th.course hmem trivial
  have hnext := hgoesOn.rest
  rw [hrest] at hnext
  cases hnext

/-- Nothing more is recorded by an event that is no write. -/
theorem Step.recorded_eq (h : Step w e w') (hw : w.IsTraced past)
    (quiet : ∀ id, e.commits id = false) :
    recorded target version (past ++ [e]) = recorded target version past := by
  have hsame : hasCommitted (past ++ [e]) = hasCommitted past := by
    funext id
    rw [hasCommitted_append_singleton, quiet id, Bool.or_false]
  unfold recorded
  rw [hsame, openers_append_singleton, List.countP_append, Nat.add_eq_left]
  refine List.countP_eq_zero.2 fun id hid ↦ Bool.eq_false_iff.1 ?_
  cases e with
  | asked other x =>
    obtain ⟨-, hother⟩ := Option.ite_none_right_eq_some.1 (Option.mem_toList.1 hid)
    cases hother
    exact h.hasCommitted_eq_false hw (Event.exchange?_asked _ x)
  | started | committed | deleted | created | edited | removed => cases hid

theorem countP_or_beq {p : Nat → Bool} (h : p id = false) (ids : List Nat) :
    ids.countP (fun other ↦ p other || other == id) = ids.countP p + ids.count id := by
  induction ids with
  | nil => rfl
  | cons other ids ih =>
    rw [List.countP_cons, List.countP_cons, List.count_cons, ih]
    by_cases hid : other = id
    · subst hid
      simp [h, Nat.add_assoc]
    · simp [hid, Nat.add_right_comm]

/-- A write records the attempts of its pass. -/
theorem Step.recorded_of_committed (h : Step w (.committed id given answer before after) w')
    (hw : w.IsTraced past) :
    recorded target version (past ++ [.committed id given answer before after]) =
      recorded target version past + openings target version (Event.exchanges id past) := by
  have hnew := h.hasCommitted_eq_false hw (Event.exchange?_committed id _ _ _ _)
  have hcommitted : hasCommitted (past ++ [.committed id given answer before after]) =
      fun other ↦ hasCommitted past other || other == id := by
    funext other
    rw [hasCommitted_append_singleton, Event.commits]
  unfold recorded
  rw [hcommitted, openers_append_singleton, ← count_openers]
  exact (congrArg _ (List.append_nil _)).trans (countP_or_beq hnew _)

/-! ### What is recorded -/

/-- The stored request has the attempts that were recorded, which are within the limit. -/
structure Budgeted (name : String) (limit : UInt32) (target : String) (version : Datastore)
    (past : List Event) (w : World) : Prop where
  accounted : Accounted name past w
  traced : w.IsTraced past
  passes : ∀ e ∈ past, e.HasLimit name limit
  stored : ∀ r, w.store.get? name = some r →
    attempts (r.status.getD {}) target version = recorded target version past
  within : recorded target version past ≤ limit.toNat

theorem Budgeted.of_thread (hw : Budgeted name limit target version past w) {th : Thread}
    (hth : w.threads id = some th) : th.name = name ∧ th.ctx.retry.maxAttempts = limit :=
  hw.passes _ (hw.traced.started id th hth)

/-- A write of a pass records the attempts that the pass made. -/
theorem Step.budgeted_of_committed (h : Step w (.committed id given answer before after) w')
    (hw : Budgeted name limit target version past w) :
    after.name = name ∧
      attempts (after.status.getD {}) target version =
        recorded target version (past ++ [.committed id given answer before after]) ∧
      recorded target version (past ++ [.committed id given answer before after]) ≤
        limit.toNat := by
  rw [h.recorded_of_committed hw.traced]
  cases h.commitOf hw.accounted.heard with
  | @intro th current now es decision status _ thread hpast hread decided hstatus same stored
      overwritten =>
    subst overwritten
    obtain ⟨rfl, hlimit⟩ := hw.of_thread thread
    have hname := Store.name_eq_of_get? stored
    obtain ⟨hsum, hmax⟩ := (Pass.decided_of_leads decided).counts hstatus
      (hw.accounted.sound current hread.1 hread.2) target version
    have hbefore := hw.stored before stored
    have hopenings : openings target version (Event.exchanges id past) =
        openings target version es := by
      rw [← hw.traced.traced id th thread, hpast, openings_append]
      rfl
    rw [← same, hbefore, ← hopenings] at hsum
    refine ⟨hname, hsum, ?_⟩
    rcases hmax with hnone | hmax
    · rw [hopenings, hnone]
      exact hw.within
    · rw [← hsum, ← hlimit]
      exact hmax

theorem Step.budgeted (h : Step w e w') (leaves : e.LeavesStatus name)
    (kept : ¬e.Creates name) (pass : e.HasLimit name limit)
    (hw : Budgeted name limit target version past w) :
    Budgeted name limit target version (past ++ [e]) w' := by
  have haccounted := h.accounted leaves hw.accounted
  have htraced := h.isTraced hw.traced
  have hpasses : ∀ e' ∈ past ++ [e], e'.HasLimit name limit :=
    List.forall_mem_append.2 ⟨hw.passes, List.forall_mem_singleton.2 pass⟩
  by_cases hcommit : ∃ id, e.commits id
  · obtain ⟨id, hcommit⟩ := hcommit
    obtain ⟨given, answer, before, after, rfl⟩ := Event.exists_of_commits hcommit
    obtain ⟨rfl, hattempts, hmax⟩ := h.budgeted_of_committed hw
    refine ⟨haccounted, htraced, hpasses, fun r hr ↦ ?_, hmax⟩
    obtain ⟨-, hstored, -⟩ := h.stored_of_committed
    rw [hstored] at hr
    cases hr
    exact hattempts
  · have quiet (id : Nat) : e.commits id = false :=
      Bool.eq_false_iff.2 fun hid ↦ hcommit ⟨id, hid⟩
    have hrecorded : recorded target version (past ++ [e]) = recorded target version past :=
      h.recorded_eq hw.traced quiet
    refine ⟨haccounted, htraced, hpasses, fun r hr ↦ ?_, hrecorded ▸ hw.within⟩
    rw [hrecorded]
    rcases h.get?_cases hr with hsame | ⟨id, given, answer, before, rfl, -⟩ | ⟨rfl, hname⟩ |
      ⟨before, rfl, hbefore⟩
    · exact hw.stored r hsame
    · exact (hcommit ⟨id, beq_self_eq_true id⟩).elim
    · exact (kept hname).elim
    · rw [leaves (Store.name_eq_of_get? hbefore)]
      exact hw.stored before hbefore

theorem budgeted_start (unwritten : ∀ r ∈ store.log, r.name = name → r.status = none)
    (limit : UInt32) (target : String) (version : Datastore) :
    Budgeted name limit target version [] (.start store) where
  accounted := accounted_start unwritten
  traced := World.isTraced_start store
  passes := List.forall_mem_nil _
  stored r hr := by
    rw [unwritten r (Store.mem_log_of_get? hr) (Store.name_eq_of_get? hr)]
    exact attempts_default target version
  within := Nat.zero_le _

/-- The attempts in a status are those of the passes whose write was taken, and these are within
the limit. What was attempted beyond that is lost. -/
theorem attempts_recorded (run : Run (.start store) events w)
    (unwritten : ∀ r ∈ store.log, r.name = name → r.status = none)
    (leaves : ∀ e ∈ events, e.LeavesStatus name) (kept : ∀ e ∈ events, ¬e.Creates name)
    (passes : ∀ e ∈ events, e.HasLimit name limit) (target : String) (version : Datastore) :
    calls target version events ≤ limit.toNat + unrecorded target version events ∧
      ∀ past id given answer before after later,
        events = past ++ .committed id given answer before after :: later →
          ∀ sub, after.sub? target version = some sub →
            calls target version (past ++ [.committed id given answer before after]) =
              sub.attempts.toNat +
                unrecorded target version (past ++ [.committed id given answer before after]) := by
  have hbudget {mid : List Event} {v : World} (hrun : Run (.start store) mid v)
      (hmid : ∀ e ∈ mid, e ∈ events) : Budgeted name limit target version mid v :=
    hrun.preserves (I := Budgeted name limit target version) (p := (· ∈ events))
      (fun step he hw ↦ step.budgeted (leaves _ he) (kept _ he) (passes _ he) hw) hmid
      (budgeted_start unwritten limit target version)
  refine ⟨?_, ?_⟩
  · rw [calls_eq_add]
    exact Nat.add_le_add_right (hbudget run fun _ he ↦ he).within _
  · rintro past id given answer before after later rfl sub hsub
    obtain ⟨u, v, first, step, -⟩ := run.exists_step
    obtain ⟨-, hattempts, -⟩ :=
      step.budgeted_of_committed (hbudget first fun e he ↦ List.mem_append_left _ he)
    rw [calls_eq_add, ← hattempts, attempts, Status.sub_eq_getD, Record.sub?_getD, hsub]
    rfl

/-! ### Passes in turn -/

/-- A pass asks nothing any more once another one has started. -/
def IsOneAtATime (events : List Event) : Prop :=
  ∀ pre id ctx name post, events = pre ++ .started id ctx name :: post →
    ∀ other ctx' name', .started other ctx' name' ∈ pre → Event.exchanges other post = []

/-- The event is a request of the pass. -/
def Event.IsOf (id : Nat) : Event → Prop
  | .asked other _ | .committed other _ _ _ _ | .deleted other _ _ => other = id
  | _ => False

theorem Event.IsOf.exchange?_eq_none (h : e.IsOf id) {other : Nat} (hne : other ≠ id) :
    e.exchange? other = none := by
  cases e with
  | asked | committed | deleted => exact if_neg fun hid ↦ hne (hid.symm.trans h)
  | started | created | edited | removed => rfl

theorem isOf_asked (id : Nat) (es : List (Exchange Calls)) :
    ∀ e ∈ es.map (Event.asked id), e.IsOf id := by
  intro e he
  obtain ⟨x, -, rfl⟩ := List.mem_map.1 he
  rfl

/-- Passes over the request of a name, numbered from zero and one after the other. -/
inductive InTurn (name : String) (limit : UInt32) : Nat → List Event → Prop
  | nil : InTurn name limit 0 []
  | pass {n : Nat} {events es : List Event} (before : InTurn name limit n events) {ctx : Context}
      (limited : ctx.retry.maxAttempts = limit) (own : ∀ e ∈ es, e.IsOf n) :
      InTurn name limit (n + 1) (events ++ .started n ctx name :: es)

namespace InTurn

variable {n : Nat}

theorem lt_of_started (h : InTurn name limit n events) {ctx : Context} {other : String}
    (started : .started id ctx other ∈ events) : id < n := by
  induction h with
  | nil => cases started
  | pass before limited own ih =>
    rcases List.mem_append.1 started with hmem | hmem
    · exact Nat.lt_succ_of_lt (ih hmem)
    · rcases List.mem_cons.1 hmem with heq | hmem
      · cases heq
        exact Nat.lt_succ_self _
      · exact (own _ hmem).elim

theorem hasLimit (h : InTurn name limit n events) : ∀ e ∈ events, e.HasLimit name limit := by
  induction h with
  | nil => exact List.forall_mem_nil _
  | pass before limited own ih =>
    refine List.forall_mem_append.2 ⟨ih, List.forall_mem_cons.2 ⟨⟨rfl, limited⟩, fun e he ↦ ?_⟩⟩
    have := own e he
    cases e <;> first | exact this.elim | trivial

theorem not_creates (h : InTurn name limit n events) : ∀ e ∈ events, ¬e.Creates name := by
  induction h with
  | nil => exact List.forall_mem_nil _
  | pass before limited own ih =>
    refine List.forall_mem_append.2 ⟨ih, List.forall_mem_cons.2 ⟨id, fun e he ↦ ?_⟩⟩
    have := own e he
    cases e <;> first | exact this.elim | exact id

theorem isOneAtATime (h : InTurn name limit n events) : IsOneAtATime events := by
  induction h with
  | nil =>
    intro pre id ctx other post hevents
    cases (List.append_eq_nil_iff.1 hevents.symm).2
  | @pass n events es before ctx limited own ih =>
    have hown {other : Nat} {ctx : Context} {name : String}
        (started : .started other ctx name ∈ events) : Event.exchanges other es = [] :=
      List.filterMap_eq_nil_iff.2 fun e he ↦
        (own e he).exchange?_eq_none (Nat.ne_of_lt (before.lt_of_started started))
    intro pre id ctx' name' post hevents other ctx'' name'' hother
    rcases List.append_eq_append_iff.1 hevents with ⟨as, rfl, hrest⟩ | ⟨as, rfl, hrest⟩
    · cases as with
      | nil =>
        cases hrest
        rw [List.append_nil] at hother
        exact hown hother
      | cons a as =>
        cases hrest
        exact (own _ (List.mem_append_right _ List.mem_cons_self)).elim
    · cases as with
      | nil =>
        cases hrest
        rw [List.append_nil] at hown
        exact hown hother
      | cons a as =>
        cases hrest
        refine (Event.exchanges_append other as _).trans ?_
        rw [ih pre id ctx' name' as rfl other ctx'' name'' hother]
        exact hown (List.mem_append_left _ hother)

/-- One more pass, which writes what it decides. -/
theorem decided (h : InTurn name limit n events) {ctx : Context}
    (limited : ctx.retry.maxAttempts = limit) {r : Record} (hname : r.name = name) (now : Instant)
    (es : List (Exchange Calls)) (status : Status) (version : Option String) :
    InTurn name limit (n + 1)
      (events ++ (decisionEvents n ctx r now es ++ writeEvents n r status version)) := by
  subst hname
  refine h.pass limited (List.forall_mem_append.2 ⟨isOf_asked n _, fun e he ↦ ?_⟩)
  simp only [writeEvents, List.mem_cons, List.not_mem_nil, or_false] at he
  rcases he with rfl | rfl <;> rfl

end InTurn

/-! ### Attempts that are lost -/

/-- A limit of one attempt, and a management cluster whose v2 datastore can be backed up. -/
def singleAttempt : Context :=
  { Pass.plainContext false with
    management := .management "/data" {}
    retry := { maxAttempts := 1 } }

/-- The request once the v2 datastore of the management cluster is marked as running. -/
def markedStatus : Status :=
  ({ phase := .v2Running, started := some default } : Status).withSub managementName .v2
    { state := .running, started := some default }

/-- An attempt that fails right away. -/
def failedAttempt : List (Exchange Calls) :=
  [⟨.now, default⟩,
    ⟨.openBackupper singleAttempt.management .v2, .error (.conflict (.reported ""))⟩,
    ⟨.now, default⟩, ⟨.measure ⟨managementName, .v2, 1, none, default⟩, ()⟩]

/-- The only attempt is made, and the write that records it is refused. So it is made again. -/
theorem exists_run_spent_twice :
    ∃ past given before after w sub,
      Run (.start (.single (freshRecord "b")))
        (past ++ [.committed 4 given (.ok ()) before after]) w ∧
      (∀ e ∈ past ++ [.committed 4 given (.ok ()) before after], e.LeavesStatus "b") ∧
      InTurn "b" 1 5 (past ++ [.committed 4 given (.ok ()) before after]) ∧
      after.sub? managementName .v2 = some sub ∧ sub.state = .failed ∧ sub.attempts = 1 ∧
      calls managementName .v2 (past ++ [.committed 4 given (.ok ()) before after]) = 2 := by
  let started : Status := { phase := .v2Running, started := some default }
  let failed : Status := markedStatus.withSub managementName .v2
    (SubStatus.finish { state := .running, started := some default }
      ⟨1, .error (.conflict (.reported ""))⟩ default)
  let r := freshRecord "b"
  let r₁ := written r { phase := .pending } (some "2")
  let r₂ := written r₁ started (some "3")
  let r₃ := written r₂ markedStatus (some "4")
  have decided₀ : (Pass.decide singleAttempt r default).Leads [⟨.list, .ok [r]⟩]
      (.done (.ok (.advance { phase := .pending }))) := .ask (.rest _)
  have decided₁ : (Pass.decide singleAttempt r₁ default).Leads []
      (.done (.ok (.advance started))) := .rest _
  have decided₂ : (Pass.decide singleAttempt r₂ default).Leads [⟨.now, default⟩]
      (.done (.ok (.progress markedStatus))) := .ask (.rest _)
  have decided₃ : (Pass.decide singleAttempt r₃ default).Leads failedAttempt
      (.done (.ok (.progress failed))) := .ask (.ask (.ask (.ask (.rest _))))
  have course : (Pass.reconcile singleAttempt r₃.name).Leads
      (⟨.get r₃.name, .ok r₃⟩ :: ⟨.now, default⟩ :: failedAttempt ++ [⟨.get r₃.name, .ok r₃⟩,
        ⟨.updateStatus { r₃ with status := some failed }, .error (.conflict (.modified "b"))⟩])
      (.done (.error (.conflict (.modified "b")))) :=
    (Pass.Passed.decided decided₃ (.write rfl (.tried rfl _))).leads
  have gives₀ : ∀ e ∈ ([⟨.list, .ok [r]⟩] : List (Exchange Calls)),
      (Store.single r).Gives e.request e.answer :=
    List.forall_mem_singleton.2 (List.Perm.refl _)
  have new₀ : some "2" ∉ [some "1"] := by decide
  obtain ⟨w₁, h₁⟩ := (Alone.start r).exists_pass gives₀ decided₀ rfl new₀
  have new₁ : some "3" ∉ [some "2", some "1"] := by decide
  obtain ⟨w₂, h₂⟩ := h₁.exists_pass (List.forall_mem_nil _) decided₁ rfl new₁
  have gives₂ : ∀ e ∈ ([⟨.now, default⟩] : List (Exchange Calls)),
      w₂.store.Gives e.request e.answer := List.forall_mem_singleton.2 trivial
  have new₂ : some "4" ∉ [some "3", some "2", some "1"] := by decide
  obtain ⟨w₃, h₃⟩ := h₂.exists_pass gives₂ decided₂ rfl new₂
  have gives (w : World) : ∀ e ∈ failedAttempt, w.store.Gives e.request e.answer := by
    simp only [failedAttempt, List.forall_mem_cons]
    exact ⟨trivial, trivial, trivial, trivial, List.forall_mem_nil _⟩
  have gives₃ : ∀ e ∈ ⟨.get r₃.name, .ok r₃⟩ :: ⟨.now, default⟩ :: failedAttempt ++
      [⟨.get r₃.name, .ok r₃⟩, ⟨.updateStatus { r₃ with status := some failed },
        .error (.conflict (.modified "b"))⟩], w₃.store.Gives e.request e.answer := by
    refine List.forall_mem_append.2 ⟨?_, ?_⟩
    · exact List.forall_mem_cons.2 ⟨h₃.stored, List.forall_mem_cons.2 ⟨trivial, gives w₃⟩⟩
    · exact List.forall_mem_cons.2 ⟨h₃.stored, List.forall_mem_singleton.2 trivial⟩
  obtain ⟨w₄, h₄⟩ := h₃.asked singleAttempt gives₃ course
  have new₄ : some "5" ∉ [some "4", some "3", some "2", some "1"] := by decide
  obtain ⟨w, h₅⟩ := h₄.exists_pass (gives w₄) decided₃ rfl new₄
  rw [decisionEvents_append_writeEvents] at h₅
  refine ⟨_, _, _, _, w, _, h₅.run, h₅.leaves, ?_, rfl, rfl, rfl, rfl⟩
  rw [← decisionEvents_append_writeEvents]
  refine .decided ?_ (by rfl) (by rfl) _ _ _ _
  refine .pass ?_ (by rfl) (isOf_asked 3 _)
  refine .decided ?_ (by rfl) (by rfl) _ _ _ _
  refine .decided ?_ (by rfl) (by rfl) _ _ _ _
  exact .decided .nil (by rfl) (by rfl) _ _ _ _

/-- So neither are the attempts bounded by the limit, nor are all of them recorded. -/
theorem not_attempts_eq_calls :
    ¬∀ {store events w name limit}, Run (.start store) events w →
      (∀ r ∈ store.log, r.name = name → r.status = none) →
      (∀ e ∈ events, e.LeavesStatus name) → (∀ e ∈ events, ¬e.Creates name) →
      (∀ e ∈ events, e.HasLimit name limit) → IsOneAtATime events →
      ∀ target version, calls target version events ≤ limit.toNat ∧
        ∀ past id given answer before after later,
          events = past ++ .committed id given answer before after :: later →
            ∀ sub, after.sub? target version = some sub →
              sub.state = .completed ∨ sub.state = .failed →
                sub.attempts.toNat =
                  calls target version (past ++ [.committed id given answer before after]) := by
  intro h
  obtain ⟨past, given, before, after, w, sub, run, leaves, turns, hsub, hstate, hattempts,
    hcalls⟩ := exists_run_spent_twice
  obtain ⟨hbound, -⟩ := h run (fun s hs _ ↦ Store.unwritten_single rfl s hs) leaves
    turns.not_creates turns.hasLimit turns.isOneAtATime managementName .v2
  rw [hcalls] at hbound
  exact absurd hbound (by decide)

/-- One of the two attempts of that run is recorded. -/
theorem attempts_recorded_once :
    ∃ past given before after w sub,
      Run (.start (.single (freshRecord "b")))
        (past ++ [.committed 4 given (.ok ()) before after]) w ∧
      after.sub? managementName .v2 = some sub ∧ sub.attempts = 1 ∧
      unrecorded managementName .v2 (past ++ [.committed 4 given (.ok ()) before after]) = 1 ∧
      calls managementName .v2 (past ++ [.committed 4 given (.ok ()) before after]) =
        sub.attempts.toNat +
          unrecorded managementName .v2 (past ++ [.committed 4 given (.ok ()) before after]) := by
  obtain ⟨past, given, before, after, w, sub, run, leaves, turns, hsub, hstate, hattempts,
    hcalls⟩ := exists_run_spent_twice
  obtain ⟨-, hrecorded⟩ := attempts_recorded run (fun s hs _ ↦ Store.unwritten_single rfl s hs)
    leaves turns.not_creates turns.hasLimit managementName .v2
  have hsum := hrecorded past 4 given (.ok ()) before after [] rfl sub hsub
  have hone : sub.attempts.toNat = 1 := by rw [hattempts]; rfl
  refine ⟨past, given, before, after, w, sub, run, hsub, hattempts, ?_, hsum⟩
  omega

end EtcdBackup.Interleaving
