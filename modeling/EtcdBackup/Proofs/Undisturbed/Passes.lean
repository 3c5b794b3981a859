import EtcdBackup.Proofs.Interleaving.Solo
import Mathlib.Data.Fintype.EquivFin

/-!
# Passes over a healthy store

A store that nobody else uses and that never fails answers each request in one way, up to the order
of a list and the version of a write (`Serves`); what the other surroundings answer is left open.
A whole pass over a stored request then comes to what it decided: its status is written, or the
request is deleted or kept, or the surroundings kept the pass from a decision (`Comes`,
`WholePass.comes`). Passes one after the other are `Passes`. Against any surroundings there are such
passes, over any names in any order (`exists_passes`).
-/

set_option autoImplicit false
set_option relaxedAutoImplicit false

namespace EtcdBackup

/-- The request reads or writes the store. -/
def Call.IsOnStore : Call → Prop
  | .get _ | .list | .updateStatus _ | .delete _ => True
  | _ => False

namespace Undisturbed

open Dialogue Interleaving

variable {s s' middle last : Store} {es es' : List (Exchange Calls)} {name : String} {r : Record}
  {ctx : Context}

/-- A healthy store has an exchange and is left as another one. -/
inductive Serves : Store → Exchange Calls → Store → Prop
  | found {s : Store} {name : String} {r : Record} (stored : s.get? name = some r) :
      Serves s ⟨.get name, .ok r⟩ s
  | missing {s : Store} {name : String} (absent : s.get? name = none) {e : Error}
      (notFound : e.isNotFound) : Serves s ⟨.get name, .error e⟩ s
  | listed {s : Store} {all : List Record} (order : all.Perm s.records.values) :
      Serves s ⟨.list, .ok all⟩ s
  | written {s : Store} {given before after : Record} (stored : s.get? given.name = some before)
      (current : given.version = before.version) (overwritten : Overwritten given before after)
      (fresh : s.IsFresh after) : Serves s ⟨.updateStatus given, .ok ()⟩ (s.put after fresh)
  | refused {s : Store} {given : Record}
      (stale : ∀ before, s.get? given.name = some before → given.version ≠ before.version)
      (e : Error) : Serves s ⟨.updateStatus given, .error e⟩ s
  | deleted (s : Store) (name : String) : Serves s ⟨.delete name, .ok ()⟩ (s.remove name)
  | elsewhere (s : Store) {c : Call} (h : ¬c.IsOnStore) (answer : c.Answer) :
      Serves s ⟨c, answer⟩ s

/-- A healthy store has exchanges one after the other. -/
inductive Served : Store → List (Exchange Calls) → Store → Prop
  | nil (s : Store) : Served s [] s
  | cons {s middle last : Store} {e : Exchange Calls} {es : List (Exchange Calls)} :
      Serves s e middle → Served middle es last → Served s (e :: es) last

theorem served_cons_iff {e : Exchange Calls} :
    Served s (e :: es) last ↔ ∃ middle, Serves s e middle ∧ Served middle es last := by
  constructor
  · intro h
    cases h with
    | cons first rest => exact ⟨_, first, rest⟩
  · rintro ⟨middle, first, rest⟩
    exact .cons first rest

theorem served_append_iff :
    Served s (es ++ es') last ↔ ∃ middle, Served s es middle ∧ Served middle es' last := by
  induction es generalizing s with
  | nil =>
    constructor
    · intro h
      exact ⟨s, .nil s, h⟩
    · rintro ⟨middle, first, rest⟩
      cases first
      exact rest
  | cons e es ih =>
    simp only [List.cons_append, served_cons_iff, ih]
    constructor
    · rintro ⟨next, first, middle, others, rest⟩
      exact ⟨middle, ⟨next, first, others⟩, rest⟩
    · rintro ⟨middle, ⟨next, first, others⟩, rest⟩
      exact ⟨next, first, middle, others, rest⟩

namespace Serves

/-- What is stored is read. -/
theorem eq_of_get (stored : s.get? name = some r) {answer : Except Error Record}
    (h : Serves s ⟨.get name, answer⟩ s') : answer = .ok r ∧ s' = s := by
  cases h with
  | found stored' =>
    rw [stored] at stored'
    cases stored'
    exact ⟨rfl, rfl⟩
  | missing absent =>
    rw [stored] at absent
    cases absent
  | elsewhere other => exact (other trivial).elim

theorem eq_of_list {answer : Except Error (List Record)} (h : Serves s ⟨.list, answer⟩ s') :
    ∃ all, answer = .ok all ∧ all.Perm s.records.values ∧ s' = s := by
  cases h with
  | listed order => exact ⟨_, rfl, order, rfl⟩
  | elsewhere other => exact (other trivial).elim

/-- A status is written over the record that it was computed from. -/
theorem eq_of_updateStatus {status : Status} (stored : s.get? r.name = some r)
    {answer : Except Error Unit}
    (h : Serves s ⟨.updateStatus { r with status := some status }, answer⟩ s') :
    answer = .ok () ∧
      ∃ version fresh, s' = s.put (Interleaving.written r status version) fresh := by
  have held : s.get? ({ r with status := some status } : Record).name = some r := stored
  cases h with
  | written stored' current overwritten fresh =>
    rw [held] at stored'
    cases stored'
    cases overwritten with
    | whole version => exact ⟨rfl, version, fresh, rfl⟩
    | status version => exact ⟨rfl, version, fresh, rfl⟩
  | refused stale => exact (stale r held rfl).elim
  | elsewhere other => exact (other trivial).elim

theorem eq_of_delete {answer : Except Error Unit} (h : Serves s ⟨.delete name, answer⟩ s') :
    answer = .ok () ∧ s' = s.remove name := by
  cases h with
  | deleted => exact ⟨rfl, rfl⟩
  | elsewhere other => exact (other trivial).elim

theorem eq_of_not_isMutation {e : Exchange Calls} (h : Serves s e s')
    (quiet : ¬e.request.IsMutation) : s' = s := by
  cases h with
  | written | deleted => exact (quiet trivial).elim
  | found | missing | listed | refused | elsewhere => rfl

end Serves

/-- Exchanges that change nothing leave the store alone. -/
theorem Served.eq_of_areQuiet (h : Served s es s') (quiet : AreQuiet es) : s' = s := by
  induction h with
  | nil => rfl
  | cons first _ ih =>
    rw [ih fun e he ↦ quiet e (List.mem_cons_of_mem _ he)]
    exact first.eq_of_not_isMutation (quiet _ List.mem_cons_self)

/-- Each of them is had with the same store. -/
theorem Served.serves_of_mem (h : Served s es s') (quiet : AreQuiet es) {e : Exchange Calls}
    (he : e ∈ es) : Serves s e s := by
  induction h with
  | nil => cases he
  | cons first _ ih =>
    obtain rfl := first.eq_of_not_isMutation (quiet _ List.mem_cons_self)
    rcases List.mem_cons.1 he with rfl | he
    · exact first
    · exact ih (fun e he ↦ quiet e (List.mem_cons_of_mem _ he)) he

/-! ### Whole passes -/

/-- A pass that ran to its end. -/
structure WholePass where
  ctx : Context
  name : String
  exchanges : List (Exchange Calls)
  result : Except Error Action
  course : (Pass.reconcile ctx name).Leads exchanges (.done result)

/-- What a whole pass over a stored record comes to, and the store that it leaves. -/
inductive Comes (s : Store) (ctx : Context) (r : Record) :
    List (Exchange Calls) → Except Error Action → Store → Prop
  /-- There was no decision. -/
  | undecided {now : Instant} {look : List (Exchange Calls)} {e : Error}
      (failed : (Pass.decide ctx r now).Leads look (.done (.error e))) (served : Served s look s) :
      Comes s ctx r (⟨.get r.name, .ok r⟩ :: ⟨.now, now⟩ :: look) (.error e) s
  /-- A status was written. -/
  | wrote {now : Instant} {look : List (Exchange Calls)} {decision : Pass.Decision}
      {status : Status} {version : Option String}
      (decided : (Pass.decide ctx r now).Leads look (.done (.ok decision)))
      (served : Served s look s) (hstatus : decision.status? = some status)
      (fresh : s.IsFresh (written r status version)) :
      Comes s ctx r
        (⟨.get r.name, .ok r⟩ :: ⟨.now, now⟩ :: look ++ [⟨.get r.name, .ok r⟩,
          ⟨.updateStatus { r with status := some status }, .ok ()⟩])
        (.ok (.requeue progressDelay)) (s.put (written r status version) fresh)
  | removed {now : Instant} {look : List (Exchange Calls)}
      (decided : (Pass.decide ctx r now).Leads look (.done (.ok .delete)))
      (served : Served s look s) :
      Comes s ctx r
        (⟨.get r.name, .ok r⟩ :: ⟨.now, now⟩ :: look ++ [⟨.delete r.name, .ok ()⟩])
        (.ok .awaitChange) (s.remove r.name)
  | kept {now : Instant} {look : List (Exchange Calls)}
      (decided : (Pass.decide ctx r now).Leads look (.done (.ok .keep)))
      (served : Served s look s) :
      Comes s ctx r (⟨.get r.name, .ok r⟩ :: ⟨.now, now⟩ :: look)
        (.ok (.requeue retentionDelay)) s

/-- The write of a status over a stored record succeeds. -/
theorem Served.of_saved {status : Status} {result : Except Error Unit}
    (h : Served s es s') (stored : s.get? r.name = some r) (saved : Saved r status es result) :
    result = .ok () ∧ es = [⟨.get r.name, .ok r⟩,
        ⟨.updateStatus { r with status := some status }, .ok ()⟩] ∧
      ∃ version fresh, s' = s.put (written r status version) fresh := by
  cases saved with
  | unread e =>
    obtain ⟨middle, read, -⟩ := served_cons_iff.1 h
    obtain ⟨hread, -⟩ := read.eq_of_get stored
    cases hread
  | moved differs =>
    obtain ⟨middle, read, -⟩ := served_cons_iff.1 h
    obtain ⟨hread, -⟩ := read.eq_of_get stored
    cases hread
    exact (differs rfl).elim
  | tried same answer =>
    obtain ⟨middle, read, rest⟩ := served_cons_iff.1 h
    obtain ⟨hread, rfl⟩ := read.eq_of_get stored
    cases hread
    obtain ⟨last, write, rest⟩ := served_cons_iff.1 rest
    obtain ⟨rfl, version, fresh, rfl⟩ := write.eq_of_updateStatus stored
    cases rest
    exact ⟨rfl, rfl, version, fresh, rfl⟩

/-- A whole pass over a stored record follows one of the rules. -/
theorem WholePass.comes (pass : WholePass) (h : Served s pass.exchanges s')
    (stored : s.get? pass.name = some r) :
    Comes s pass.ctx r pass.exchanges pass.result s' := by
  obtain ⟨ctx, name, es, result, course⟩ := pass
  obtain rfl := Store.name_eq_of_get? stored
  dsimp only at h ⊢
  have hread {answer : Except Error Record} {rest : List (Exchange Calls)}
      (h : Served s (⟨.get r.name, answer⟩ :: rest) s') : answer = .ok r ∧ Served s rest s' := by
    obtain ⟨middle, read, rest⟩ := served_cons_iff.1 h
    obtain ⟨rfl, rfl⟩ := read.eq_of_get stored
    exact ⟨rfl, rest⟩
  have hlook {now : Instant} {look rest : List (Exchange Calls)}
      {result : Except Error Pass.Decision}
      (decided : (Pass.decide ctx r now).Leads look (.done result))
      (h : Served s (⟨.now, now⟩ :: (look ++ rest)) s') : Served s look s ∧ Served s rest s' := by
    obtain ⟨first, clock, others⟩ := served_cons_iff.1 h
    rw [clock.eq_of_not_isMutation id] at others
    obtain ⟨middle, looked, rest⟩ := served_append_iff.1 others
    obtain rfl := looked.eq_of_areQuiet (Pass.areQuiet_of_leads decided)
    exact ⟨looked, rest⟩
  cases Pass.passed_of_leads course with
  | unread e =>
    obtain ⟨hanswer, -⟩ := hread h
    cases hanswer
  | @undecided current now look e failed =>
    obtain ⟨hanswer, behind⟩ := hread h
    cases hanswer
    rw [← List.append_nil look] at behind
    obtain ⟨served, rest⟩ := hlook failed behind
    cases rest
    exact .undecided failed served
  | @decided current now look es decision result decided carriedOut =>
    obtain ⟨hanswer, behind⟩ := hread h
    cases hanswer
    obtain ⟨served, rest⟩ := hlook decided behind
    cases carriedOut with
    | write hstatus saved =>
      obtain ⟨rfl, rfl, version, fresh, rfl⟩ := rest.of_saved stored saved
      exact .wrote decided served hstatus fresh
    | delete answer =>
      obtain ⟨middle, deletion, rest⟩ := served_cons_iff.1 rest
      obtain ⟨rfl, rfl⟩ := deletion.eq_of_delete
      cases rest
      exact .removed decided served
    | keep =>
      cases rest
      rw [List.append_nil]
      exact .kept decided served

/-- Whole passes one after the other, over a healthy store. -/
inductive Passes : Store → List WholePass → Store → Prop
  | nil (s : Store) : Passes s [] s
  | cons {s middle last : Store} {pass : WholePass} {passes : List WholePass} :
      Served s pass.exchanges middle → Passes middle passes last → Passes s (pass :: passes) last

/-! ### There are such passes -/

/-- The exchanges of a pass with anything but the store, where each answer may depend on all that
went before it. -/
def Follows (respond : List (Exchange Calls) → (c : Call) → c.Answer)
    (es : List (Exchange Calls)) : Prop :=
  ∀ before c answer after, es = before ++ ⟨c, answer⟩ :: after → ¬c.IsOnStore →
    answer = respond before c

/-- There is always a version that no record ever had. -/
theorem exists_isFresh (s : Store) (r : Record) : ∃ version, s.IsFresh (r.withVersion version) := by
  obtain ⟨version, hnew⟩ := Infinite.exists_notMem_finset (s.log.map Record.version).toFinset
  refine ⟨version, fun old hold _ hsame ↦ hnew ?_⟩
  rw [List.mem_toFinset, ← show old.version = version from hsame]
  exact List.mem_map_of_mem hold

/-- A healthy store answers every request. -/
theorem exists_serves (s : Store) (c : Call) (response : c.Answer) :
    ∃ answer s', Serves s ⟨c, answer⟩ s' ∧ (¬c.IsOnStore → answer = response) := by
  cases c with
  | get name =>
    cases stored : s.get? name with
    | none =>
      have notFound : Error.isNotFound (.kube (.api { (default : ApiError) with code := 404 })) :=
        rfl
      exact ⟨_, s, .missing stored notFound, fun h ↦ (h trivial).elim⟩
    | some r => exact ⟨_, s, .found stored, fun h ↦ (h trivial).elim⟩
  | list => exact ⟨_, s, .listed (.refl _), fun h ↦ (h trivial).elim⟩
  | updateStatus given =>
    by_cases current : ∃ before, s.get? given.name = some before ∧ given.version = before.version
    · obtain ⟨before, stored, current⟩ := current
      obtain ⟨version, fresh⟩ := exists_isFresh s given
      exact ⟨_, _, .written stored current (.whole version) fresh, fun h ↦ (h trivial).elim⟩
    · have stale (before : Record) (stored : s.get? given.name = some before) :
          given.version ≠ before.version := fun same ↦ current ⟨before, stored, same⟩
      exact ⟨_, s, .refused stale default, fun h ↦ (h trivial).elim⟩
  | delete name => exact ⟨_, _, .deleted s name, fun h ↦ (h trivial).elim⟩
  | now | stopwatch | sleep | discover | openBackupper | create | encrypt | upload | cleanup
  | measure => exact ⟨response, s, .elsewhere s id response, fun _ ↦ rfl⟩

/-- A dialogue with a healthy store comes to an end, whatever the other surroundings answer. -/
theorem exists_served {α : Type} (s : Store)
    (respond : List (Exchange Calls) → (c : Call) → c.Answer) (d : Job α) :
    ∃ es a s', d.Leads es (.done a) ∧ Served s es s' ∧ Follows respond es := by
  induction d generalizing s respond with
  | done a =>
    refine ⟨[], a, s, .rest _, .nil s, fun before c answer after hes ↦ ?_⟩
    cases (List.append_eq_nil_iff.1 hes.symm).2
  | ask c next ih =>
    obtain ⟨answer, middle, serves, hanswer⟩ := exists_serves s c (respond [] c)
    -- The rest of the dialogue is told what went before it.
    obtain ⟨es, a, last, course, served, follows⟩ :=
      ih answer middle fun before ↦ respond (⟨c, answer⟩ :: before)
    refine ⟨⟨c, answer⟩ :: es, a, last, .ask course, .cons serves served, ?_⟩
    intro before c' answer' after hes elsewhere
    cases before with
    | nil =>
      cases hes
      exact hanswer elsewhere
    | cons e before =>
      cases hes
      exact follows before c' answer' after rfl elsewhere

/-- There is a whole pass over any name. -/
theorem exists_pass (s : Store) (respond : List (Exchange Calls) → (c : Call) → c.Answer)
    (ctx : Context) (name : String) :
    ∃ (pass : WholePass) (s' : Store), pass.ctx = ctx ∧ pass.name = name ∧
      Served s pass.exchanges s' ∧ Follows respond pass.exchanges := by
  obtain ⟨es, result, s', course, served, follows⟩ :=
    exists_served s respond (Pass.reconcile ctx name)
  exact ⟨⟨ctx, name, es, result, course⟩, s', rfl, rfl, served, follows⟩

/-- There are whole passes over any names, in any order and with any contexts, whatever the
surroundings respond in each. -/
theorem exists_passes (s : Store) (order : List (Context × String))
    (respond : Nat → List (Exchange Calls) → (c : Call) → c.Answer) :
    ∃ passes s', Passes s passes s' ∧ passes.map (fun pass ↦ (pass.ctx, pass.name)) = order ∧
      ∀ i pass, passes[i]? = some pass → Follows (respond i) pass.exchanges := by
  induction order generalizing s respond with
  | nil =>
    refine ⟨[], s, .nil s, rfl, fun i pass hi ↦ ?_⟩
    rw [List.getElem?_nil] at hi
    cases hi
  | cons first order ih =>
    obtain ⟨pass, middle, hctx, hname, served, follows⟩ :=
      exists_pass s (respond 0) first.1 first.2
    obtain ⟨passes, s', run, horder, others⟩ := ih middle fun i ↦ respond (i + 1)
    refine ⟨pass :: passes, s', .cons served run, ?_, fun i pass' hi ↦ ?_⟩
    · rw [List.map_cons, horder, hctx, hname]
    · cases i with
      | zero =>
        rw [List.getElem?_cons_zero, Option.some.injEq] at hi
        subst hi
        exact follows
      | succ i =>
        rw [List.getElem?_cons_succ] at hi
        exact others i pass' hi

end Undisturbed

end EtcdBackup
