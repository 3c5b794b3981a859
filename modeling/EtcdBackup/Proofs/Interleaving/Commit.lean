import EtcdBackup.Proofs.Controller.Effects
import EtcdBackup.Proofs.Interleaving.History

/-!
# What a commit is computed from

A pass gives the store a record that it has just read, with another status. If the store takes
it, then this record is still the one that is stored (`Step.committed_eq`), and its status is
the one that the pass decided from: `CommitOf` puts a commit together with the decision behind it.
So what is true of every decision is true of what is stored before and after a commit.
-/

set_option autoImplicit false
set_option relaxedAutoImplicit false

namespace EtcdBackup

open Dialogue

namespace Pass

variable {ctx : Context} {record : Record} {now : Instant}

/-- A status that is decided on is what the step of the pass comes to, or what it writes itself. -/
theorem step_of_decided {es : List (Exchange Calls)} {decision : Decision} {status : Status}
    (h : (decide ctx record now).Leads es (.done (.ok decision)))
    (hstatus : decision.status? = some status) :
    (step ctx record now).Leads es (.done (.ok (.advance status))) ∨
      ∃ k, (step ctx record now).Leads es (persistStatus record status >>= k) := by
  have hstep := h.bind (onOk (·.within record))
  rw [← step_eq] at hstep
  cases decision with
  | advance next =>
    cases hstatus
    exact Or.inl hstep
  | progress next =>
    cases hstatus
    exact Or.inr ⟨_, hstep⟩
  | delete | keep => cases hstatus

end Pass

namespace Interleaving

variable {w w' : World} {id : Nat} {given before after : Record} {answer : Except Error Unit}

/-- What is stored before and after a write. -/
theorem Step.stored_of_committed (h : Step w (.committed id given answer before after) w') :
    w.store.get? after.name = some before ∧ w'.store.get? after.name = some after ∧
      before.name = after.name := by
  cases h with
  | committed thread stored current overwritten fresh next =>
    have hbefore := Store.name_eq_of_get? stored
    have hafter := overwritten.name_eq hbefore
    refine ⟨hafter ▸ stored, ?_, hbefore.trans hafter.symm⟩
    exact (Store.get?_put fresh _).trans (if_pos rfl)

/-- A write that gives a record which was held before replaces that very record. -/
theorem Step.committed_eq {fresh : Record} {status : Status}
    (h : Step w (.committed id { fresh with status := some status } answer before after) w')
    (hfresh : fresh ∈ w.store.log) :
    before = fresh ∧ w.store.get? fresh.name = some before ∧
      w'.store.get? fresh.name = some after ∧
        ∃ version, after = { before with status := some status }.withVersion version := by
  generalize hgiven : { fresh with status := some status } = given at h
  cases h with
  | committed thread stored current overwritten isFresh next =>
    have hname : given.name = fresh.name := by rw [← hgiven]; rfl
    have hversion : fresh.version = before.version := by rw [← current, ← hgiven]; rfl
    rw [hname] at stored
    have hbefore := Store.eq_of_version_eq hfresh stored hversion
    have hafter := overwritten.name_eq ((Store.name_eq_of_get? stored).trans hname.symm)
    refine ⟨hbefore, stored, ?_, ?_⟩
    · change (w.store.put after isFresh).get? fresh.name = some after
      rw [Store.get?_put, if_pos (hafter.trans hname)]
    · cases overwritten with
      | whole version =>
        rw [← hgiven, hbefore]
        exact ⟨version, rfl⟩
      | status version =>
        rw [← hgiven]
        exact ⟨version, rfl⟩

/-- A commit of a pass: the record that it read first, the decision about it, and the record that it
read last, which is the stored one and has the status that was decided from. -/
inductive CommitOf (w : World) (id : Nat) (before after : Record) : Prop
  | intro {th : Thread} {current : Record} {now : Instant} {es : List (Exchange Calls)}
      {decision : Pass.Decision} {status : Status} {version : Option String}
      (thread : w.threads id = some th)
      (past : th.past = ⟨.get th.name, .ok current⟩ :: ⟨.now, now⟩ :: es ++
        [⟨.get current.name, .ok before⟩])
      (hread : current ∈ w.store.log ∧ current.name = th.name)
      (decided : (Pass.decide th.ctx current now).Leads es (.done (.ok decision)))
      (hstatus : decision.status? = some status)
      (same : before.status = current.status)
      (stored : w.store.get? th.name = some before)
      (overwritten : after = { before with status := some status }.withVersion version)

theorem Step.commitOf (h : Step w (.committed id given answer before after) w')
    (hw : w.IsHeard) : CommitOf w id before after := by
  obtain ⟨th, th', hth, -, hgoesOn⟩ := h.exists_of_exchange (Event.exchange?_committed id _ _ _ _)
  obtain ⟨hwrites, -⟩ := Pass.writes_of_leads (th.course.trans hgoesOn.rest)
  generalize hpast : th.past = past at hwrites
  cases hwrites with
  | @intro current fresh now es decision status decided hstatus same =>
    have hcurrent := hw id th hth th.name current (by rw [hpast]; exact List.mem_cons_self)
    have hfresh := hw id th hth current.name fresh
      (by rw [hpast]; exact List.mem_append_right _ List.mem_cons_self)
    obtain ⟨rfl, hstored, -, version, hafter⟩ := h.committed_eq hfresh.1
    rw [hfresh.2, hcurrent.2] at hstored
    exact .intro hth hpast hcurrent decided hstatus same hstored hafter

theorem Step.exists_status (h : Step w (.committed id given answer before after) w')
    (hw : w.IsHeard) : ∃ status, after.status = some status := by
  obtain ⟨-, -, -, -, -, -, -, rfl⟩ := h.commitOf hw
  exact ⟨_, rfl⟩

end Interleaving

end EtcdBackup
