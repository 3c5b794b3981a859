import EtcdBackup.Proofs.Controller.Effects
import EtcdBackup.Proofs.Record.Growth

/-!
# Decisions only add to a status

Every status that a pass decides to write grows from the one that it read, if that one is sound, and
is sound itself (`Decided.grows`). A sub-status only moves on while it is not done (`Moves.grows`);
its attempts never exceed those that are granted, so their sum does not overflow.
-/

set_option autoImplicit false
set_option relaxedAutoImplicit false

namespace EtcdBackup

open Dialogue

namespace Runner

variable {ctx : Context} {record : Record} {target : Target} {version : Datastore}

/-- The limit and what is recorded are words, and so is their difference. -/
theorem toNat_remainingPolicy (ctx : Context) (sub : SubStatus) :
    (remainingPolicy ctx sub).maxAttempts.toNat =
      ctx.retry.maxAttempts.toNat - sub.attempts.toNat := by
  have hmax := ctx.retry.maxAttempts.toNat_lt
  unfold remainingPolicy
  rw [UInt32.toNat_ofNat']
  omega

/-- The attempts of a sub-status after a backup are those before and those that it took. -/
theorem toNat_attempts_add {sub : SubStatus}
    (left : sub.attempts.toNat < ctx.retry.maxAttempts.toNat) {es : List (Exchange Calls)}
    {retried : Retried Error Backup.Outcome}
    (course : (Backup.withRetries target version (remainingPolicy ctx sub)).Leads es
      (.done retried)) :
    (sub.attempts + UInt32.ofNat retried.attempts).toNat =
        sub.attempts.toNat + retried.attempts ∧
      1 ≤ retried.attempts ∧
        sub.attempts.toNat + retried.attempts ≤ ctx.retry.maxAttempts.toNat := by
  have hbound := Backup.attempts_withRetries target version course
  have hmax := ctx.retry.maxAttempts.toNat_lt
  rw [toNat_remainingPolicy] at hbound
  refine ⟨?_, hbound.1, by omega⟩
  rw [UInt32.toNat_add, UInt32.toNat_ofNat']
  omega

/-- A sub-status that is not done only grows when it moves on, and has begun then. -/
theorem Moves.grows {now : Instant} {sub sub' : SubStatus} {es : List (Exchange Calls)}
    (h : Moves ctx target version now sub es sub') (unfinished : sub.state.isTerminal = false) :
    sub.Grows sub' ∧ sub'.IsBegun := by
  have hdone {p : Prop} (terminal : sub.state.isTerminal) : p := by
    rw [unfinished] at terminal
    cases terminal
  cases h with
  | start fresh =>
    refine ⟨⟨hdone, fun t ht ↦ ?_, UInt32.le_refl _⟩, nofun, rfl⟩
    rw [fresh] at ht
    cases ht
  | skip started incomplete =>
    exact ⟨⟨hdone, fun _ ht ↦ ht, UInt32.le_refl _⟩, nofun, started⟩
  | exhaust started complete spent =>
    exact ⟨⟨hdone, fun _ ht ↦ ht, UInt32.le_refl _⟩, nofun, started⟩
  | @attempt started complete left es retried course finished =>
    have hattempts : sub.attempts ≤ sub.attempts + UInt32.ofNat retried.attempts := by
      rw [UInt32.le_iff_toNat_le, (toNat_attempts_add left course).1]
      exact Nat.le_add_right _ _
    unfold SubStatus.finish
    cases retried.result <;>
      exact ⟨⟨hdone, fun _ ht ↦ ht, hattempts⟩, nofun, started⟩

theorem Planned.grows {status next : Status} {es : List (Exchange Calls)}
    (h : Planned ctx record status version es (some next)) (sound : status.Sound)
    (hphase : ¬(status.phase = .empty ∨ status.phase = .pending)) :
    status.Grows next ∧ next.Sound := by
  rcases h.change with ⟨name, reason, rfl⟩ | ⟨target, now, moved, sub, unfinished, moves, rfl⟩
  · exact ⟨Status.grows_withReason status name reason, sound.withReason hphase reason⟩
  · obtain ⟨hgrows, hbegun⟩ := moves.grows unfinished
    exact ⟨Status.grows_withSub hgrows, sound.withSub hphase hbegun⟩

end Runner

namespace Pass

variable {ctx : Context} {record : Record} {now : Instant} {es : List (Exchange Calls)}

/-- A status that is decided on grows from the one that was read, and is sound again. -/
theorem Decided.grows {decision : Decision} (h : Decided ctx record now es decision)
    {next : Status} (hnext : decision.status? = some next)
    (sound : (record.status.getD {}).Sound) :
    (record.status.getD {}).Grows next ∧ next.Sound := by
  cases h with
  | reject reads invalid =>
    cases hnext
    exact ⟨.of_instances_eq rfl rfl, sound.of_instances_eq rfl (by simp)⟩
  | enter phase all =>
    cases hnext
    obtain ⟨hinstances, hstarted⟩ := sound.fresh (Or.inl phase)
    exact ⟨.of_instances_eq rfl rfl, .of_instances_eq_empty hinstances fun _ ↦ hstarted⟩
  | start phase =>
    cases hnext
    obtain ⟨hinstances, hstarted⟩ := sound.fresh (Or.inr phase)
    exact ⟨.of_empty hinstances hstarted, .of_instances_eq_empty rfl (by simp)⟩
  | @work version phase es next planned =>
    cases hnext
    refine planned.grows sound ?_
    change ¬(record.phase = .empty ∨ record.phase = .pending)
    rw [phase]
    cases version <;> simp [Phase.running]
  | @close version phase es planned =>
    cases hnext
    refine ⟨.of_instances_eq rfl rfl, sound.of_instances_eq rfl ?_⟩
    cases version <;> simp [Phase.closed]
  | proceed phase =>
    cases hnext
    exact ⟨.of_instances_eq rfl rfl, sound.of_instances_eq rfl (by simp)⟩
  | judge phase =>
    cases hnext
    refine ⟨.of_instances_eq rfl rfl, sound.of_instances_eq rfl ?_⟩
    dsimp only
    split <;> simp
  | retireFinished | retireSkipped =>
    rw [Decision.status?_retire] at hnext
    cases hnext

end Pass

end EtcdBackup
