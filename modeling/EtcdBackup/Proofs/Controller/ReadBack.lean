import EtcdBackup.Proofs.Controller.Effects
import EtcdBackup.Proofs.Kubernetes.StatusPatch

/-!
# Statuses are read back as they were written

A pass decides on a whole status, but the store writes it as a patch of the one that it holds. The
two agree as long as the new status has a value wherever the old one has, and this is so for every
status that a pass decides on (`Decided.retains`), except for one: the start of the cycle drops all
entries. An empty map of entries is not sent, so entries that a request had while it was pending are
still there afterwards (`decode_of_merges`, `not_decode_of_merges`).
-/

set_option autoImplicit false
set_option relaxedAutoImplicit false

namespace EtcdBackup

open Dialogue

namespace Runner

variable {ctx : Context} {record : Record} {target : Target} {version : Datastore}

theorem Moves.retains {now : Instant} {sub sub' : SubStatus} {es : List (Exchange Calls)}
    (h : Moves ctx target version now sub es sub') : sub'.Retains sub := by
  cases h with
  | start fresh => exact ⟨nofun, id, id⟩
  | skip | exhaust => exact ⟨id, nofun, id⟩
  | @attempt started complete left es retried course finished =>
    unfold SubStatus.finish
    cases retried.result with
    | ok outcome => exact ⟨id, nofun, nofun⟩
    | error e => exact ⟨id, nofun, id⟩

theorem Planned.retains {status next : Status} {es : List (Exchange Calls)}
    (h : Planned ctx record status version es (some next)) :
    next.Retains status ∧ next.instances.isEmpty = false := by
  rcases h.change with ⟨name, reason, rfl⟩ | ⟨target, now, moved, sub, -, moves, rfl⟩
  · exact ⟨status.retains_withReason name reason,
      Keyed.isEmpty_eq_false_of_get? (Keyed.get?_insert _ _ _ _ |>.trans (if_pos rfl))⟩
  · exact ⟨Status.retains_withSub moves.retains,
      Keyed.isEmpty_eq_false_of_get? (Keyed.get?_insert _ _ _ _ |>.trans (if_pos rfl))⟩

end Runner

namespace Pass

variable {ctx : Context} {record : Record} {now : Instant} {es : List (Exchange Calls)}

/-- A status that is decided on retains the one that was read. It has no entries only if that one
had none, or was pending. -/
theorem Decided.retains {decision : Decision} (h : Decided ctx record now es decision)
    {next : Status} (hnext : decision.status? = some next) :
    next.Retains (record.status.getD {}) ∧
      (next.instances = ∅ → (record.status.getD {}).instances = ∅ ∨ record.phase = .pending) := by
  cases h with
  | reject reads invalid =>
    cases hnext
    exact ⟨.of_instances_eq rfl id nofun nofun, Or.inl⟩
  | enter phase all =>
    cases hnext
    exact ⟨.of_instances_eq rfl id id id, Or.inl⟩
  | start phase =>
    cases hnext
    exact ⟨.of_empty rfl nofun id id, fun _ ↦ Or.inr phase⟩
  | work phase planned =>
    cases hnext
    obtain ⟨hretains, hsome⟩ := planned.retains
    refine ⟨hretains, fun hempty ↦ ?_⟩
    rw [hempty] at hsome
    cases hsome
  | close phase planned =>
    cases hnext
    exact ⟨.of_instances_eq rfl id id id, Or.inl⟩
  | proceed phase =>
    cases hnext
    exact ⟨.of_instances_eq rfl id id id, Or.inl⟩
  | judge phase =>
    cases hnext
    exact ⟨.of_instances_eq rfl id nofun id, Or.inl⟩
  | retireFinished | retireSkipped =>
    rw [Decision.status?_retire] at hnext
    cases hnext

/-- What is read of a record after a pass wrote its status is what the pass wrote, except that a
pending record may still have the entries that it had before. -/
theorem decode_of_merges {name known : String} {fresh given : Record}
    {answer : Except Error Unit} {rest : Job (Except Error Action)} {stored after : Json}
    {server : ApiServer} {request : ApiRequest} {response : Except String ApiResponse}
    {pending : Work (Except Error Unit)}
    (course : (reconcile ctx name).Leads
      (es ++ [⟨.get known, .ok fresh⟩, ⟨.updateStatus given, answer⟩]) rest)
    (ordered : stored.Ordered) (hread : Record.decode stored = .ok fresh)
    (sent : (RecordStore.updateStatus given).Leads [⟨.api server request, response⟩] pending)
    (merges : request.Merges stored after) :
    ∃ status held, given = { fresh with status := some status } ∧
      Record.decode after = .ok { fresh with status := some held } ∧
      (held = status ∨ fresh.phase = .pending ∧
        held = { status with instances := (fresh.status.getD {}).instances }) := by
  rw [List.append_cons] at course
  obtain ⟨hwrites, -⟩ := writes_of_leads course
  generalize hall : es ++ [⟨.get known, .ok fresh⟩] = all at hwrites
  cases hwrites with
  | @intro current fresh' now es' decision status decided hstatus same =>
    have hlast := (List.append_inj' hall rfl).2
    obtain rfl : fresh = fresh' := by
      cases hlast
      rfl
    obtain ⟨hretains, hempty⟩ := (decided_of_leads decided).retains hstatus
    rw [← same] at hretains hempty
    obtain ⟨instances, hdecode, hcases⟩ := RecordStore.exists_decode_of_merges ordered hread
      hretains (RecordStore.body_of_updateStatus sent) merges
    refine ⟨status, _, rfl, hdecode, ?_⟩
    have hphase : current.phase = fresh.phase := Record.phase_congr same.symm
    rcases hcases with rfl | ⟨hnone, rfl⟩
    · exact Or.inl rfl
    · rcases hempty hnone with hold | hpending
      · left
        rw [hold, ← hnone]
      · exact Or.inr ⟨hphase ▸ hpending, rfl⟩

/-! ### A record with an entry -/

/-- A record that has an entry, in some phase. -/
def recordWithEntry (phase : Phase) : Record where
  metadata := { name := some "b", resourceVersion := some "1" }
  status := some { phase := phase, instances := (∅ : Keyed _).insert "a" { name := "a" } }

/-- The form in which the server holds it. -/
def storedWithEntry (phase : Phase) : Json :=
  .object [("metadata", .object [("name", .string "b"), ("resourceVersion", .string "1")]),
    ("spec", .object []), ("status", ((recordWithEntry phase).status.getD {}).encode)]

theorem ordered_storedWithEntry (phase : Phase) : (storedWithEntry phase).Ordered := by
  have hkeys : ["metadata", "spec", "status"].Pairwise (· < ·) := by decide
  have hmetadata : ["name", "resourceVersion"].Pairwise (· < ·) := by decide
  refine .object (Keyed.ascending_iff.2 hkeys) ?_
  simp only [List.forall_mem_cons]
  refine ⟨.object (Keyed.ascending_iff.2 hmetadata) ?_, .object List.Pairwise.nil nofun,
    Status.ordered_encode _, nofun⟩
  simp only [List.forall_mem_cons]
  exact ⟨.string _, .string _, nofun⟩

theorem exists_patchStatus (patch : Json) :
    ∃ request, ApiRequest.patchStatus RecordStore.records "b" patch = .ok request := by
  have hparse : (Uri.parse (RecordStore.records.text ++ "/" ++ "b" ++ "/status" ++ "?" ++
      String.join [])).toOption.isSome := by decide +kernel
  unfold ApiRequest.patchStatus ApiRequest.ofName ApiRequest.build
  dsimp only [List.map_nil]
  rw [if_neg (by decide)]
  cases huri : Uri.parse (RecordStore.records.text ++ "/" ++ "b" ++ "/status" ++ "?" ++
      String.join []) with
  | error e =>
    rw [huri] at hparse
    cases hparse
  | ok uri => exact ⟨_, rfl⟩

/-- A pass that goes on with the cycle sends the new status, and the server takes it. -/
theorem exists_merges (phase : Phase) (status : Status)
    (decided : (decide (plainContext true) (recordWithEntry phase) default).Leads []
      (.done (.ok (.advance status)))) :
    let record := recordWithEntry phase
    let given := { record with status := some status }
    (∃ rest, (reconcile (plainContext true) "b").Leads
        ([⟨.get "b", .ok record⟩, ⟨.now, default⟩] ++
          [⟨.get "b", .ok record⟩, ⟨.updateStatus given, .ok ()⟩]) rest) ∧
      ∃ request pending, (RecordStore.updateStatus given).Leads
          [⟨.api .management request, .error "closed"⟩] pending ∧
        request.Merges (storedWithEntry phase)
          ((storedWithEntry phase).mergePatch (RecordStore.statusPatch given)) := by
  intro record given
  have saved : Saved record status [⟨.get "b", .ok record⟩, ⟨.updateStatus given, .ok ()⟩]
      (.ok ()) := .tried rfl (.ok ())
  obtain ⟨request, hrequest⟩ := exists_patchStatus (RecordStore.statusPatch given)
  have sent : ∃ pending, (RecordStore.updateStatus given).Leads
      [⟨.api .management request, .error "closed"⟩] pending := by
    unfold RecordStore.updateStatus Work.request
    rw [show given.name = "b" from rfl, hrequest]
    exact ⟨_, .ask (.rest _)⟩
  obtain ⟨pending, sent⟩ := sent
  exact ⟨⟨_, (Passed.decided decided (.write rfl saved)).leads⟩, request, pending, sent,
    .intro (RecordStore.body_of_updateStatus sent) (RecordStore.path_statusPatch given) rfl⟩

/-- Entries that a pending record has are not dropped by the start of its cycle: what is read back
is not what was written. -/
theorem not_decode_of_merges :
    ¬∀ {ctx : Context} {name known : String} {es : List (Exchange Calls)} {fresh given : Record}
      {answer : Except Error Unit} {rest : Job (Except Error Action)} {stored after : Json}
      {server : ApiServer} {request : ApiRequest} {response : Except String ApiResponse}
      {pending : Work (Except Error Unit)},
      (reconcile ctx name).Leads
        (es ++ [⟨.get known, .ok fresh⟩, ⟨.updateStatus given, answer⟩]) rest →
      stored.Ordered → Record.decode stored = .ok fresh →
      (RecordStore.updateStatus given).Leads [⟨.api server request, response⟩] pending →
      request.Merges stored after →
      ∃ held, Record.decode after = .ok held ∧ held.status = given.status := by
  intro claim
  let started : Status := { phase := .v2Running, started := some default }
  let given : Record := { recordWithEntry .pending with status := some started }
  obtain ⟨⟨rest, course⟩, request, pending, sent, merges⟩ :=
    exists_merges .pending started (.rest _)
  obtain ⟨held, hread, hstatus⟩ :=
    claim course (ordered_storedWithEntry .pending) rfl sent merges
  have hother : (Record.decode ((storedWithEntry .pending).mergePatch
      (RecordStore.statusPatch given))).toOption.any (·.status = some started) = false := by
    decide +kernel
  rw [hread] at hother
  exact of_decide_eq_false hother hstatus

/-- A record that goes from one round to the next keeps its entry, as it is written. -/
theorem decode_of_merges_proceed :
    let record := recordWithEntry .v2Completed
    let proceeding : Status := { record.status.getD {} with phase := .v3Running }
    let given := { record with status := some proceeding }
    ∃ request rest pending after, (reconcile (plainContext true) "b").Leads
        ([⟨.get "b", .ok record⟩, ⟨.now, default⟩] ++
          [⟨.get "b", .ok record⟩, ⟨.updateStatus given, .ok ()⟩]) rest ∧
      (RecordStore.updateStatus given).Leads
        [⟨.api .management request, .error "closed"⟩] pending ∧
      request.Merges (storedWithEntry .v2Completed) after ∧
      Record.decode after = .ok given := by
  intro record proceeding given
  obtain ⟨⟨rest, course⟩, request, pending, sent, merges⟩ :=
    exists_merges .v2Completed proceeding (.rest _)
  obtain ⟨status, held, hgiven, hread, hheld⟩ :=
    decode_of_merges course (ordered_storedWithEntry .v2Completed) rfl sent merges
  refine ⟨request, rest, pending, _, course, sent, merges, ?_⟩
  rcases hheld with rfl | ⟨hphase, -⟩
  · exact hread.trans (congrArg Except.ok hgiven.symm)
  · cases hphase

end Pass

end EtcdBackup
