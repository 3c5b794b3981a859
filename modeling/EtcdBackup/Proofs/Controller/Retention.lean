import EtcdBackup.Proofs.Controller.Effects
import EtcdBackup.Proofs.Time.Elapsed

/-!
# How long finished requests are kept

A request is deleted by the pass that finds it past its retention (`IsPastRetention`): its cycle is
over, and more time than it is kept for has passed since a reference time (`IsKeptFrom`). No other
pass makes a request to delete anything, and a pass over a finished request does nothing else
(`retires_of_leads`).

Away from leap seconds a request that is past its retention stays so (`IsPastRetention.of_le`), and
none is while its reference time is still to come (`IsPastRetention.not_lt_of_isReading`). The second
statement asks nothing of the reference, which may be read from a text that names a leap second, and
of the time of the pass only that it is what a clock reads. A time in the middle of a leap second,
which no clock reads, would not do: there an instant of the day that follows can count as past.
-/

set_option autoImplicit false
set_option relaxedAutoImplicit false

namespace EtcdBackup

open Dialogue

namespace Pass

variable {ctx ctx' : Context} {name : String} {record : Record} {now later reference : Instant}
  {es rest : List (Exchange Calls)} {result : Except Error Action} {decision : Decision}

/-- The time from which a finished request is kept, and for how long: from the end of its cycle or,
without one, from its creation. -/
inductive IsKeptFrom (ctx : Context) (record : Record) (reference : Instant) : Duration → Prop
  | finished (phase : record.phase = .completed ∨ record.phase = .failed)
      (finished : record.finished = some reference) :
      IsKeptFrom ctx record reference ctx.retention.completed
  | created (phase : record.phase = .completed ∨ record.phase = .failed)
      (unfinished : record.finished = none) (created : record.created = some reference) :
      IsKeptFrom ctx record reference ctx.retention.completed
  | skipped (phase : record.phase = .skipped) (created : record.created = some reference) :
      IsKeptFrom ctx record reference ctx.retention.skipped

/-- The request was kept for longer than it is to be kept. -/
def IsPastRetention (ctx : Context) (record : Record) (now : Instant) : Prop :=
  ∃ reference retention, IsKeptFrom ctx record reference retention ∧
    (retention.nanos : Int) < now.nanosSince reference

theorem IsKeptFrom.isTerminal {retention : Duration}
    (h : IsKeptFrom ctx record reference retention) : record.phase.isTerminal := by
  cases h with
  | finished phase | created phase => rcases phase with phase | phase <;> rw [phase] <;> rfl
  | skipped phase =>
    rw [phase]
    rfl

/-! ### What is deleted -/

theorem Decision.retire_eq_delete_iff {kept : Option Instant} {retention : Duration} :
    Decision.retire kept retention now = .delete ↔
      ∃ reference, kept = some reference ∧
        (retention.nanos : Int) < now.nanosSince reference := by
  unfold Decision.retire
  cases kept with
  | none => simp
  | some reference => simp [isDue]

theorem isPastRetention_iff_of_finished
    (phase : record.phase = .completed ∨ record.phase = .failed) :
    IsPastRetention ctx record now ↔ ∃ reference,
      (record.finished <|> record.created) = some reference ∧
        (ctx.retention.completed.nanos : Int) < now.nanosSince reference := by
  constructor
  · rintro ⟨reference, _, kept, elapsed⟩
    refine ⟨reference, ?_⟩
    cases kept with
    | finished _ finished =>
      rw [finished]
      exact ⟨rfl, elapsed⟩
    | created _ unfinished created =>
      rw [unfinished, created]
      exact ⟨rfl, elapsed⟩
    | skipped skipped =>
      rw [skipped] at phase
      rcases phase with phase | phase <;> cases phase
  · rintro ⟨reference, hreference, elapsed⟩
    cases finished : record.finished with
    | some finish =>
      rw [finished] at hreference
      cases hreference
      exact ⟨reference, _, .finished phase finished, elapsed⟩
    | none =>
      rw [finished] at hreference
      exact ⟨reference, _, .created phase finished hreference, elapsed⟩

theorem isPastRetention_iff_of_skipped (phase : record.phase = .skipped) :
    IsPastRetention ctx record now ↔ ∃ reference, record.created = some reference ∧
      (ctx.retention.skipped.nanos : Int) < now.nanosSince reference := by
  constructor
  · rintro ⟨reference, _, kept, elapsed⟩
    cases kept with
    | finished other | created other =>
      rw [phase] at other
      rcases other with other | other <;> cases other
    | skipped _ created => exact ⟨reference, created, elapsed⟩
  · rintro ⟨reference, created, elapsed⟩
    exact ⟨reference, _, .skipped phase created, elapsed⟩

/-- The decision is to delete the request exactly if it is past its retention. -/
theorem Decided.eq_delete_iff (h : Decided ctx record now es decision) :
    decision = .delete ↔ IsPastRetention ctx record now := by
  have hterminal (past : IsPastRetention ctx record now) :
      decision = .delete ∨ decision = .keep := by
    obtain ⟨_, _, kept, -⟩ := past
    exact (h.of_isTerminal kept.isTerminal).2
  cases h with
  | reject | enter | start | work | close | proceed | judge =>
    refine ⟨nofun, fun past ↦ ?_⟩
    rcases hterminal past with hend | hend <;> cases hend
  | retireFinished phase =>
    rw [isPastRetention_iff_of_finished phase, Decision.retire_eq_delete_iff]
  | retireSkipped phase =>
    rw [isPastRetention_iff_of_skipped phase, Decision.retire_eq_delete_iff]

theorem CarriedOut.mem_delete_iff (h : CarriedOut record decision es result) (other : String) :
    (∃ answer, ⟨.delete other, answer⟩ ∈ es) ↔ other = record.name ∧ decision = .delete := by
  cases h with
  | @write decision status hstatus es result saved =>
    have hne : decision ≠ .delete := by
      rintro rfl
      cases hstatus
    cases saved <;> simp [hne]
  | delete answer =>
    simp only [List.mem_singleton, and_true]
    constructor
    · rintro ⟨_, hsame⟩
      cases hsame
      rfl
    · rintro rfl
      exact ⟨answer, rfl⟩
  | keep => simp

/-- A request that is past its retention stays so, and is for shorter retentions too. -/
theorem IsPastRetention.of_le (past : IsPastRetention ctx record now)
    (regular : ∀ reference retention, IsKeptFrom ctx record reference retention →
      reference.isLeap = false)
    (now_regular : now.isLeap = false) (later_regular : later.isLeap = false) (le : now ≤ later)
    (completed : ctx'.retention.completed.nanos ≤ ctx.retention.completed.nanos)
    (skipped : ctx'.retention.skipped.nanos ≤ ctx.retention.skipped.nanos) :
    IsPastRetention ctx' record later := by
  obtain ⟨reference, retention, kept, elapsed⟩ := past
  have grows := Instant.nanosSince_le_nanosSince (regular _ _ kept) now_regular later_regular le
  cases kept with
  | finished phase finished => exact ⟨reference, _, .finished phase finished, by omega⟩
  | created phase unfinished created =>
    exact ⟨reference, _, .created phase unfinished created, by omega⟩
  | skipped phase created => exact ⟨reference, _, .skipped phase created, by omega⟩

/-- A request is kept from one time only. -/
theorem IsKeptFrom.unique {reference' : Instant} {retention retention' : Duration}
    (h : IsKeptFrom ctx record reference retention)
    (h' : IsKeptFrom ctx record reference' retention') :
    reference = reference' ∧ retention = retention' := by
  cases h <;> cases h' <;> simp_all

/-- By what a clock reads, no request is past its retention before its reference time. -/
theorem IsPastRetention.not_lt_of_isReading {retention : Duration}
    (past : IsPastRetention ctx record now) (reading : now.IsReading)
    (kept : IsKeptFrom ctx record reference retention) : ¬ now < reference := by
  obtain ⟨_, _, kept', elapsed⟩ := past
  obtain ⟨rfl, rfl⟩ := kept.unique kept'
  exact fun future ↦ reading.not_lt_nanosSince future _ elapsed

/-! ### The courses of a pass -/

/-- What a full course of a pass has to do with the retention of the request that it reads. -/
structure Retires (ctx : Context) (name : String) (es : List (Exchange Calls))
    (result : Except Error Action) : Prop where
  /-- A request is to be deleted exactly if it was read and is past its retention. -/
  deletes : ∀ other, (∃ answer, ⟨.delete other, answer⟩ ∈ es) ↔
    ∃ record now rest, es = ⟨.get name, .ok record⟩ :: ⟨.now, now⟩ :: rest ∧
      other = record.name ∧ IsPastRetention ctx record now
  /-- Apart from that, nothing is done about a finished request. -/
  spares : ∀ record now rest, es = ⟨.get name, .ok record⟩ :: ⟨.now, now⟩ :: rest →
    record.phase.isTerminal →
      rest = [] ∧ result = .ok (.requeue retentionDelay) ∨
        ∃ answer, rest = [⟨.delete record.name, answer⟩]

theorem Passed.mem_delete_iff (h : Passed ctx name es result) (other : String) :
    (∃ answer, ⟨.delete other, answer⟩ ∈ es) ↔
      ∃ record now rest, es = ⟨.get name, .ok record⟩ :: ⟨.now, now⟩ :: rest ∧
        other = record.name ∧ IsPastRetention ctx record now := by
  cases h with
  | unread e => simp
  | @undecided current now es e failed =>
    have quiet := areQuiet_read name (.ok current) now (areQuiet_of_leads failed)
    constructor
    · rintro ⟨answer, hmem⟩
      exact (quiet _ hmem trivial).elim
    · rintro ⟨record, now', rest, hsame, -, _, _, kept, -⟩
      cases hsame
      obtain ⟨decision, hdecide⟩ := exists_decide_eq_of_isTerminal ctx now kept.isTerminal
      rw [hdecide] at failed
      cases failed
  | @decided current now es es' decision result course carriedOut =>
    have quiet := areQuiet_read name (.ok current) now (areQuiet_of_leads course)
    have hmem : (∃ answer, ⟨.delete other, answer⟩ ∈
        ⟨.get name, .ok current⟩ :: ⟨.now, now⟩ :: es ++ es') ↔
          ∃ answer, ⟨.delete other, answer⟩ ∈ es' := by
      refine exists_congr fun answer ↦ ⟨fun hmem ↦ ?_, List.mem_append_right _⟩
      rcases List.mem_append.1 hmem with hmem | hmem
      · exact (quiet _ hmem trivial).elim
      · exact hmem
    rw [hmem, carriedOut.mem_delete_iff, (decided_of_leads course).eq_delete_iff]
    constructor
    · rintro ⟨rfl, past⟩
      exact ⟨current, now, es ++ es', rfl, rfl, past⟩
    · rintro ⟨record, now', rest, hsame, rfl, past⟩
      cases hsame
      exact ⟨rfl, past⟩

theorem Passed.of_isTerminal (h : Passed ctx name es result)
    (hes : es = ⟨.get name, .ok record⟩ :: ⟨.now, now⟩ :: rest)
    (terminal : record.phase.isTerminal) :
    rest = [] ∧ result = .ok (.requeue retentionDelay) ∨
      ∃ answer, rest = [⟨.delete record.name, answer⟩] := by
  cases h with
  | unread e => simp at hes
  | undecided failed =>
    cases hes
    obtain ⟨decision, hdecide⟩ := exists_decide_eq_of_isTerminal ctx now terminal
    rw [hdecide] at failed
    cases failed
  | decided course carriedOut =>
    cases hes
    obtain ⟨rfl, rfl | rfl⟩ := (decided_of_leads course).of_isTerminal terminal
    · cases carriedOut with
      | write hstatus => cases hstatus
      | delete answer => exact .inr ⟨answer, rfl⟩
    · cases carriedOut with
      | write hstatus => cases hstatus
      | keep => exact .inl ⟨rfl, rfl⟩

/-- A pass deletes the request that it reads exactly if that is past its retention, and does
nothing else about a finished one. By what a clock reads, none is past its retention before its
reference time. Away from leap seconds the time that has passed is exact, and past its retention a
request stays. -/
theorem retires_of_leads (course : (reconcile ctx name).Leads es (.done result)) :
    Retires ctx name es result ∧ ∀ record now rest,
      es = ⟨.get name, .ok record⟩ :: ⟨.now, now⟩ :: rest →
      (∀ reference retention, IsKeptFrom ctx record reference retention →
        (now.IsReading → now < reference → ¬ IsPastRetention ctx record now) ∧
        (now.isLeap = false → reference.isLeap = false →
          now.nanosSince reference = now.sinceEpoch - reference.sinceEpoch) ∧
        (now < reference → (retention.nanos : Int) < now.nanosSince reference →
          now.IsBehindLeap reference ∧
            reference.nanos + retention.nanos + 1000000000 < now.nanos)) ∧
      (IsPastRetention ctx record now →
        (∀ reference retention, IsKeptFrom ctx record reference retention →
          reference.isLeap = false) →
        now.isLeap = false → ∀ later ctx', now ≤ later → later.isLeap = false →
          ctx'.retention.completed.nanos ≤ ctx.retention.completed.nanos →
          ctx'.retention.skipped.nanos ≤ ctx.retention.skipped.nanos →
          IsPastRetention ctx' record later) := by
  have passed := passed_of_leads course
  refine ⟨⟨passed.mem_delete_iff, fun _ _ _ ↦ passed.of_isTerminal⟩,
    fun record now rest _ ↦ ⟨fun reference retention kept ↦ ⟨?_, ?_, ?_⟩, ?_⟩⟩
  · intro reading future past
    exact past.not_lt_of_isReading reading kept future
  · intro now_regular regular
    exact Instant.nanosSince_eq_sub regular now_regular
  · intro future elapsed
    have behind := Instant.isBehindLeap_of_lt future (by omega)
    rw [behind.nanosSince_eq] at elapsed
    exact ⟨behind, by omega⟩
  · intro past regular now_regular later ctx' le later_regular completed skipped
    exact past.of_le regular now_regular later_regular le completed skipped

/-- A request whose cycle ended in 1970 is deleted a week and a second later. -/
theorem retires_of_leads_week :
    let record : Record :=
      { metadata := { name := some "b" }
        status := some { phase := .completed, finished := some .epoch } }
    let now : Instant := ⟨⟨604801, 0, by decide⟩, by decide⟩
    let es : List (Exchange Calls) :=
      [⟨.get "b", .ok record⟩, ⟨.now, now⟩, ⟨.delete "b", .ok ()⟩]
    (reconcile (plainContext true) "b").Leads es (.done (.ok .awaitChange)) ∧
      IsPastRetention (plainContext true) record now := by
  intro record now es
  have course : (reconcile (plainContext true) "b").Leads es (.done (.ok .awaitChange)) :=
    .ask (.ask (.ask (.rest _)))
  obtain ⟨record', now', rest, hsame, -, past⟩ :=
    ((retires_of_leads course).1.deletes "b").1 ⟨.ok (), by simp [es]⟩
  obtain ⟨rfl, rfl, -⟩ : record = record' ∧ now = now' ∧ _ = rest := by simpa [es] using hsame
  exact ⟨course, past⟩

end Pass

end EtcdBackup
