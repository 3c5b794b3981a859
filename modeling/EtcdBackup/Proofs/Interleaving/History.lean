import EtcdBackup.Proofs.Interleaving.World

/-!
# What a run says about its passes and records

The exchanges of a pass are those of its events (`Run.past_eq`), and every exchange of a pass is one
event of the run (`Event.exists_of_exchanges_eq`), between two worlds. A record that a pass got was
stored at that time (`World.IsHeard`), so the store remembers it.

A record that is stored after an event was stored before, or was put there by the event
(`Step.get?_cases`). What every write and every edit preserves therefore holds between any two
states of a record that was not created anew in between (`Run.related`).
-/

set_option autoImplicit false
set_option relaxedAutoImplicit false

namespace EtcdBackup.Interleaving

open Dialogue

variable {w w' : World} {e : Event} {events later : List Event} {id : Nat} {th th' : Thread}

/-! ### The exchanges of a pass -/

@[simp] theorem Event.exchange?_asked (id : Nat) (x : Exchange Calls) :
    (asked id x).exchange? id = some x := if_pos rfl

@[simp] theorem Event.exchange?_committed (id : Nat) (given before after : Record)
    (answer : Except Error Unit) : (committed id given answer before after).exchange? id =
      some ⟨.updateStatus given, answer⟩ := if_pos rfl

/-- A pass gets on by the exchange that it has by an event. -/
theorem Step.goesOn (h : Step w e w') (hth : w.threads id = some th) :
    ∃ th', w'.threads id = some th' ∧ th.GoesOn (e.exchange? id).toList th' := by
  have hmove (store : Store) {other : Nat} {mover : Thread} {x : Exchange Calls}
      {rest : Job (Except Error Action)} (hmover : w.threads other = some mover)
      (next : mover.rest.Leads [x] rest) :
      ∃ th', ((w.withStore store).withThread other (mover.goOn next)).threads id = some th' ∧
        th.GoesOn (if other = id then some x else none).toList th' := by
    by_cases hid : other = id
    · subst hid
      rw [hmover] at hth
      cases hth
      exact ⟨_, by simp; rfl, by simpa using th.goesOn_goOn next⟩
    · exact ⟨th, by simpa [hid] using hth, by simpa [hid] using .refl th⟩
  cases h with
  | @started id' ctx name unused =>
    have hid : id' ≠ id := by
      rintro rfl
      rw [unused] at hth
      cases hth
    exact ⟨th, by simpa [hid] using hth, .refl th⟩
  | asked thread gives next => exact hmove w.store thread next
  | committed thread stored current overwritten fresh next => exact hmove _ thread next
  | deleted thread next => exact hmove _ thread next
  | created | edited | removed => exact ⟨th, hth, .refl th⟩

/-- Over a run a pass gets on by the exchanges that it has. -/
theorem Run.goesOn (h : Run w events w') (hth : w.threads id = some th) :
    ∃ th', w'.threads id = some th' ∧ th.GoesOn (Event.exchanges id events) th' := by
  induction h generalizing th with
  | nil => exact ⟨th, hth, .refl th⟩
  | @cons w middle last e events step _ ih =>
    obtain ⟨th₁, hth₁, hfirst⟩ := step.goesOn hth
    obtain ⟨th₂, hth₂, hsecond⟩ := ih hth₁
    refine ⟨th₂, hth₂, ?_⟩
    have := hfirst.trans hsecond
    cases hx : e.exchange? id <;> simpa [Event.exchanges, hx] using this

/-- A pass that was not started asks nothing, and starts from the beginning. -/
theorem Step.of_unused (h : Step w e w') (hth : w.threads id = none) :
    e.exchange? id = none ∧ (w'.threads id = none ∨
      ∃ ctx name, e = .started id ctx name ∧ w'.threads id = some (.start ctx name)) := by
  have hne {other : Nat} {mover : Thread} (hmover : w.threads other = some mover) :
      other ≠ id := by
    rintro rfl
    rw [hmover] at hth
    cases hth
  cases h with
  | @started other ctx name unused =>
    refine ⟨rfl, ?_⟩
    by_cases hid : other = id
    · subst hid
      exact Or.inr ⟨ctx, name, rfl, by simp⟩
    · exact Or.inl (by simpa [hid] using hth)
  | asked thread | committed thread | deleted thread =>
    have := hne thread
    exact ⟨by simp [Event.exchange?, this], Or.inl (by simpa [this] using hth)⟩
  | created | edited | removed => exact ⟨rfl, Or.inl hth⟩

/-- Where the state of a pass comes from. -/
theorem Step.thread_cases (h : Step w e w') (hth' : w'.threads id = some th') :
    (∃ ctx name, e = .started id ctx name ∧ th' = .start ctx name ∧ w.threads id = none) ∨
      ∃ th, w.threads id = some th ∧ th.GoesOn (e.exchange? id).toList th' := by
  cases hth : w.threads id with
  | none =>
    rcases (h.of_unused hth).2 with hnone | ⟨ctx, name, he, hstart⟩
    · rw [hnone] at hth'
      cases hth'
    · rw [hstart] at hth'
      exact Or.inl ⟨ctx, name, he, (Option.some.inj hth').symm, rfl⟩
  | some th =>
    obtain ⟨next, hnext, hgoesOn⟩ := h.goesOn hth
    rw [hnext] at hth'
    cases hth'
    exact Or.inr ⟨th, rfl, hgoesOn⟩

/-- An exchange takes a pass one request further. -/
theorem Step.exists_of_exchange (h : Step w e w') {x : Exchange Calls}
    (hx : e.exchange? id = some x) :
    ∃ th th', w.threads id = some th ∧ w'.threads id = some th' ∧ th.GoesOn [x] th' := by
  cases hth : w.threads id with
  | none =>
    rw [(h.of_unused hth).1] at hx
    cases hx
  | some th =>
    obtain ⟨th', hth', hgoesOn⟩ := h.goesOn hth
    rw [hx] at hgoesOn
    exact ⟨th, th', rfl, hth', hgoesOn⟩

theorem Event.exchanges_append (id : Nat) (events later : List Event) :
    exchanges id (events ++ later) = exchanges id events ++ exchanges id later :=
  List.filterMap_append

theorem Event.exchanges_singleton (id : Nat) (e : Event) :
    exchanges id [e] = (e.exchange? id).toList := by
  cases h : e.exchange? id <;> simp [exchanges, h]

/-- An exchange of a pass is one of the events. -/
theorem Event.exists_of_exchanges_eq {events : List Event} {x : Exchange Calls}
    (es : List (Exchange Calls)) {es' : List (Exchange Calls)}
    (h : exchanges id events = es ++ x :: es') :
    ∃ pre e post, events = pre ++ e :: post ∧ exchanges id pre = es ∧ e.exchange? id = some x ∧
      exchanges id post = es' := by
  obtain ⟨first, second, rfl, hfirst, hsecond⟩ := List.filterMap_eq_append_iff.1 h
  obtain ⟨quiet, e, post, rfl, hquiet, he, hpost⟩ := List.filterMap_eq_cons_iff.1 hsecond
  refine ⟨first ++ quiet, e, post, by rw [List.append_assoc], ?_, he, hpost⟩
  have hnone : exchanges id quiet = [] := List.filterMap_eq_nil_iff.2 hquiet
  rw [exchanges_append, hnone, List.append_nil]
  exact hfirst

theorem Event.mem_exchanges {events : List Event} {e : Event} {x : Exchange Calls}
    (he : e ∈ events) (hx : e.exchange? id = some x) : x ∈ exchanges id events :=
  List.mem_filterMap.2 ⟨e, he, hx⟩

@[simp] theorem Event.exchanges_asked_cons (x : Exchange Calls) (events : List Event) :
    exchanges id (.asked id x :: events) = x :: exchanges id events := by
  simp [exchanges]

/-- The first event by which a pass has an exchange gives its first exchange. -/
theorem Event.head?_exchanges {pre post : List Event} {x : Exchange Calls}
    (hpre : exchanges id pre = []) :
    (exchanges id (pre ++ .asked id x :: post)).head? = some x := by
  rw [exchanges_append, hpre, exchanges_asked_cons]
  rfl

/-- The passes of a world had the exchanges of some events. -/
structure World.IsTraced (past : List Event) (w : World) : Prop where
  unused : ∀ id, w.threads id = none → Event.exchanges id past = []
  traced : ∀ id th, w.threads id = some th → th.past = Event.exchanges id past
  started : ∀ id th, w.threads id = some th → .started id th.ctx th.name ∈ past

theorem World.isTraced_start (store : Store) : (start store).IsTraced [] where
  unused _ _ := rfl
  traced _ _ hth := by cases hth
  started _ _ hth := by cases hth

theorem Step.isTraced {past : List Event} (h : Step w e w') (hw : w.IsTraced past) :
    w'.IsTraced (past ++ [e]) where
  unused id hnone := by
    rw [Event.exchanges_append, Event.exchanges_singleton]
    cases hth : w.threads id with
    | none => rw [hw.unused id hth, (h.of_unused hth).1, Option.toList_none, List.append_nil]
    | some th =>
      obtain ⟨th', hth', -⟩ := h.goesOn hth
      rw [hnone] at hth'
      cases hth'
  traced id th' hth' := by
    rw [Event.exchanges_append, Event.exchanges_singleton]
    rcases h.thread_cases hth' with ⟨ctx, name, rfl, rfl, hunused⟩ | ⟨th, hth, hgoesOn⟩
    · rw [hw.unused id hunused]
      rfl
    · rw [hgoesOn.past, hw.traced id th hth]
  started id th' hth' := by
    rcases h.thread_cases hth' with ⟨ctx, name, rfl, rfl, -⟩ | ⟨th, hth, hgoesOn⟩
    · exact List.mem_append_right _ List.mem_cons_self
    · rw [hgoesOn.ctx, hgoesOn.name]
      exact List.mem_append_left _ (hw.started id th hth)

theorem Run.isTraced {store : Store} (h : Run (.start store) events w) : w.IsTraced events := by
  have htraced : w.IsTraced ([] ++ events) := h.preserves (p := fun _ ↦ True)
    (fun step _ hw ↦ step.isTraced hw) (fun _ _ ↦ trivial) (World.isTraced_start store)
  exact htraced

/-- The exchanges of a pass are those of its events, which its start comes before. -/
theorem Run.past_eq {store : Store} (h : Run (.start store) events w)
    (hth : w.threads id = some th) :
    th.past = Event.exchanges id events ∧ .started id th.ctx th.name ∈ events :=
  ⟨h.isTraced.traced id th hth, h.isTraced.started id th hth⟩

/-- A pass keeps the name that it was started with. -/
theorem Run.name_of_started {ctx : Context} {name : String} (h : Run w events w')
    (started : .started id ctx name ∈ events) (hth : w'.threads id = some th) : th.name = name := by
  obtain ⟨pre, post, rfl⟩ := List.append_of_mem started
  obtain ⟨before, after, -, step, behind⟩ := h.exists_step
  cases step with
  | started =>
    obtain ⟨th', hth', hgoesOn⟩ := behind.goesOn (World.threads_withThread_self before id _)
    rw [hth] at hth'
    cases hth'
    exact hgoesOn.name

/-! ### What the passes got -/

/-- Every record that a pass got was stored under the name that it asked for. -/
def World.IsHeard (w : World) : Prop :=
  ∀ id th, w.threads id = some th → ∀ name r, ⟨.get name, .ok r⟩ ∈ th.past →
    r ∈ w.store.log ∧ r.name = name

/-- What the store remembers grows by the record that an event puts into it. -/
theorem Step.log_eq (h : Step w e w') : w'.store.log = e.record?.toList ++ w.store.log := by
  cases h <;> rfl

theorem Step.mem_log (h : Step w e w') {r : Record} (hr : r ∈ w.store.log) : r ∈ w'.store.log := by
  rw [h.log_eq]
  exact List.mem_append_right _ hr

theorem Run.mem_log (h : Run w events w') {r : Record} (hr : r ∈ w.store.log) :
    r ∈ w'.store.log := by
  induction h with
  | nil => exact hr
  | cons step _ ih => exact ih (step.mem_log hr)

/-- The status of a record that was ever stored is one that a pass just wrote, or none, or an
earlier one of that name. -/
theorem Step.log_cases (h : Step w e w') {name : String} (leaves : e.LeavesStatus name) {r : Record}
    (hr : r ∈ w'.store.log) (hname : r.name = name) :
    (∃ id given answer before, e = .committed id given answer before r) ∨ r.status = none ∨
      ∃ old ∈ w.store.log, old.name = name ∧ r.status = old.status := by
  rw [h.log_eq, List.mem_append, Option.mem_toList] at hr
  rcases hr with hr | hr
  · cases e with
    | committed id given answer before after =>
      cases hr
      exact Or.inl ⟨id, given, answer, before, rfl⟩
    | created =>
      cases hr
      exact Or.inr (Or.inl (leaves hname))
    | edited before =>
      cases hr
      cases h with
      | edited stored same fresh =>
        rw [same] at hname
        exact Or.inr (Or.inr ⟨before, Store.mem_log_of_get? stored, hname, leaves hname⟩)
    | started | asked | deleted | removed => cases hr
  · exact Or.inr (Or.inr ⟨r, hr, hname, rfl⟩)

/-- The event by which a pass has an exchange. -/
theorem Event.cases_of_exchange {x : Exchange Calls} (hx : e.exchange? id = some x) :
    e = .asked id x ∨
      (∃ given answer before after, e = .committed id given answer before after ∧
        x = ⟨.updateStatus given, answer⟩) ∨
      ∃ name answer, e = .deleted id name answer ∧ x = ⟨.delete name, answer⟩ := by
  cases e with
  | asked other y =>
    obtain ⟨rfl, hsame⟩ := Option.ite_none_right_eq_some.1 hx
    cases hsame
    exact Or.inl rfl
  | committed other given answer before after =>
    obtain ⟨rfl, hsame⟩ := Option.ite_none_right_eq_some.1 hx
    cases hsame
    exact Or.inr (Or.inl ⟨given, answer, before, after, rfl, rfl⟩)
  | deleted other name answer =>
    obtain ⟨rfl, hsame⟩ := Option.ite_none_right_eq_some.1 hx
    cases hsame
    exact Or.inr (Or.inr ⟨name, answer, rfl, rfl⟩)
  | started | created | edited | removed => cases hx

/-- Reading a record has no effect. -/
theorem Event.eq_asked_of_get {name : String} {reply : Except Error Record}
    (hx : e.exchange? id = some ⟨.get name, reply⟩) : e = .asked id ⟨.get name, reply⟩ := by
  rcases cases_of_exchange hx with h | ⟨_, _, _, _, -, h⟩ | ⟨_, _, -, h⟩
  · exact h
  · cases h
  · cases h

/-- A record that a pass gets is stored. -/
theorem Step.get?_of_exchange (h : Step w e w') {name : String} {r : Record}
    (hx : e.exchange? id = some ⟨.get name, .ok r⟩) : w.store.get? name = some r := by
  obtain rfl := Event.eq_asked_of_get hx
  cases h with
  | asked thread gives next => exact gives

theorem Step.isHeard (h : Step w e w') (hw : w.IsHeard) : w'.IsHeard := by
  intro other th' hth' name r hr
  rcases h.thread_cases hth' with ⟨ctx, started, rfl, rfl, -⟩ | ⟨th, hth, hgoesOn⟩
  · cases hr
  · rw [hgoesOn.past] at hr
    rcases List.mem_append.1 hr with hr | hr
    · exact (hw other th hth name r hr).imp h.mem_log id
    · have hstored := h.get?_of_exchange (Option.mem_toList.1 hr)
      exact ⟨h.mem_log (Store.mem_log_of_get? hstored), Store.name_eq_of_get? hstored⟩

theorem World.isHeard_start (store : Store) : (start store).IsHeard := fun _ _ hth ↦ by cases hth

theorem Run.isHeard (h : Run w events w') (hw : w.IsHeard) : w'.IsHeard := by
  induction h with
  | nil => exact hw
  | cons step _ ih => exact ih (step.isHeard hw)

/-! ### What the store holds -/

variable {name : String} {known r' : Record}

theorem Step.get?_eq_of_not_touches (h : Step w e w') (hname : ¬e.Touches name) :
    w'.store.get? name = w.store.get? name := by
  cases h with
  | started | asked => rfl
  | committed _ _ _ _ fresh | created _ fresh | edited _ _ fresh =>
    exact (Store.get?_put fresh _).trans (if_neg hname)
  | deleted | removed => exact (Store.get?_remove _ _).trans (if_neg hname)

/-- A record that was held before is not held once it was written or taken away. -/
theorem Step.get?_ne_of_touches (h : Step w e w') (hname : e.Touches name)
    (hknown : known ∈ w.store.log) : w'.store.get? name ≠ some known := by
  have hput {r : Record} (fresh : w.store.IsFresh r) (hr : r.name = name) :
      (w.store.put r fresh).get? name ≠ some known := by
    rw [Store.get?_put, if_pos hr]
    intro hsame
    cases hsame
    exact fresh known hknown rfl rfl
  have hremove {other : String} (hother : other = name) :
      (w.store.remove other).get? name ≠ some known := by
    rw [Store.get?_remove, if_pos hother]
    exact nofun
  cases h with
  | started | asked => exact hname.elim
  | committed thread stored current overwritten fresh next => exact hput fresh hname
  | created absent fresh | edited stored name fresh => exact hput fresh hname
  | deleted | removed => exact hremove hname

/-- Nor does it come back. -/
theorem Run.get?_ne (h : Run w events w') (hknown : known ∈ w.store.log)
    (hne : w.store.get? name ≠ some known) : w'.store.get? name ≠ some known := by
  induction h with
  | nil => exact hne
  | @cons w _ _ e _ step _ ih =>
    refine ih (step.mem_log hknown) ?_
    by_cases hname : e.Touches name
    · exact step.get?_ne_of_touches hname hknown
    · rwa [step.get?_eq_of_not_touches hname]

theorem Run.get?_ne_of_touches (h : Run w events w') (hname : ∃ e ∈ events, e.Touches name)
    (hknown : known ∈ w.store.log) : w'.store.get? name ≠ some known := by
  obtain ⟨e, he, hname⟩ := hname
  obtain ⟨pre, post, rfl⟩ := List.append_of_mem he
  obtain ⟨before, after, hpre, step, hpost⟩ := h.exists_step
  exact hpost.get?_ne (step.mem_log (hpre.mem_log hknown))
    (step.get?_ne_of_touches hname (hpre.mem_log hknown))

/-- Where a stored record comes from. -/
theorem Step.get?_cases (h : Step w e w') (hr : w'.store.get? name = some r') :
    w.store.get? name = some r' ∨
      (∃ id given answer before, e = .committed id given answer before r' ∧
        w.store.get? name = some before) ∨
      (e = .created r' ∧ r'.name = name) ∨
      ∃ before, e = .edited before r' ∧ w.store.get? name = some before := by
  have hput {r : Record} (fresh : w.store.IsFresh r)
      (h : (w.store.put r fresh).get? name = some r') :
      w.store.get? name = some r' ∨ (r.name = name ∧ r = r') := by
    rw [Store.get?_put] at h
    split at h
    case isTrue hname => exact Or.inr ⟨hname, Option.some.inj h⟩
    case isFalse => exact Or.inl h
  have hremove {other : String} (h : (w.store.remove other).get? name = some r') :
      w.store.get? name = some r' := by
    rw [Store.get?_remove] at h
    split at h
    case isTrue => cases h
    case isFalse => exact h
  cases h with
  | started | asked => exact Or.inl hr
  | @committed id th thread given before after stored current overwritten fresh answer =>
    rcases hput fresh hr with hr | ⟨hname, rfl⟩
    · exact Or.inl hr
    · rw [overwritten.name_eq (Store.name_eq_of_get? stored)] at hname
      rw [hname] at stored
      exact Or.inr (Or.inl ⟨id, given, answer, before, rfl, stored⟩)
  | created absent fresh =>
    rcases hput fresh hr with hr | ⟨hname, rfl⟩
    · exact Or.inl hr
    · exact Or.inr (Or.inr (Or.inl ⟨rfl, hname⟩))
  | @edited before after stored hsame fresh =>
    rcases hput fresh hr with hr | ⟨hname, rfl⟩
    · exact Or.inl hr
    · rw [← hsame, hname] at stored
      exact Or.inr (Or.inr (Or.inr ⟨before, rfl, stored⟩))
  | deleted | removed => exact Or.inl (hremove hr)

/-- What every write of a status preserves holds between a status of a record and a later one, if
nobody else changes the status and the record is not created anew. -/
theorem Run.exists_related {R : Option Status → Option Status → Prop} (hrefl : ∀ s, R s s)
    (htrans : ∀ {s₁ s₂ s₃}, R s₁ s₂ → R s₂ s₃ → R s₁ s₃) (h : Run w events w')
    (commits : ∀ {id given answer before after},
      .committed id given answer before after ∈ events → before.name = name →
        R before.status after.status)
    (leaves : ∀ e ∈ events, e.LeavesStatus name) (kept : ∀ e ∈ events, ¬e.Creates name)
    (hr : w'.store.get? name = some r') :
    ∃ r, w.store.get? name = some r ∧ R r.status r'.status := by
  induction h with
  | nil => exact ⟨r', hr, hrefl _⟩
  | cons step _ ih =>
    obtain ⟨r, hmiddle, hrelated⟩ := ih (fun hmem ↦ commits (List.mem_cons_of_mem _ hmem))
      (fun e he ↦ leaves e (List.mem_cons_of_mem _ he))
      (fun e he ↦ kept e (List.mem_cons_of_mem _ he)) hr
    rcases step.get?_cases hmiddle with hsame | ⟨id, given, answer, before, rfl, hbefore⟩ |
      ⟨rfl, hname⟩ | ⟨before, rfl, hbefore⟩
    · exact ⟨r, hsame, hrelated⟩
    · exact ⟨before, hbefore,
        htrans (commits List.mem_cons_self (Store.name_eq_of_get? hbefore)) hrelated⟩
    · exact (kept _ List.mem_cons_self hname).elim
    · have hstatus := leaves _ List.mem_cons_self (Store.name_eq_of_get? hbefore)
      exact ⟨before, hbefore, hstatus ▸ hrelated⟩

theorem Run.related {R : Option Status → Option Status → Prop} (hrefl : ∀ s, R s s)
    (htrans : ∀ {s₁ s₂ s₃}, R s₁ s₂ → R s₂ s₃ → R s₁ s₃) (h : Run w events w')
    (commits : ∀ {id given answer before after},
      .committed id given answer before after ∈ events → before.name = name →
        R before.status after.status)
    (leaves : ∀ e ∈ events, e.LeavesStatus name) (kept : ∀ e ∈ events, ¬e.Creates name)
    {r : Record} (hr : w.store.get? name = some r) (hr' : w'.store.get? name = some r') :
    R r.status r'.status := by
  obtain ⟨r₀, hr₀, hrelated⟩ := h.exists_related hrefl htrans commits leaves kept hr'
  rw [hr] at hr₀
  cases hr₀
  exact hrelated

end EtcdBackup.Interleaving
