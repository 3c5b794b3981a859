import EtcdBackup.Proofs.Course

/-!
# Watching a dialogue

What a dialogue may rely on and what it is allowed to do often depends on what was exchanged so far:
bytes that are read from a file are those that were written into it. A `Monitor` keeps track of the
exchanges in a state, says by it which answers fit, and which requests may be made.

`d.Ensures m s post` says that the dialogue, watched from the state `s` on and given only answers
that fit, only makes requests that it may make, and leaves a state and a value with `post`. It is
proved along the program (`Ensures.bind`) and holds on every course (`Ensures.of_leads`).
-/

set_option autoImplicit false
set_option relaxedAutoImplicit false

namespace EtcdBackup

/-- Keeps track of the exchanges of a dialogue. -/
structure Monitor (S : Signature) (State : Type) where
  after : State → Exchange S → State
  /-- Which answers can come. -/
  fits : State → Exchange S → Prop
  /-- Which requests are allowed. -/
  may : State → S.Request → Prop

namespace Monitor

variable {S : Signature} {State : Type}

/-- All answers fit, each in the state in which it comes. -/
def AllFit (m : Monitor S State) : State → List (Exchange S) → Prop
  | _, [] => True
  | s, e :: es => m.fits s e ∧ AllFit m (m.after s e) es

/-- All requests are allowed, each in the state in which it is made. -/
def AllMay (m : Monitor S State) : State → List (Exchange S) → Prop
  | _, [] => True
  | s, e :: es => m.may s e.request ∧ AllMay m (m.after s e) es

theorem AllFit.cons {m : Monitor S State} {s : State} {e : Exchange S} {es : List (Exchange S)}
    (h : m.fits s e) (hes : m.AllFit (m.after s e) es) : m.AllFit s (e :: es) :=
  ⟨h, hes⟩

theorem AllMay.exists_of_mem {m : Monitor S State} {s : State} {es : List (Exchange S)}
    (h : m.AllMay s es) {e : Exchange S} (he : e ∈ es) : ∃ s', m.may s' e.request := by
  induction es generalizing s with
  | nil => cases he
  | cons e' es ih =>
    rcases List.mem_cons.1 he with rfl | he
    · exact ⟨s, h.1⟩
    · exact ih h.2 he

section

variable {m : Monitor S State} {s : State} {es es' : List (Exchange S)}

theorem allFit_append :
    m.AllFit s (es ++ es') ↔ m.AllFit s es ∧ m.AllFit (es.foldl m.after s) es' := by
  induction es generalizing s with
  | nil => exact (and_iff_right trivial).symm
  | cons e es ih =>
    rw [List.cons_append, AllFit, AllFit, ih, and_assoc]
    rfl

theorem allMay_append :
    m.AllMay s (es ++ es') ↔ m.AllMay s es ∧ m.AllMay (es.foldl m.after s) es' := by
  induction es generalizing s with
  | nil => exact (and_iff_right trivial).symm
  | cons e es ih =>
    rw [List.cons_append, AllMay, AllMay, ih, and_assoc]
    rfl

theorem allFit_of_forall (h : ∀ e ∈ es, ∀ s, m.fits s e) : m.AllFit s es := by
  induction es generalizing s with
  | nil => trivial
  | cons e es ih =>
    rw [List.forall_mem_cons] at h
    exact ⟨h.1 s, ih h.2⟩

/-- Exchanges that always fit and never count can be left out. -/
theorem allFit_filter {p : Exchange S → Bool}
    (h : ∀ s e, p e = false → m.fits s e ∧ m.after s e = s) :
    m.AllFit s (es.filter p) ↔ m.AllFit s es := by
  induction es generalizing s with
  | nil => rfl
  | cons e es ih =>
    cases counts : p e with
    | true =>
      rw [List.filter_cons_of_pos counts, AllFit, AllFit, ih]
    | false =>
      obtain ⟨fits, same⟩ := h s e counts
      rw [List.filter_cons_of_neg (Bool.eq_false_iff.1 counts), ih, AllFit, same]
      exact (and_iff_right fits).symm

end

end Monitor

namespace Dialogue

variable {S : Signature} {State α β : Type} {m : Monitor S State}

/-- Given only answers that fit, the dialogue only makes requests that are allowed, and ends as a
condition says. -/
inductive Ensures (m : Monitor S State) : Dialogue S α → State → (State → α → Prop) → Prop
  | done {a : α} {s : State} {post : State → α → Prop} (h : post s a) : Ensures m (.done a) s post
  | ask {request : S.Request} {next : S.Answer request → Dialogue S α} {s : State}
      {post : State → α → Prop} (may : m.may s request)
      (h : ∀ answer, m.fits s ⟨request, answer⟩ →
        Ensures m (next answer) (m.after s ⟨request, answer⟩) post) :
      Ensures m (.ask request next) s post

theorem Ensures.mono {d : Dialogue S α} {s : State} {post post' : State → α → Prop}
    (h : d.Ensures m s post) (hpost : ∀ s a, post s a → post' s a) : d.Ensures m s post' := by
  induction h with
  | done h => exact .done (hpost _ _ h)
  | ask may _ ih => exact .ask may fun answer fits ↦ ih answer fits hpost

/-- What the second part ensures after the first one is ensured by both. -/
theorem Ensures.bind {d : Dialogue S α} {f : α → Dialogue S β} {s : State}
    {mid : State → α → Prop} {post : State → β → Prop} (h : d.Ensures m s mid)
    (hf : ∀ s a, mid s a → (f a).Ensures m s post) : (d >>= f).Ensures m s post := by
  induction h with
  | done h => exact hf _ _ h
  | ask may _ ih => exact .ask may fun answer fits ↦ ih answer fits hf

/-- What a dialogue ensures is so on all its courses with answers that fit. -/
theorem Ensures.of_leads {d rest : Dialogue S α} {s : State} {post : State → α → Prop}
    {es : List (Exchange S)} (h : d.Ensures m s post) (course : d.Leads es rest)
    (fits : m.AllFit s es) : m.AllMay s es ∧ rest.Ensures m (es.foldl m.after s) post := by
  induction course generalizing s with
  | rest => exact ⟨trivial, h⟩
  | ask _ ih =>
    cases h with
    | ask may h =>
      obtain ⟨hmay, hrest⟩ := ih (h _ fits.1) fits.2
      exact ⟨⟨may, hmay⟩, hrest⟩

/-- If all answers fit, what a dialogue ensures about its requests holds whatever it is answered. -/
theorem Ensures.only {p : S.Request → Prop} {d : Dialogue S α} {s : State}
    {post : State → α → Prop} (h : d.Ensures m s post) (fits : ∀ s e, m.fits s e)
    (may : ∀ s request, m.may s request → p request) : d.Only p := by
  induction h with
  | done => trivial
  | ask hmay _ ih => exact ⟨may _ _ hmay, fun answer ↦ ih answer (fits _ _)⟩

/-! ### Dialogues that can fail -/

variable {ε : Type}

/-- The condition holds unless there was a failure. -/
def UnlessFailed (good : State → α → Prop) : State → Except ε α → Prop
  | s, .ok a => good s a
  | _, .error _ => True

theorem Ensures.failed {good : State → α → Prop} {s : State} {e : ε} :
    (Dialogue.done (S := S) (.error e)).Ensures m s (UnlessFailed good) :=
  .done trivial

/-- A step that asks nothing. -/
theorem Ensures.of_except {x : Except ε α} {good : State → α → Prop} {s : State}
    (h : ∀ a, x = .ok a → good s a) :
    (Dialogue.done (S := S) x).Ensures m s (UnlessFailed good) := by
  cases x with
  | ok a => exact .done (h a rfl)
  | error e => exact .failed

theorem Ensures.bind_exceptT {x : ExceptT ε (Dialogue S) α} {f : α → ExceptT ε (Dialogue S) β}
    {s : State} {good : State → β → Prop} (mid : State → α → Prop)
    (h : x.run.Ensures m s (UnlessFailed mid))
    (hf : ∀ s a, mid s a → (f a).run.Ensures m s (UnlessFailed good)) :
    (x >>= f).run.Ensures m s (UnlessFailed good) := by
  rw [ExceptT.run_bind]
  refine h.bind fun s result hresult ↦ ?_
  cases result with
  | ok a => exact hf s a hresult
  | error e => exact .failed

end Dialogue

end EtcdBackup
