import EtcdBackup.Dialogue

/-!
# The course of a dialogue

A dialogue only says what it asks next. What it comes to depends on the answers, so statements
about it are statements about its courses: `d.Leads es rest` says that the dialogue `d`, having
asked the requests of `es` one after the other and having been answered as `es` says, is left with
`rest`. A course of a composite dialogue is put together from courses of its parts
(`leads_bind_iff`, `leads_bind_done_iff`). A dialogue cannot get stuck: whatever it was answered
so far, it can be brought to an end (`Leads.exists_done`).

`Only p d` bounds the requests that `d` may make on any course.
-/

set_option autoImplicit false
set_option relaxedAutoImplicit false

namespace EtcdBackup

/-- A request together with the answer it got. -/
structure Exchange (S : Signature) where
  request : S.Request
  answer : S.Answer request

namespace Dialogue

variable {S : Signature} {α β : Type}

/-- A dialogue that was answered as in a list of exchanges, and what is left of it. -/
inductive Leads : Dialogue S α → List (Exchange S) → Dialogue S α → Prop
  | rest (d : Dialogue S α) : Leads d [] d
  | ask {request : S.Request} {next : S.Answer request → Dialogue S α}
      {answer : S.Answer request} {es : List (Exchange S)} {d : Dialogue S α} :
      Leads (next answer) es d → Leads (.ask request next) (⟨request, answer⟩ :: es) d

theorem leads_ask_iff {request : S.Request} {next : S.Answer request → Dialogue S α}
    {es : List (Exchange S)} {d : Dialogue S α} :
    Leads (.ask request next) es d ↔
      (es = [] ∧ d = .ask request next) ∨
        ∃ answer es', es = ⟨request, answer⟩ :: es' ∧ Leads (next answer) es' d := by
  constructor
  · intro h
    cases h with
    | rest => exact Or.inl ⟨rfl, rfl⟩
    | ask h => exact Or.inr ⟨_, _, rfl, h⟩
  · rintro (⟨rfl, rfl⟩ | ⟨answer, es', rfl, h⟩)
    · exact .rest _
    · exact .ask h

/-- A full course through a request begins with the answer to it. -/
theorem leads_ask_done_iff {request : S.Request} {next : S.Answer request → Dialogue S α}
    {es : List (Exchange S)} {a : α} :
    Leads (.ask request next) es (.done a) ↔
      ∃ answer es', es = ⟨request, answer⟩ :: es' ∧ Leads (next answer) es' (.done a) := by
  rw [leads_ask_iff]
  simp

theorem leads_done_iff {es : List (Exchange S)} {a b : α} :
    Leads (.done a) es (.done b) ↔ es = [] ∧ a = b := by
  constructor
  · intro h
    cases h
    exact ⟨rfl, rfl⟩
  · rintro ⟨rfl, rfl⟩
    exact .rest _

theorem Leads.trans {d middle last : Dialogue S α} {es es' : List (Exchange S)}
    (first : Leads d es middle) (second : Leads middle es' last) : Leads d (es ++ es') last := by
  induction first with
  | rest => exact second
  | ask _ ih => exact .ask (ih second)

/-- A course determines what is left. -/
theorem Leads.unique {d first second : Dialogue S α} {es : List (Exchange S)}
    (h : Leads d es first) (h' : Leads d es second) : first = second := by
  induction h with
  | rest => cases h'; rfl
  | ask _ ih => cases h' with | ask h' => exact ih h'

/-- What was left at any point of a course. -/
theorem Leads.exists_append {d last : Dialogue S α} {es es' : List (Exchange S)}
    (whole : Leads d (es ++ es') last) : ∃ middle, Leads d es middle ∧ Leads middle es' last := by
  induction es generalizing d with
  | nil => exact ⟨d, .rest d, whole⟩
  | cons e es ih =>
    cases whole with
    | ask whole =>
      obtain ⟨middle, first, second⟩ := ih whole
      exact ⟨middle, .ask first, second⟩

theorem Leads.bind {d rest : Dialogue S α} {es : List (Exchange S)} (h : Leads d es rest)
    (f : α → Dialogue S β) : Leads (d >>= f) es (rest >>= f) := by
  induction h with
  | rest => exact .rest _
  | ask _ ih => exact .ask ih

theorem Leads.bind_done {d : Dialogue S α} {es es' : List (Exchange S)} {a : α}
    {f : α → Dialogue S β} {rest : Dialogue S β} (first : Leads d es (.done a))
    (second : Leads (f a) es' rest) : Leads (d >>= f) (es ++ es') rest :=
  (first.bind f).trans second

/-- A course of a composite dialogue stays in the first part, or goes through all of it. -/
theorem leads_bind_iff {d : Dialogue S α} {f : α → Dialogue S β} {es : List (Exchange S)}
    {rest : Dialogue S β} :
    Leads (d >>= f) es rest ↔
      (∃ middle, Leads d es middle ∧ rest = middle >>= f) ∨
        ∃ first a second, es = first ++ second ∧ Leads d first (.done a) ∧
          Leads (f a) second rest := by
  constructor
  · intro h
    induction d generalizing es with
    | done a => exact Or.inr ⟨[], a, es, rfl, .rest _, h⟩
    | ask request next ih =>
      rcases leads_ask_iff.1 h with ⟨rfl, rfl⟩ | ⟨answer, es', rfl, hnext⟩
      · exact Or.inl ⟨_, .rest _, rfl⟩
      · rcases ih answer hnext with ⟨middle, hd, rfl⟩ | ⟨first, a, second, rfl, hd, hf⟩
        · exact Or.inl ⟨middle, .ask hd, rfl⟩
        · exact Or.inr ⟨_ :: first, a, second, rfl, .ask hd, hf⟩
  · rintro (⟨middle, h, rfl⟩ | ⟨first, a, second, rfl, hd, hf⟩)
    · exact h.bind f
    · exact hd.bind_done hf

/-- A full course of a composite dialogue is a full course of each part. -/
theorem leads_bind_done_iff {d : Dialogue S α} {f : α → Dialogue S β} {es : List (Exchange S)}
    {b : β} :
    Leads (d >>= f) es (.done b) ↔
      ∃ first a second, es = first ++ second ∧ Leads d first (.done a) ∧
        Leads (f a) second (.done b) := by
  rw [leads_bind_iff]
  constructor
  · rintro (⟨middle, h, hb⟩ | h)
    · cases middle with
      | done a => exact ⟨es, a, [], (List.append_nil es).symm, h, hb ▸ .rest _⟩
      | ask request next => cases hb
    · exact h
  · exact Or.inr

/-- Behind a full course of the first part the second one goes on. -/
theorem Leads.bind_append_iff {d : Dialogue S α} {f : α → Dialogue S β}
    {es es' : List (Exchange S)} {a : α} {rest : Dialogue S β} (first : Leads d es (.done a)) :
    Leads (d >>= f) (es ++ es') rest ↔ Leads (f a) es' rest := by
  refine ⟨fun whole ↦ ?_, first.bind_done⟩
  obtain ⟨middle, course, last⟩ := whole.exists_append
  obtain rfl : middle = f a := course.unique (first.bind f)
  exact last

/-- Whatever a dialogue was answered, it can be brought to an end. -/
theorem Leads.exists_done [∀ request, Nonempty (S.Answer request)] (d : Dialogue S α) :
    ∃ es a, Leads d es (.done a) := by
  induction d with
  | done a => exact ⟨[], a, .rest _⟩
  | ask request next ih =>
    obtain ⟨answer⟩ := (inferInstance : Nonempty (S.Answer request))
    obtain ⟨es, a, h⟩ := ih answer
    exact ⟨_ :: es, a, .ask h⟩

/-- Dialogues that go on in the same way from every value that can come up are the same. -/
theorem bind_congr_of_leads {d : Dialogue S α} {f g : α → Dialogue S β}
    (h : ∀ es a, Leads d es (.done a) → f a = g a) : (d >>= f) = (d >>= g) := by
  induction d with
  | done a => exact h [] a (.rest _)
  | ask request next ih =>
    exact congrArg (Dialogue.ask request) (funext fun answer ↦
      ih answer fun es a course ↦ h _ a (.ask course))

/-! ### The requests of a dialogue -/

/-- Whatever it is answered, the dialogue only makes requests that `p` allows. -/
def Only (p : S.Request → Prop) : Dialogue S α → Prop
  | .done _ => True
  | .ask request next => p request ∧ ∀ answer, Only p (next answer)

theorem Only.bind {p : S.Request → Prop} {d : Dialogue S α} {f : α → Dialogue S β}
    (hd : Only p d) (hf : ∀ a, Only p (f a)) : Only p (d >>= f) := by
  induction d with
  | done a => exact hf a
  | ask request next ih => exact ⟨hd.1, fun answer ↦ ih answer (hd.2 answer)⟩

theorem Only.mono {p q : S.Request → Prop} {d : Dialogue S α} (h : Only p d)
    (hpq : ∀ request, p request → q request) : Only q d := by
  induction d with
  | done a => trivial
  | ask request next ih => exact ⟨hpq _ h.1, fun answer ↦ ih answer (h.2 answer)⟩

theorem Only.request {p : S.Request → Prop} {d rest : Dialogue S α} {es : List (Exchange S)}
    (h : Only p d) (course : Leads d es rest) : ∀ e ∈ es, p e.request := by
  induction course with
  | rest => simp
  | ask _ ih =>
    intro e he
    rcases List.mem_cons.1 he with rfl | he
    · exact h.1
    · exact ih (h.2 _) e he

/-! ### Dialogues that may fail -/

/-- A course without failure is one of each part. -/
theorem leads_bind_ok_iff {ε : Type} {x : ExceptT ε (Dialogue S) α}
    {f : α → ExceptT ε (Dialogue S) β} {es : List (Exchange S)} {b : β} :
    (x >>= f).run.Leads es (.done (.ok b)) ↔
      ∃ first a second, es = first ++ second ∧ x.run.Leads first (.done (.ok a)) ∧
        (f a).run.Leads second (.done (.ok b)) := by
  rw [ExceptT.run_bind, leads_bind_done_iff]
  constructor
  · rintro ⟨first, result, second, rfl, hx, hf⟩
    cases result with
    | error e => cases hf
    | ok a => exact ⟨first, a, second, rfl, hx, hf⟩
  · rintro ⟨first, a, second, rfl, hx, hf⟩
    exact ⟨first, .ok a, second, rfl, hx, hf⟩

end Dialogue

end EtcdBackup
