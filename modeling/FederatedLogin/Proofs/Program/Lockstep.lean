import FederatedLogin.Program

/-!
# Programs in lockstep

Two programs run in lockstep for an observer who sees part of their questions and hears part of
their answers, if they ask questions that look the same, and go on in lockstep after answers that
sound the same. What the observer misses may differ at will. Like `Program.Keeps`, `Program.InStep`
is a recursion on the programs, so that a proof follows their text (`InStep.bind`).
-/

namespace FederatedLogin.Program

variable {Question : Type} {Answer : Question → Type} {κ μ α α' β β' : Type}

/-- For an observer the programs ask the same questions as long as they are answered the same, and
then end with results that satisfy the condition. -/
def InStep (see : Question → κ) (hear : (q : Question) → Answer q → μ) (post : α → α' → Prop) :
    Program Question Answer α → Program Question Answer α' → Prop
  | done a, done a' => post a a'
  | ask q next, ask q' next' =>
    see q = see q' ∧ ∀ a a', hear q a = hear q' a' → InStep see hear post (next a) (next' a')
  | _, _ => False

variable {see : Question → κ} {hear : (q : Question) → Answer q → μ} {post post₂ : α → α' → Prop}

theorem InStep.mono {p : Program Question Answer α} {p' : Program Question Answer α'}
    (h : p.InStep see hear post p') (le : ∀ a a', post a a' → post₂ a a') :
    p.InStep see hear post₂ p' := by
  induction p generalizing p' with
  | done a =>
    cases p' with
    | done a' => exact le a a' h
    | ask q' next' => exact h
  | ask q next ih =>
    cases p' with
    | done a' => exact h
    | ask q' next' => exact ⟨h.1, fun a a' same => ih a (h.2 a a' same)⟩

/-- Programs that go on in lockstep after results that fit are in lockstep all along. -/
theorem InStep.bind {post : β → β' → Prop} {p : Program Question Answer α}
    {p' : Program Question Answer α'} {f : α → Program Question Answer β}
    {f' : α' → Program Question Answer β'}
    (h : p.InStep see hear (fun a a' => (f a).InStep see hear post (f' a')) p') :
    (p >>= f).InStep see hear post (p' >>= f') := by
  induction p generalizing p' with
  | done a =>
    cases p' with
    | done a' => exact h
    | ask q' next' => exact h.elim
  | ask q next ih =>
    cases p' with
    | done a' => exact h.elim
    | ask q' next' => exact ⟨h.1, fun a a' same => ih a (h.2 a a' same)⟩

theorem InStep.map {post : β → β' → Prop} {p : Program Question Answer α}
    {p' : Program Question Answer α'} {g : α → β} {g' : α' → β'}
    (h : p.InStep see hear (fun a a' => post (g a) (g' a')) p') :
    (g <$> p).InStep see hear post (g' <$> p') :=
  InStep.bind h

/-- Programs in lockstep are both done, or ask questions that look the same. -/
theorem InStep.cases {p : Program Question Answer α} {p' : Program Question Answer α'}
    (h : p.InStep see hear post p') :
    (∃ a a', p = done a ∧ p' = done a' ∧ post a a') ∨
      ∃ q next q' next', p = ask q next ∧ p' = ask q' next' ∧ see q = see q' ∧
        ∀ a a', hear q a = hear q' a' → (next a).InStep see hear post (next' a') := by
  cases p with
  | done a =>
    cases p' with
    | done a' => exact .inl ⟨a, a', rfl, rfl, h⟩
    | ask q' next' => exact h.elim
  | ask q next =>
    cases p' with
    | done a' => exact h.elim
    | ask q' next' => exact .inr ⟨q, next, q', next', rfl, rfl, h.1, h.2⟩

/-- The rule for single questions. -/
theorem inStep_question {q q' : Question} {post : Answer q → Answer q' → Prop}
    (same : see q = see q') (h : ∀ a a', hear q a = hear q' a' → post a a') :
    (question q).InStep see hear post (question q') := ⟨same, h⟩

end FederatedLogin.Program
