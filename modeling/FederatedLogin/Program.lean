/-!
# Programs that ask

A program either is done or asks its surroundings a question and goes on with the answer. What the
surroundings are is left open: they may be a database, a scripted stand-in for one, or any function
that answers. Programs that run at the same time take turns, one question at a time.
-/

namespace FederatedLogin

/-- A computation that asks questions, each with its own kind of answer. -/
inductive Program (Question : Type) (Answer : Question → Type) (α : Type) : Type where
  | done (result : α)
  | ask (question : Question) (next : Answer question → Program Question Answer α)

namespace Program

variable {Question : Type} {Answer : Question → Type} {α β γ : Type}

/-- Goes on with the result of a program. -/
def andThen (p : Program Question Answer α) (f : α → Program Question Answer β) :
    Program Question Answer β :=
  match p with
  | done a => f a
  | ask q next => ask q fun answer => (next answer).andThen f

instance : Monad (Program Question Answer) where
  pure := done
  bind := andThen

/-- The program that asks one question. -/
def question (q : Question) : Program Question Answer (Answer q) := ask q done

/-- Answers all questions of a program. -/
def run {m : Type → Type} [Monad m] (answer : (q : Question) → m (Answer q)) :
    Program Question Answer α → m α
  | done a => pure a
  | ask q next => do
    let a ← answer q
    (next a).run answer

@[simp] theorem ask_bind (q : Question) (next : Answer q → Program Question Answer α)
    (f : α → Program Question Answer β) : ask q next >>= f = ask q fun a => next a >>= f := rfl

theorem bind_done (p : Program Question Answer α) : p >>= done = p := by
  induction p with
  | done a => rfl
  | ask q next ih => simp [ih]

theorem bind_assoc (p : Program Question Answer α) (f : α → Program Question Answer β)
    (g : β → Program Question Answer γ) : p >>= f >>= g = p >>= fun a => f a >>= g := by
  induction p with
  | done a => rfl
  | ask q next ih => simp [ih]

end Program

end FederatedLogin
