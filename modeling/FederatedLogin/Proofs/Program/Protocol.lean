import FederatedLogin.Program

/-!
# Protocols

A program is watched through a state: `Protocol` says what may become of the state while the program
waits for its turn, which questions the program may ask in a state, and which states an answer leads
to. `Program.Keeps` says that a program keeps to a protocol whatever it is answered, and that a
condition holds of its result. It is a recursion on the program, so that a proof follows the text of
the program, one question after the other (`Keeps.bind`, `keeps_ask_bind`). Two more things are to
be known about a program: which kind of questions it asks (`Program.Asks`), and how many at most
(`Program.Within`). Of some programs it is enough to know the result (`Program.Returns`).
-/

namespace FederatedLogin

variable {Question : Type} {Answer : Question → Type} {σ α β : Type}

/-- What a program and its surroundings promise each other about a state. -/
structure Protocol (Question : Type) (Answer : Question → Type) (σ : Type) where
  /-- What others may do to the state between two questions of the program. -/
  drifts : σ → σ → Prop := Eq
  /-- The question may be asked in the state. -/
  permits : σ → Question → Prop
  /-- The question may be answered so in the first state, and leads to the second. -/
  answers : σ → (q : Question) → Answer q → σ → Prop
  drifts_refl : ∀ s, drifts s s := by exact fun _ => rfl
  drifts_trans : ∀ {s t u}, drifts s t → drifts t u → drifts s u := by exact Eq.trans

/-- The protocol of a state that nothing changes while the program waits. -/
def Protocol.still (permits : σ → Question → Prop)
    (answers : σ → (q : Question) → Answer q → σ → Prop) : Protocol Question Answer σ where
  permits := permits
  answers := answers

namespace Program

/-- The program asks only what the protocol permits, and ends with a result and a state that satisfy
the condition, as long as all answers are those of the protocol. -/
def Keeps (P : Protocol Question Answer σ) (post : α → σ → Prop) :
    Program Question Answer α → σ → Prop
  | done a, s => ∀ t, P.drifts s t → post a t
  | ask q next, s => ∀ t, P.drifts s t →
      P.permits t q ∧ ∀ a u, P.answers t q a u → (next a).Keeps P post u

variable {P : Protocol Question Answer σ} {post post' : α → σ → Prop} {s t : σ}

/-- What others do while the program waits does not keep it from its protocol. -/
theorem Keeps.drift {p : Program Question Answer α} (h : p.Keeps P post s) (d : P.drifts s t) :
    p.Keeps P post t := by
  cases p with
  | done a => exact fun u e => h u (P.drifts_trans d e)
  | ask q next => exact fun u e => h u (P.drifts_trans d e)

/-- A program that keeps to the protocol satisfies weaker conditions, too. -/
theorem Keeps.mono {p : Program Question Answer α} (h : p.Keeps P post s)
    (le : ∀ a t, post a t → post' a t) : p.Keeps P post' s := by
  induction p generalizing s with
  | done a => exact fun t d => le a t (h t d)
  | ask q next ih =>
    intro t d
    obtain ⟨permitted, go⟩ := h t d
    exact ⟨permitted, fun a u e => ih a (go a u e)⟩

/-- A program that goes on with another one keeps to the protocol if the first one does, and ends in
states from which the second one does. -/
theorem Keeps.bind {p : Program Question Answer α} {f : α → Program Question Answer β}
    {post : β → σ → Prop} (h : p.Keeps P (fun a t => (f a).Keeps P post t) s) :
    (p >>= f).Keeps P post s := by
  induction p generalizing s with
  | done a => exact h s (P.drifts_refl s)
  | ask q next ih =>
    intro t d
    obtain ⟨permitted, go⟩ := h t d
    exact ⟨permitted, fun a u e => ih a (go a u e)⟩

/-- A function of the result does not matter to the protocol. -/
theorem Keeps.map {p : Program Question Answer α} {g : α → β} {post : β → σ → Prop}
    (h : p.Keeps P (fun a => post (g a)) s) : (g <$> p).Keeps P post s := by
  induction p generalizing s with
  | done a => exact h
  | ask q next ih =>
    intro t d
    obtain ⟨permitted, go⟩ := h t d
    exact ⟨permitted, fun a u e => ih a (go a u e)⟩

/-- The rule for a program that begins with a question. -/
theorem keeps_ask_bind {q : Question} {f : Answer q → Program Question Answer β}
    {post : β → σ → Prop} (h : ∀ t, P.drifts s t →
      P.permits t q ∧ ∀ a u, P.answers t q a u → (f a).Keeps P post u) :
    (question q >>= f).Keeps P post s := h

/-! ## Kinds of questions -/

/-- The program asks questions of one kind only, whatever it is answered. -/
def Asks (kind : Question → Bool) : Program Question Answer α → Prop
  | done _ => True
  | ask q next => kind q = true ∧ ∀ a, (next a).Asks kind

variable {kind : Question → Bool}

theorem asks_done (a : α) : (done a : Program Question Answer α).Asks kind := trivial

/-- A question of the kind is asked. -/
theorem asks_question {q : Question} (h : kind q = true) :
    (question q : Program Question Answer (Answer q)).Asks kind := ⟨h, fun _ => trivial⟩

/-- Every program asks questions of some kind. -/
theorem asks_anything (p : Program Question Answer α) : p.Asks fun _ => true := by
  induction p with
  | done a => exact trivial
  | ask q next ih => exact ⟨rfl, ih⟩

theorem Asks.mono {kind' : Question → Bool} {p : Program Question Answer α} (h : p.Asks kind)
    (le : ∀ q, kind q = true → kind' q = true) : p.Asks kind' := by
  induction p with
  | done a => exact trivial
  | ask q next ih => exact ⟨le q h.1, fun a => ih a (h.2 a)⟩

/-- Programs one after the other ask questions of a kind if each of them does. -/
theorem Asks.bind {p : Program Question Answer α} {f : α → Program Question Answer β}
    (h : p.Asks kind) (hf : ∀ a, (f a).Asks kind) : (p >>= f).Asks kind := by
  induction p with
  | done a => exact hf a
  | ask q next ih => exact ⟨h.1, fun a => ih a (h.2 a)⟩

theorem Asks.map {p : Program Question Answer α} (h : p.Asks kind) (g : α → β) :
    (g <$> p).Asks kind :=
  h.bind fun a => asks_done (g a)

/-- A program whose questions are all permitted in a state, and leave it as it is, keeps to the
protocol. -/
theorem Asks.keeps {p : Program Question Answer α} (h : p.Asks kind)
    (alone : ∀ t, P.drifts s t → t = s)
    (still : ∀ q, kind q = true → P.permits s q ∧ ∀ a u, P.answers s q a u → u = s) :
    p.Keeps P (fun _ t => t = s) s := by
  induction p with
  | done a => exact alone
  | ask q next ih =>
    intro t d
    rw [alone t d]
    obtain ⟨permitted, same⟩ := still q h.1
    refine ⟨permitted, fun a u answered => ?_⟩
    rw [same a u answered]
    exact ih a (h.2 a)

/-! ## Bounds -/

/-- The program ends after so many questions at most, whatever it is answered. -/
def Within : Nat → Program Question Answer α → Prop
  | _, done _ => True
  | 0, ask _ _ => False
  | n + 1, ask _ next => ∀ a, (next a).Within n

variable {n m : Nat}

theorem within_done (a : α) : (done a : Program Question Answer α).Within n := by
  cases n <;> exact trivial

theorem within_question (q : Question) :
    (question q : Program Question Answer (Answer q)).Within 1 := fun _ => trivial

theorem Within.mono {p : Program Question Answer α} (h : p.Within n) (le : n ≤ m) :
    p.Within m := by
  induction p generalizing n m with
  | done a => exact within_done a
  | ask q next ih =>
    match n, m, h, le with
    | n + 1, m + 1, h, le => exact fun a => ih a (h a) (by omega)

/-- The bounds of programs one after the other add up. -/
theorem Within.bind {p : Program Question Answer α} {f : α → Program Question Answer β}
    (h : p.Within n) (hf : ∀ a, (f a).Within m) : (p >>= f).Within (n + m) := by
  induction p generalizing n with
  | done a => exact (hf a).mono (by omega)
  | ask q next ih =>
    match n, h with
    | n + 1, h =>
      rw [show n + 1 + m = n + m + 1 by omega]
      exact fun a => ih a (h a)

theorem Within.map {p : Program Question Answer α} (h : p.Within n) (g : α → β) :
    (g <$> p).Within n :=
  Within.bind (m := 0) h fun a => within_done (g a)

/-! ## Results -/

/-- The program ends with a result that satisfies the condition, whatever it is answered. -/
def Returns (post : α → Prop) : Program Question Answer α → Prop
  | done a => post a
  | ask _ next => ∀ a, (next a).Returns post

/-- What programs one after the other return is what the last one returns. -/
theorem Returns.bind {p : Program Question Answer α} {f : α → Program Question Answer β}
    {mid : α → Prop} {post : β → Prop} (h : p.Returns mid) (hf : ∀ a, mid a → (f a).Returns post) :
    (p >>= f).Returns post := by
  induction p with
  | done a => exact hf a h
  | ask q next ih => exact fun a => ih a (h a)

/-- The rule for a program that begins with a question. -/
theorem returns_ask_bind {q : Question} {f : Answer q → Program Question Answer β} {post : β → Prop}
    (h : ∀ a, (f a).Returns post) : (question q >>= f).Returns post := h

end Program
end FederatedLogin
