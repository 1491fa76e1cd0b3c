import FederatedLogin.Proofs.Backend.Answer
import FederatedLogin.Proofs.Program.Protocol

/-!
# Transcripts

A program that runs leaves a transcript: its calls in order, each with what was answered to it.
`Program.Ends` relates a program to the transcripts that it may leave and to the results that it
then ends with. Nothing is assumed about the answers. Like `Program.Keeps` it is a recursion on the
program, so that what a program may do is read off its text, one call after the other
(`ends_call_bind`, `ends_bind`). Whoever answers, a run leaves one of these transcripts
(`ends_run`).
-/

namespace FederatedLogin

variable {α β : Type} {calls : List Answered}

namespace Program

/-- The program may leave the transcript, and then ends with the result. -/
def Ends : Service α → List Answered → α → Prop
  | done a, calls, r => calls = [] ∧ r = a
  | ask c next, calls, r => ∃ a rest, calls = ⟨c, a⟩ :: rest ∧ (next a).Ends rest r

/-- A program that begins with a call goes on with its answer. -/
theorem ends_call_bind {c : Call} {f : c.Answer → Service β} {r : β} :
    (call c >>= f).Ends calls r ↔ ∃ a rest, calls = ⟨c, a⟩ :: rest ∧ (f a).Ends rest r :=
  Iff.rfl

theorem ends_call {c : Call} {r : c.Answer} : (call c).Ends calls r ↔ calls = [⟨c, r⟩] := by
  constructor
  · rintro ⟨a, rest, rfl, rfl, rfl⟩
    rfl
  · rintro rfl
    exact ⟨r, [], rfl, rfl, rfl⟩

/-- The transcript of a program that goes on with another one is that of the first program, followed
by that of the second. -/
theorem ends_bind {p : Service α} {f : α → Service β} {r : β} :
    (p >>= f).Ends calls r ↔
      ∃ first a second, calls = first ++ second ∧ p.Ends first a ∧ (f a).Ends second r := by
  induction p generalizing calls with
  | done a =>
    constructor
    · exact fun h => ⟨[], a, calls, rfl, ⟨rfl, rfl⟩, h⟩
    · rintro ⟨_, _, _, rfl, ⟨rfl, rfl⟩, h⟩
      exact h
  | ask c next ih =>
    constructor
    · rintro ⟨a, rest, rfl, h⟩
      obtain ⟨first, b, second, rfl, hp, hf⟩ := (ih a).1 h
      exact ⟨⟨c, a⟩ :: first, b, second, rfl, ⟨a, first, rfl, hp⟩, hf⟩
    · rintro ⟨_, b, second, rfl, ⟨a, first, rfl, hp⟩, hf⟩
      exact ⟨a, first ++ second, rfl, (ih a).2 ⟨first, b, second, rfl, hp, hf⟩⟩

theorem ends_map {p : Service α} {f : α → β} {r : β} :
    (f <$> p).Ends calls r ↔ ∃ a, p.Ends calls a ∧ r = f a := by
  refine ends_bind.trans ⟨?_, ?_⟩
  · rintro ⟨first, a, _, rfl, h, rfl, rfl⟩
    exact ⟨a, by rwa [List.append_nil], rfl⟩
  · rintro ⟨a, h, rfl⟩
    exact ⟨calls, a, [], (List.append_nil calls).symm, h, rfl, rfl⟩

end Program

/-! ## Whoever answers -/

/-- Surroundings that may do anything: what they answer to a call may depend on all the calls before
it and on what they answered then. -/
abbrev Responder := List Answered → (c : Call) → c.Answer

namespace Responder

/-- Answers a call and writes it down. -/
def answer (s : Responder) (c : Call) : StateM (List Answered) c.Answer := fun past =>
  (s past c, past ++ [⟨c, s past c⟩])

/-- The result of a program and the transcript that its run leaves. -/
def run (s : Responder) (p : Service α) : α × List Answered := (p.run s.answer).run []

/-- A run adds to what was written down before a transcript of the program. -/
theorem exists_ends (s : Responder) (p : Service α) (past : List Answered) :
    ∃ r calls, (p.run s.answer).run past = (r, past ++ calls) ∧ p.Ends calls r := by
  induction p generalizing past with
  | done a => exact ⟨a, [], by rw [List.append_nil]; rfl, rfl, rfl⟩
  | ask c next ih =>
    obtain ⟨r, calls, run, ends⟩ := ih (s past c) (past ++ [⟨c, s past c⟩])
    rw [List.append_assoc] at run
    exact ⟨r, ⟨c, s past c⟩ :: calls, run, s past c, calls, rfl, ends⟩

/-- A run leaves a transcript of the program and ends with its result. -/
theorem ends_run (s : Responder) (p : Service α) : p.Ends (s.run p).2 (s.run p).1 := by
  obtain ⟨r, calls, run, ends⟩ := s.exists_ends p []
  unfold Responder.run
  rwa [run]

end Responder

end FederatedLogin
