import FederatedLogin.Lookup
import FederatedLogin.Proofs.Backend.Transcript
import FederatedLogin.Provider.Registry

/-!
# What a registry resolves and calls

Adapters are registered one after the other, and a name is looked up among the registrations from
the last one back (`lookup_ofRegistrations`). A registry holds each name once (`Distinct.register`),
so that its names in order ascend strictly. A verification calls the adapter of the name and no
other one: once for the tokens, and once more for the identity if there are any (`verifies_run`).
Nothing is assumed about what adapters answer. `dispatches_to_last` puts these together.
-/

namespace FederatedLogin.Provider.Registry

variable {r : Registry} {registrations : List (String × Nat)} {name : String} {adapter : Nat}
  {e : Error}

/-! ## Registrations -/

/-- The registry after registrations of adapters, each with its name. -/
def ofRegistrations (registrations : List (String × Nat)) : Registry :=
  registrations.foldl (fun r a => r.register a.1 a.2) {}

/-- The adapter is the last one that was registered under the name. -/
def LastUnder (registrations : List (String × Nat)) (name : String) (adapter : Nat) : Prop :=
  ∃ before after, registrations = before ++ (name, adapter) :: after ∧ ∀ a ∈ after, a.1 ≠ name

/-- A registration replaces the adapter of its name and no other one. -/
theorem lookup_register (r : Registry) (a : String × Nat) (name : String) :
    (r.register a.1 a.2).adapters.lookup name = ([a].lookup name).or (r.adapters.lookup name) := by
  obtain ⟨key, n⟩ := a
  rw [← List.lookup_append]
  by_cases h : name = key
  · subst h
    simp [register]
  · simp only [register, List.singleton_append, List.lookup_cons, beq_false_of_ne h]
    exact (lookup_filter_ne name key r.adapters).trans (if_neg h)

/-- A name is looked up among the registrations from the last one back. -/
theorem lookup_ofRegistrations (registrations : List (String × Nat)) (name : String) :
    (ofRegistrations registrations).adapters.lookup name = registrations.reverse.lookup name := by
  -- What the registry already has is asked last.
  suffices ∀ r : Registry,
      (registrations.foldl (fun r a => r.register a.1 a.2) r).adapters.lookup name =
        (registrations.reverse.lookup name).or (r.adapters.lookup name) by
    rw [ofRegistrations, this]
    exact Option.or_none
  induction registrations with
  | nil => exact fun r => rfl
  | cons a rest ih =>
    intro r
    rw [List.foldl_cons, ih, lookup_register, List.reverse_cons, List.lookup_append,
      Option.or_assoc]

theorem lookup_reverse_eq_none_iff :
    registrations.reverse.lookup name = none ↔ ∀ a ∈ registrations, a.1 ≠ name := by
  simp only [List.lookup_eq_none_iff, List.mem_reverse, bne_iff_ne]
  exact forall₂_congr fun a _ => ne_comm

/-- The registry resolves a name to the adapter that was registered under it last. -/
theorem adapter_eq_ok_iff :
    (ofRegistrations registrations).adapter name = .ok adapter ↔
      LastUnder registrations name adapter := by
  have found : (ofRegistrations registrations).adapter name = .ok adapter ↔
      registrations.reverse.lookup name = some adapter := by
    rw [← lookup_ofRegistrations]
    unfold Registry.adapter
    split
    · next found => rw [found, Except.ok.injEq, Option.some_inj]
    · next unknown => simp [unknown]
  rw [found, List.lookup_eq_some_iff]
  constructor
  · rintro ⟨after, before, eq, others⟩
    refine ⟨before.reverse, after.reverse, ?_, fun a ha => ?_⟩
    · rw [← List.reverse_reverse registrations, eq]
      simp
    · exact (bne_iff_ne.1 (others a (List.mem_reverse.1 ha))).symm
  · rintro ⟨before, after, rfl, others⟩
    refine ⟨after.reverse, before.reverse, by simp, fun a ha => ?_⟩
    exact bne_iff_ne.2 (others a (List.mem_reverse.1 ha)).symm

/-- The registry refuses a name exactly if no adapter was registered under it, and says which name
it was. -/
theorem adapter_eq_error_iff :
    (ofRegistrations registrations).adapter name = .error e ↔
      e = .unknown name ∧ ∀ a ∈ registrations, a.1 ≠ name := by
  have unknown : (ofRegistrations registrations).adapter name = .error e ↔
      e = .unknown name ∧ registrations.reverse.lookup name = none := by
    rw [← lookup_ofRegistrations]
    unfold Registry.adapter
    split
    · next found => simp [found]
    · next unknown => simp [unknown, eq_comm (a := e)]
  rw [unknown, lookup_reverse_eq_none_iff]

/-! ## Names -/

/-- No name has two adapters. -/
def Distinct (r : Registry) : Prop := (r.adapters.map Prod.fst).Nodup

theorem Distinct.register (distinct : r.Distinct) (name : String) (n : Nat) :
    (r.register name n).Distinct := by
  refine List.nodup_cons.2 ⟨?_, distinct.sublist (List.filter_sublist.map _)⟩
  intro mem
  obtain ⟨a, ha, eq⟩ := List.mem_map.1 mem
  exact of_decide_eq_true (List.mem_filter.1 ha).2 eq

theorem distinct_ofRegistrations (registrations : List (String × Nat)) :
    (ofRegistrations registrations).Distinct := by
  suffices ∀ r : Registry, r.Distinct →
      (registrations.foldl (fun r a => r.register a.1 a.2) r).Distinct from this {} List.nodup_nil
  induction registrations with
  | nil => exact fun r distinct => distinct
  | cons a rest ih => exact fun r distinct => ih _ (distinct.register a.1 a.2)

/-- The names of a registry that holds each of them once ascend strictly. -/
theorem Distinct.names_ascend (distinct : r.Distinct) : r.names.Pairwise (· < ·) := by
  have sorted : r.names.Pairwise fun a b => decide (a ≤ b) = true :=
    List.pairwise_mergeSort (fun a b c => by simpa using String.le_trans)
      (fun a b => by simpa using String.le_total a b) _
  have apart : r.names.Pairwise (· ≠ ·) :=
    ((List.mergeSort_perm _ _).nodup_iff).2 distinct
  refine (sorted.and apart).imp fun h => ?_
  exact Decidable.byContradiction fun not_lt =>
    h.2 (String.le_antisymm (of_decide_eq_true h.1) (String.not_lt.1 not_lt))

/-- The names are those under which an adapter was registered. -/
theorem mem_names_iff :
    name ∈ (ofRegistrations registrations).names ↔ ∃ n, (name, n) ∈ registrations := by
  unfold names
  rw [(List.mergeSort_perm _ _).mem_iff]
  have known : name ∈ (ofRegistrations registrations).adapters.map Prod.fst ↔
      ¬ registrations.reverse.lookup name = none := by
    rw [← lookup_ofRegistrations, List.lookup_eq_none_iff]
    simp
  rw [known, lookup_reverse_eq_none_iff]
  simp

/-! ## Verifications -/

/-- What a verification with an adapter may come to, and the calls that it then has made, with what
was answered to each. -/
inductive Verifies (adapter : Nat) (grant : Grant) :
    Except Error (TokenSet × Identity) × List Answered → Prop
  /-- No tokens: nobody is asked for an identity. -/
  | refused (e : Error) :
    Verifies adapter grant
      (.error e, [⟨.exchange adapter grant, (.error e : Except Error TokenSet)⟩])
  /-- No identity behind the new access token. -/
  | unidentified (tokens : TokenSet) (e : Error) :
    Verifies adapter grant
      (.error e,
        [⟨.exchange adapter grant, (.ok tokens : Except Error TokenSet)⟩,
          ⟨.identity adapter tokens.accessToken, (.error e : Except Error Identity)⟩])
  /-- Tokens, and the identity behind the new access token. -/
  | verified (tokens : TokenSet) (identity : Identity) :
    Verifies adapter grant
      (.ok (tokens, identity),
        [⟨.exchange adapter grant, (.ok tokens : Except Error TokenSet)⟩,
          ⟨.identity adapter tokens.accessToken, (.ok identity : Except Error Identity)⟩])

/-- Without an adapter of the name, a verification calls nobody. -/
theorem run_verify_of_error (unknown : r.adapter name = .error e) (s : Responder) (grant : Grant) :
    s.run (r.verify name grant) = (.error e, []) := by
  unfold verify
  rw [unknown]
  rfl

/-- A verification calls the adapter of the name, whatever is answered. -/
theorem verifies_run (known : r.adapter name = .ok adapter) (s : Responder) (grant : Grant) :
    Verifies adapter grant (s.run (r.verify name grant)) := by
  have ends := s.ends_run (r.verify name grant)
  revert ends
  generalize s.run (r.verify name grant) = outcome
  obtain ⟨result, calls⟩ := outcome
  unfold verify
  rw [known]
  rintro ⟨exchanged, rest, rfl, ends⟩
  cases exchanged with
  | error e =>
    obtain ⟨rfl, rfl⟩ := ends
    exact .refused e
  | ok tokens =>
    obtain ⟨identified, rest, rfl, ends⟩ := ends
    cases identified with
    | error e =>
      obtain ⟨rfl, rfl⟩ := ends
      exact .unidentified tokens e
    | ok identity =>
      obtain ⟨rfl, rfl⟩ := ends
      exact .verified tokens identity

/-- After any registrations, a name stands for the adapter that was registered under it last, and
for none exactly if none was. The names ascend strictly and are those of the registrations. A
verification calls nobody for an unknown name, and otherwise the adapter of the name, once for the
tokens and, if it gives any, once for the identity behind the new access token. -/
theorem dispatches_to_last (registrations : List (String × Nat)) :
    (∀ name adapter, (ofRegistrations registrations).adapter name = .ok adapter ↔
      LastUnder registrations name adapter) ∧
    (∀ name e, (ofRegistrations registrations).adapter name = .error e ↔
      e = .unknown name ∧ ∀ a ∈ registrations, a.1 ≠ name) ∧
    (ofRegistrations registrations).names.Pairwise (· < ·) ∧
    (∀ name, name ∈ (ofRegistrations registrations).names ↔ ∃ n, (name, n) ∈ registrations) ∧
    ∀ (s : Responder) (name : String) (grant : Grant),
      match (ofRegistrations registrations).adapter name with
      | .error e => s.run ((ofRegistrations registrations).verify name grant) = (.error e, [])
      | .ok adapter =>
        Verifies adapter grant (s.run ((ofRegistrations registrations).verify name grant)) := by
  refine ⟨fun name adapter => adapter_eq_ok_iff, fun name e => adapter_eq_error_iff,
    (distinct_ofRegistrations registrations).names_ascend, fun name => mem_names_iff, ?_⟩
  intro s name grant
  split
  · next unknown => exact run_verify_of_error unknown s grant
  · next known => exact verifies_run known s grant

end FederatedLogin.Provider.Registry
