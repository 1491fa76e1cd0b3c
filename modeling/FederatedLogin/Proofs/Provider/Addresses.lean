import FederatedLogin.Provider.GitHub

/-!
# Which address a person has at GitHub

An address is chosen from a list of any length and order: the first one that is both primary and
verified, without such a one the first verified one, and without a verified one that of the profile.
The first two are the first entry of a list of verified addresses only (`verifiedAddress?_eq`), so
that what is not verified has no say (`identity_congr`), and a preferred address that is the only
one of its kind is chosen in any order (`identity_perm`). `address_choice` puts these together.
-/

namespace FederatedLogin.Provider.GitHub

variable {p : Profile} {addresses others : List Address} {a : Address} {i : Identity}

/-- The address is both primary and verified. -/
def Address.preferred (a : Address) : Bool := a.primary && a.verified

/-- The address is the first one of the list that passes the test. -/
def First (test : Address → Bool) (addresses : List Address) (a : Address) : Prop :=
  ∃ before after, addresses = before ++ a :: after ∧ test a = true ∧ ∀ b ∈ before, test b = false

theorem first_iff {test : Address → Bool} :
    First test addresses a ↔ addresses.find? test = some a := by
  rw [List.find?_eq_some_iff_append]
  constructor
  · rintro ⟨before, after, whole, passes, fail⟩
    exact ⟨passes, before, after, whole, fun b hb => by rw [fail b hb]; rfl⟩
  · rintro ⟨passes, before, after, whole, fail⟩
    exact ⟨before, after, whole, passes, fun b hb => by simpa using fail b hb⟩

/-! ## The verified address -/

/-- What is preferred is looked for among the verified addresses. -/
theorem verifiedAddress?_eq (addresses : List Address) :
    verifiedAddress? addresses =
      let verified := addresses.filter (·.verified)
      (verified.filter (·.preferred)).head?.or verified.head? := by
  simp only [verifiedAddress?, List.head?_filter, List.find?_filter]
  congr 2
  funext a
  cases hp : a.primary <;> cases hv : a.verified <;> simp [Address.preferred, hp, hv]

theorem verifiedAddress?_eq_none_iff :
    verifiedAddress? addresses = none ↔ ∀ a ∈ addresses, a.verified = false := by
  simp only [verifiedAddress?, Option.or_eq_none_iff, List.find?_eq_none, Bool.not_eq_true]
  refine ⟨And.right, fun none => ⟨fun a ha => ?_, none⟩⟩
  rw [none a ha, Bool.and_false]

/-- The verified address of a person is the first preferred one, or else the first verified one. -/
theorem first_of_verifiedAddress? (h : verifiedAddress? addresses = some a) :
    First Address.preferred addresses a ∨
      (∀ b ∈ addresses, b.preferred = false) ∧ First Address.verified addresses a := by
  rcases Option.or_eq_some_iff.1 h with found | ⟨missing, found⟩
  · exact .inl (first_iff.2 found)
  · refine .inr ⟨fun b hb => ?_, first_iff.2 found⟩
    exact Bool.eq_false_iff.2 (List.find?_eq_none.1 missing b hb)

theorem First.mem {test : Address → Bool} (h : First test addresses a) :
    a ∈ addresses ∧ test a = true := by
  obtain ⟨before, after, rfl, passes, -⟩ := h
  exact ⟨by simp, passes⟩

theorem mem_of_verifiedAddress? (h : verifiedAddress? addresses = some a) :
    a ∈ addresses ∧ a.verified = true := by
  rcases first_of_verifiedAddress? h with first | ⟨-, first⟩
  · refine ⟨first.mem.1, ?_⟩
    exact (Bool.and_eq_true_iff.1 first.mem.2).2
  · exact first.mem

/-! ## The identity -/

/-- An identity has the chosen address. -/
theorem chosenAddress?_of_identity (hi : identity p addresses = .ok i) :
    chosenAddress? p addresses = some (i.email, i.emailVerified) := by
  unfold identity at hi
  split at hi
  · cases hi
  · next chosen =>
    cases hi
    exact chosen

theorem exists_identity_of_chosen {chosen : String × Bool}
    (h : chosenAddress? p addresses = some chosen) : ∃ i, identity p addresses = .ok i := by
  unfold identity
  rw [h]
  exact ⟨_, rfl⟩

theorem chosenAddress?_of_verified (h : verifiedAddress? addresses = some a) :
    chosenAddress? p addresses = some (a.email, true) := by
  unfold chosenAddress?
  rw [h]

/-- Without a verified address, that of the profile is chosen, unless it is empty. -/
theorem chosenAddress?_of_unverified (h : verifiedAddress? addresses = none)
    {chosen : String × Bool} : chosenAddress? p addresses = some chosen ↔
      p.email = some chosen.1 ∧ chosen.1 ≠ "" ∧ chosen.2 = false := by
  unfold chosenAddress?
  rw [h]
  obtain ⟨email, verified⟩ := chosen
  simp only [Option.map_eq_some_iff, Option.filter_eq_some_iff, decide_eq_true_eq, Prod.mk.injEq]
  constructor
  · rintro ⟨_, ⟨there, filled⟩, rfl, rfl⟩
    exact ⟨there, filled, rfl⟩
  · rintro ⟨there, filled, rfl⟩
    exact ⟨email, ⟨there, filled⟩, rfl, rfl⟩

/-- There is an identity exactly if an address is verified or the profile has one. -/
theorem exists_identity_iff :
    (∃ i, identity p addresses = .ok i) ↔
      (∃ a ∈ addresses, a.verified = true) ∨ ∃ email, p.email = some email ∧ email ≠ "" := by
  cases h : verifiedAddress? addresses with
  | some a =>
    exact ⟨fun _ => .inl ⟨a, mem_of_verifiedAddress? h⟩,
      fun _ => exists_identity_of_chosen (chosenAddress?_of_verified h)⟩
  | none =>
    constructor
    · rintro ⟨i, hi⟩
      obtain ⟨there, filled, -⟩ :=
        (chosenAddress?_of_unverified h).1 (chosenAddress?_of_identity hi)
      exact .inr ⟨i.email, there, filled⟩
    · rintro (⟨a, ha, verified⟩ | ⟨email, there, filled⟩)
      · exact absurd (verifiedAddress?_eq_none_iff.1 h a ha) (by simp [verified])
      · have chosen : chosenAddress? p addresses = some (email, false) :=
          (chosenAddress?_of_unverified h).2 ⟨there, filled, rfl⟩
        exact exists_identity_of_chosen chosen

/-- Only verified addresses have a say, in their order. -/
theorem identity_congr (h : others.filter (·.verified) = addresses.filter (·.verified)) :
    identity p others = identity p addresses := by
  have same : verifiedAddress? others = verifiedAddress? addresses := by
    rw [verifiedAddress?_eq, verifiedAddress?_eq, h]
  simp only [identity, chosenAddress?, same]

/-- The only preferred address is chosen, in any order. -/
theorem verifiedAddress?_of_only (h : addresses.filter (·.preferred) = [a]) :
    verifiedAddress? addresses = some a := by
  have found : addresses.find? (·.preferred) = some a := by rw [← List.head?_filter, h]; rfl
  exact Option.or_eq_some_iff.2 (.inl found)

theorem identity_perm (perm : addresses.Perm others)
    (only : (addresses.filter (·.preferred)).length = 1) :
    identity p others = identity p addresses := by
  obtain ⟨a, ha⟩ := List.length_eq_one_iff.1 only
  have ha' : others.filter (·.preferred) = [a] :=
    List.perm_singleton.1 ((perm.filter _).symm.trans (.of_eq ha))
  simp only [identity, chosenAddress?, verifiedAddress?_of_only ha, verifiedAddress?_of_only ha']

/-- Which address an identity has. There is one exactly if an address is verified or the profile
has one that is not empty. With a verified one it is the first that is both primary and verified,
or the first verified one if none is both, and it counts as verified; otherwise it is that of the
profile and does not. So what counts as verified is listed as verified; other lists with the same
verified addresses make no difference, and neither does the order when there is one address that is
both primary and verified, and only one. -/
theorem address_choice (p : Profile) (addresses : List Address) :
    ((∃ i, identity p addresses = .ok i) ↔
      (∃ a ∈ addresses, a.verified = true) ∨ ∃ email, p.email = some email ∧ email ≠ "") ∧
    (∀ i, identity p addresses = .ok i →
      ((∃ a ∈ addresses, a.verified = true) → i.emailVerified = true ∧ ∃ a, i.email = a.email ∧
        (First (fun a => a.primary && a.verified) addresses a ∨
          (∀ b ∈ addresses, (b.primary && b.verified) = false) ∧
            First (·.verified) addresses a)) ∧
      ((∀ a ∈ addresses, a.verified = false) →
        i.emailVerified = false ∧ p.email = some i.email) ∧
      (i.emailVerified = true → ∃ a ∈ addresses, a.verified = true ∧ a.email = i.email)) ∧
    (∀ others, others.filter (·.verified) = addresses.filter (·.verified) →
      identity p others = identity p addresses) ∧
    ∀ others, addresses.Perm others →
      (addresses.filter fun a => a.primary && a.verified).length = 1 →
      identity p others = identity p addresses := by
  refine ⟨exists_identity_iff, fun i hi => ?_, fun others => identity_congr,
    fun others => identity_perm⟩
  have chosen := chosenAddress?_of_identity hi
  cases h : verifiedAddress? addresses with
  | some a =>
    obtain ⟨mem, listed⟩ := mem_of_verifiedAddress? h
    rw [chosenAddress?_of_verified h] at chosen
    injection chosen with chosen
    injection chosen with email verified
    refine ⟨fun _ => ⟨verified.symm, a, email.symm, first_of_verifiedAddress? h⟩, fun none => ?_,
      fun _ => ⟨a, mem, listed, email⟩⟩
    exact absurd (none a mem) (by simp [listed])
  | none =>
    obtain ⟨there, -, unverified⟩ := (chosenAddress?_of_unverified h).1 chosen
    refine ⟨?_, fun _ => ⟨unverified, there⟩, fun verified => ?_⟩
    · rintro ⟨a, mem, listed⟩
      exact absurd (verifiedAddress?_eq_none_iff.1 h a mem) (by simp [listed])
    · exact absurd (verified.symm.trans unverified) (by decide)

/-- An address that is primary but not verified is passed over, and so is one that is verified but
not primary, wherever they stand. -/
theorem address_choice_octocat :
    let p : Profile := ⟨583231, "octocat", none, some "public@example.com", none⟩
    let unverified : Address := ⟨"old@example.com", true, false⟩
    let work : Address := ⟨"work@example.com", false, true⟩
    let octo : Address := ⟨"octo@example.com", true, true⟩
    ∃ i, identity p [unverified, work, octo] = .ok i ∧ i.email = "octo@example.com" ∧
      i.emailVerified = true ∧
      identity p [work, octo, unverified] = .ok i ∧
      identity p [octo, unverified, work] = .ok i := by
  intro p unverified work octo
  obtain ⟨exists_iff, chosen, congr, perm⟩ := address_choice p [unverified, work, octo]
  have listed : ∃ a ∈ [unverified, work, octo], a.verified = true := ⟨work, by simp, rfl⟩
  obtain ⟨i, hi⟩ := exists_iff.2 (.inl listed)
  obtain ⟨verified, a, email, first⟩ := (chosen i hi).1 listed
  have found : octo = a := by
    rcases first with first | ⟨none, -⟩
    · exact Option.some_inj.1 ((by decide : some octo = _).trans (first_iff.1 first))
    · exact absurd (none octo (by simp)) (by decide)
  refine ⟨i, hi, ?_, verified, ?_, ?_⟩
  · rw [email, ← found]
  · rw [← hi]
    exact congr _ (by decide)
  · rw [← hi]
    exact perm _ (by decide) (by decide)

end FederatedLogin.Provider.GitHub
