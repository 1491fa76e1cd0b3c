/-!
# Lists of keys and values

A list of keys and values in which the first value of a key counts is a map: a value in front
replaces the one under its key (`lookup_cons_eq_ite`), and to take out all values of a key removes
it (`lookup_filter_ne`).
-/

namespace FederatedLogin

variable {α : Type}

theorem lookup_cons_eq_ite (key name : String) (value : α) (members : List (String × α)) :
    ((name, value) :: members).lookup key =
      if key = name then some value else members.lookup key := by
  by_cases h : key = name <;> simp [List.lookup_cons, h, beq_false_of_ne]

theorem lookup_filter_ne (key name : String) (members : List (String × α)) :
    (members.filter fun m => m.1 ≠ name).lookup key =
      if key = name then none else members.lookup key := by
  induction members with
  | nil => exact (ite_self none).symm
  | cons m members ih =>
    obtain ⟨k, value⟩ := m
    rw [lookup_cons_eq_ite]
    by_cases gone : k = name
    · subst gone
      rw [List.filter_cons_of_neg (by simp), ih]
      by_cases h : key = k <;> simp [h]
    · rw [List.filter_cons_of_pos (by simpa using gone), lookup_cons_eq_ite, ih]
      by_cases h : key = k
      · subst h
        simp [gone]
      · simp [h]

end FederatedLogin
