import FederatedLogin.Account.User
import FederatedLogin.Lookup
import FederatedLogin.Proofs.Json.Records
import FederatedLogin.Proofs.Time.Rfc3339

/-!
# The public form of an account

The public form of an account is a record in which every field is written so that it is read back
(`filled_fields`). So an account is read from its public form, whatever texts and times it has, and
no two accounts have the same one (`toValue_faithful`).
-/

namespace FederatedLogin.User

open Json Time

/-- A field of the public form. -/
def field (name : String) (absence : Absence) (shape : Shape) (v : Value) : FieldReader × Value :=
  (⟨[name], absence, shape.read⟩, v)

/-- The fields of the public form, as they are read, with their values. -/
def fields (u : User) : List (FieldReader × Value) :=
  [field "id" .refused .text (.string u.id.render),
   field "displayName" .refused .text (.string u.displayName),
   field "email" .refused .text (.string u.email),
   field "emailVerified" .refused .flag (.bool u.emailVerified),
   field "avatarUrl" .null (.nullable .text) (.ofOption u.avatarUrl),
   field "preferredLanguage" .null (.nullable .text) (.ofOption u.preferredLanguage),
   field "active" .refused .flag (.bool u.active),
   field "createdAt" .refused .text (.string u.createdAt.render),
   field "updatedAt" .refused .text (.string u.updatedAt.render)]

variable (u : User)

theorem filled_fields : Filled u.fields where
  takes := by
    intro p hp
    simp only [fields, List.mem_cons, List.not_mem_nil, or_false] at hp
    rcases hp with rfl | rfl | rfl | rfl | rfl | rfl | rfl | rfl | rfl
    · exact takes_text _
    · exact takes_text _
    · exact takes_text _
    · exact takes_flag _
    · exact takes_nullable _
    · exact takes_nullable _
    · exact takes_flag _
    · exact takes_text _
    · exact takes_text _
  named := by
    intro p hp
    simp only [fields, List.mem_cons, List.not_mem_nil, or_false] at hp
    rcases hp with rfl | rfl | rfl | rfl | rfl | rfl | rfl | rfl | rfl <;> rfl
  distinct := by
    simp only [fields, field, List.map_cons, List.map_nil, FieldReader.name, List.headD_cons]
    decide +kernel

theorem read_shape : shape.read = readRecord (u.fields.map Prod.fst) := by
  simp only [shape, Shape.read, fieldReaders, fields, field, List.map_cons, List.map_nil]

theorem toValue_eq : u.toValue = .object (u.fields.map entry) := by
  simp only [toValue, fields, field, entry, FieldReader.name, List.map_cons, List.map_nil,
    List.headD_cons]

theorem ofValue?_toValue : ofValue? u.toValue = some u := by
  have optional (s : Option String) : (Value.ofOption s).optionalString? = some s :=
    Value.optionalString?_eq_some_iff.2 rfl
  simp [ofValue?, toValue, Value.member?, lookup_cons_eq_ite, Value.string?, Value.bool?, optional,
    Uuid.parse?_render, Instant.parse?_render]

/-- An account is read from its public form. -/
theorem parse?_toValue : parse? u.toValue.render = some u := by
  have takes : Takes shape.read u.toValue := by
    rw [read_shape u, toValue_eq u]
    exact takes_record u.filled_fields
  unfold parse? Shape.parse
  rw [readAll_render takes, Except.toOption, Option.bind_some]
  exact ofValue?_toValue u

/-- The public form is an object. -/
theorem parse_toValue : parse u.toValue.render = .ok u.toValue := by
  refine parse_render (valueText_object fun m hm => ?_)
  simp only [List.mem_cons, List.not_mem_nil, or_false] at hm
  rcases hm with rfl | rfl | rfl | rfl | rfl | rfl | rfl | rfl | rfl
  · exact valueText_string _ _
  · exact valueText_string _ _
  · exact valueText_string _ _
  · exact valueText_bool _ _
  · exact valueText_ofOption _ _
  · exact valueText_ofOption _ _
  · exact valueText_bool _ _
  · exact valueText_string _ _
  · exact valueText_string _ _

/-- Whatever its texts and times are, an account is read from its public form, and no other account
has the same one. The form is an object with the names of the fields in camel case, in which both
times are written in UTC: with the fewest thousands of digits of the second that lose nothing, and
with a sign before a year outside 0 to 9999. -/
theorem toValue_faithful :
    parse? u.toValue.render = some u ∧
      (∃ created updated : String,
        Rfc3339 u.createdAt created.toList ∧ Rfc3339 u.updatedAt updated.toList ∧
        parse u.toValue.render = .ok (.object
          [("id", .string u.id.render),
           ("displayName", .string u.displayName),
           ("email", .string u.email),
           ("emailVerified", .bool u.emailVerified),
           ("avatarUrl", .ofOption u.avatarUrl),
           ("preferredLanguage", .ofOption u.preferredLanguage),
           ("active", .bool u.active),
           ("createdAt", .string created),
           ("updatedAt", .string updated)])) ∧
      ∀ w : User, w.toValue.render = u.toValue.render → w = u := by
  have written (t : Instant) : Rfc3339 t t.render.toList := by
    unfold Instant.render
    rw [String.toList_ofList]
    exact rfc3339_text t
  refine ⟨u.parse?_toValue, ⟨u.createdAt.render, u.updatedAt.render, written _, written _,
    u.parse_toValue⟩, fun w same => ?_⟩
  have read := w.parse?_toValue
  rw [same, u.parse?_toValue] at read
  exact (Option.some.inj read).symm

end FederatedLogin.User
