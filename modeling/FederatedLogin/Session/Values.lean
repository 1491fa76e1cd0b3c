import FederatedLogin.Json.Shape
import FederatedLogin.Uuid

/-!
# Session values

The values kept for a session, and the blob in which they are stored: an object whose member `v`
names the version of the format. Blobs are read by the names of their members, whatever their order
and whatever else they hold.
-/

namespace FederatedLogin.Session

open Json

/-- What is known about the person of a session. -/
structure Values where
  userId : Option Uuid := none
  issuer : Option String := none
  accessToken : Option String := none
  deriving DecidableEq, Repr, Inhabited

namespace Values

/-- The version of the format of blobs. -/
def version : String := "1"

/-- The members of the values. -/
def members (v : Values) : List (String × Value) :=
  [("user_id", .ofOption (v.userId.map Uuid.render)),
   ("issuer", .ofOption v.issuer),
   ("access_token", .ofOption v.accessToken)]

/-- The values without a version. -/
def toValue (v : Values) : Value := .object v.members

/-- The written form of the values without a version. -/
def shape : Shape :=
  .record
    [(["user_id"], .default .null, .nullable .text),
     (["issuer"], .default .null, .nullable .text),
     (["access_token"], .default .null, .nullable .text)]

/-- The blob in which the values are stored. -/
def encode (v : Values) : String := (Value.object (("v", .string version) :: v.members)).render

/-! ## Reading a blob -/

/-- The values of all members with a name. -/
def valuesOf (name : String) (members : List (String × Value)) : List Value :=
  (members.filter fun m => m.1 = name).map Prod.snd

/-- The value of a member that may be left out, but may not come twice. -/
def optional? (name : String) (members : List (String × Value)) : Option Value :=
  match valuesOf name members with
  | [] => some .null
  | [v] => some v
  | _ => none

/-- The identifier of a value that is a string or `null`. -/
def uuid? : Value → Option (Option Uuid)
  | .null => some none
  | .string s => (Uuid.parse? s).map some
  | _ => none

/-- The values that three members stand for. -/
def ofFields? (userId issuer accessToken : Value) : Option Values := do
  some ⟨← uuid? userId, ← issuer.optionalString?, ← accessToken.optionalString?⟩

/-- The values that a value of the shape stands for. -/
def ofValue? (v : Value) : Option Values := do
  ofFields? (← v.member? "user_id") (← v.member? "issuer") (← v.member? "access_token")

/-- The values that the members of an object stand for. -/
def ofMembers? (members : List (String × Value)) : Option Values := do
  ofFields? (← optional? "user_id" members) (← optional? "issuer" members)
    (← optional? "access_token" members)

/-- The values that the items of an array stand for, of which the last ones may be missing. -/
def ofItems? (items : List Value) : Option Values :=
  if items.length ≤ 3 then
    ofFields? (items.getD 0 .null) (items.getD 1 .null) (items.getD 2 .null)
  else none

/-- The values of a stored value: an object with the version among its members, or an array that
begins with the version. -/
def ofStored? : Value → Option Values
  | .object members =>
    match valuesOf "v" members with
    | [.string s] => if s = version then ofMembers? members else none
    | _ => none
  | .array (.string s :: items) => if s = version then ofItems? items else none
  | _ => none

/-- The values in a blob, unless it is damaged or of another version. -/
def decode? (blob : String) : Option Values := (parse blob).toOption.bind ofStored?

end Values

end FederatedLogin.Session
