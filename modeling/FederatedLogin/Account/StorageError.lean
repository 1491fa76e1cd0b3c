/-!
# Failures of storage

Why storage refuses a read or a write. What a database reports is sorted by what callers can do
about it: broken unique constraints and missing parents are told apart, and all else is passed on as
text.
-/

namespace FederatedLogin

/-- Why storage refuses. -/
inductive StorageError where
  | notFound
  /-- The row would break a unique constraint. -/
  | conflict (constraint : String)
  /-- The row refers to a row that does not exist. -/
  | foreignKey (constraint : String)
  /-- The unit of work is finished. -/
  | transactionClosed
  | database (cause : String)
  deriving DecidableEq, Repr, Inhabited

namespace StorageError

/-- The name of the kind of an error. -/
def kind : StorageError → String
  | notFound => "NotFound"
  | conflict _ => "Conflict"
  | foreignKey _ => "ForeignKey"
  | transactionClosed => "TransactionClosed"
  | database _ => "Database"

/-- The text of an error. -/
def message : StorageError → String
  | notFound => "Record not found"
  | conflict constraint => "Unique constraint violated: " ++ constraint
  | foreignKey constraint => "Foreign key violated: " ++ constraint
  | transactionClosed => "Transaction already finished"
  | database cause => "Database error: " ++ cause

end StorageError

/-! ## What a database reports -/

/-- The kinds of constraints. -/
inductive ConstraintKind where
  | unique
  | foreignKey
  | notNull
  | check
  | other
  deriving DecidableEq, Repr

/-- What a database client reports. -/
inductive DatabaseFailure where
  | rowNotFound
  | poolClosed
  | poolTimedOut
  | workerCrashed
  | columnNotFound (name : String)
  | protocol (detail : String)
  /-- The database itself refuses, perhaps naming a constraint. -/
  | refused (kind : ConstraintKind) (constraint : Option String) (text : String)
  deriving DecidableEq, Repr

namespace DatabaseFailure

/-- The text of a report. -/
def message : DatabaseFailure → String
  | rowNotFound => "no rows returned by a query that expected to return at least one row"
  | poolClosed => "attempted to acquire a connection on a closed pool"
  | poolTimedOut => "pool timed out while waiting for an open connection"
  | workerCrashed => "attempted to communicate with a crashed background worker"
  | columnNotFound name => "no column found for name: " ++ name
  | protocol detail => "encountered unexpected or invalid data: " ++ detail
  | refused _ _ text => "error returned from database: " ++ text

end DatabaseFailure

/-- The storage error that a report amounts to. -/
def StorageError.ofDatabase : DatabaseFailure → StorageError
  | .rowNotFound => .notFound
  | .refused .unique constraint _ => .conflict (constraint.getD "unique")
  | .refused .foreignKey constraint _ => .foreignKey (constraint.getD "foreign_key")
  | failure => .database failure.message

end FederatedLogin
