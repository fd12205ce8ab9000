/-! # Errors

An error says what went wrong; its text is made in one place.

* **`Error`** — the causes, with those of storage, resources and configuration in types of their
  own.
* **`Error.message e`** — the text of an error. -/

namespace Audience

/-- Why stored data could not be used. -/
inductive StorageError where
  /-- The database refused an operation. -/
  | database (message : String)
  /-- A step of the schema could not be applied. -/
  | migrationFailed (version : Nat) (reason : String)
  /-- A stored value does not decode. -/
  | malformedState (key : String) (reason : String)
  /-- A lock was left behind by a crash. -/
  | lockPoisoned (details : String)
  deriving DecidableEq, Repr

/-- Why a model resource could not be used. -/
inductive ResourceError where
  /-- The payload is not JSON of the expected shape. -/
  | undecodable (resource : String)
  /-- The payload breaks a rule of the resource. -/
  | malformed (resource : String) (reason : String)
  | dimensionMismatch (expected actual : Nat)
  | noKnownTokens (resource : String)
  deriving DecidableEq, Repr

/-- Why a configuration could not be used. -/
inductive ConfigError where
  | parse (reason : String)
  | io (path reason : String)
  | invalidValue (field reason : String)
  deriving DecidableEq, Repr

/-- Everything that can go wrong. -/
inductive Error where
  | notReady (component : String)
  | loadFailure (what reason : String)
  | versionMismatch (component : String) (expected actual : Nat)
  | invalidInput (reason : String)
  | storage (e : StorageError)
  | resource (e : ResourceError)
  | config (e : ConfigError)
  | serialization (reason : String)
  deriving DecidableEq, Repr

/-- The reason given for a payload that does not decode. -/
def undecodableReason : String := "the payload does not decode"

/-- The text of a storage error. -/
def StorageError.message : StorageError → String
  | .database m => "SQLite error: " ++ m
  | .migrationFailed v r => "migration failed at version " ++ toString v ++ ": " ++ r
  | .malformedState k r => "stored client state `" ++ k ++ "` is malformed: " ++ r
  | .lockPoisoned d => "storage lock poisoned: " ++ d

/-- The text of a resource error. -/
def ResourceError.message : ResourceError → String
  | .undecodable r => "resource `" ++ r ++ "` is malformed: " ++ undecodableReason
  | .malformed r why => "resource `" ++ r ++ "` is malformed: " ++ why
  | .dimensionMismatch e a =>
    "dimension mismatch: expected " ++ toString e ++ ", got " ++ toString a
  | .noKnownTokens r => "no known tokens in input for `" ++ r ++ "`"

/-- The text of a configuration error. -/
def ConfigError.message : ConfigError → String
  | .parse r => "failed to parse config: " ++ r
  | .io p r => "failed to read config file " ++ p ++ ": " ++ r
  | .invalidValue f r => "invalid value for `" ++ f ++ "`: " ++ r

namespace Error

/-- The text of an error. -/
def message : Error → String
  | .notReady c => c ++ " is not ready"
  | .loadFailure w r => "failed to load " ++ w ++ ": " ++ r
  | .versionMismatch c e a =>
    c ++ " version mismatch: expected " ++ toString e ++ ", got " ++ toString a
  | .invalidInput r => "invalid input: " ++ r
  | .storage e => "storage error: " ++ e.message
  | .resource e => "resource error: " ++ e.message
  | .config e => "config error: " ++ e.message
  | .serialization r => "serialization error: " ++ r

/-- Whether a resource has not been loaded yet. -/
def isNotReady : Error → Bool
  | .notReady _ => true
  | _ => false

/-- Whether a stored value exists and does not decode. -/
def isMalformedState : Error → Bool
  | .storage (.malformedState _ _) => true
  | _ => false

end Error

end Audience
