import Audience.Error

/-! # Resource slots

Resources such as keyword lists and word vectors arrive some time after the start and can be taken
back. A slot is either empty or holds the current resource. A resource of the wrong version empties
the slot, so an old resource is never used after a newer one has been refused.

* **`Slot.setChecked s r expected`** — installs a resource of the expected version.
* **`Slot.require s`** — the resource, or the error that there is none. -/

namespace Audience

/-- The greatest version of a resource. -/
def versionLimit : Nat := 0xFFFFFFFF

/-- Resources that carry a version. -/
class Versioned (ρ : Type) where
  version : ρ → Nat

/-- The place of one resource. -/
structure Slot (ρ : Type) where
  name : String
  content : Option ρ

namespace Slot

variable {ρ : Type}

/-- An empty slot. -/
def empty (name : String) : Slot ρ := ⟨name, none⟩

/-- Installs a resource in place of any other. -/
def set (s : Slot ρ) (r : ρ) : Slot ρ := { s with content := some r }

/-- Takes the resource out. -/
def reset (s : Slot ρ) : Slot ρ := { s with content := none }

/-- Whether there is a resource. -/
def isReady (s : Slot ρ) : Bool := s.content.isSome

/-- The resource, or the error that there is none. -/
def require (s : Slot ρ) : Except Error ρ :=
  match s.content with
  | some r => .ok r
  | none => .error (.notReady s.name)

/-- Installs a resource if its version is the expected one, and empties the slot otherwise. -/
def setChecked [Versioned ρ] (s : Slot ρ) (r : ρ) (expected : Nat) : Except Error Unit × Slot ρ :=
  if Versioned.version r = expected then (.ok (), s.set r)
  else (.error (.versionMismatch s.name expected (Versioned.version r)), s.reset)

/-- Installs a loaded resource if its version is the expected one. A resource that did not load
empties the slot. -/
def load [Versioned ρ] (s : Slot ρ) (loaded : Except Error ρ) (expected : Nat) :
    Except Error Unit × Slot ρ :=
  match loaded with
  | .ok r => s.setChecked r expected
  | .error e => (.error e, s.reset)

end Slot

end Audience
