import Mathlib
/-!
# What the adapter specs share (`rlmesh-adapters/src/{error,fmt,path,spec}.rs`)

Resolution errors with their codes, the preference lists a side declares, and the
paths into an observation or payload tree.
-/

namespace Rlmesh.Adapters

inductive ErrorCode where
  | invalidTag
  | duplicate
  | missingRole
  | dimMismatch
  | encodingMismatch
  | sliceOutOfRange
  | missingWidth
  | unsupported
  | untrustedEntrypoint
  | frameMismatch
  | renderMismatch
  | unsupportedKind
  | labelMismatch
  | provenanceMismatch
  | ambiguous
  | actionRoleOnObservation
  deriving DecidableEq

structure AdapterResolutionError where
  code : ErrorCode
  message : String
  deriving DecidableEq

abbrev Resolves (α : Type) := Except AdapterResolutionError α

/-- `err(ErrorCode::Unsupported, ..)`, the code of most refusals. -/
def unsupported {α : Type} (message : String) : Resolves α := .error ⟨.unsupported, message⟩

def quoted (value : String) : String := value.quote

/-- The `Debug` form of a list, from those of its items. -/
def debugList (items : List String) : String := "[" ++ ", ".intercalate items ++ "]"

/-! ## Preference lists -/

/-- An entry this core knows, or a later one kept as it was written. -/
inductive Entry (α : Type) where
  | known (value : α)
  | unknown (raw : String)
  deriving DecidableEq

structure AcceptSet (α : Type) where
  entries : List (Entry α)
  deriving DecidableEq

/-- The entries this core knows, in the declared order. -/
def AcceptSet.known {α : Type} (set : AcceptSet α) : List α :=
  set.entries.filterMap (fun entry => match entry with
    | .known value => some value
    | .unknown _ => none)

def AcceptSet.wireNames {α : Type} (asWire : α → String) (set : AcceptSet α) : List String :=
  set.entries.map (fun entry => match entry with
    | .known value => asWire value
    | .unknown raw => raw)

/-! ## Paths -/

inductive PathSeg where
  | key (name : String)
  | index (position : Nat)
  deriving DecidableEq

/-- The steps from the root. -/
abbrev NodePath := List PathSeg

end Rlmesh.Adapters
