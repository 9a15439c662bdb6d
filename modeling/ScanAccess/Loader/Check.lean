import ScanAccess.Loader.Value
import ScanAccess.Settings.TokenSettings

/-! # Checking given values

The values that are given for the settings for tokens are checked one by one, and all problems are
reported together.
-/

namespace ScanAccess.Loader

open ScanAccess.Settings

/-- The values that are given for the settings, before they are checked. -/
abbrev Given : Type := Field → Option Node

/-- The problem of a field's value, if it has one, in a list. -/
def problemsOf {α : Type} (place : List Step) (result : Except Reason α) : List Problem :=
  match result with
  | .error reason => [⟨place, reason⟩]
  | .ok _ => []

/-- Checks the given values. A setting that is not given has its default value. All
problems are reported, in the order of the fields. -/
def check (given : Given) : Except (List Problem) TokenSettings :=
  let place (field : Field) : List Step := [.name field.variable]
  let defaults : TokenSettings := {}
  let tokenBytes : Except Reason Int :=
    match given .tokenBytes with
    | none => .ok defaults.tokenBytes
    | some value => integerBetween 16 256 value
  let maxAgeSeconds : Except Reason (Option Int) :=
    match given .maxAgeSeconds with
    | none => .ok defaults.maxAgeSeconds
    | some value => positiveIfAny value
  let repositories : Except (List Problem) (List RawText) :=
    match given .repositories with
    | none => .ok defaults.repositories
    | some value => (textList (place .repositories) value).map (List.map Text.restored)
  match tokenBytes, maxAgeSeconds, repositories with
  | .ok tokenBytes, .ok maxAgeSeconds, .ok repositories =>
    .ok { tokenBytes, maxAgeSeconds, repositories }
  | tokenBytes, maxAgeSeconds, repositories =>
    .error (problemsOf (place .tokenBytes) tokenBytes
      ++ problemsOf (place .maxAgeSeconds) maxAgeSeconds
      ++ (match repositories with
        | .error problems => problems
        | .ok _ => []))

end ScanAccess.Loader
