import Mathlib.Data.List.Basic
import ScanAccess.Settings.Library

/-! # The names that a settings file reads

Values in a settings file may refer to names. What such a name stands for is looked up in the
assignments before, and then in the environment. So assignments say the same of settings in all
environments that agree on the names that they read: those that the assignments to settings
refer to, and those that these names get their values from in turn. They are found by going
through the assignments from the last to the first.
-/

namespace ScanAccess

namespace Dictionary

variable {κ α : Type} [BEq κ] [LawfulBEq κ]

/-- Entries under the keys that are kept do not depend on the others. -/
theorem filter_put (keep : κ → Bool) (key : κ) (value : α) (dict : List (κ × α)) :
    ((put key value dict).filter fun entry => keep entry.1) =
      if keep key then put key value (dict.filter fun entry => keep entry.1)
      else dict.filter fun entry => keep entry.1 := by
  induction dict with
  | nil => cases hkeep : keep key <;> simp [put, hkeep]
  | cons entry rest ih =>
      obtain ⟨k, v⟩ := entry
      by_cases hkey : k == key
      · have heq : k = key := beq_iff_eq.mp hkey
        subst heq
        cases hkeep : keep k <;> simp [put, hkeep]
      · cases hkeep : keep k <;> cases hkeep' : keep key <;> simp_all [put]

end Dictionary

namespace Settings

/-- What the names of variables for settings begin with, in lower case. -/
def ownPrefix : String := "huskyci_"

/-- Whether a name begins as the names of variables for settings do. Letter case does not
matter. -/
def isOwn (name : String) : Bool :=
  ownPrefix.toList.isPrefixOf (Text.lower name).toList

/-- The entries with a name for settings. -/
def ownVariables {α : Type} (entries : List (String × α)) : List (String × α) :=
  entries.filter fun entry => isOwn entry.1

/-! ## References in a value -/

/-- The name that a piece refers to. -/
def Piece.reference? : Piece → Option String
  | char _ => none
  | reference name _ => some name

/-- The names that a value refers to. -/
def referencesOf (value : Option Template) : List String :=
  value.toList.flatMap fun template => template.filterMap Piece.reference?

/-- Values are filled in alike by what agrees on the names that they refer to. -/
theorem Template.fill_congr {found others : String → Option (Option String)} {template : Template}
    (h : ∀ name ∈ template.filterMap Piece.reference?, found name = others name) :
    template.fill found = template.fill others := by
  have hpiece : ∀ piece ∈ template, piece.fill found = piece.fill others := by
    intro piece hmem
    cases piece with
    | char c => rfl
    | reference name other =>
        have hname := h name (List.mem_filterMap.mpr ⟨_, hmem, rfl⟩)
        simp only [Piece.fill, hname]
  rw [Template.fill, Template.fill, List.flatMap_congr hpiece]

/-! ## Names read by assignments -/

variable {env other : Environment} {names : List String} {before others : Variables}

/-- The names to look up in front of some assignments, of which the last comes first, so that
`names` can be looked up behind them and settings get their values. -/
def namesReadBy : List Assignment → List String → List String
  | [], names => names
  | assignment :: before, names =>
    if isOwn assignment.name || names.contains assignment.name then
      namesReadBy before (names.filter (· != assignment.name) ++ referencesOf assignment.value)
    else namesReadBy before names

/-- The names that assignments read from the environment for settings. -/
def namesRead (assignments : List Assignment) : List String :=
  namesReadBy assignments.reverse []

/-- What two rows of variables have in common if they agree on names that are looked up and on
settings. -/
structure Agree (env other : Environment) (names : List String) (before others : Variables) :
    Prop where
  meaning : ∀ name ∈ names, meaning env before name = Settings.meaning other others name
  own : ownVariables before = ownVariables others

theorem meaning_put (env : Environment) (before : Variables) (key : String)
    (value : Option String) (name : String) :
    meaning env (Dictionary.put key value before) name =
      if key == name then some value else meaning env before name := by
  rw [meaning, Dictionary.get?_put]
  split <;> rfl

theorem ownVariables_put (key : String) (value : Option String) (before : Variables) :
    ownVariables (Dictionary.put key value before) =
      if isOwn key then Dictionary.put key value (ownVariables before) else ownVariables before :=
  Dictionary.filter_put isOwn key value before

/-- An assignment gives the same value where the names that it refers to have the same meaning. -/
theorem Agree.assign {assignment : Assignment}
    (h : Agree env other (names.filter (· != assignment.name) ++ referencesOf assignment.value)
      before others) :
    Agree env other names (assign env before assignment) (assign other others assignment) := by
  obtain ⟨hnames, hvalue⟩ := List.forall_mem_append.mp h.meaning
  have hfilled : assignment.value.map (Template.fill (Settings.meaning env before)) =
      assignment.value.map (Template.fill (Settings.meaning other others)) := by
    cases hassigned : assignment.value with
    | none => rfl
    | some template =>
        rw [hassigned] at hvalue
        rw [Option.map_some, Option.map_some, Template.fill_congr fun name hname =>
          hvalue name (List.mem_flatMap.mpr ⟨template, List.mem_singleton_self template, hname⟩)]
  rw [Settings.assign, Settings.assign, hfilled]
  constructor
  · intro wanted hwanted
    rw [meaning_put, meaning_put]
    split
    next => rfl
    next hne =>
      refine hnames wanted (List.mem_filter.mpr ⟨hwanted, bne_iff_ne.mpr fun heq => ?_⟩)
      exact hne (beq_iff_eq.mpr heq.symm)
  · rw [ownVariables_put, ownVariables_put, h.own]

/-- An assignment that nothing reads may give any value. -/
theorem Agree.assign_of_unread {assignment : Assignment} (h : Agree env other names before others)
    (hown : isOwn assignment.name = false) (hname : assignment.name ∉ names) :
    Agree env other names (Settings.assign env before assignment)
      (Settings.assign other others assignment) := by
  rw [Settings.assign, Settings.assign]
  constructor
  · intro wanted hwanted
    have hne : ¬ (assignment.name == wanted) = true := fun heq =>
      hname (beq_iff_eq.mp heq ▸ hwanted)
    rw [meaning_put, meaning_put, if_neg hne, if_neg hne]
    exact h.meaning wanted hwanted
  · have hout : ¬ isOwn assignment.name = true := Bool.eq_false_iff.mp hown
    rw [ownVariables_put, ownVariables_put, if_neg hout, if_neg hout]
    exact h.own

/-- Variables agree behind all assignments if the environments agree on the names read. -/
theorem agree_foldr {assignments : List Assignment}
    (h : ∀ name ∈ namesReadBy assignments names, env.value? name = other.value? name) :
    Agree env other names (assignments.foldr (fun assignment before => assign env before assignment)
      []) (assignments.foldr (fun assignment before => assign other before assignment) []) := by
  induction assignments generalizing names with
  | nil => exact ⟨fun name hname => congrArg (Option.map some) (h name hname), rfl⟩
  | cons assignment before ih =>
      -- In front of an assignment other names are looked up than behind it.
      rw [namesReadBy] at h
      split at h
      next => exact (ih h).assign
      next hunread =>
        rw [Bool.or_eq_true, not_or, List.contains_iff_mem] at hunread
        exact (ih h).assign_of_unread (Bool.eq_false_iff.mpr hunread.1) hunread.2

/-- Assignments say the same of settings in environments that agree on the names that they read. -/
theorem ownVariables_expand_congr {assignments : List Assignment}
    (h : ∀ name ∈ namesRead assignments, env.value? name = other.value? name) :
    ownVariables (expand env assignments) = ownVariables (expand other assignments) := by
  have hexpand (env : Environment) : expand env assignments =
      assignments.reverse.foldr (fun assignment before => assign env before assignment) [] :=
    List.foldl_eq_foldr_reverse
  rw [hexpand, hexpand]
  exact (agree_foldr h).own

end Settings

end ScanAccess
