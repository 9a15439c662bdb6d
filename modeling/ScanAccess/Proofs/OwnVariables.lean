import ScanAccess.Proofs.DocumentedLoader
import ScanAccess.Proofs.References
import ScanAccess.RunningLibrary
import ScanAccess.Settings.Load

/-! # The variables that settings depend on

Settings are given by variables with a prefix of their own. Other variables make no difference,
unless the values of settings in the settings file refer to them, as long as none of them is
called `TOKEN` in any letter case: this one is taken for an object of settings. That follows for
every library of settings from what it documents about its sources.
-/

namespace ScanAccess.Settings

variable {library : Library} {calls : Nat} {env other : Environment} {vars others : Variables}
  {file : Option String}

/-! ## Texts of settings -/

theorem isOwn_variable (field : Field) : isOwn field.variable = true := by
  cases field <;> decide +kernel

theorem ownVariables_variablesOf (env : Environment) :
    ownVariables (variablesOf env) = variablesOf (ownVariables env) :=
  List.filter_map

/-- The text that is found under a name for settings is that of a variable for settings. -/
theorem textOf?_ownVariables {name : String} (hname : isOwn name = true) (vars : Variables) :
    textOf? (ownVariables vars) name = textOf? vars name := by
  have hsame : (fun entry : String × Option String =>
      (Text.lower entry.1 == Text.lower name) && isOwn entry.1) =
        fun entry => Text.lower entry.1 == Text.lower name := by
    funext entry
    by_cases heq : Text.lower entry.1 = Text.lower name
    · have hown : isOwn entry.1 = true := by rwa [isOwn, heq]
      rw [hown, Bool.and_true]
    · rw [beq_eq_false_iff_ne.mpr heq, Bool.false_and]
  rw [textOf?, ownVariables, List.filter_filter, hsame, textOf?]

theorem textOf?_congr (h : ownVariables vars = ownVariables others) (field : Field) :
    textOf? vars field.variable = textOf? others field.variable := by
  rw [← textOf?_ownVariables (isOwn_variable field) vars, h,
    textOf?_ownVariables (isOwn_variable field) others]

theorem textOf?_eq_none {name : String} (h : ∀ entry ∈ vars, Text.lower entry.1 ≠ Text.lower name) :
    textOf? vars name = none := by
  have hnone : vars.filter (fun entry => Text.lower entry.1 == Text.lower name) = [] :=
    List.filter_eq_nil_iff.mpr fun entry hmem => mt beq_iff_eq.mp (h entry hmem)
  rw [textOf?, hnone]
  rfl

/-- A name for settings has the same value where the variables for settings are the same. -/
theorem value?_congr {name : String} (h : ownVariables env = ownVariables other)
    (hname : isOwn name = true) : env.value? name = other.value? name := by
  have hown (env : Environment) :
      (ownVariables env).find? (fun entry => entry.1 == name) =
        env.find? fun entry => entry.1 == name := by
    have hsame : (fun entry : String × String =>
        decide (isOwn entry.1 = true ∧ (entry.1 == name) = true)) =
          fun entry => entry.1 == name := by
      funext entry
      by_cases heq : entry.1 = name
      · simp [heq, hname]
      · simp [heq]
    rw [ownVariables, List.find?_filter, hsame]
  rw [Environment.value?, Environment.value?, Dictionary.get?, Dictionary.get?, ← hown env,
    ← hown other, h]

/-! ## What sources give -/

namespace Library

theorem found_congr {field : Field}
    (h : textOf? vars field.variable = textOf? others field.variable) (origin : Origin) :
    library.found calls origin vars field = library.found calls origin others field := by
  rw [found, found, h]

/-- Variables give the same for settings if they have the same texts for them. -/
theorem gather_congr
    (h : ∀ field : Field, textOf? vars field.variable = textOf? others field.variable)
    (origin : Origin) (fields : List Field) :
    library.gather calls origin vars fields = library.gather calls origin others fields := by
  induction fields with
  | nil => rfl
  | cons field rest ih => rw [gather, gather, found_congr (h field), ih]

/-- The names that a settings file reads for settings, if there is a file. -/
def namesRead (library : Library) (file : Option String) : List String :=
  match file with
  | some text => Settings.namesRead (library.assignments text)
  | none => []

theorem ownVariables_fileVariables_congr
    (h : ∀ name ∈ library.namesRead file, env.value? name = other.value? name) :
    ownVariables (library.fileVariables env file) =
      ownVariables (library.fileVariables other file) := by
  cases file with
  | none => rfl
  | some text => exact ownVariables_expand_congr h

/-- An instance for tokens depends on the variables for settings and on the names that the settings
file reads for them. -/
theorem Documented.buildTokens_congr (h : library.Documented)
    (hown : ownVariables env = ownVariables other)
    (hfile : ∀ name ∈ library.namesRead file, env.value? name = other.value? name) :
    (library.buildTokens calls env file).result =
      (library.buildTokens calls other file).result := by
  have henv : ownVariables (variablesOf env) = ownVariables (variablesOf other) := by
    rw [ownVariables_variablesOf, ownVariables_variablesOf, hown]
  have hvariables := ownVariables_fileVariables_congr hfile
  rw [h.sources, h.sources, fromSources, fromSources, gather_congr (textOf?_congr henv),
    gather_congr (textOf?_congr hvariables)]

end Library

/-! ## Loading -/

theorem load_result (library : Library) (calls : Nat) (env : Environment) (file : Option String) :
    (load library calls env file).result =
      (library.buildAll calls env file).result.mapError Failure.settings := by
  unfold load
  dsimp only
  cases (library.buildAll calls env file).result <;> rfl

/-- No variable is called `TOKEN` in any letter case. -/
def TokenUnset (env : Environment) : Prop :=
  ∀ entry ∈ env, Text.lower entry.1 ≠ tokenField

instance (env : Environment) : Decidable (TokenUnset env) :=
  List.decidableBAll _ env

theorem TokenUnset.textOf? (h : TokenUnset env) : textOf? (variablesOf env) tokenField = none := by
  have hname : Text.lower tokenField = tokenField := by decide +kernel
  refine textOf?_eq_none ?_
  rw [hname]
  exact List.forall_mem_map.mpr h

theorem load_result_congr (hlibrary : library.Documented)
    (hown : ownVariables env = ownVariables other) (henv : TokenUnset env)
    (hother : TokenUnset other)
    (hread : ∀ name ∈ library.namesRead file, isOwn name = false →
      env.value? name = other.value? name) :
    (load library calls env file).result = (load library calls other file).result := by
  have hfile : ∀ name ∈ library.namesRead file, env.value? name = other.value? name := by
    intro name hname
    cases hisOwn : isOwn name with
    | true => exact value?_congr hown hisOwn
    | false => exact hread name hname hisOwn
  rw [load_result, load_result, hlibrary.factory henv.textOf?, hlibrary.factory hother.textOf?,
    hlibrary.buildTokens_congr hown hfile]

/-- Whichever library of settings there is, two environments without a variable called `TOKEN` in
any letter case give the same settings or the same error if they have the same variables of settings
and agree on the other names that the settings file reads for settings. So a variable that is none
of these makes no difference. -/
theorem settings_depend_on_own_variables (library : Library) (hlibrary : library.Documented)
    (calls : Nat) (file : Option String) :
    (∀ env other : Environment, ownVariables env = ownVariables other →
      TokenUnset env → TokenUnset other →
      (∀ name ∈ library.namesRead file, isOwn name = false →
        env.value? name = other.value? name) →
      (load library calls env file).result = (load library calls other file).result) ∧
    ∀ (before after : Environment) (name value : String), isOwn name = false →
      Text.lower name ≠ tokenField → name ∉ library.namesRead file →
      TokenUnset (before ++ after) →
      (load library calls (before ++ (name, value) :: after) file).result =
        (load library calls (before ++ after) file).result := by
  refine ⟨fun env other hown henv hother hread =>
    load_result_congr hlibrary hown henv hother hread, ?_⟩
  intro before after name value hname htoken hunread hothers
  obtain ⟨hbefore, hafter⟩ := List.forall_mem_append.mp hothers
  refine load_result_congr hlibrary ?_ ?_ hothers ?_
  · have hout : ¬ isOwn (name, value).1 = true := Bool.eq_false_iff.mp hname
    have hafter : ownVariables ((name, value) :: after) = ownVariables after :=
      List.filter_cons_of_neg hout
    have happend (after : Environment) :
        ownVariables (before ++ after) = ownVariables before ++ ownVariables after :=
      List.filter_append before after
    rw [happend, happend, hafter]
  · exact List.forall_mem_append.mpr ⟨hbefore, List.forall_mem_cons.mpr ⟨htoken, hafter⟩⟩
  · intro wanted hwanted _
    have hne : ¬ (name == wanted) = true := fun heq => hunread (beq_iff_eq.mp heq ▸ hwanted)
    have hafter : ((name, value) :: after).find? (fun entry => entry.1 == wanted) =
        after.find? fun entry => entry.1 == wanted := List.find?_cons_of_neg hne
    rw [Environment.value?, Environment.value?, Dictionary.get?, Dictionary.get?,
      List.find?_append, List.find?_append, hafter]

theorem documented_runningLibrary : runningLibrary.Documented :=
  Loader.documented _ _

theorem settings_depend_on_own_variables_in_builds :
    let file := "HUSKYCI_TOKEN_MAX_AGE_SECONDS=$\x7bAGE\x7d\nGREETING=$\x7bUSER\x7d\n"
    let env : Environment := [("HUSKYCI_TOKEN_BYTES", "64"), ("USER", "ci"), ("AGE", "60")]
    let other : Environment := [("AGE", "60"), ("PATH", "/bin"), ("HUSKYCI_TOKEN_BYTES", "64")]
    (load runningLibrary 0 env (some file)).result =
        (load runningLibrary 0 other (some file)).result ∧
      (load runningLibrary 0 env (some file)).result.isOk = true ∧
      (load runningLibrary 0 (("CI", "true") :: env) (some file)).result =
        (load runningLibrary 0 env (some file)).result := by
  intro file env other
  have henv : TokenUnset env := by decide +kernel
  have hother : TokenUnset other := by decide +kernel
  obtain ⟨hsame, hmore⟩ := settings_depend_on_own_variables runningLibrary
    documented_runningLibrary 0 (some file)
  refine ⟨hsame env other ?_ henv hother ?_, by decide +kernel,
    hmore [] env "CI" "true" ?_ ?_ ?_ henv⟩
  all_goals decide +kernel

/-- Other variables can make a difference: one that the settings file refers to, and one called
`TOKEN`. -/
theorem other_variables_make_a_difference :
    (¬ ∀ (library : Library) (calls : Nat) (env other : Environment) (text : String),
      library.Documented → ownVariables env = ownVariables other → TokenUnset env →
      TokenUnset other → (load library calls env (some text)).result =
        (load library calls other (some text)).result) ∧
    ¬ ∀ (library : Library) (calls : Nat) (env other : Environment),
      library.Documented → ownVariables env = ownVariables other →
      (load library calls env none).result = (load library calls other none).result := by
  constructor
  · intro h
    let text := "HUSKYCI_TOKEN_BYTES=$\x7bSIZE:-48\x7d"
    have hset : (load runningLibrary 0 [("SIZE", "64")] (some text)).result.toOption.map
        (fun settings => settings.token.tokenBytes) = some 64 := by
      decide +kernel
    have hunset : (load runningLibrary 0 [] (some text)).result.toOption.map
        (fun settings => settings.token.tokenBytes) = some 48 := by
      decide +kernel
    rw [h runningLibrary 0 [("SIZE", "64")] [] text documented_runningLibrary (by decide +kernel)
      (by decide +kernel) (by decide +kernel), hunset] at hset
    cases hset
  · intro h
    have hloads : (load runningLibrary 0 [] none).result.isOk = true := by decide +kernel
    have hfails : (load runningLibrary 0 [("TOKEN", "abc")] none).result.isOk = false := by
      decide +kernel
    rw [h runningLibrary 0 [] [("TOKEN", "abc")] documented_runningLibrary (by decide +kernel),
      hfails] at hloads
    cases hloads

end ScanAccess.Settings
