import Mathlib.Data.List.Induction
import ScanAccess.Proofs.AcceptedSettings
import ScanAccess.Proofs.LetterCase

/-! # The loader as a library of settings

The loader does what a library of settings documents, whatever encodings it knows and however much
room there is. Without an object of settings nothing is left of its options: the environment and
the settings file are searched for the names of settings in lower case, of two equal names the
last counts, and what else is in the file makes no difference.
-/

namespace ScanAccess

/-- The last value of a key is the one that stays. -/
theorem Dictionary.get?_ofList {κ α : Type} [BEq κ] [LawfulBEq κ] (entries : List (κ × α))
    (key : κ) : get? (ofList entries) key =
      ((entries.filter fun entry => entry.1 == key).getLast?).map Prod.snd := by
  induction entries using List.reverseRecOn with
  | nil => rfl
  | append_singleton entries entry ih =>
      have hput : ofList (entries ++ [entry]) = put entry.1 entry.2 (ofList entries) := by
        rw [ofList, List.foldl_append]
        rfl
      rw [hput, get?_put, List.filter_append, ih]
      cases hkey : entry.1 == key with
      | true => simp [hkey]
      | false => simp [hkey]

namespace Settings

/-- What variables give for all settings, with this for the list of repositories. -/
def givenWith (vars : Variables) (list : Option GivenValue) : Field → Option GivenValue :=
  fun field =>
    if field = .repositories then list else (textOf? vars field.variable).map .text

/-- Of all settings only the list of repositories can be unreadable. -/
theorem Library.gather_all (library : Library) (calls : Nat) (origin : Origin)
    (vars : Variables) : library.gather calls origin vars Field.all =
      (library.found calls origin vars .repositories).map (givenWith vars) := by
  have hfound (field : Field) (hfield : field.isCollection = false) :
      library.found calls origin vars field = .ok ((textOf? vars field.variable).map .text) := by
    rw [found]
    cases textOf? vars field.variable with
    | none => rfl
    | some text => simp [givenBy, hfield]
  simp only [Field.all, gather, hfound .tokenBytes rfl, hfound .maxAgeSeconds rfl]
  cases library.found calls origin vars .repositories with
  | error error => rfl
  | ok list =>
      refine congrArg Except.ok (funext fun field => ?_)
      cases field <;> rfl

end Settings

namespace Loader

open ScanAccess.Settings

variable {env : Environment} {vars : Variables}

/-! ## Variables that count -/

/-- The variables that count in a search without options. -/
def counted (vars : Variables) : Variables :=
  Dictionary.ofList (vars.map fun entry => (Text.lower entry.1, entry.2))

theorem counted_eq (room : Nat) (vars : Variables) :
    ({ room } : Options).counted vars = counted vars :=
  rfl

theorem get?_counted (vars : Variables) (name : String) :
    (Dictionary.get? (counted vars) (Text.lower name)).join = textOf? vars name := by
  have hfilter : (vars.map fun entry : String × Option String =>
      (Text.lower entry.1, entry.2)).filter (fun entry => entry.1 == Text.lower name) =
      (vars.filter fun entry => Text.lower entry.1 == Text.lower name).map
        fun entry => (Text.lower entry.1, entry.2) := List.filter_map
  rw [counted, Dictionary.get?_ofList, hfilter, List.getLast?_map, textOf?]
  cases (vars.filter fun entry => Text.lower entry.1 == Text.lower name).getLast? <;> rfl

theorem valueOf?_counted (room : Nat) (vars : Variables) (field : Field) :
    ({ room } : Options).valueOf? (counted vars) field.variable =
      (textOf? vars field.variable).map .string := by
  have hkey : ({ room } : Options).nameKey (({ room } : Options).variableName field.variable) =
      Text.lower field.variable := by
    simp [Options.nameKey, Options.variableName]
  rw [Options.valueOf?, hkey, get?_counted]
  rfl

/-- A name that counts is not how settings are spelled: it has no capital letters. -/
theorem ne_variable_of_mem_counted {entry : String × Option String} (h : entry ∈ counted vars)
    (field : Field) : entry.1 ≠ field.variable := by
  obtain ⟨own, -, rfl⟩ := List.mem_map.mp (Dictionary.mem_of_mem_ofList h)
  refine Text.lower_ne_of_capital ?_ ⟨'H', ?_, by decide⟩
  · cases field <;> simp [Field.variable]
  · cases field <;> simp [Field.variable]

/-! ## What sources give -/

/-- What is left over in a settings file is added without a change to the settings. -/
theorem exists_addLeftOver_eq_ok (room : Nat)
    (h : ∀ entry ∈ vars, ∀ field : Field, entry.1 ≠ field.variable) (found : Findings) :
    ∃ all, addLeftOver { room } vars found = .ok all ∧
      ∀ field : Field, Dictionary.get? all field.variable =
        Dictionary.get? found field.variable := by
  fun_induction addLeftOver { room } vars found with
  | case1 found => exact ⟨found, rfl, fun _ => rfl⟩
  | case2 name rest found ih => exact ih (List.forall_mem_cons.mp h).2
  | case3 name rest found ih => exact ih (List.forall_mem_cons.mp h).2
  | case4 name rest found text htext hlabel hskip ih => exact ih (List.forall_mem_cons.mp h).2
  | case5 name rest found text htext hlabel hskip kind hopening => cases hopening
  | case6 name rest found text htext label hskip opening hopening start plain ih =>
      obtain ⟨hname, hrest⟩ := List.forall_mem_cons.mp h
      obtain ⟨all, hall, hsame⟩ := ih hrest
      have hplain : plain = name := by
        cases hopening
        exact String.ofList_toList
      refine ⟨all, hall, fun field => (hsame field).trans ?_⟩
      rw [hplain, Dictionary.get?_put, if_neg fun heq => hname field (beq_iff_eq.mp heq)]

/-- What the sources of a search without options come to, by what the environment and the
settings file give. -/
def checkFound (environment file : Findings) : Except Error TokenSettings :=
  checkSources [(.initial, []), (.environment, environment), (.file, file), (.secrets, []),
    (.defaults, [])]

theorem checkFound_congr (environment : Findings) {found all : Findings}
    (h : ∀ field : Field, Dictionary.get? all field.variable =
      Dictionary.get? found field.variable) :
    checkFound environment all = checkFound environment found := by
  have hgiven (sources : List Findings) :
      Findings.given ([[], environment, all] ++ sources) =
        Findings.given ([[], environment, found] ++ sources) := by
    funext field
    simp only [Findings.given, List.cons_append, List.findSome?_cons, h field]
  exact congrArg (fun given => (check given).mapError Error.invalid) (hgiven [[], []])

/-- A settings file adds nothing to the settings but what its variables for them give. -/
theorem fromFile_bind_checkFound (room : Nat) (environment : Findings) (bindings : Variables) :
    (fromFile { room } bindings >>= checkFound environment) =
      fromVariables { room } .file (counted bindings) >>= checkFound environment := by
  rw [fromFile, counted_eq]
  cases hfound : fromVariables { room } .file (counted bindings) with
  | error error => rfl
  | ok found =>
      obtain ⟨all, hall, hsame⟩ := exists_addLeftOver_eq_ok room
        (fun entry hmem => ne_variable_of_mem_counted hmem) found
      change (addLeftOver { room } (counted bindings) found >>= checkFound environment) = _
      rw [hall]
      exact checkFound_congr environment hsame

/-- The value of the list of repositories in a source. -/
def listIn (room : Nat) (source : Source) (vars : Variables) : Except Error (Option Node) :=
  match textOf? vars Field.repositories.variable with
  | some text => jsonValue { room } Field.repositories.label source text
  | none => .ok none

/-- What a source gives with this value of the list. -/
def givenIn (vars : Variables) (list : Option Node) : Given := fun field =>
  if field = .repositories then list else (textOf? vars field.variable).map .string

/-- Without options the list has no parts of its own. -/
theorem repositoriesBy_counted (room : Nat) (source : Source) (vars : Variables) :
    repositoriesBy { room } source (counted vars) = listIn room source vars := by
  rw [repositoriesBy, listIn, valueOf?_counted]
  cases textOf? vars Field.repositories.variable with
  | none => rfl
  | some text =>
      simp only [Option.map_some, repositoriesValue]
      cases jsonValue { room } Field.repositories.label source text with
      | error error => rfl
      | ok value =>
          cases value with
          | none => rfl
          | some value =>
              cases value with
              | object fields =>
                  -- An object is left as it is, since there are no parts to be added.
                  change Except.ok (some (Node.object (addFields fields []))) = _
                  rw [addFields]
              | _ => rfl

theorem fromVariables_eq (room : Nat) (source : Source) (vars : Variables) :
    fromVariables { room } source (counted vars) =
      (listIn room source vars).map fun list => Findings.ofGiven (givenIn vars list) := by
  simp only [fromVariables, repositoriesBy_counted, valueOf?_counted]
  rfl

theorem variable_beq (field other : Field) :
    (field.variable == other.variable) = decide (field = other) := by
  cases field <;> cases other <;> decide

theorem get?_ofGiven (given : Given) (field : Field) :
    Dictionary.get? (Findings.ofGiven given) field.variable = given field := by
  rw [Dictionary.get?, Findings.ofGiven, List.find?_filterMap]
  simp only [Option.any_map, variable_beq]
  cases hgiven : given field <;> cases field <;> simp [Field.all, hgiven]

theorem checkFound_ofGiven (given other : Given) :
    checkFound (Findings.ofGiven given) (Findings.ofGiven other) =
      (check fun field => (given field).or (other field)).mapError Error.invalid := by
  have hgiven : Findings.given [[], Findings.ofGiven given, Findings.ofGiven other, [], []] =
      fun field => (given field).or (other field) := by
    funext field
    simp only [Findings.given, List.findSome?_cons, get?_ofGiven]
    cases given field <;> cases other field <;> rfl
  exact congrArg (fun given => (check given).mapError Error.invalid) hgiven

/-! ## Two sources -/

/-- What is loaded from two sources: the list is read in both, and what counts is checked. -/
def outcome (room : Nat) (env file : Variables) : Except Error TokenSettings := do
  let inEnvironment ← listIn room .environment env
  let inFile ← listIn room .file file
  (check fun field => (givenIn env inEnvironment field).or (givenIn file inFile field)).mapError
    Error.invalid

/-- Without options, loading is reading the environment and the settings file. -/
theorem tokenSettings_result (encodings : Encodings) (limits : Limits) (room : Nat)
    (env : Environment) (file : Option String) :
    (tokenSettings room env file).result =
      outcome room (variablesOf env) ((library encodings limits).fileVariables env file) := by
  have hread : (readFiles { room } env file [FileStep.settingsFile]).error = none ∧
      (readFiles { room } env file [FileStep.settingsFile]).bindings =
        (library encodings limits).fileVariables env file := by
    cases file with
    | none => exact ⟨rfl, rfl⟩
    | some text => exact ⟨rfl, List.append_nil _⟩
  have hsources : (tokenSettings room env file).result =
      (readSources { room } [] env file.isSome
        (readFiles { room } env file [FileStep.settingsFile]) >>= checkSources) := by
    rw [tokenSettings, loadTokenSettings]
    dsimp only
    cases readSources { room } [] env file.isSome
      (readFiles { room } env file [FileStep.settingsFile]) <;> rfl
  have henvironment : fromEnvironment { room } env =
      fromVariables { room } .environment (counted (variablesOf env)) := rfl
  have hsearch : (tokenSettings room env file).result =
      (fromEnvironment { room } env >>= fun environment =>
        fromFile { room } ((library encodings limits).fileVariables env file) >>=
          checkFound environment) := by
    rw [hsources, readSources, hread.1, hread.2]
    cases fromEnvironment { room } env with
    | error error => rfl
    | ok environment =>
        cases fromFile { room } ((library encodings limits).fileVariables env file) with
        | error error => rfl
        | ok found =>
            -- A file is refused only where secrets are looked for in it, which takes an option.
            cases file <;> rfl
  simp only [hsearch, fromFile_bind_checkFound, henvironment, fromVariables_eq, outcome]
  cases listIn room .environment (variablesOf env) with
  | error error => rfl
  | ok inEnvironment =>
      cases listIn room .file ((library encodings limits).fileVariables env file) with
      | error error => rfl
      | ok inFile => exact checkFound_ofGiven _ _

variable (encodings : Encodings) (limits : Limits) {calls : Nat}

theorem validate_library (given : Field → Option GivenValue) :
    (library encodings limits).validate given =
      (check fun field => (given field).map nodeOf).mapError fun problems =>
        (Error.invalid problems).report :=
  rfl

/-- The list is read as the library says. -/
theorem mapError_listIn (origin : Origin) (vars : Variables) :
    (listIn (limits.containers - calls) (sourceOf origin) vars).mapError Error.report =
      ((library encodings limits).found calls origin vars .repositories).map
        (Option.map nodeOf) := by
  rw [listIn, Library.found]
  cases textOf? vars Field.repositories.variable with
  | none => rfl
  | some text =>
      have hnesting : (library encodings limits).nesting origin calls =
          maxNesting { room := limits.containers - calls } (sourceOf origin) := rfl
      have hcollection : Field.repositories.isCollection = true := rfl
      dsimp only
      rw [jsonValue, Library.givenBy, hnesting, if_pos hcollection]
      cases Json.read (maxNesting { room := limits.containers - calls } (sourceOf origin)) text with
      | error error =>
          cases error with
          | malformed => rfl
          | tooDeep container => cases container <;> rfl
      | ok value => cases value <;> rfl

/-- The list is unreadable for the loader exactly where it is for the library, and else both read
the same. -/
theorem listIn_cases (origin : Origin) (vars : Variables) :
    (∃ error, listIn (limits.containers - calls) (sourceOf origin) vars = .error error ∧
      (library encodings limits).found calls origin vars .repositories = .error error.report) ∨
    ∃ list, listIn (limits.containers - calls) (sourceOf origin) vars =
        .ok (Option.map nodeOf list) ∧
      (library encodings limits).found calls origin vars .repositories = .ok list := by
  have hmap := @mapError_listIn encodings limits calls origin vars
  cases hread : listIn (limits.containers - calls) (sourceOf origin) vars with
  | error error =>
      rw [hread] at hmap
      cases hfound : (library encodings limits).found calls origin vars .repositories with
      | error other =>
          rw [hfound] at hmap
          exact .inl ⟨error, rfl, congrArg Except.error (Except.error.inj hmap).symm⟩
      | ok list =>
          rw [hfound] at hmap
          cases hmap
  | ok value =>
      rw [hread] at hmap
      cases hfound : (library encodings limits).found calls origin vars .repositories with
      | error other =>
          rw [hfound] at hmap
          cases hmap
      | ok list =>
          rw [hfound] at hmap
          exact .inr ⟨list, congrArg Except.ok (Except.ok.inj hmap), rfl⟩

theorem givenIn_map (vars : Variables) (list : Option GivenValue) :
    givenIn vars (list.map nodeOf) = fun field => (givenWith vars list field).map nodeOf := by
  funext field
  rw [givenIn, givenWith]
  split
  · rfl
  · cases textOf? vars field.variable <;> rfl

theorem mapError_outcome (env file : Variables) :
    (outcome (limits.containers - calls) env file).mapError Error.report =
      (library encodings limits).fromSources calls env file := by
  rw [outcome, Library.fromSources, Library.gather_all, Library.gather_all]
  rcases @listIn_cases encodings limits calls .environment env with
    ⟨error, hread, hfound⟩ | ⟨inEnvironment, hread, hfound⟩
  · rw [sourceOf] at hread
    rw [hread, hfound]
    rfl
  rw [sourceOf] at hread
  rcases @listIn_cases encodings limits calls .file file with
    ⟨error, hreadFile, hfoundFile⟩ | ⟨inFile, hreadFile, hfoundFile⟩
  · rw [sourceOf] at hreadFile
    rw [hread, hfound, hreadFile, hfoundFile]
    rfl
  rw [sourceOf] at hreadFile
  rw [hread, hfound, hreadFile, hfoundFile]
  have hall : (fun field : Field =>
      (givenIn env (inEnvironment.map nodeOf) field).or (givenIn file (inFile.map nodeOf) field)) =
      fun field =>
        ((givenWith env inEnvironment field).or (givenWith file inFile field)).map nodeOf := by
    funext field
    rw [givenIn_map, givenIn_map, Option.map_or]
  change ((check fun field => (givenIn env (inEnvironment.map nodeOf) field).or
    (givenIn file (inFile.map nodeOf) field)).mapError Error.invalid).mapError Error.report =
      (library encodings limits).validate fun field =>
        (givenWith env inEnvironment field).or (givenWith file inFile field)
  rw [hall, validate_library]
  cases check fun field =>
    ((givenWith env inEnvironment field).or (givenWith file inFile field)).map nodeOf <;> rfl

/-! ## What is documented -/

theorem tokenValue_eq_none (room : Nat) (h : textOf? (variablesOf env) tokenField = none) :
    tokenValue room env = .ok none := by
  have hname : Text.lower tokenField = tokenField := by decide +kernel
  have hcounts := get?_counted (variablesOf env) tokenField
  rw [hname, h, variablesOf] at hcounts
  rw [tokenValue, counted_eq, hcounts]
  rfl

/-- The loader does what a library of settings documents. -/
theorem documented (encodings : Encodings) (limits : Limits) :
    (library encodings limits).Documented where
  sources {calls env file} := by
    rw [← mapError_outcome, ← tokenSettings_result]
    rfl
  values {given settings} h field := by
    have hconvert := convert_of_check (eq_ok_of_mapError h) field
    cases hgiven : given field with
    | none =>
        rw [hgiven] at hconvert
        exact hconvert
    | some value =>
        rw [hgiven] at hconvert
        exact hconvert
  bounds := withinBounds_of_buildAll
  factory {calls env file} h := by
    have hbuild : ((library encodings limits).buildAll calls env file).result =
        (buildAll encodings limits calls env file).result := rfl
    rw [hbuild, buildAll, tokenValue_eq_none _ h]
    rfl
  nesting_le {origin calls more} := by
    simp only [library, maxNesting]
    omega
  spelling _ := rfl

end Loader

end ScanAccess
