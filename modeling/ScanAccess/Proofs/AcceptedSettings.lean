import ScanAccess.Loader.Loading

/-! # Accepted settings

Settings are accepted only within their bounds, whichever source they come from: the values
of all sources pass the same check, and what is taken where no source is asked lies
within the bounds as well.
-/

namespace ScanAccess.Loader

open ScanAccess.Settings

variable {encodings : Encodings} {settings : TokenSettings}

/-! ## Checked values -/

/-- Where the item of a list stands makes no difference to whether it is a text. -/
theorem texts_place (place other : List Step) (index start : Nat) (items : List Node) :
    (texts place index items).2 = (texts other start items).2 ∧
      ((texts place index items).1 = [] ↔ (texts other start items).1 = []) := by
  induction items generalizing index start with
  | nil => exact ⟨rfl, Iff.rfl⟩
  | cons item rest ih =>
      obtain ⟨hstrings, hproblems⟩ := ih (index + 1) (start + 1)
      cases item <;> simp [texts, hstrings, hproblems]

theorem textList_of_place {place other : List Step} {value : Node} {strings : List String}
    (h : textList place value = .ok strings) : textList other value = .ok strings := by
  cases value with
  | array items =>
      obtain ⟨hstrings, hproblems⟩ := texts_place place other 0 0 items
      unfold textList at h ⊢
      cases hplace : texts place 0 items with
      | mk problems found =>
          cases hother : texts other 0 items with
          | mk problems' found' =>
              rw [hplace, hother] at hstrings hproblems
              cases hstrings
              simp only [hplace, hother] at h ⊢
              cases problems with
              | nil =>
                  cases hproblems.mp rfl
                  exact h
              | cons problem problems => cases h
  | _ => cases h

/-- Each accepted setting is what the value is converted to that is given for it, or its default
value. -/
theorem convert_of_check {given : Given} (h : check given = .ok settings) (field : Field) :
    match given field with
    | some value => convert field value = .value (valueOf settings field)
    | none => valueOf settings field = valueOf {} field := by
  unfold check at h
  dsimp only at h
  split at h
  next tokenBytes maxAgeSeconds repositories hbytes hage hrepositories =>
    cases h
    cases field with
    | tokenBytes =>
        cases hgiven : given .tokenBytes with
        | none =>
            rw [hgiven] at hbytes
            cases hbytes
            rfl
        | some value =>
            rw [hgiven] at hbytes
            simp only [convert, hbytes, valueOf]
    | maxAgeSeconds =>
        cases hgiven : given .maxAgeSeconds with
        | none =>
            rw [hgiven] at hage
            cases hage
            rfl
        | some value =>
            rw [hgiven] at hage
            simp only [convert, hage, valueOf]
    | repositories =>
        cases hgiven : given .repositories with
        | none =>
            rw [hgiven] at hrepositories
            cases hrepositories
            rfl
        | some value =>
            rw [hgiven] at hrepositories
            cases htexts : textList [.name Field.repositories.variable] value with
            | error problems =>
                simp only [htexts] at hrepositories
                cases hrepositories
            | ok strings =>
                simp only [htexts] at hrepositories
                cases hrepositories
                simp only [convert, textList_of_place htexts, valueOf]
  next => cases h

/-! ## Bounds -/

theorem le_of_integerBetween {low high n : Int} {value : Node}
    (h : integerBetween low high value = .ok n) : low ≤ n ∧ n ≤ high := by
  unfold integerBetween at h
  cases hinteger : integer value with
  | error reason =>
      rw [hinteger] at h
      cases h
  | ok m =>
      rw [hinteger] at h
      change (if m < low then _ else _) = _ at h
      split at h
      · cases h
      · split at h
        · cases h
        · cases h
          omega

theorem pos_of_positiveIfAny {n : Int} {value : Node} (h : positiveIfAny value = .ok (some n)) :
    0 < n := by
  unfold positiveIfAny at h
  split at h
  · cases h
  · cases hinteger : integer value with
    | error reason =>
        rw [hinteger] at h
        cases h
    | ok m =>
        rw [hinteger] at h
        change (if 0 < m then _ else _) = _ at h
        split at h
        · cases h
          assumption
        · cases h

/-- No value is converted to a number out of bounds. -/
theorem holds_of_convert {field : Field} {value : Node} {n : Int}
    (h : convert field value = .value (some (.number n))) :
    ∀ bound ∈ field.bounds, bound.holds n = true := by
  cases field with
  | tokenBytes =>
      simp only [convert] at h
      split at h
      next m hbetween =>
        cases h
        have hbounds := le_of_integerBetween hbetween
        simpa [Field.bounds, Bound.holds] using hbounds
      next => cases h
  | maxAgeSeconds =>
      simp only [convert] at h
      split at h
      next seconds hpositive =>
        cases seconds with
        | none => cases h
        | some m =>
            cases h
            simpa [Field.bounds, Bound.holds] using pos_of_positiveIfAny hpositive
      next => cases h
  | repositories =>
      simp only [convert] at h
      split at h <;> cases h

theorem withinBounds_default : WithinBounds {} := by
  intro field n hvalue
  cases field with
  | tokenBytes =>
      cases hvalue
      decide
  | maxAgeSeconds => cases hvalue
  | repositories => cases hvalue

theorem withinBounds_of_check {given : Given} (h : check given = .ok settings) :
    WithinBounds settings := by
  intro field n hvalue
  have hconvert := convert_of_check h field
  cases hgiven : given field with
  | none =>
      rw [hgiven] at hconvert
      exact withinBounds_default field n (hconvert.symm.trans hvalue)
  | some value =>
      rw [hgiven] at hconvert
      exact holds_of_convert (hconvert.trans (congrArg Conversion.value hvalue))

/-! ## All ways to load settings -/

theorem withinBounds_of_withoutSources {value : Node} (h : withoutSources value = .ok settings) :
    WithinBounds settings := by
  unfold withoutSources at h
  split at h
  · cases h
  · split at h
    · cases h
      exact withinBounds_default
    · split at h <;> cases h
  · split at h <;> cases h

/-- A result whose error is only named differently is the same where there is none. -/
theorem eq_ok_of_mapError {α ε ε' : Type} {result : Except ε α} {f : ε → ε'} {value : α}
    (h : result.mapError f = .ok value) : result = .ok value := by
  cases result with
  | error error => cases h
  | ok other =>
      cases h
      rfl

theorem withinBounds_of_loadTokenSettings {options : Options} {initial : Findings}
    {env : Environment} {file : Option String}
    (h : (loadTokenSettings options initial env file).result = .ok settings) :
    WithinBounds settings := by
  unfold loadTokenSettings at h
  split at h
  · cases h
  · dsimp only at h
    split at h
    · cases h
    · exact withinBounds_of_check (eq_ok_of_mapError h)

theorem withinBounds_of_loadByFields {room : Nat} {env : Environment} {file : Option String}
    {fields : OptionFields}
    (h : (loadByFields encodings room env file fields).result = .ok settings) :
    WithinBounds settings := by
  unfold loadByFields at h
  split at h
  · cases h
  · split at h
    · exact withinBounds_of_withoutSources h
    · exact withinBounds_of_loadTokenSettings h

theorem withinBounds_of_resolve {room : Nat} {env : Environment} {file : Option String}
    {value : Option Node} (h : (resolve encodings room env file value).result = .ok settings) :
    WithinBounds settings := by
  unfold resolve at h
  split at h
  · exact withinBounds_of_loadTokenSettings h
  · exact withinBounds_of_loadByFields (eq_ok_of_mapError h)
  · cases h

/-- Settings that were loaded are within their bounds. -/
theorem withinBounds_of_buildAll {limits : Limits} {calls : Nat} {env : Environment}
    {file : Option String} {all : AllSettings}
    (h : (buildAll encodings limits calls env file).result = .ok all) : WithinBounds all.token := by
  unfold buildAll at h
  split at h
  · cases h
  next value hvalue =>
    dsimp only at h
    cases hresult : (resolve encodings (limits.containers - (calls + limits.factoryCalls)) env file
        value).result with
    | error error =>
        rw [hresult] at h
        cases h
    | ok settings =>
        rw [hresult] at h
        cases h
        exact withinBounds_of_resolve hresult

end ScanAccess.Loader
