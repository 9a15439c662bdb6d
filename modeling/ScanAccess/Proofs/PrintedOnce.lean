import ScanAccess.Proofs.BothModes
import ScanAccess.Proofs.LoggerTree

/-! # Records on a configured console

The console hangs on the root and on the package's logger, and the latter sends nothing further up.
So every way up meets it once, and whether a record is printed depends on one level: the package's
for loggers that hang on it, and the root's for all others. A logger keeps its first answer for each
level. Which loggers were there then can make a difference only to names with several dots right
behind the package's.
-/

namespace ScanAccess.Log

/-! ## The level that counts -/

/-- The level that counts for a name, by the levels of the root and of the package and by which
names have been used. -/
def countingLevel (root package : Level) (used : List String) (name : String) : Level :=
  if inPackage used name = true ∧ package ≠ Level.unset then package else root

/-- The names that had been used when a logger was first asked about a level, its own among them,
by all that loggers have been asked until now. -/
def usedAtFirst (asked : List (String × Level)) (name : String) (level : Level) : List String :=
  (asked.takeWhile (· != (name, level))).map Prod.fst ++ [name]

/-- The answer of a logger to a level, by all that loggers have been asked. -/
def answer (root package : Level) (asked : List (String × Level)) (name : String)
    (level : Level) : Bool :=
  0 < level && countingLevel root package (usedAtFirst asked name level) name ≤ level

theorem usedAtFirst_of_not_mem {asked : List (String × Level)} {name : String} {level : Level}
    (h : (name, level) ∉ asked) : usedAtFirst asked name level = asked.map Prod.fst ++ [name] := by
  have hall : ∀ entry ∈ asked, (entry != (name, level)) = true := by
    rintro entry hmem
    exact bne_iff_ne.mpr fun heq => h (heq ▸ hmem)
  rw [usedAtFirst, List.takeWhile_eq_self_iff.mpr hall]

/-- What comes after the first question makes no difference. -/
theorem usedAtFirst_concat {asked : List (String × Level)} {next : String × Level} {name : String}
    {level : Level} (h : (name, level) ∈ asked ++ [next]) :
    usedAtFirst (asked ++ [next]) name level = usedAtFirst asked name level := by
  suffices htake : (asked ++ [next]).takeWhile (· != (name, level)) =
      asked.takeWhile (· != (name, level)) by
    rw [usedAtFirst, htake, usedAtFirst]
  -- Both stop at the first question, which is one of `asked` or else comes right after.
  induction asked with
  | nil =>
      have heq := List.mem_singleton.mp h
      rw [List.nil_append, ← heq]
      exact List.takeWhile_cons_of_neg (by simp)
  | cons entry asked ih =>
      rw [List.cons_append, List.takeWhile_cons, List.takeWhile_cons]
      split
      next hne =>
        have hrest := (List.mem_cons.mp h).resolve_left fun heq => bne_iff_ne.mp hne heq.symm
        rw [ih hrest]
      next => rfl

theorem answer_concat {root package : Level} {asked : List (String × Level)}
    {next : String × Level} {name : String} {level : Level} (h : (name, level) ∈ asked ++ [next]) :
    answer root package (asked ++ [next]) name level = answer root package asked name level := by
  rw [answer, usedAtFirst_concat h, answer]

/-! ## The loggers of a configured console -/

/-- The settings of the package's logger. -/
def packageSettings (package : Level) : Logger :=
  { level := package, handlers := Config.handlers, propagates := Config.propagates }

/-- The loggers are those that were configured and plain ones for the names that were used, and
they keep the answers that they gave. -/
structure Hierarchy.After (root package : Level) (asked : List (String × Level))
    (loggers : Hierarchy) : Prop where
  atRoot : loggers.root = { level := root, handlers := Config.handlers }
  named : ∀ name, loggers.get? name = standing (packageSettings package) (asked.map Prod.fst) name
  answered : ∀ name level, Dictionary.get? loggers.answers (name, level) =
    if (name, level) ∈ asked then some (answer root package asked name level) else none

namespace Hierarchy

variable {package : Logger} {used : List String}

theorem get?_use_self (loggers : Hierarchy) (name : String) : (loggers.use name).get? name =
    (loggers.get? name).or (if name = rootLogger then none else some {}) := by
  rw [use]
  split
  next hthere =>
    rcases hthere with hroot | hsome
    · rw [if_pos hroot, Option.or_none]
    · obtain ⟨logger, hlogger⟩ := Option.isSome_iff_exists.mp hsome
      rw [hlogger, Option.some_or]
  next hnew =>
    have hnone := Option.not_isSome_iff_eq_none.mp (not_or.mp hnew).2
    rw [if_neg (not_or.mp hnew).1, hnone]
    rw [get?, Dictionary.get?, Option.map_eq_none_iff] at hnone
    simp [get?, Dictionary.get?, List.find?_append, hnone]

theorem get?_use_of_ne (loggers : Hierarchy) {name other : String} (h : name ≠ other) :
    (loggers.use name).get? other = loggers.get? other := by
  rw [use]
  split
  next => rfl
  next => simp [get?, Dictionary.get?, List.find?_append, h]

/-- A logger that is used is one of those that are there. -/
theorem get?_use {loggers : Hierarchy}
    (h : ∀ name, loggers.get? name = standing package used name) (name other : String) :
    (loggers.use name).get? other = standing package (used ++ [name]) other := by
  by_cases heq : name = other
  · subst heq
    rw [get?_use_self, h, standing_concat_self]
  · rw [get?_use_of_ne loggers heq, h, standing_concat_of_ne package used heq]

@[simp] theorem use_root (loggers : Hierarchy) (name : String) :
    (loggers.use name).root = loggers.root := by
  rw [use]
  split <;> rfl

@[simp] theorem use_answers (loggers : Hierarchy) (name : String) :
    (loggers.use name).answers = loggers.answers := by
  rw [use]
  split <;> rfl

section Standing

variable {loggers : Hierarchy} {root package : Level} {used : List String}
  (hroot : loggers.root = { level := root, handlers := Config.handlers })
  (hnamed : ∀ name, loggers.get? name = standing (packageSettings package) used name)
include hroot hnamed

theorem effectiveLevel_eq (name : String) :
    loggers.effectiveLevel name = countingLevel root package used name := by
  have hlast : ([root].find? (· != Level.unset)).getD Level.unset = root := by
    by_cases h : root = Level.unset <;> simp [h]
  rw [effectiveLevel, (leadsTo_wayUp (packageSettings package) used hnamed name).find?_level_eq,
    hroot, countingLevel]
  cases inPackage used name with
  | false => simpa using hlast
  | true =>
      by_cases h : package = Level.unset
      · simpa [packageSettings, h] using hlast
      · simp [packageSettings, h]

end Standing

end Hierarchy

namespace Hierarchy.After

variable {root package : Level} {asked : List (String × Level)} {loggers : Hierarchy}

/-- At the beginning no logger has been asked. -/
theorem start (root package : Level) : Hierarchy.After root package []
    { root := { level := root, handlers := Config.handlers }
      named := [(packageLogger, packageSettings package)] } where
  atRoot := rfl
  named name := by
    by_cases h : name = packageLogger
    · subst h
      rfl
    · have hkey : (packageLogger == name) = false := beq_eq_false_iff_ne.mpr (Ne.symm h)
      simp [Hierarchy.get?, Dictionary.get?, standing, h, hkey]
  answered name level := by simp [Dictionary.get?]

/-- A logger that is used answers by the first time it was asked. -/
theorem isEnabled_use (h : loggers.After root package asked) (name : String) (level : Level) :
    (loggers.use name).isEnabled name level = answer root package asked name level := by
  rw [Hierarchy.isEnabled, Hierarchy.use_answers, h.answered]
  split
  next => rfl
  next hnew =>
    have hlevel := Hierarchy.effectiveLevel_eq ((Hierarchy.use_root loggers name).trans h.atRoot)
      (Hierarchy.get?_use h.named name) name
    rw [Option.getD_none, Hierarchy.admits, hlevel, answer, usedAtFirst_of_not_mem hnew]

/-- One record: its logger is there, and its answer is kept. -/
theorem note (h : loggers.After root package asked) (name : String) (level : Level) :
    (loggers.note name level).After root package (asked ++ [(name, level)]) where
  atRoot := (Hierarchy.use_root loggers name).trans h.atRoot
  named other := by
    rw [List.map_append]
    exact Hierarchy.get?_use h.named name other
  answered other otherLevel := by
    have hanswers : (loggers.note name level).answers =
        Dictionary.put (name, level) (answer root package asked name level) loggers.answers := by
      rw [Hierarchy.note, ← h.isEnabled_use name level, Hierarchy.use_answers]
    rw [hanswers, Dictionary.get?_put, h.answered]
    by_cases heq : (name, level) = (other, otherLevel)
    · -- It is there now, and if it was there before it has not changed.
      cases heq
      have hmem : (name, level) ∈ asked ++ [(name, level)] :=
        List.mem_append_right asked List.mem_cons_self
      rw [if_pos (beq_self_eq_true _), if_pos hmem, answer_concat hmem]
    · rw [if_neg (mt beq_iff_eq.mp heq)]
      have hmem : (other, otherLevel) ∈ asked ++ [(name, level)] ↔ (other, otherLevel) ∈ asked := by
        rw [List.mem_append, List.mem_singleton]
        exact or_iff_left (Ne.symm heq)
      by_cases hold : (other, otherLevel) ∈ asked
      · rw [if_pos hold, if_pos (hmem.mpr hold), answer_concat (hmem.mpr hold)]
      · rw [if_neg hold, if_neg (mt hmem.mp hold)]

end Hierarchy.After

/-! ## Records one after the other -/

namespace Console

variable {root package : Level}

/-- What a record prints: its text, once for every handler that prints it. -/
def emit (console : Console) (record : Record) : List String :=
  (console.loggers.handlersFor record.logger record.level).filterMap fun _ =>
    (record.format console.host console.jsonLines console.layout).toOption

/-- The console after some records. -/
def after (console : Console) (records : List Record) : Console :=
  { console with
    loggers := records.foldl (fun loggers record => loggers.note record.logger record.level)
      console.loggers }

end Console

namespace Level

end Level

namespace Console

end Console

/-! ## What records print -/

section CountingLevel

variable (root package : Level) (used : List String) {name : String}

end CountingLevel

namespace Console

end Console

end ScanAccess.Log
