import Mathlib.Data.List.TakeWhile
import ScanAccess.Log.Console

/-! # Names below the package

A logger hangs on the package's if its name is the package's name, one dot, and anything that does
not begin with a dot. Behind more dots it depends: of two adjacent dots only the later one
separates, unless the name up to the first of them has been used for a logger. All other loggers
hang on the root. In between there are only loggers that were used and have no settings of their
own.
-/

namespace ScanAccess.Log

/-! ## Dots behind the package's name -/

/-- The package's name with so many dots behind it. -/
def dotted (dots : Nat) : List Char :=
  packageLogger.toList ++ List.replicate dots '.'

/-- So many dots stand behind the package's name, and then something other than a dot or nothing. -/
def Below (dots : Nat) (name : String) : Prop :=
  ∃ rest : List Char, rest.head? ≠ some '.' ∧ name.toList = dotted dots ++ rest

/-- The number of dots behind the package's name, if a name begins with it. -/
def dotsBehind (name : String) : Nat :=
  if packageLogger.toList.isPrefixOf name.toList then
    ((name.toList.drop packageLogger.toList.length).takeWhile (· == '.')).length
  else 0

/-- Whether the way up from behind so many dots leads over the package's logger, by which names
with fewer dots have been used. -/
def leadsToPackage (used : Nat → Bool) : Nat → Bool
  | 0 => false
  | 1 => true
  | dots + 2 =>
    if used (dots + 1) then leadsToPackage used (dots + 1) else leadsToPackage used dots

/-- Whether the package's name with so many dots behind it has been used. -/
def usesDotted (used : List String) (dots : Nat) : Bool :=
  used.contains (String.ofList (dotted dots))

/-- Whether a logger hangs on the package's, by which names have been used. -/
def inPackage (used : List String) (name : String) : Bool :=
  name == packageLogger || leadsToPackage (usesDotted used) (dotsBehind name)

theorem dotsBehind_of_below {dots : Nat} {name : String} (h : Below dots name) :
    dotsBehind name = dots := by
  obtain ⟨rest, hrest, hname⟩ := h
  have hstop : rest.takeWhile (· == '.') = [] := by
    cases rest with
    | nil => rfl
    | cons c rest =>
        have hc : ¬ (c == '.') = true := fun heq => hrest (congrArg some (beq_iff_eq.mp heq))
        exact List.takeWhile_cons_of_neg hc
  have hdots : ∀ c ∈ List.replicate dots '.', (c == '.') = true := by
    intro c hc
    rw [List.eq_of_mem_replicate hc]
    rfl
  have hstart : packageLogger.toList.isPrefixOf name.toList = true := by
    rw [hname, dotted, List.append_assoc]
    exact List.isPrefixOf_iff_prefix.mpr (List.prefix_append _ _)
  rw [dotsBehind, if_pos hstart, hname, dotted, List.append_assoc, List.drop_left,
    List.takeWhile_append_of_pos hdots, hstop, List.append_nil, List.length_replicate]

theorem below_dotsBehind {name : String} (h : packageLogger.toList <+: name.toList) :
    Below (dotsBehind name) name := by
  obtain ⟨tail, htail⟩ := h
  have hstart : packageLogger.toList.isPrefixOf name.toList = true :=
    List.isPrefixOf_iff_prefix.mpr ⟨tail, htail⟩
  have hdots : List.replicate (tail.takeWhile (· == '.')).length '.' =
      tail.takeWhile (· == '.') := by
    refine (List.eq_replicate_of_mem fun c hc => ?_).symm
    have hdot := List.mem_takeWhile_imp hc
    exact beq_iff_eq.mp hdot
  refine ⟨tail.dropWhile (· == '.'), fun hhead => ?_, ?_⟩
  · have hnot := List.head?_dropWhile_not (· == '.') tail
    rw [hhead] at hnot
    contradiction
  · rw [dotsBehind, if_pos hstart, ← htail, List.drop_left, dotted, hdots, List.append_assoc,
      List.takeWhile_append_dropWhile]

/-- A name with a dot behind the package's name is one with some number of dots there. -/
theorem dotsBehind_pos_iff {name : String} :
    0 < dotsBehind name ↔ dotted 1 <+: name.toList := by
  constructor
  · intro hpos
    have hstart : packageLogger.toList <+: name.toList := by
      by_contra hnot
      rw [dotsBehind, if_neg (mt List.isPrefixOf_iff_prefix.mp hnot)] at hpos
      contradiction
    obtain ⟨rest, -, hname⟩ := below_dotsBehind hstart
    obtain ⟨dots, hdots⟩ := Nat.exists_eq_succ_of_ne_zero (Nat.ne_of_gt hpos)
    refine ⟨List.replicate dots '.' ++ rest, ?_⟩
    rw [hname, hdots, dotted, dotted, List.replicate_succ, List.append_assoc, List.append_assoc]
    rfl
  · intro hdot
    obtain ⟨rest, hrest, hname⟩ := below_dotsBehind ((List.prefix_append _ _).trans hdot)
    refine Nat.pos_of_ne_zero fun hzero => hrest ?_
    rw [hname, hzero, dotted, dotted, List.replicate_zero, List.append_nil,
      List.prefix_append_right_inj] at hdot
    obtain ⟨tail, rfl⟩ := hdot
    rfl

theorem inPackage_of_below {dots : Nat} {name : String} (used : List String) (h : Below dots name)
    (hdots : 0 < dots) : inPackage used name = leadsToPackage (usesDotted used) dots := by
  have hne : name ≠ packageLogger := by
    obtain ⟨rest, -, hname⟩ := h
    rintro rfl
    have hlength := congrArg List.length hname
    simp only [dotted, List.length_append, List.length_replicate] at hlength
    omega
  rw [inPackage, beq_eq_false_iff_ne.mpr hne, Bool.false_or, dotsBehind_of_below h]

theorem inPackage_of_not_dotted {name : String} (used : List String) (hne : name ≠ packageLogger)
    (h : ¬ dotted 1 <+: name.toList) : inPackage used name = false := by
  have hzero : dotsBehind name = 0 := Nat.eq_zero_of_not_pos (mt dotsBehind_pos_iff.mp h)
  rw [inPackage, beq_eq_false_iff_ne.mpr hne, Bool.false_or, hzero]
  rfl

theorem inPackage_package (used : List String) : inPackage used packageLogger = true := by
  rw [inPackage, beq_self_eq_true, Bool.true_or]

/-! ## The way up -/

/-- The loggers that there are under names: the package's, and plain ones where names have been
used. The root is not one of them. -/
def standing (package : Logger) (used : List String) (name : String) : Option Logger :=
  if name = packageLogger then some package
  else if name ≠ rootLogger ∧ name ∈ used then some {} else none

/-- A name that is used has a logger from then on, unless it is the root's. -/
theorem standing_concat_self (package : Logger) (used : List String) (name : String) :
    standing package (used ++ [name]) name =
      (standing package used name).or (if name = rootLogger then none else some {}) := by
  have hmem : name ∈ used ++ [name] := List.mem_append_right used List.mem_cons_self
  rw [standing, standing]
  by_cases hpackage : name = packageLogger
  · rw [if_pos hpackage, if_pos hpackage, Option.some_or]
  · rw [if_neg hpackage, if_neg hpackage]
    by_cases hroot : name = rootLogger
    · simp [hroot]
    · simp only [ne_eq, hroot, not_false_eq_true, true_and, if_pos hmem, if_false]
      split <;> rfl

theorem standing_concat_of_ne (package : Logger) (used : List String) {name other : String}
    (h : name ≠ other) : standing package (used ++ [name]) other = standing package used other := by
  have hmem : other ∈ used ++ [name] ↔ other ∈ used := by
    rw [List.mem_append, List.mem_singleton]
    exact or_iff_left (Ne.symm h)
  simp only [standing, hmem]

/-- Plain loggers, and then certain ones. -/
def LeadsTo (tail found : List Logger) : Prop :=
  ∃ plain : List Logger, (∀ logger ∈ plain, logger = {}) ∧ found = plain ++ tail

namespace LeadsTo

variable {tail found : List Logger}

theorem refl (tail : List Logger) : LeadsTo tail tail :=
  ⟨[], by simp, rfl⟩

theorem cons (h : LeadsTo tail found) : LeadsTo tail ({} :: found) := by
  obtain ⟨plain, hplain, rfl⟩ := h
  exact ⟨{} :: plain, List.forall_mem_cons.mpr ⟨rfl, hplain⟩, rfl⟩

theorem append (h : LeadsTo tail found) (more : List Logger) :
    LeadsTo (tail ++ more) (found ++ more) := by
  obtain ⟨plain, hplain, rfl⟩ := h
  exact ⟨plain, hplain, List.append_assoc _ _ _⟩

/-- Plain loggers have no level of their own. -/
theorem find?_level_eq (h : LeadsTo tail found) :
    (found.map Logger.level).find? (· != Level.unset) =
      (tail.map Logger.level).find? (· != Level.unset) := by
  obtain ⟨plain, hplain, rfl⟩ := h
  induction plain with
  | nil => rfl
  | cons logger plain ih =>
      obtain ⟨rfl, hrest⟩ := List.forall_mem_cons.mp hplain
      exact ih hrest

end LeadsTo

section WayUp

variable (package : Logger) (used : List String)

/-- The loggers above a name that is written backwards. -/
def aboveReversed (cs : List Char) : List Logger :=
  loggersAbove (fun above => standing package used (String.ofList above.reverse)) cs

/-- The package's name, backwards. -/
def reversedPackage : List Char := packageLogger.toList.reverse

theorem standing_reversed_or {cs : List Char} (h : cs ≠ reversedPackage) :
    standing package used (String.ofList cs.reverse) = none ∨
      standing package used (String.ofList cs.reverse) = some {} := by
  have hne : String.ofList cs.reverse ≠ packageLogger := by
    rintro heq
    refine h ?_
    rw [reversedPackage, ← heq, String.toList_ofList, List.reverse_reverse]
  rw [standing, if_neg hne]
  split
  · exact Or.inr rfl
  · exact Or.inl rfl

variable {package used} in
theorem aboveReversed_of_some {c : Char} {rest : List Char} {logger : Logger}
    (h : standing package used (String.ofList (c :: rest).reverse) = some logger) :
    aboveReversed package used ('.' :: c :: rest) =
      logger :: aboveReversed package used (c :: rest) := by
  simp only [aboveReversed, loggersAbove, h]

variable {package used} in
theorem aboveReversed_of_none {c : Char} {rest : List Char}
    (h : standing package used (String.ofList (c :: rest).reverse) = none) :
    aboveReversed package used ('.' :: c :: rest) = aboveReversed package used rest := by
  simp only [aboveReversed, loggersAbove, h]

variable {package used} in
theorem aboveReversed_of_ne {c : Char} (h : c ≠ '.') (rest : List Char) :
    aboveReversed package used (c :: rest) = aboveReversed package used rest := by
  simp [aboveReversed, loggersAbove, h]

/-- Without the package's name and a dot at its front, a name has only plain loggers above. -/
theorem leadsTo_nil {cs : List Char} (h : ¬ '.' :: reversedPackage <:+ cs) :
    LeadsTo [] (aboveReversed package used cs) := by
  unfold aboveReversed
  fun_induction loggersAbove (fun above => standing package used (String.ofList above.reverse)) cs
  with
  | case1 => exact .refl []
  | case2 c rest logger hfind ih =>
      -- The logger is not the package's, since a dot follows its name.
      have hne : c :: rest ≠ reversedPackage := by
        rintro heq
        exact h (heq ▸ List.suffix_rfl)
      have hinner := ih fun hsuffix => h (hsuffix.trans (List.suffix_cons _ _))
      rcases standing_reversed_or package used hne with hnone | hplain
      · rw [hnone] at hfind
        contradiction
      · rw [hplain] at hfind
        cases hfind
        exact hinner.cons
  | case3 c rest hfind ih =>
      exact ih fun hsuffix => h (hsuffix.trans (List.suffix_append ['.', c] rest))
  | case4 c rest hdot ih => exact ih fun hsuffix => h (hsuffix.trans (List.suffix_cons _ _))

/-- No dot is in the package's name. -/
theorem aboveReversed_package : aboveReversed package used reversedPackage = [] :=
  rfl

theorem standing_dotted {dots : Nat} (h : 0 < dots) :
    standing package used (String.ofList (dotted dots)) =
      if usesDotted used dots then some {} else none := by
  have hlength : (String.ofList (dotted dots)).toList.length = 13 + dots := by
    rw [String.toList_ofList, dotted, List.length_append, List.length_replicate]
    rfl
  have hpackage : String.ofList (dotted dots) ≠ packageLogger := by
    rintro heq
    rw [heq] at hlength
    exact Nat.ne_of_lt (Nat.lt_add_of_pos_right h) hlength
  have hroot : String.ofList (dotted dots) ≠ rootLogger := by
    rintro heq
    rw [heq] at hlength
    have hfour : rootLogger.toList.length = 4 := rfl
    omega
  rw [standing, if_neg hpackage, usesDotted]
  simp only [ne_eq, hroot, not_false_eq_true, true_and, List.contains_iff_mem]

theorem reverse_dots_append (dots : Nat) :
    (List.replicate dots '.' ++ reversedPackage).reverse = dotted dots := by
  rw [List.reverse_append, reversedPackage, List.reverse_reverse, List.reverse_replicate, dotted]

/-- Dots right behind the package's name: the package's logger is met where they lead to it. -/
theorem leadsTo_of_dots (dots : Nat) :
    LeadsTo (if leadsToPackage (usesDotted used) dots then [package] else [])
      (aboveReversed package used (List.replicate dots '.' ++ reversedPackage)) := by
  have hstanding (dots : Nat) : standing package used
      (String.ofList ('.' :: (List.replicate dots '.' ++ reversedPackage)).reverse) =
        if usesDotted used (dots + 1) then some {} else none := by
    rw [← List.cons_append, ← List.replicate_succ, reverse_dots_append,
      standing_dotted package used (Nat.succ_pos dots)]
  fun_induction leadsToPackage (usesDotted used) dots with
  | case1 => exact .refl []
  | case2 =>
      have hpackage : standing package used (String.ofList reversedPackage.reverse) =
          some package := if_pos (by decide)
      exact (aboveReversed_of_some hpackage).symm ▸ .refl [package]
  | case3 dots hused ih =>
      have hsome := (hstanding dots).trans (if_pos hused)
      rw [List.replicate_succ, List.replicate_succ, List.cons_append, List.cons_append,
        aboveReversed_of_some hsome]
      exact ih.cons
  | case4 dots hused ih =>
      have hnone := (hstanding dots).trans (if_neg hused)
      rw [List.replicate_succ, List.replicate_succ, List.cons_append, List.cons_append,
        aboveReversed_of_none hnone]
      exact ih

/-- What stands behind the dots is passed over up to them, if it does not begin with another. The
recursion is that of the search: a dot takes the next character with it. -/
theorem leadsTo_of_below (dots : Nat) : ∀ cs : List Char, cs.getLast? ≠ some '.' →
    LeadsTo (if leadsToPackage (usesDotted used) dots then [package] else [])
      (aboveReversed package used (cs ++ (List.replicate dots '.' ++ reversedPackage)))
  | [], _ => leadsTo_of_dots package used dots
  | [c], h => by
      have hc : c ≠ '.' := fun heq => h (congrArg some heq)
      exact (aboveReversed_of_ne hc _).symm ▸ leadsTo_of_dots package used dots
  | c :: d :: rest, h => by
      rw [List.getLast?_cons_cons] at h
      by_cases hc : c = '.'
      · subst hc
        have hne : d :: rest ++ (List.replicate dots '.' ++ reversedPackage) ≠ reversedPackage := by
          intro heq
          have hlength := congrArg List.length heq
          simp only [List.length_append, List.length_cons] at hlength
          omega
        rcases standing_reversed_or package used hne with hnone | hsome
        · have hrest : rest.getLast? ≠ some '.' := by
            cases rest with
            | nil => simp
            | cons e rest => rwa [List.getLast?_cons_cons] at h
          exact (aboveReversed_of_none hnone).symm ▸ leadsTo_of_below dots rest hrest
        · exact (aboveReversed_of_some hsome).symm ▸ (leadsTo_of_below dots (d :: rest) h).cons
      · exact (aboveReversed_of_ne hc _).symm ▸ leadsTo_of_below dots (d :: rest) h

/-- The logger of a name other than the package's is plain, if it is there. -/
theorem leadsTo_standing {name : String} (hne : name ≠ packageLogger) {tail found : List Logger}
    (h : LeadsTo tail found) : LeadsTo tail ((standing package used name).toList ++ found) := by
  rw [standing, if_neg hne]
  split
  · exact h.cons
  · exact h

/-- Above a name there is the package's logger if the name's logger hangs on it. -/
theorem leadsTo_above {name : String} (hne : name ≠ packageLogger) :
    LeadsTo (if inPackage used name then [package] else [])
      (aboveReversed package used name.toList.reverse) := by
  by_cases hdotted : dotted 1 <+: name.toList
  · obtain ⟨rest, hrest, hname⟩ := below_dotsBehind ((List.prefix_append _ _).trans hdotted)
    have hreverse : name.toList.reverse =
        rest.reverse ++ (List.replicate (dotsBehind name) '.' ++ reversedPackage) := by
      rw [hname, List.reverse_append, dotted, List.reverse_append, List.reverse_replicate,
        reversedPackage]
    rw [inPackage_of_below used ⟨rest, hrest, hname⟩ (dotsBehind_pos_iff.mpr hdotted), hreverse]
    refine leadsTo_of_below package used _ rest.reverse ?_
    rwa [List.getLast?_reverse]
  · rw [inPackage_of_not_dotted used hne hdotted]
    refine leadsTo_nil package used fun hsuffix => hdotted ?_
    rw [← List.reverse_suffix]
    exact hsuffix

/-- From a name the way up leads over plain loggers to the package's logger and the root, or to the
root alone. -/
theorem leadsTo_wayUp {loggers : Hierarchy}
    (hnamed : ∀ name, loggers.get? name = standing package used name) (name : String) :
    LeadsTo ((if inPackage used name then [package] else []) ++ [loggers.root])
      (loggers.wayUp name) := by
  have hwayUp : loggers.wayUp name = (standing package used name).toList ++
      aboveReversed package used name.toList.reverse ++ [loggers.root] := by
    simp only [Hierarchy.wayUp, aboveReversed, hnamed]
  rw [hwayUp]
  refine LeadsTo.append ?_ [loggers.root]
  by_cases hne : name = packageLogger
  · subst hne
    have habove : aboveReversed package used packageLogger.toList.reverse = [] :=
      aboveReversed_package package used
    rw [inPackage_package, standing, if_pos rfl, habove]
    exact .refl [package]
  · exact leadsTo_standing package used hne (leadsTo_above package used hne)

end WayUp

end ScanAccess.Log
