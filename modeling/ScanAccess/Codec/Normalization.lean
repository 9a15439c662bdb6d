import ScanAccess.Codec.Hangul
import ScanAccess.Codec.Normalization.CombiningClass
import ScanAccess.Codec.Normalization.Composition
import ScanAccess.Codec.Normalization.Decomposition

/-! # Normal forms

Texts that look alike have one normal form: all characters are decomposed, marks are put
into the order of their classes, and characters are joined again where that is possible.
What was another way to write plainer characters is written plainly then.
-/

namespace ScanAccess.Codec.Normalization

/-- What follows a first character in one of the words of a text. -/
def wordAfter? (c : Char) (words : String) : Option (List Char) :=
  (words.toList.splitOn ' ').findSome? fun word =>
    if word.head? = some c then some word.tail else none

/-- What a character is decomposed to, if it is no Korean syllable. -/
def listedForm? (c : Char) : Option (List Char) :=
  ((spacedForms.lookup c).map String.toList).orElse fun _ =>
    ((wordRows.lookup (c.toNat / 0x100)).getD []).findSome? (wordAfter? c)

/-- The decomposed form of a character. -/
def decompose (c : Char) : List Char :=
  if c.toNat < 0x80 then [c]
  else ((Hangul.split? c).orElse fun _ => listedForm? c).getD [c]

/-- Puts a mark before the first character that must not come before it. -/
def insertMark (mark : Char) : List Char → List Char
  | [] => [mark]
  | c :: rest =>
    if combiningClass c ≠ 0 ∧ combiningClass c < combiningClass mark then
      c :: insertMark mark rest
    else mark :: c :: rest

/-- Puts the marks of each character into the order of their classes. Those of one class
keep their order. -/
def sortMarks (cs : List Char) : List Char :=
  cs.foldr insertMark []

/-- The character that two characters are joined to. -/
def composite? (c next : Char) : Option Char :=
  (Hangul.join? c next).orElse fun _ =>
    compositeWords.findSome? fun words =>
      (words.toList.splitOn ' ').findSome? fun word =>
        match word with
        | [joined, first, second] => if first = c ∧ second = next then some joined else none
        | _ => none

/-- Joins a character with others that come after it, and gives what is left of them. Marks
that were `passed` stay between, in reverse order. One of a class `last`, that was
passed, is in the way of those that do not belong to a higher class. -/
def absorb (c : Char) (last : Nat) (passed : List Char) : List Char → Char × List Char
  | [] => (c, passed.reverse)
  | next :: rest =>
    let rank := combiningClass next
    if last ≠ 0 ∧ rank = 0 then (c, passed.reverse ++ next :: rest)
    else if last ≠ 0 ∧ rank ≤ last then absorb c last (next :: passed) rest
    else
      match composite? c next with
      | some joined => absorb joined last passed rest
      | none =>
        if rank = 0 then (c, passed.reverse ++ next :: rest)
        else absorb c rank (next :: passed) rest

theorem length_absorb_le (c : Char) (last : Nat) (passed cs : List Char) :
    (absorb c last passed cs).2.length ≤ passed.length + cs.length := by
  fun_induction absorb c last passed cs <;>
    simp only [List.length_append, List.length_reverse, List.length_cons, List.length_nil] at * <;>
    omega

/-- Joins all characters that can be joined. -/
def compose : List Char → List Char
  | [] => []
  | c :: rest =>
    (absorb c 0 [] rest).1 :: compose (absorb c 0 [] rest).2
termination_by cs => cs.length
decreasing_by
  have shorter := length_absorb_le c 0 [] rest
  simp only [List.length_nil, List.length_cons] at *
  omega

/-- The normal form of a text. -/
def normalize (cs : List Char) : List Char :=
  compose (sortMarks (cs.flatMap decompose))

end ScanAccess.Codec.Normalization
