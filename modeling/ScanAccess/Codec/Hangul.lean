/-! # Korean syllables

A Korean syllable is a character of its own, made of a leading consonant, a vowel and a
trailing consonant or none. Its number is computed from the places of the three in their
orders.
-/

namespace ScanAccess.Codec.Hangul

/-- The number of the first syllable. -/
def firstSyllable : Nat := 0xac00

/-- The number of the first leading consonant. -/
def firstLead : Nat := 0x1100

/-- The number of the first vowel. -/
def firstVowel : Nat := 0x1161

/-- The number before that of the first trailing consonant. -/
def noTrail : Nat := 0x11a7

/-- How many leading consonants there are. -/
def leadCount : Nat := 19

/-- How many vowels there are. -/
def vowelCount : Nat := 21

/-- How many trailing consonants there are, where none counts as one. -/
def trailCount : Nat := 28

/-- The number of a syllable by the places of its parts. -/
def syllableCode (lead vowel trail : Nat) : Nat :=
  firstSyllable + (lead * vowelCount + vowel) * trailCount + trail

/-- The places of the parts of a syllable. -/
def parts? (c : Char) : Option (Nat × Nat × Nat) :=
  let place := c.toNat - firstSyllable
  if firstSyllable ≤ c.toNat ∧ place < leadCount * vowelCount * trailCount then
    some (place / trailCount / vowelCount, place / trailCount % vowelCount, place % trailCount)
  else none

/-- The characters for the parts of a syllable, each on its own. -/
def split? (c : Char) : Option (List Char) :=
  (parts? c).map fun (lead, vowel, trail) =>
    let front := [Char.ofNat (firstLead + lead), Char.ofNat (firstVowel + vowel)]
    if trail = 0 then front else front ++ [Char.ofNat (noTrail + trail)]

/-- Joins a leading consonant with a vowel, or a syllable without a trailing consonant with
one. -/
def join? (c next : Char) : Option Char :=
  let lead := c.toNat - firstLead
  let vowel := next.toNat - firstVowel
  let trail := next.toNat - noTrail
  if firstLead ≤ c.toNat ∧ lead < leadCount ∧ firstVowel ≤ next.toNat ∧ vowel < vowelCount then
    some (Char.ofNat (syllableCode lead vowel 0))
  else
    match parts? c with
    | some (_, _, 0) =>
      if noTrail < next.toNat ∧ trail < trailCount then some (Char.ofNat (c.toNat + trail))
      else none
    | _ => none

/-- The names of the leading consonants. -/
def leadNames : List String :=
  ["G", "GG", "N", "D", "DD", "R", "M", "B", "BB", "S", "SS", "", "J", "JJ", "C", "K", "T",
   "P", "H"]

/-- The names of the vowels. -/
def vowelNames : List String :=
  ["A", "AE", "YA", "YAE", "EO", "E", "YEO", "YE", "O", "WA", "WAE", "OE", "YO", "U", "WEO", "WE",
   "WI", "YU", "EU", "YI", "I"]

/-- The names of the trailing consonants. -/
def trailNames : List String :=
  ["", "G", "GG", "GS", "N", "NJ", "NH", "D", "L", "LG", "LM", "LB", "LS", "LT", "LP", "LH", "M",
   "B", "BS", "S", "SS", "NG", "J", "C", "K", "T",
   "P", "H"]

/-- The longest of some names at the front of a text, as its place, with the rest of the
text. -/
def longestName? (names : List String) (cs : List Char) : Option (Nat × List Char) :=
  let found := names.zipIdx.filter fun (name, _) => name.toList.isPrefixOf cs
  let longest := found.foldl (fun best entry =>
    match best with
    | some (name, _) => if name.length < entry.1.length then some entry else best
    | none => some entry) (none : Option (String × Nat))
  longest.map fun (name, place) => (place, cs.drop name.length)

/-- The syllable with a name, which is made of the names of its parts. -/
def named? (name : List Char) : Option Char := do
  let (lead, cs) ← longestName? leadNames name
  let (vowel, cs) ← longestName? vowelNames cs
  let (trail, cs) ← longestName? trailNames cs
  if cs.isEmpty then some (Char.ofNat (syllableCode lead vowel trail)) else none

end ScanAccess.Codec.Hangul
