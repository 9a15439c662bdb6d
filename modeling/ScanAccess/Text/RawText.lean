import ScanAccess.Text.Numeral

/-! # Raw texts

A text from outside is a row of code points. Most code points are characters. The others are the
halves of which UTF-16 makes its pairs: a half alone is no character, and UTF-8 has no form for it.
A raw text can be kept, compared and quoted whatever is in it, but it has bytes only if there is no
half in it.
-/

namespace ScanAccess

/-- A code point: a character, or one of the units from U+D800 to U+DFFF. -/
inductive CodePoint where
  | char (c : Char)
  | half (index : Fin 0x800)
  deriving DecidableEq, Repr

namespace CodePoint

/-- The number of the first half. -/
def firstHalf : Nat := 0xd800

/-- The number of a code point. -/
def code : CodePoint → Nat
  | char c => c.toNat
  | half index => firstHalf + index

/-- The code point with a number. -/
def ofCode (code : Nat) : CodePoint :=
  if h : firstHalf ≤ code ∧ code < firstHalf + 0x800 then half ⟨code - firstHalf, by omega⟩
  else char (Char.ofNat code)

/-- Whether a code point is a half. -/
def isHalf : CodePoint → Bool
  | char _ => false
  | half _ => true

end CodePoint

/-- A row of code points. -/
structure RawText where
  points : List CodePoint
  deriving DecidableEq, Repr

namespace RawText

/-- The raw text of characters. -/
def ofList (cs : List Char) : RawText :=
  ⟨cs.map .char⟩

/-- The raw text of a string. -/
def ofString (s : String) : RawText :=
  ofList s.toList

instance : Coe String RawText :=
  ⟨ofString⟩

instance : Append RawText :=
  ⟨fun first second => ⟨first.points ++ second.points⟩⟩

/-- The numbers of the code points. -/
def codes (text : RawText) : List Nat :=
  text.points.map CodePoint.code

/-- Texts are ordered by the numbers of their code points. -/
instance : LE RawText :=
  ⟨fun first second => List.le first.codes second.codes⟩

instance (first second : RawText) : Decidable (first ≤ second) :=
  List.decidableLE first.codes second.codes

/-- Whether there are no code points. -/
def isEmpty (text : RawText) : Bool :=
  text.points.isEmpty

/-- The characters of a row of code points without halves. -/
def charsOf? : List CodePoint → Option (List Char)
  | [] => some []
  | .char c :: rest => (charsOf? rest).map (c :: ·)
  | .half _ :: _ => none

/-- The string that a text without halves is. -/
def toString? (text : RawText) : Option String :=
  (charsOf? text.points).map String.ofList

/-- Whether there is no half in a text, so that UTF-8 has a form for it. -/
def isEncodable (text : RawText) : Bool :=
  text.toString?.isSome

/-- What is reported about a text that has no form in UTF-8: where its first half stands, or the
first ones in a row. -/
def halfReport (text : RawText) : String :=
  let place (index : Nat) := String.ofList (Text.decimal index)
  let first := (text.points.takeWhile fun point => !point.isHalf).length
  let what :=
    match (text.points.drop first).takeWhile CodePoint.isHalf with
    | [half] =>
      "character '\\u" ++ String.ofList (Text.hexPadded 4 half.code) ++ "' in position "
        ++ place first
    | halves => "characters in position " ++ place first ++ "-" ++ place (first + halves.length - 1)
  "'utf-8' codec can't encode " ++ what ++ ": surrogates not allowed"

/-- The bytes of a text in UTF-8, or what is reported if there are none. -/
def encode (text : RawText) : Except String (List UInt8) :=
  match text.toString? with
  | some s => .ok s.toUTF8.toList
  | none => .error text.halfReport

theorem charsOf?_map (cs : List Char) : charsOf? (cs.map .char) = some cs := by
  induction cs with
  | nil => rfl
  | cons c cs ih => rw [List.map_cons, charsOf?, ih, Option.map_some]

theorem eq_map_of_charsOf? {points : List CodePoint} {cs : List Char}
    (h : charsOf? points = some cs) : points = cs.map .char := by
  induction points generalizing cs with
  | nil =>
      cases h
      rfl
  | cons point rest ih =>
      cases point with
      | char c =>
          obtain ⟨cs, hrest, rfl⟩ := Option.map_eq_some_iff.mp h
          rw [ih hrest, List.map_cons]
      | half index => cases h

@[simp] theorem toString?_ofList (cs : List Char) :
    (ofList cs).toString? = some (String.ofList cs) := by
  rw [toString?, ofList, charsOf?_map, Option.map_some]

@[simp] theorem toString?_ofString (s : String) : (ofString s).toString? = some s := by
  rw [ofString, toString?_ofList, String.ofList_toList]

theorem eq_ofString_of_toString? {text : RawText} {s : String} (h : text.toString? = some s) :
    text = ofString s := by
  obtain ⟨cs, hcs, rfl⟩ := Option.map_eq_some_iff.mp h
  rw [ofString, String.toList_ofList, ofList, ← eq_map_of_charsOf? hcs]

@[simp] theorem ofString_inj {s t : String} : ofString s = ofString t ↔ s = t := by
  refine ⟨fun h => ?_, congrArg ofString⟩
  have heq := congrArg toString? h
  rwa [toString?_ofString, toString?_ofString, Option.some.injEq] at heq

theorem isEncodable_iff {text : RawText} :
    text.isEncodable = true ↔ ∃ s, text = ofString s := by
  rw [isEncodable, Option.isSome_iff_exists]
  constructor
  · rintro ⟨s, hs⟩
    exact ⟨s, eq_ofString_of_toString? hs⟩
  · rintro ⟨s, rfl⟩
    exact ⟨s, toString?_ofString s⟩

@[simp] theorem isEncodable_ofString (s : String) : (ofString s).isEncodable = true :=
  isEncodable_iff.mpr ⟨s, rfl⟩

end RawText

namespace Text

/-- Whether a unit of UTF-16 begins a pair. -/
def isLeadingUnit (unit : Nat) : Bool :=
  0xd800 ≤ unit && unit < 0xdc00

/-- Whether a unit of UTF-16 ends a pair. -/
def isTrailingUnit (unit : Nat) : Bool :=
  0xdc00 ≤ unit && unit < 0xe000

/-- The character of a pair of units. -/
def pairOf (leading trailing : Nat) : Char :=
  Char.ofNat (0x10000 + 0x400 * (leading - 0xd800) + (trailing - 0xdc00))

end Text

end ScanAccess
