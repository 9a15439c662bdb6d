import ScanAccess.Codec.Chinese
import ScanAccess.Codec.CodePage.Standard
import ScanAccess.Codec.Japanese
import ScanAccess.Codec.Korean

/-! # Sets that are designated

In ISO 2022 all bytes are below 128. What they stand for depends on a set of characters
that an escape sequence has designated before. There are up to three designations:
the one in use at first, one that is shifted to, and one for the next character only.
-/

namespace ScanAccess.Codec

/-- The sets that can be designated. -/
inductive CodedSet where
  | ascii
  | western
  | greek
  | roman
  | katakana
  | olderJapanese
  | japanese
  | japaneseSupplement
  | japaneseFirstPlane (edition : JapaneseEdition)
  | japaneseSecondPlane
  | korean
  | chinese
  deriving DecidableEq, Repr

namespace CodedSet

/-- The last letter of the escape sequences for a set, and whether two bytes stand for a
character. -/
def mark : CodedSet → Bool × Char
  | ascii => (false, 'B')
  | western => (false, 'A')
  | greek => (false, 'F')
  | roman => (false, 'J')
  | katakana => (false, 'I')
  | olderJapanese => (true, '@')
  | japanese => (true, 'B')
  | japaneseSupplement => (true, 'D')
  | japaneseFirstPlane .first => (true, 'O')
  | japaneseFirstPlane .second => (true, 'Q')
  | japaneseSecondPlane => (true, 'P')
  | korean => (true, 'C')
  | chinese => (true, 'A')

/-- The character of a byte in a set of single bytes. The western and the Greek set are for
single characters only. -/
def char? (set : CodedSet) (byte : UInt8) : Option Char :=
  match set with
  | ascii => asciiChar? byte
  | roman => if byte < 0x80 then some (Japanese.roman byte) else none
  | katakana => if byte < 0x80 then Japanese.katakana? (byte + 0x80) else none
  | _ => none

/-- The characters of a cell in a set of pairs. -/
def chars? (set : CodedSet) (row cell : Nat) : Option (List Char) :=
  match set with
  | olderJapanese | japanese => CharacterSet.japanese.chars? row cell
  | japaneseSupplement => CharacterSet.japaneseSupplement.chars? row cell
  | japaneseFirstPlane edition =>
    if Japanese.isVacant edition row cell then none else Japanese.firstPlane? row cell
  | japaneseSecondPlane => Japanese.secondPlane? .second row cell
  | korean => CharacterSet.korean.chars? row cell
  | chinese => CharacterSet.chinese.chars? row cell
  | _ => none

/-- The Greek letters of 1987, which were fewer than later. -/
def greekChar? (byte : UInt8) : Option Char :=
  if byte = 0xa4 ∨ byte = 0xa5 ∨ byte = 0xaa then none
  else CodePage.iso8859Part7.char? byte

/-- The character of a byte when a set serves for a single character. Such a byte goes
without its high bit. -/
def singleChar? (set : CodedSet) (byte : UInt8) : Option Char :=
  match set with
  | western => if byte < 0x80 then some (Char.ofNat (byte.toNat + 0x80)) else none
  | greek => greekChar? (byte ^^^ 0x80)
  | ascii => asciiChar? byte
  | _ => none

end CodedSet

/-- The forms of ISO 2022, which differ in the sets that they admit. -/
inductive DesignatedForm where
  | japanese
  | japaneseSupplemented
  | multilingual
  | japaneseLarge (edition : JapaneseEdition)
  | japaneseExtended
  | korean
  deriving DecidableEq, Repr

namespace DesignatedForm

/-- The sets of a form besides ASCII. -/
def sets : DesignatedForm → List CodedSet
  | japanese => [.japanese, .roman, .olderJapanese]
  | japaneseSupplemented => [.japanese, .japaneseSupplement, .roman, .olderJapanese]
  | multilingual =>
    [.japanese, .japaneseSupplement, .korean, .chinese, .roman, .olderJapanese, .western, .greek]
  | japaneseLarge edition => [.japanese, .japaneseFirstPlane edition, .japaneseSecondPlane]
  | japaneseExtended => [.japanese, .japaneseSupplement, .roman, .katakana, .olderJapanese]
  | korean => [.korean]

/-- Whether control characters shift between two designations. -/
def hasShifts (form : DesignatedForm) : Bool :=
  form == korean

/-- Whether there is a designation for single characters. -/
def hasSingles (form : DesignatedForm) : Bool :=
  form == multilingual

/-- Whether an announcement may stand in front of a designation. -/
def hasAnnouncements (form : DesignatedForm) : Bool :=
  form != korean

/-- The set with a mark in a form. -/
def set? (form : DesignatedForm) (mark : Bool × Char) : Option CodedSet :=
  (CodedSet.ascii :: form.sets).find? fun set => set.mark == mark

end DesignatedForm

/-- What is designated: the set in use, the one that is shifted to, and the one for single
characters; whether the text is shifted; and whether an escape sequence that is none
of a form's own is under way, which is passed on. -/
structure Designations where
  used : CodedSet := .ascii
  shiftedTo : CodedSet := .ascii
  single : CodedSet := .ascii
  isShifted : Bool := false
  isPassing : Bool := false
  deriving DecidableEq, Repr

namespace Designations

/-- Whether a byte ends an escape sequence. -/
def isFinal (byte : UInt8) : Bool :=
  0x40 ≤ byte && byte ≤ 0x5a

/-- Whether a byte behind the escape character begins a form's own sequence. -/
def isOwn (byte : UInt8) : Bool :=
  [0x28, 0x29, 0x24, 0x2e, 0x26].contains byte

/-- How an escape sequence ends: after some bytes, not before the text does, or not at all
within the limit. -/
inductive Ending where
  | after (count : Nat)
  | unfinished
  | endless
  deriving DecidableEq, Repr

/-- The most bytes that an escape sequence has. -/
def maxCount : Nat := 16

/-- Where an escape sequence ends, of which `count` bytes are read. The end of an
announcement is not its end. -/
def ending (form : DesignatedForm) (count : Nat) (bytes : List UInt8) : Ending :=
  if maxCount ≤ count then .endless
  else
    match bytes with
    | [] => .unfinished
    | byte :: rest =>
      if isFinal byte then .after (count + 1)
      else if form.hasAnnouncements ∧ byte = 0x26 ∧ rest.head? = some 0x40 then
        ending form (count + 3) (rest.drop 2)
      else ending form (count + 1) rest
termination_by bytes.length
decreasing_by
  all_goals
    simp only [List.length_drop, List.length_cons]
    omega

/-- The mark of a set at the end of an escape sequence. -/
def markOf (isPair : Bool) (byte : UInt8) : Bool × Char :=
  (isPair, Char.ofNat byte.toNat)

/-- The designations after an escape sequence, whose bytes behind the first are given. A
sequence with an announcement designates one set only. -/
def afterSequence? (form : DesignatedForm) (state : Designations) (bytes : List UInt8) :
    Option Designations :=
  match bytes with
  | [0x24, last] => do return { state with used := ← form.set? (markOf true last) }
  | [0x28, last] => do return { state with used := ← form.set? (markOf false last) }
  | [0x29, last] => do return { state with shiftedTo := ← form.set? (markOf false last) }
  | [0x2e, last] => do
    guard form.hasSingles
    return { state with single := ← form.set? (markOf false last) }
  | [0x24, 0x28, last] => do return { state with used := ← form.set? (markOf true last) }
  | [0x24, 0x29, last] => do return { state with shiftedTo := ← form.set? (markOf true last) }
  | [_, _, 0x1b, 0x24, 0x42] => do
    guard form.hasAnnouncements
    return { state with used := ← form.set? (CodedSet.mark .japanese) }
  | _ => none

/-- One step at the escape character. -/
def escapeStep (form : DesignatedForm) (state : Designations) (rest : List UInt8) :
    DecodingStep Designations :=
  match rest with
  | [] => .incomplete rest
  | second :: others =>
    if isOwn second then
      match ending form 1 rest with
      | .unfinished => .incomplete rest
      | .endless => .illegal 1
      | .after count =>
        match afterSequence? form state (rest.take (count - 1)) with
        | some state => .chars (count - 1) [] state
        | none => .illegal count
    else if form.hasSingles ∧ second = 0x4e then
      match others with
      | [] => .incomplete rest
      | third :: _ =>
        match state.single.singleChar? third with
        | some c => .chars 2 [c] state
        | none => .illegal 3
    else .single '\x1b' { state with isPassing := true }

/-- One step at a byte of the text. -/
def textStep (state : Designations) (byte : UInt8) (rest : List UInt8) :
    DecodingStep Designations :=
  let set := if state.isShifted then state.shiftedTo else state.used
  if set.mark.1 then
    match rest with
    | [] => .incomplete rest
    | second :: _ =>
      match set.chars? byte.toNat second.toNat with
      | some cs => .chars 1 cs state
      | none => .illegal 2
  else .ofChars? 0 state ((set.char? byte).map fun c => [c])

/-- One step. The end of a line ends a shift. -/
def step (form : DesignatedForm) (state : Designations) (byte : UInt8) (rest : List UInt8) :
    DecodingStep Designations :=
  let c := Char.ofNat byte.toNat
  if state.isPassing then .single c { state with isPassing := !isFinal byte }
  else if byte = 0x1b then escapeStep form state rest
  else if form.hasShifts ∧ byte = 0x0f then .chars 0 [] { state with isShifted := false }
  else if form.hasShifts ∧ byte = 0x0e then .chars 0 [] { state with isShifted := true }
  else if byte = 0x0a then .single c { state with isShifted := false }
  else if byte < 0x20 then .single c state
  else if 0x80 ≤ byte then .illegal 1
  else textStep state byte rest

end Designations

end ScanAccess.Codec
