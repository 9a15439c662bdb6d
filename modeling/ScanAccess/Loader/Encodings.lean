/-! # Encodings of settings files

A settings file is given as a text in UTF-8. An option may name another encoding, and then the bytes
of the text are read in it. Which encodings there are, and what is read in each, is not a matter of
settings, so it is a parameter here.
-/

namespace ScanAccess.Loader

/-- The characters that the bytes of a text are in some encoding, or a report of why they are
none. -/
abbrev Rereading : Type := String → Except String (List Char)

/-- What a name is known to belong to: an encoding of texts, something else, or nothing. -/
inductive NamedEncoding where
  | text (reread : Rereading)
  | binary
  | unknown

/-- The encodings by their names. -/
abbrev Encodings : Type := String → NamedEncoding

/-- UTF-8: the text as it is. -/
def utf8 : Rereading := .ok ∘ String.toList

end ScanAccess.Loader
