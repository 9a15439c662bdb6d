import ScanAccess.Codec.EncodingName
import ScanAccess.Loader.Loading

/-! # The library that programs run with

Settings can be loaded in a program with a library that knows the usual encodings of text and has
room for so many calls as such programs have.
-/

namespace ScanAccess

/-- The usual encodings, with all names that they have. -/
def Codec.encodings : Loader.Encodings := fun name =>
  match EncodingName.lookUp name with
  | .text encoding => .text fun text => (encoding.reread text).mapError DecodingError.message
  | .binary => .binary
  | .unknown => .unknown

namespace Settings

/-- The library of settings that programs run with. -/
def runningLibrary : Library :=
  Loader.library Codec.encodings { containers := 982, objectCalls := 2, factoryCalls := 5 }

end Settings

end ScanAccess
