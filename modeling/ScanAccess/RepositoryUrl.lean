import ScanAccess.Action
import ScanAccess.Text.Blank
import ScanAccess.Text.Pattern
import ScanAccess.Text.WordCharacter

/-! # Repository URLs

Repositories are named by the URLs of git remotes. A URL is accepted with blanks
around it and with a slash at its end; its canonical form has neither.
-/

namespace ScanAccess.RepositoryUrl

open ScanAccess.Text

/-- The characters that a URL must not contain, beside blanks: those that mean
something to a shell. -/
def forbiddenCharacters : List Char :=
  [';', '&', '|', '$', '\x60', '<', '>', '(', ')', '\x27', '\x22', '\\', '\x7b', '\x7d', '*', '?',
   '!']

/-- A character that no URL may contain. -/
def isForbidden (c : Char) : Bool :=
  forbiddenCharacters.contains c || isBlank c

/-- A character of a host name after a user. -/
def isHostCharacter (c : Char) : Bool :=
  isWord c || c == '.'

/-- A character of the part after the colon. -/
def isPathCharacter (c : Char) : Bool :=
  isWord c || ['.', '@', ':', '/', '-', '~'].contains c

/-- A scheme: git, ssh, http or https. -/
def scheme : Pattern :=
  .either (.literal ['g', 'i', 't'])
    (.either (.literal ['s', 's', 'h'])
      (.seq (.literal ['h', 't', 't', 'p']) (.optional (.char 's'))))

/-- The git user at a host. -/
def gitUser : Pattern :=
  .seq (.literal ['g', 'i', 't', '@']) (.oneOrMore (.one isHostCharacter))

/-- A git remote: a scheme or a git user, a colon, two slashes or none, a path
that ends in `.git`, and a slash or none. -/
def pattern : Pattern :=
  .seq (.either scheme gitUser)
    (.seq (.seq (.char ':') (.optional (.literal ['/', '/'])))
      (.seq (.oneOrMore (.one isPathCharacter))
        (.seq (.literal ['.', 'g', 'i', 't']) (.optional (.char '/')))))

/-- Drops one slash from the end. -/
def dropSlash (url : List Char) : List Char :=
  if url.getLast? = some '/' then url.dropLast else url

/-- The logger of URL validation. -/
def logger : String := "huskyci_token.infrastructure.url"

/-- The event of a refused URL. -/
def refusal (message : String) (candidate : RawText) : Log.Event :=
  { logger
    level := Log.Level.debug
    message
    data := some (Log.Payload.ofFields [("url", .text candidate)]) }

/-- The canonical form of a URL. A URL with nothing but blanks or with a
forbidden character is refused before the pattern is tried, and the log tells
the two refusals apart. -/
def validate (url : String) : Logged String :=
  let candidate := trim url
  if candidate.isEmpty || candidate.toList.any isForbidden then
    { result := .error .malformedUrl, events := [refusal "rejected repository url" candidate] }
  else if pattern.accepts candidate.toList then
    .ok (String.ofList (dropSlash candidate.toList))
  else
    { result := .error .malformedUrl
      events := [refusal "repository url does not match" candidate] }

/-- A code point that no URL may contain. -/
def isForbiddenPoint : CodePoint → Bool
  | .char c => isForbidden c
  | .half _ => false

/-- Whether a code point is blank. -/
def isBlankPoint : CodePoint → Bool
  | .char c => isBlank c
  | .half _ => false

/-- The canonical form of a raw text. One with half of a character in it is none, because the
pattern has no place for that, and is refused with the same events. -/
def canonicalize (url : RawText) : Logged RawText :=
  match url.toString? with
  | some s => (validate s).bind fun canonical => .ok canonical
  | none =>
    let candidate : RawText := ⟨trimWhile isBlankPoint url.points⟩
    let message := if candidate.points.any isForbiddenPoint then "rejected repository url"
      else "repository url does not match"
    { result := .error .malformedUrl, events := [refusal message candidate] }

/-- The canonical form of a URL, if it is accepted. -/
def canonical? (url : String) : Option String :=
  (validate url).result.toOption

end ScanAccess.RepositoryUrl
