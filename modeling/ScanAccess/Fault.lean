import ScanAccess.Dictionary
import ScanAccess.Text.Quoted

/-! # Faults

A fault is an error as the outside world shows it: a kind, its text, and how it is spelled as an
expression. Kinds are known by their names and the modules that define them, and each says which
kinds stand above it; anyone may define more of them. Faults arrive from the parts that this
library is given, such as the entropy source, and may be logged.
-/

namespace ScanAccess

/-- A kind of faults: its name, the module that defines it, and the full names of all kinds that
stand above it. -/
structure Fault.Kind where
  name : String
  module : String := "builtins"
  above : List String := []
  deriving DecidableEq, Repr

namespace Fault.Kind

/-- The name of a kind with its module, by which it is known. -/
def fullName (kind : Fault.Kind) : String :=
  kind.module ++ "." ++ kind.name

/-- Whether a fault of one kind also counts as one of another. -/
def isA (kind other : Fault.Kind) : Bool :=
  (kind.fullName :: kind.above).contains other.fullName

/-- The kind that a module defines below some others. -/
def definedIn (module name : String) (parents : List Fault.Kind) : Fault.Kind :=
  { name, module, above := parents.flatMap fun parent => parent.fullName :: parent.above }

/-- The kind below some others that is there in every program. -/
def under (parents : List Fault.Kind) (name : String) : Fault.Kind :=
  definedIn "builtins" name parents

/-- A kind counts as itself, and as what the kinds directly above it count as. -/
theorem isA_definedIn {module name : String} {parents : List Fault.Kind} {other : Fault.Kind} :
    (definedIn module name parents).isA other = true ↔
      module ++ "." ++ name = other.fullName ∨ ∃ parent ∈ parents, parent.isA other = true := by
  simp only [isA, List.contains_iff_mem, List.mem_cons, definedIn, List.mem_flatMap]
  exact or_congr_left ⟨Eq.symm, Eq.symm⟩

/-! ## Kinds in every program -/

def base : Fault.Kind := under [] "BaseException"
def exit : Fault.Kind := under [base] "SystemExit"
def general : Fault.Kind := under [base] "Exception"
def value : Fault.Kind := under [general] "ValueError"
def textEncoding : Fault.Kind := under [under [value] "UnicodeError"] "UnicodeEncodeError"
def runtime : Fault.Kind := under [general] "RuntimeError"
def notImplemented : Fault.Kind := under [runtime] "NotImplementedError"
def recursion : Fault.Kind := under [runtime] "RecursionError"
def lookup : Fault.Kind := under [general] "LookupError"
def index : Fault.Kind := under [lookup] "IndexError"
def key : Fault.Kind := under [lookup] "KeyError"
def type : Fault.Kind := under [general] "TypeError"
def memory : Fault.Kind := under [general] "MemoryError"
def overflow : Fault.Kind := under [under [general] "ArithmeticError"] "OverflowError"
def missingAttribute : Fault.Kind := under [general] "AttributeError"
def system : Fault.Kind := under [general] "OSError"
def permission : Fault.Kind := under [system] "PermissionError"
def timeout : Fault.Kind := under [system] "TimeoutError"
def connection : Fault.Kind := under [system] "ConnectionError"

/-! ## Kinds of this library -/

/-- The module that defines the kinds of faults of this library. -/
def ownModule : String := "huskyci_token.errors"

def token : Fault.Kind := definedIn ownModule "TokenError" [general]
def invalidRepositoryUrl : Fault.Kind :=
  definedIn ownModule "InvalidRepositoryURLError" [token, value]
def tokenGeneration : Fault.Kind := definedIn ownModule "TokenGenerationError" [token, runtime]
def tokenStorage : Fault.Kind := definedIn ownModule "TokenStorageError" [token, runtime]
def accessTokenNotFound : Fault.Kind :=
  definedIn ownModule "AccessTokenNotFoundError" [token, lookup]
def repositoryNotFound : Fault.Kind :=
  definedIn ownModule "RepositoryNotFoundError" [token, lookup]
def invalidAccessToken : Fault.Kind :=
  definedIn ownModule "InvalidAccessTokenError" [token, permission]

/-! ## Faults of the system -/

/-- The kinds of the system's faults that have numbers of their own. -/
def numbered : List (Int × Fault.Kind) :=
  let process := under [system] "ProcessLookupError"
  let interrupted := under [system] "InterruptedError"
  let child := under [system] "ChildProcessError"
  let blocking := under [system] "BlockingIOError"
  let pipe := under [connection] "BrokenPipeError"
  [(1, permission), (2, under [system] "FileNotFoundError"), (3, process), (4, interrupted),
   (10, child), (11, blocking), (13, permission), (17, under [system] "FileExistsError"),
   (20, under [system] "NotADirectoryError"), (21, under [system] "IsADirectoryError"),
   (32, pipe), (103, under [connection] "ConnectionAbortedError"),
   (104, under [connection] "ConnectionResetError"), (108, pipe), (110, timeout),
   (111, under [connection] "ConnectionRefusedError"), (114, blocking), (115, blocking)]

/-- The kind of a fault with a number: a fault of the system in general is of the kind
that its number belongs to. -/
def refine (kind : Fault.Kind) (number : Option Int) : Fault.Kind :=
  if kind = system then
    (number.bind fun number => Dictionary.get? numbered number).getD system
  else kind

/-- The kinds that can be named by the name alone. -/
def known : List Fault.Kind :=
  [general, value, runtime, notImplemented, lookup, type, memory, system, permission, timeout,
   connection, token, invalidRepositoryUrl, tokenGeneration, tokenStorage, accessTokenNotFound,
   repositoryNotFound, invalidAccessToken]

/-- The kind that a name belongs to. -/
def ofName? (name : String) : Option Fault.Kind :=
  known.find? fun kind => kind.name == name

/-- The name in a printed report, with the module unless the kind is in every program. -/
def printedName (kind : Fault.Kind) : String :=
  if kind.module = "builtins" then kind.name else kind.fullName

end Fault.Kind

/-- A fault: its kind, its text, and how it is spelled as an expression. -/
structure Fault where
  kind : Fault.Kind
  text : RawText
  spelling : String
  deriving DecidableEq, Repr

/-- How a fault is raised: with a kind, with a message or none, and perhaps with an error number. -/
structure RaisedFault where
  kind : Fault.Kind
  message : Option String := none
  number : Option Int := none
  deriving Repr

namespace RaisedFault

/-- The kind of the fault that comes of it. -/
def actualKind (raised : RaisedFault) : Fault.Kind :=
  raised.kind.refine raised.number

/-- The message, or the one its kind has by default. -/
def messageText (raised : RaisedFault) : String :=
  match raised.message with
  | some message => message
  | none => if raised.kind = .invalidAccessToken then "Access token is invalid" else ""

/-- The text, with the error number in front if there is one. What is missing as a key is shown as
an expression. -/
def text (raised : RaisedFault) : String :=
  match raised.number, raised.message with
  | some number, _ =>
    "[Errno " ++ String.ofList (Text.signedDecimal number) ++ "] " ++ raised.messageText
  | none, some message =>
    if raised.kind.isA .key then Text.quoted message else message
  | none, none => raised.messageText

/-- A fault as an expression: its name and what it was made from. -/
def spelling (raised : RaisedFault) : String :=
  let message :=
    if raised.message.isNone && raised.number.isNone && raised.messageText.isEmpty then []
    else [Text.quote raised.messageText]
  let number := raised.number.toList.map Text.signedDecimal
  String.ofList (raised.actualKind.name.toList
    ++ '(' :: List.intercalate [',', ' '] (number ++ message) ++ [')'])

/-- The fault that comes of it. -/
def fault (raised : RaisedFault) : Fault :=
  { kind := raised.actualKind, text := raised.text, spelling := raised.spelling }

/-- The line that reports a fault: its name, and its text if that is not empty. -/
def headline (raised : RaisedFault) : String :=
  let name := raised.actualKind.printedName
  if raised.text.isEmpty then name else name ++ ": " ++ raised.text

end RaisedFault

/-- A fault with what led to it: nothing, a fault named as its cause, or a fault
that was being handled. -/
inductive FaultChain where
  | alone (raised : RaisedFault)
  | causedBy (raised : RaisedFault) (cause : FaultChain)
  | whileHandling (raised : RaisedFault) (context : FaultChain)
  deriving Repr

namespace FaultChain

/-- A fault with its cause and its context; the context counts only without a cause. -/
def of (raised : RaisedFault) (cause context : Option FaultChain) : FaultChain :=
  match cause, context with
  | some cause, _ => .causedBy raised cause
  | none, some context => .whileHandling raised context
  | none, none => .alone raised

/-- The report of a chain of faults that were only made and never raised, so that there are no
calls to be listed: the earliest fault first, each report ending its line. -/
def report : FaultChain → String
  | .alone raised => raised.headline ++ "\n"
  | .causedBy raised cause =>
    cause.report
      ++ "\nThe above exception was the direct cause of the following exception:\n\n"
      ++ raised.headline ++ "\n"
  | .whileHandling raised context =>
    context.report
      ++ "\nDuring handling of the above exception, another exception occurred:\n\n"
      ++ raised.headline ++ "\n"

end FaultChain

end ScanAccess
