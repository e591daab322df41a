/-
  LineLexer.Error
  ───────────────
  **WHAT CAN GO WRONG.**

  Text that belongs to no token is not an error: it becomes a token of the
  category `error`.  Two things are errors, each with a position:

      sourceRead        — a read of the source failed
      duplicateLiteral  — two entries of a vocabulary claim one literal

  A failed read keeps its cause, the kind and wording of which come from
  whatever the source is read from.
-/
import LineLexer.Category
import LineLexer.Position
import LineLexer.Text.Quoted

namespace LineLexer

/-- The kinds of failure that a read, or an attempt to open something, can
report. -/
inductive ReadFailure.Kind where
  | notFound
  | permissionDenied
  | connectionRefused
  | connectionReset
  | hostUnreachable
  | networkUnreachable
  | connectionAborted
  | notConnected
  | addrInUse
  | addrNotAvailable
  | networkDown
  | brokenPipe
  | alreadyExists
  | wouldBlock
  | notADirectory
  | isADirectory
  | directoryNotEmpty
  | readOnlyFilesystem
  | filesystemLoop
  | staleNetworkFileHandle
  | invalidInput
  | invalidData
  | timedOut
  | writeZero
  | storageFull
  | notSeekable
  | quotaExceeded
  | fileTooLarge
  | resourceBusy
  | executableFileBusy
  | deadlock
  | crossesDevices
  | tooManyLinks
  | invalidFileName
  | argumentListTooLong
  | interrupted
  | unsupported
  | unexpectedEof
  | outOfMemory
  | inProgress
  | other
  | uncategorized
  deriving Repr, DecidableEq

/-- A failed read, or a failed attempt to open what should be read. -/
structure ReadFailure where
  /-- What kind of failure it is. -/
  kind : ReadFailure.Kind
  /-- Its wording. -/
  message : String
  deriving Repr, DecidableEq

/-- The failure of a line that is not UTF-8. -/
def ReadFailure.notUtf8 : ReadFailure :=
  ⟨.invalidData, "stream did not contain valid UTF-8"⟩

/-- What went wrong, apart from where. -/
inductive Fault where
  /-- A read of the source failed. -/
  | sourceRead (cause : ReadFailure)
  /-- The literal was bound to `first` when `second` claimed it. -/
  | duplicateLiteral (literal : Text) (first second : Category)
  deriving Repr, DecidableEq

namespace Fault

/-- The name of the fault. -/
def name : Fault → String
  | sourceRead _ => "SourceRead"
  | duplicateLiteral _ _ _ => "DuplicateLiteral"

/-- The fault in words. -/
def message : Fault → String
  | sourceRead _ => "failed to read source"
  | duplicateLiteral literal first second =>
      "literal " ++ String.ofList (Quoted.encode literal) ++ " is bound to both "
        ++ first.name ++ " and " ++ second.name

/-- What can be done about the fault. -/
def tip? : Fault → Option String
  | sourceRead cause =>
      if cause.kind = .invalidData then some "Source text must be valid UTF-8" else none
  | duplicateLiteral literal first second =>
      -- U+0060 encloses the bare literal
      some ("Literal \x60" ++ String.ofList literal ++ "\x60 is bound to both "
        ++ first.name ++ " and " ++ second.name
        ++ ", give each category its own literal")

/-- The failure behind the fault. -/
def cause? : Fault → Option ReadFailure
  | sourceRead cause => some cause
  | duplicateLiteral _ _ _ => none

end Fault

/-- A fault and the position to which it belongs. -/
structure Error where
  /-- What went wrong. -/
  fault : Fault
  /-- Where it went wrong. -/
  position : Position
  deriving Repr, DecidableEq

/-- The error in words. -/
def Error.message (e : Error) : String :=
  e.fault.message ++ " at " ++ toString e.position

end LineLexer
