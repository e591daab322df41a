/-
  LineLexer.Main
  ──────────────
  The command line: it reads the whole input, runs the program on it, and
  writes down what the program leaves behind.
-/
import LineLexer.Program.Standard

namespace LineLexer.Main

/-- The kind, number and wording of a failure of the system. -/
def causeOf : IO.Error → ReadFailure
  | .noFileOrDirectory _ code details => numbered .notFound code details
  | .inappropriateType _ code details => numbered .isADirectory code details
  | .permissionDenied _ code details => numbered .permissionDenied code details
  | .invalidArgument _ code details => numbered .invalidInput code details
  | .resourceExhausted _ code details => numbered .other code details
  | .interrupted _ code details => numbered .interrupted code details
  | .timeExpired code details => numbered .timedOut code details
  | .otherError code details => numbered .other code details
  | e => ⟨.other, toString e⟩
where
  /-- The wording with the number of the failure behind it. -/
  numbered (kind : ReadFailure.Kind) (code : UInt32) (details : String) : ReadFailure :=
    ⟨kind, s!"{details} (os error {code})"⟩

/-- Reads until there is nothing more, or a read fails for good. -/
partial def feedOf (stream : IO.FS.Stream) (chunks : Array Chunk) : IO Feed := do
  try
    let bytes ← stream.read 65536
    if bytes.isEmpty then return chunks.toList
    feedOf stream (chunks.push (.data bytes.toList))
  catch e =>
    return (chunks.push (.failure (causeOf e))).toList

/-- Opens a path. -/
def openPath (path : String) : IO (Except ReadFailure Feed) := do
  try
    let handle ← IO.FS.Handle.mk path .read
    return .ok (← feedOf (.ofHandle handle) #[])
  catch e =>
    return .error (causeOf e)

/-- A time in words: in the largest unit of which there is a whole one. -/
def durationText (nanoseconds : Nat) : String :=
  if 1000000000 ≤ nanoseconds then inUnits 1000000000 9 "s"
  else if 1000000 ≤ nanoseconds then inUnits 1000000 6 "ms"
  else if 1000 ≤ nanoseconds then inUnits 1000 3 "µs"
  else inUnits 1 0 "ns"
where
  /-- So many digits stand behind the point, and no zeros at their end. -/
  inUnits (size digits : Nat) (unit : String) : String :=
    let parts := (toString (nanoseconds % size)).toList
    let padded := List.replicate (digits - parts.length) '0' ++ parts
    let shown := ((padded.take digits).reverse.dropWhile (· == '0')).reverse
    let fraction := if shown.isEmpty then "" else "." ++ String.ofList shown
    toString (nanoseconds / size) ++ fraction ++ unit

end LineLexer.Main

open LineLexer in
/-- Runs the program on the arguments, the files and the standard streams. -/
def main (args : List String) : IO UInt32 := do
  let arguments := args.map String.toList
  let setting? := (← IO.getEnv "RUST_LOG").map String.toList
  let lib := Program.Library.standard
  -- only the one input that the options name is read
  let (stdin, opened) ← match lib.parse arguments with
    | .error _ => pure ([], .ok [])
    | .ok o =>
        match o.input? with
        | none => do pure (← Main.feedOf (← IO.getStdin) #[], .ok [])
        | some path => do pure ([], ← Main.openPath (String.ofList path))
  let runIn (elapsed : String) : Program.Outcome :=
    Program.run lib arguments { stdin, openPath := fun _ => opened, setting?, elapsed }
  let start ← IO.monoNanosNow
  let out ← IO.getStdout
  out.write ⟨(runIn "").stdout.toArray⟩
  out.flush
  -- the time shows in the log only, which is written after the tokens
  let outcome := runIn (Main.durationText ((← IO.monoNanosNow) - start))
  IO.eprint (String.ofList (ErrorOutput.text outcome.errorOutput))
  return outcome.status.toUInt32
