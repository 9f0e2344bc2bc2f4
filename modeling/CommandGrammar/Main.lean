import CommandGrammar.CommandLine.Run

/-!
# The program

Reads the texts that a task needs, does the task and writes what it leaves.
-/

namespace CommandGrammar.CommandLine

/-- A text of its bytes. -/
def textOf (bytes : ByteArray) : Except ReadFault String :=
  match String.fromUTF8? bytes with
  | some text => .ok text
  | none => .error .notText

/-- The number of a system fault, which some calls give as a negative one. -/
def faultNumber (code : UInt32) : UInt32 := if 0x80000000 ≤ code then 0 - code else code

/-- Why the system refuses to read. -/
def faultOf : IO.Error → ReadFault
  | .noFileOrDirectory .. => .notFound
  | .inappropriateType _ code details =>
    match faultNumber code with
    | 20 => .notDirectory
    | 21 => .isDirectory
    | number => .other s!"{details} (os error {number})"
  | .invalidArgument _ code details =>
    match faultNumber code with
    | 36 => .nameTooLong
    | number => .other s!"{details} (os error {number})"
  | .permissionDenied _ code _ =>
    let number := faultNumber code
    .other s!"Permission denied (os error {number})"
  | e => .other (toString e)

/-- Read a file. -/
def readPath (path : String) : IO (Except ReadFault String) := do
  try
    return textOf (← IO.FS.readBinFile path)
  catch e => return .error (faultOf e)

/-- Read standard input to its end. -/
def readInput : IO (Except ReadFault String) := do
  try
    return textOf (← (← IO.getStdin).readBinToEnd)
  catch e => return .error (faultOf e)

end CommandGrammar.CommandLine

open CommandGrammar.CommandLine

/-- Do what the arguments ask for. -/
def main (arguments : List String) : IO UInt32 := do
  let task := (Request.ofArguments arguments).toOption.map Request.task
  let file ← match task.bind Task.path? with
    | some path => readPath path
    | none => pure (.error .notFound)
  let input ← if task.any Task.readsInput then readInput else pure (.ok "")
  let form := if ← (← IO.getStdout).isTty then OutputForm.pretty else OutputForm.json
  let outcome := run arguments form ⟨fun _ => file, input⟩
  IO.print outcome.stdout
  IO.eprint outcome.stderr
  return outcome.status.toUInt32
