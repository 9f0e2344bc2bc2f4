/-!
# Files by path

Why a file cannot be read, and folders held in memory, in which a path leads from folder to
folder to a file.
-/

namespace CommandGrammar.CommandLine

/-- Why there is no text. -/
inductive ReadFault where
  /-- There is no file of that path. -/
  | notFound
  /-- The path goes on after a file. -/
  | notDirectory
  /-- The path is that of a directory. -/
  | isDirectory
  /-- The path or a name in it is longer than a system allows. -/
  | nameTooLong
  /-- What is there is not UTF-8. -/
  | notText
  /-- Anything else, in the words of the system. -/
  | other (message : String)
  deriving DecidableEq, Repr

/-- The message for a missing text. -/
def ReadFault.message : ReadFault → String
  | notFound => "No such file or directory (os error 2)"
  | notDirectory => "Not a directory (os error 20)"
  | isDirectory => "Is a directory (os error 21)"
  | nameTooLong => "File name too long (os error 36)"
  | notText => "stream did not contain valid UTF-8"
  | other message => message

/-- A folder with all that is inside it. -/
structure Folder where
  /-- The texts of its files. The names are lists of the folders they lie in and their own. -/
  files : List (List String × String)
  /-- The folders inside it besides those that files lie in. -/
  folders : List (List String)

namespace Folder

/-- Whether a list of names is that of a folder inside it. -/
def hasFolder (folder : Folder) (names : List String) : Bool :=
  folder.folders.contains names ||
    folder.files.any fun (name, _) => names != name && names.isPrefixOf name

/-- The longest name that a system allows, in bytes. -/
def nameLimit : Nat := 255

/-- The longest path that a system allows, in bytes. -/
def pathLimit : Nat := 4095

/-- Where a path has led to. -/
inductive Spot where
  /-- A folder inside another one. -/
  | folder (outer : Folder) (names : List String)
  /-- A folder around a known one, of which nothing is known. -/
  | around
  /-- A file with its text. -/
  | file (text : String)

/-- Follow one part of a path. An empty part stays in a folder, like a single dot. -/
def Spot.step : Spot → String → Except ReadFault Spot
  | file _, _ => .error .notDirectory
  | spot, "" => .ok spot
  | spot, "." => .ok spot
  | around, ".." => .ok around
  | folder outer names, ".." => .ok (if names.isEmpty then around else folder outer names.dropLast)
  | spot, name =>
    if nameLimit < name.utf8ByteSize then .error .nameTooLong
    else match spot with
      | folder outer names =>
        let names := names ++ [name]
        match outer.files.find? fun file => file.1 == names with
        | some (_, text) => .ok (file text)
        | none => if outer.hasFolder names then .ok (folder outer names) else .error .notFound
      | _ => .error .notFound

/-- The text of the file that a path leads to from a folder; a path with a slash in front
leads from the folder of the whole system instead. -/
def read (folder system : Folder) (path : String) : Except ReadFault String :=
  if path.isEmpty then .error .notFound
  else if pathLimit < path.utf8ByteSize then .error .nameTooLong
  else
    let start := Spot.folder (if path.startsWith "/" then system else folder) []
    match (path.splitOn "/").foldlM Spot.step start with
    | .error fault => .error fault
    | .ok (.file text) => .ok text
    | .ok _ => .error .isDirectory

end Folder

end CommandGrammar.CommandLine
