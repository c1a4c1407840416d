import ScriptLexer.Command.Source

/-! Files as a run sees them. A path is walked from the working directory or from the root, name by
name; `.` and an empty name stay, `..` goes up. Above the working directory nothing is known but
that directories are there, and below the root only what every system has. What a path leads to has
to be a file with text in it. -/
namespace ScriptLexer.Command

/-- A working directory: its files, each with the names that lead to it. -/
structure Directory where
  files : List (List String × ByteArray)

namespace Directory

/-- The names of a path; an absolute one starts with an empty name. -/
def names (path : String) : List String := (path.toList.splitOn '/').map String.ofList

/-- The directory of the given files, whose paths are relative. -/
def ofFiles (files : List (String × ByteArray)) : Directory :=
  ⟨files.map fun (path, content) => (names path, content)⟩

/-- The directories below the root that every system has. -/
def systemDirectories : List String :=
  ["bin", "boot", "dev", "etc", "home", "lib", "mnt", "opt", "proc", "root", "run", "sbin", "srv",
    "sys", "tmp", "usr", "var"]

/-- The devices that read as empty files; the input of a run is empty. -/
def emptyDevices : List (List String) := [["dev", "null"], ["dev", "stdin"]]

/-- Where a walk along a path has got to. -/
inductive Place where
  /-- The working directory or one below it. -/
  | inside (names : List String)
  | above
  /-- The root or a directory below it. -/
  | system (names : List String)
  | file (content : ByteArray)

/-- The greatest number of bytes in a name. -/
def maxNameSize : Nat := 255

/-- Where a name leads that is neither empty nor a dot or two. -/
def enter (d : Directory) : Place → String → Except ReadFault Place
  | .file _, _ => .error .notDirectory
  | .above, _ => .error .missing
  | .system path, name =>
    let path := path ++ [name]
    if emptyDevices.contains path then .ok (.file ByteArray.empty)
    else if systemDirectories.any ([·] == path) then .ok (.system path)
    else .error .missing
  | .inside path, name =>
    let path := path ++ [name]
    match d.files.find? (·.1 == path) with
    | some (_, content) => .ok (.file content)
    | none => if d.files.any (path.isPrefixOf ·.1) then .ok (.inside path) else .error .missing

/-- The directory that a directory lies in; the root lies in itself. -/
def up : Place → Except ReadFault Place
  | .file _ => .error .notDirectory
  | .above => .ok .above
  | .system path => .ok (.system path.dropLast)
  | .inside path => .ok (if path.isEmpty then .above else .inside path.dropLast)

def step (d : Directory) (place : Place) (name : String) : Except ReadFault Place :=
  if name = ".." then up place
  else
    match place with
    | .file _ => .error .notDirectory
    | _ =>
      if name = "" || name = "." then .ok place
      else if maxNameSize < name.utf8ByteSize then .error .nameTooLong
      else d.enter place name

/-- Where the walk along some names starts, and those that it takes from there. -/
def start : List String → Place × List String
  | "" :: rest@(_ :: _) => (.system [], rest)
  | all => (.inside [], all)

/-- The place that a path leads to. -/
def walk (d : Directory) (path : String) : Except ReadFault Place :=
  let (place, rest) := start (names path)
  rest.foldlM d.step place

/-- The text at a place, if there is a file and its content is one. -/
def Place.text : Place → Except ReadFault String
  | inside _ | above | system _ => .error .directory
  | file content =>
    match String.fromUTF8? content with
    | some text => .ok text
    | none => .error .notText

/-- The greatest number of bytes in a path; a longer one is not walked at all. -/
def maxPathSize : Nat := 4095

/-- The text of the file at a path. -/
def read (d : Directory) (path : String) : Except ReadFault String := do
  if maxPathSize < path.utf8ByteSize then throw .nameTooLong
  (← d.walk path).text

end Directory
end ScriptLexer.Command
