import ImageHeader.FileTree.Access

/-! Executable files: where a program is searched, and which interpreter the first line of a script asks for. -/

namespace ImageHeader

namespace Executable

/-- The number of bytes at the beginning of a file that decide how it is run. -/
def headLength : Nat := 256

/-- The number of bytes, with a zero byte at its end, that one text may take on the way to a program. -/
def textLimit : Nat := 131072

/-- The number of files, scripts and at last a program, that one start may go through. -/
def levelLimit : Nat := 6

/-- The error of arguments that take too much room. -/
def tooLong : IoError := .system 7

/-- What the first line of a script asks for. -/
structure Interpreter where
  /-- The path of the program that reads the script. -/
  path : List UInt8
  /-- The one argument that goes before the script. -/
  argument : Option (List UInt8)
  deriving DecidableEq, Repr

/-- Whether a byte is a blank between the words of a first line. -/
def isBlank (byte : UInt8) : Bool := byte = 0x20 || byte = 0x09

/-- Whether a byte ends the path of an interpreter. -/
def endsPath (byte : UInt8) : Bool := isBlank byte || byte = 0

/-- The words of a first line: a path, and what follows it as one argument. -/
def ofLine? (line : List UInt8) : Option Interpreter :=
  -- Blanks at both ends are no part of the line; those inside belong to the one argument.
  let trimmed := ((line.reverse.dropWhile isBlank).reverse).dropWhile isBlank
  if trimmed = [] then none
  else
    let path := trimmed.takeWhile fun byte => !endsPath byte
    match trimmed.drop path.length with
    | [] | 0 :: _ => some ⟨path, none⟩
    | rest => some ⟨path, some ((rest.dropWhile isBlank).takeWhile (· ≠ 0))⟩

/-- The interpreter that a file asks for, if it is a script. Only the head of the file counts: a line that does not
end there must at least show the end of the path. -/
def interpreter? (content : List UInt8) : Option Interpreter :=
  let head := content.take headLength
  -- A shorter file is read as if zero bytes followed it.
  match head ++ List.replicate (headLength - head.length) 0 with
  | 0x23 :: 0x21 :: rest =>
    let line := rest.takeWhile fun byte => byte ≠ 0x0A && byte ≠ 0
    if rest[line.length]? = some 0x0A then ofLine? line
    -- A cut line is still good when its path is whole, though its last byte is lost.
    else if (rest.dropWhile isBlank).any endsPath then ofLine? rest.dropLast
    else none
  | _ => none

/-- The place of a file that may be run. -/
def find (tree : FileTree) (here : Location) (path : List UInt8) : Except IoError Location :=
  match tree.find here ⟨path⟩ with
  | .error error => .error error
  | .ok location =>
    match tree.entryAt location with
    -- The mark of a program is all that counts; what is in the file is looked at when it is loaded.
    | .file _ true | .special .shell => .ok location
    | _ => .error .denied

/-- The arguments that reach the shell when a file is run: each script puts its interpreter, perhaps an argument, and
its own path in front, in place of the name under which it was run. -/
def load (tree : FileTree) (here : Location) : Nat → Location → List UInt8 → List (List UInt8) →
    Except IoError (List (List UInt8))
  | 0, _, _, _ => .error .tooManyLinks
  | level + 1, location, path, arguments =>
    match tree.entryAt location with
    | .file content _ =>
      match interpreter? content with
      | none => .error .notExecutable
      | some interpreter =>
        -- A line that is cut off before the path names nothing that may be run.
        if interpreter.path = [] then .error .denied
        else
          match find tree here interpreter.path with
          | .error error => .error error
          | .ok next =>
            load tree here level next interpreter.path
              (interpreter.path :: interpreter.argument.toList ++ path :: arguments.tail)
    -- Only the shell itself is left, which takes whatever has been gathered.
    | _ => .ok arguments

/-- The arguments that reach the shell when the file at a path is run with arguments and an environment. -/
def prepare (tree : FileTree) (here : Location) (environment arguments : List (List UInt8))
    (path : List UInt8) : Except IoError (List (List UInt8)) :=
  match find tree here path with
  | .error error => .error error
  | .ok location =>
    -- The room for texts is judged before the file is opened.
    if (environment ++ arguments).any fun text => textLimit ≤ text.length then .error tooLong
    else load tree here levelLimit location path arguments

/-- The byte between the directories of a search path. -/
def colon : UInt8 := 0x3A

/-- The path of a name in a directory of the search path; an empty one is the working directory. Of a name that is too
long, only as much is taken as shows that it is. -/
def joined (directory name : List UInt8) : List UInt8 :=
  let name := name.take (Path.nameLimit + 1)
  if directory = [] then name else directory ++ Path.slash :: name

/-- The paths at which a name is searched. A directory that is too long counts as empty, and ends the search when it
is the last one. -/
def candidates (name : List UInt8) : List (List UInt8) → List (List UInt8)
  | [] => []
  | [last] => if Path.lengthLimit ≤ last.length then [] else [joined last name]
  | directory :: rest =>
    joined (if Path.lengthLimit ≤ directory.length then [] else directory) name :: candidates name rest

/-- Whether a search goes on after an error: what is missing or denied may still be found elsewhere. -/
def goesOn (error : IoError) : Bool :=
  [.denied, .notFound, .notDirectory].contains error

/-- The first of some paths that can be run; otherwise one that is denied weighs more than one that is missing. -/
def search (attempt : List UInt8 → Except IoError (List (List UInt8))) :
    IoError → List (List UInt8) → Except IoError (List (List UInt8))
  | failure, [] => .error failure
  | failure, path :: rest =>
    match attempt path with
    | .ok arguments => .ok arguments
    | .error error =>
      -- Any other error is about the program that was meant.
      if !goesOn error then .error error
      else search attempt (if failure = .denied then failure else error) rest

/-- The error of a search that tried no path at all. -/
def nothingTried : IoError := .system 10

/-- The directories that are searched when no search path is set. -/
def standardPath : List UInt8 := Utf8.encode "/bin:/usr/bin"

/-- The arguments that reach the shell when a program is run: a name without a slash is searched. -/
def start (tree : FileTree) (here : Location) (environment : List (List UInt8)) (searchPath : Option (List UInt8))
    (program : List UInt8) (arguments : List (List UInt8)) : Except IoError (List (List UInt8)) :=
  let attempt := prepare tree here environment (program :: arguments)
  if program = [] then .error .notFound
  -- A slash names the file itself, wherever it stands.
  else if program.contains Path.slash then attempt program
  else
    let directories := (searchPath.getD standardPath).splitOn colon
    search attempt nothingTried (candidates program directories)

end Executable

end ImageHeader
