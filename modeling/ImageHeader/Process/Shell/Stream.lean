import ImageHeader.Process.Shell

/-! Streams of the shell: reading, writing, complaints, and where redirections lead. -/

namespace ImageHeader.Shell

/-- The open file of a stream, with its index. -/
def openFile? (shell : Shell) (stream : Nat) : Option (Nat × OpenFile) :=
  (shell.descriptors.lookup stream).bind fun index =>
    (shell.files[index]?).map fun file => (index, file)

/-- The shell with another channel behind an open file. -/
def withChannel (shell : Shell) (index : Nat) (channel : Channel) : Shell :=
  { shell with files := shell.files.modify index fun file => { file with channel := channel } }

/-- The content of an entry after bytes were put into it from a position on. -/
def overwritten (held : List UInt8) (position : Nat) (bytes : List UInt8) : List UInt8 :=
  -- A position behind the end leaves zero bytes in between.
  held.take position ++ List.replicate (position - held.length) 0 ++ bytes ++
    held.drop (position + bytes.length)

/-- The bytes of an entry that can be read or written piece by piece. -/
def held (shell : Shell) (location : Location) : List UInt8 :=
  match (shell.tree.entryAt location).content with
  | .ok bytes => bytes
  | .error _ => []

/-- The shell after bytes were written to a stream, or nothing when there is no room for them. -/
def written? (shell : Shell) (stream : Nat) (bytes : List UInt8) : Option Shell :=
  if bytes = [] then some shell
  else
    match shell.openFile? stream with
    | none => none
    | some (index, file) =>
      if !file.writable then none
      else
        match file.channel with
        | .output => some { shell with output := shell.output ++ bytes }
        | .diagnostics => some { shell with diagnostics := shell.diagnostics ++ bytes }
        | .supply _ => none
        | .collection held => some (shell.withChannel index (.collection (held ++ bytes)))
        | .entry location position appends =>
          let held := shell.held location
          -- Whoever appends writes at the end as it is now, not as it was when the file was opened.
          let position := if appends then held.length else position
          match shell.tree.write location (overwritten held position bytes) with
          | .ok tree =>
            let moved := Channel.entry location (position + bytes.length) appends
            some { shell.withChannel index moved with tree := tree }
          | .error _ => none

/-- Writes characters to a stream, and tells whether there was room for them. -/
def write (stream : Nat) (chars : List Char) : Act Bool :=
  modifyGet fun shell =>
    match shell.written? stream (Script.toBytes chars) with
    | some shell => (true, shell)
    | none => (false, shell)

/-- The characters that a stream still has, if it can be read. -/
def unread? (shell : Shell) (stream : Nat) : Option (List Char) :=
  match shell.openFile? stream with
  | none => none
  | some (_, file) =>
    if !file.readable then none
    else
      match file.channel with
      -- All copies of a stream share its open file, so what one has read is gone for the others.
      | .supply rest => some rest
      | .entry location position _ =>
        match (shell.tree.entryAt location).content with
        | .ok bytes => some (Script.ofBytes (bytes.drop position))
        | .error _ => none
      | _ => none

/-- The shell after a number of characters of a stream were read. -/
def advanced (shell : Shell) (stream count : Nat) : Shell :=
  match shell.openFile? stream with
  | none => shell
  | some (index, file) =>
    match file.channel with
    | .supply rest => shell.withChannel index (.supply (rest.drop count))
    | .entry location position appends =>
      shell.withChannel index (.entry location (position + count) appends)
    | _ => shell

/-- Writes a complaint with the place at which it arises. -/
def complain (text : List Char) : Act Unit := do
  let shell ← get
  let place := shell.title ++ chars ": " ++ chars (toString shell.line) ++ chars ": "
  let name := (shell.command.map (· ++ chars ": ")).getD []
  let _ ← write 2 (place ++ name ++ text ++ ['\n'])

/-- Complains and gives up the command. -/
def fail {α : Type} (text : List Char) : Act α := do
  modify fun shell => { shell with status := 2 }
  complain text
  throw .failure

/-- Prints characters; they are written when the builtin command is over. -/
def print (chars : List Char) : Act Unit :=
  modify fun shell => { shell with printed := chars.reverse ++ shell.printed }

/-- Prints a line. -/
def printLine (chars : List Char) : Act Unit := print (chars ++ ['\n'])

/-- Writes what was printed, and tells whether there was room for it. -/
def flush : Act Bool := do
  let printed := (← get).printed.reverse
  modify fun shell => { shell with printed := [] }
  write 1 printed

/-- The number that a text spells in decimal, with blanks around it. -/
def decimal? (text : List Char) : Option Int :=
  let isBlank (char : Char) : Bool := char = ' ' || ('\t' ≤ char && char ≤ '\r')
  let trimmed := text.dropWhile isBlank
  let (negative, digits) :=
    match trimmed with
    | '-' :: digits => (true, digits)
    | '+' :: digits => (false, digits)
    | digits => (false, digits)
  let number := digits.takeWhile Char.isDigit
  -- Blanks may surround the number, and nothing else.
  if number = [] || !(digits.dropWhile Char.isDigit).all isBlank then none
  else
    let magnitude : Int := Script.decimal number
    let value := if negative then -magnitude else magnitude
    if -0x8000000000000000 ≤ value ∧ value ≤ 0x7FFFFFFFFFFFFFFF then some value else none

/-- Complains about a text that is no number. -/
def failNumber {α : Type} (text : List Char) : Act α := fail (chars "Illegal number: " ++ text)

/-- The number that a text spells; it may not be negative. -/
def number (text : List Char) : Act Nat :=
  match decimal? text with
  | some value => if 0 ≤ value ∧ value ≤ 0x7FFFFFFF then pure value.toNat else failNumber text
  | none => failNumber text

/-- The path that a text spells. -/
def pathOf (text : List Char) : Path := ⟨Script.toBytes text⟩

/-- The text of a system's error. -/
def errorText (error : IoError) (missing : String) : List Char :=
  match error with
  | .system number => if number = 2 ∨ number = 20 then chars missing else chars (IoError.systemText number)
  | error => chars error.message

/-- Adds an open file, and gives its index. -/
def addFile (file : OpenFile) : Act Nat :=
  modifyGet fun shell => (shell.files.size, { shell with files := shell.files.push file })

/-- Adds an open file for an entry of the tree. -/
def addEntry (tree : FileTree) (location : Location) (readable writable appends : Bool) : Act Nat := do
  modify fun shell => { shell with tree := tree }
  addFile ⟨.entry location 0 appends, readable, writable⟩

/-- Opens an entry for writing and keeps its content. -/
def extend (tree : FileTree) (here : Location) (path : Path) : Except IoError (FileTree × Location) :=
  -- Creating an entry empties it, so its content is put back.
  let kept :=
    match tree.read here path with
    | .ok kept => kept
    | .error _ => []
  match tree.create here path with
  | .error error => .error error
  | .ok (tree, location) =>
    match tree.write location kept with
    | .ok tree => .ok (tree, location)
    | .error _ => .ok (tree, location)

/-- The number of the stream that a path in the directory of streams names, if it names one. -/
def streamOf? (name : List Char) : Option Nat :=
  if name = chars "/dev/stdin" then some 0
  else if name = chars "/dev/stdout" then some 1
  else if name = chars "/dev/stderr" then some 2
  else if (chars "/dev/fd/").isPrefixOf name then
    let digits := name.drop 8
    if digits ≠ [] && digits.all Char.isDigit then some (Script.decimal digits) else none
  else none

/-- Opens a file as a redirection asks, and gives its index. -/
def openNamed (access : Script.Access) (name : List Char) : Act Nat := do
  let shell ← get
  let path := pathOf name
  let creating {α : Type} (error : IoError) : Act α :=
    fail (chars "cannot create " ++ name ++ chars ": " ++ errorText error "Directory nonexistent")
  let reading {α : Type} (error : IoError) : Act α :=
    fail (chars "cannot open " ++ name ++ chars ": " ++ errorText error "No such file")
  match (streamOf? name).bind shell.openFile? with
  -- A stream that is named by a path is the same open file and not another one on the same entry.
  | some (index, _) => return index
  | none =>
    let exists? : IoError := .system 17
    let truncate : Act Nat :=
      match shell.tree.create shell.here path with
      | .ok (tree, location) => addEntry tree location false true false
      | .error error => creating error
    match access with
    | .read =>
      match shell.tree.find shell.here path with
      | .ok location => addEntry shell.tree location true false false
      | .error error => reading error
    | .overwrite => truncate
    | .write =>
      if !shell.has 'C' then truncate
      else
        match shell.tree.find shell.here path with
        -- A link that leads nowhere is there as well, and is protected.
        | .error .notFound =>
          match shell.tree.walk .removing shell.here path with
          | .ok (.named parent last _) =>
            if (shell.tree.lookup (parent ++ [last])).isSome then creating exists? else truncate
          | _ => truncate
        | .error _ => truncate
        | .ok location =>
          match shell.tree.entryAt location with
          | .file .. => creating exists?
          -- Only files are protected: a device may be written at any time.
          | _ => truncate
    | .append =>
      match extend shell.tree shell.here path with
      | .ok (tree, location) => addEntry tree location false true true
      | .error error => creating error
    | .update =>
      match extend shell.tree shell.here path with
      | .ok (tree, location) => addEntry tree location true true false
      | .error error => creating error

/-- The descriptors with a stream leading to an open file, or closed. -/
def redirect (stream : Nat) (index : Option Nat) : Act Unit :=
  modify fun shell =>
    let others := shell.descriptors.filter fun pair => pair.1 ≠ stream
    { shell with
      descriptors :=
        match index with
        | some index => (stream, index) :: others
        | none => others }

/-- Makes a stream a copy of another one. A stream that is `saved` for later has been closed by then, so that a
complaint about it may get lost. -/
def copyStream (saved : Bool) (stream source : Nat) : Act Unit := do
  -- A stream is its own copy, open or not.
  if stream = source then return
  match (← get).openFile? source with
  | some (index, _) => redirect stream (some index)
  | none =>
    if saved then redirect stream none
    fail (chars (toString source) ++ chars ": Bad file descriptor")

end ImageHeader.Shell
