import EntitySession.Sqlite.Options
import EntitySession.Sqlite.Uri

/-!
# Where a database is

The path of a connection leads to a `Location`: to a file, or to a database in memory, which is the
connection's own unless it is shared by its name.  A path may be a URI, whose parameters then have a
say in how the database is opened; `OpenOptions.opening` gives what comes out.

A path to a file goes along its elements, down into directories and up again, before anything is
opened.  Two paths that come to the same place lead to the same file.
-/

set_option autoImplicit false

namespace EntitySession.Sqlite

/-! ## Places of files -/

/-- Where a path begins. -/
inductive Directory where
  | root
  | working
  /-- The directory in which databases are kept. -/
  | databases
  deriving DecidableEq

/-- What a path has come to. -/
structure Place where
  start : Directory
  /-- How many steps up from there. -/
  above : Nat
  /-- The names down from there, the last one first. -/
  names : List String
  deriving DecidableEq

namespace Place

/-- What the paths in the directory of databases begin with. -/
def mark : List Char := "db:".toList

/-- Where a path begins, and its other letters. -/
def begin (letters : List Char) : Place × List Char :=
  if mark.isPrefixOf letters then (⟨.databases, 0, []⟩, letters.drop mark.length)
  else if letters.head? = some '/' then (⟨.root, 0, []⟩, letters)
  else (⟨.working, 0, []⟩, letters)

/-- One step up.  The root has nothing above it. -/
def up (p : Place) : Place :=
  match p.names with
  | _ :: rest => { p with names := rest }
  | [] => if p.start = .root then p else { p with above := p.above + 1 }

/-- The most bytes of a name. -/
def longestName : Nat := 255

/-- Goes along one element of a path.  A missing directory stops nobody yet, but a file does, and so
does a name that is too long for the directory that it is looked for in. -/
def step (isFile : Place → Bool) (p : Place) (element : String) : Except Failure Place :=
  if element = "" ∨ element = "." then .ok p
  else if element = ".." then .ok p.up
  else if isFile p ∨ (p.names = [] ∧ longestName < element.utf8ByteSize) then .error .cannotOpen
  else .ok { p with names := element :: p.names }

/-- The place that a path leads to. -/
def ofPath (isFile : Place → Bool) (path : String) : Except Failure Place :=
  let (start, letters) := begin path.toList
  ((letters.splitOn '/').map String.ofList).foldlM (step isFile) start

/-- Whether the place is a directory, as far as there are any. -/
def isDirectory (p : Place) : Bool := p.names.isEmpty

/-- Whether a file can be made at the place: in a directory that is there and may be changed. -/
def isFree (p : Place) : Bool := p.names.length == 1 && p.start != .root

/-- Whether the journal of a file at the place, whose name is longer by eight letters, has a name that
is not too long. -/
def hasJournal (p : Place) : Bool := p.names.all fun n => n.utf8ByteSize + 8 ≤ longestName

end Place

/-! ## Opening -/

/-- What a connection may do with its database. -/
inductive Access where
  | reading
  | writing
  | creating
  /-- Whatever it likes, since the database is in memory. -/
  | inMemory
  deriving DecidableEq

namespace Access

/-- The access that flags ask for. -/
def ofFlags (f : OpenFlags) : Access :=
  if f.readOnly then reading else if f.create then creating else writing

/-- The access that a word of a URI means. -/
def ofWord? : String → Option Access
  | "ro" => some reading
  | "rw" => some writing
  | "rwc" => some creating
  | "memory" => some inMemory
  | _ => none

/-- Whether one access may take the place of another: it must not allow more, and anything goes with a
database in memory. -/
def mayBecome : Access → Access → Bool
  | inMemory, _ | _, inMemory | creating, _ | _, reading => true
  | writing, a => a != creating
  | reading, _ => false

end Access

/-- How a database is opened, after all that was said about it. -/
structure Opening where
  path : String
  access : Access
  /-- Whether a database in memory is shared by its name. -/
  isShared : Bool
  /-- The name of the file system that is used. -/
  system : String
  deriving DecidableEq

namespace Opening

/-- The file systems, the first of which is used unless another one is asked for.  The last one keeps
its files in memory. -/
def systems : List String := ["unix", "unix-none", "unix-dotfile", "unix-excl", "memdb"]

/-- Heeds a parameter of a URI.  What is not known is left aside. -/
def heed (o : Opening) : String × String → Except Failure Opening
  | ("vfs", name) => .ok { o with system := name }
  | ("cache", "shared") => .ok { o with isShared := true }
  | ("cache", "private") => .ok { o with isShared := false }
  | ("cache", word) => .error (.noMode "cache" word)
  | ("mode", word) =>
    match Access.ofWord? word with
    | none => .error (.noMode "access" word)
    | some a => if o.access.mayBecome a then .ok { o with access := a } else .error (.modeNotAllowed word)
  | _ => .ok o

/-- Goes on only with a file system that there is. -/
def checkSystem (o : Opening) : Except Failure Opening :=
  if systems.contains o.system then .ok o else .error (.noSystem o.system)

end Opening

/-- What options come to. -/
def OpenOptions.opening (o : OpenOptions) : Except Failure Opening :=
  if !o.flags.effective.sensible then .error .misuse
  else
    let plain : Opening := ⟨o.path, Access.ofFlags o.flags.effective, false, "unix"⟩
    match Uri.read o.path with
    | none => .ok plain
    | some uri => do
      let uri ← uri
      let opening ← uri.parameters.foldlM Opening.heed { plain with path := uri.path }
      opening.checkSystem

/-- Where a database is. -/
inductive Location where
  /-- With its connection, which is the only one that ever sees it. -/
  | own
  /-- In memory, under a name. -/
  | memory (name : String)
  | file (place : Place)
  deriving DecidableEq

/-- Where a database is opened.  A database without a name is the connection's own. -/
def Opening.location (isFile : Place → Bool) (o : Opening) : Except Failure Location :=
  if o.path = "" then .ok .own
  else if o.path = ":memory:" ∨ o.access = .inMemory then
    .ok (if o.isShared then .memory o.path else .own)
  else if o.system = "memdb" then .ok (if o.path.front = '/' then .memory o.path else .own)
  else (Place.ofPath isFile o.path).map .file

end EntitySession.Sqlite
