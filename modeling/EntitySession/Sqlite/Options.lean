/-!
# How a database is opened

`OpenOptions` say which file a connection is for, what it may do with it and how long it waits for
others.  Without any choice of access a connection may read and write and makes the file if it is
missing.
-/

set_option autoImplicit false

namespace EntitySession.Sqlite

/-- What a connection asks for when it opens a file. -/
structure OpenFlags where
  readOnly : Bool
  readWrite : Bool
  /-- Whether a missing file is made. -/
  create : Bool
  /-- Whether the path may be a URI.  It may be one in any case. -/
  uri : Bool
  /-- Whether the handle may be shared between threads. -/
  fullMutex : Bool
  deriving DecidableEq

namespace OpenFlags

/-- No flag is set. -/
def none : OpenFlags := ⟨false, false, false, false, false⟩

/-- For reading only. -/
def reading : OpenFlags := { none with readOnly := true }

/-- For reading and writing a file that is there. -/
def writing : OpenFlags := { none with readWrite := true }

/-- For reading and writing a file that is made if it is missing. -/
def creating : OpenFlags := { writing with create := true }

/-- The flags with a choice of access: without one, everything is allowed. -/
def effective (f : OpenFlags) : OpenFlags :=
  if f.readOnly || f.readWrite then f else { f with readWrite := true, create := true }

/-- Whether the access that is asked for makes sense: reading only goes with nothing else. -/
def sensible (f : OpenFlags) : Bool := f.readOnly != f.readWrite && !(f.readOnly && f.create)

end OpenFlags

/-- How a database is opened. -/
structure OpenOptions where
  path : String
  flags : OpenFlags
  /-- How long a statement waits for other connections, in milliseconds. -/
  busyTimeout : Nat
  deriving DecidableEq

namespace OpenOptions

/-- The options for a file. -/
def file (path : String) : OpenOptions := ⟨path, .creating, 5000⟩

/-- The options for a database in memory. -/
def memory : OpenOptions := file ":memory:"

end OpenOptions

end EntitySession.Sqlite
