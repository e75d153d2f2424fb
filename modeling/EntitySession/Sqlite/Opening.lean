import EntitySession.Sqlite.Connection
import EntitySession.Sqlite.Store

/-!
# Opening connections

A connection to a database is opened by `Store.connect`.  The error of an attempt that fails names the
path and gives the reason.
-/

set_option autoImplicit false

namespace EntitySession.Sqlite.Store

/-- Opens a connection. -/
def connect (s : Store) (o : OpenOptions) : Except Error (Connection × Store) :=
  if o.path.toList.contains '\x00' then
    .error (Fault.query .database none "Invalid path: contains null byte").error
  else match s.openHandle o with
    | .ok (handle, s) => .ok (.start o.path handle, s)
    | .error f =>
      .error
        (Fault.query f.report.kind none ("Failed to open database " ++ o.path ++ ": " ++ f.report.message)).error

end EntitySession.Sqlite.Store
