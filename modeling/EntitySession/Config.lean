import EntitySession.Error
import EntitySession.Value.Document

/-!
# Session configuration

The configuration of a session has one setting, whether its statements are logged for the user to
see.  It is read from a JSON document: an object with the setting as a member, other members being
ignored, or an array with the settings in order.  A setting that is not given has its default.
-/

set_option autoImplicit false

namespace EntitySession

/-- The configuration that all sessions of a factory share. -/
structure Config where
  /-- Whether statements are logged as information rather than for debugging only. -/
  showSql : Bool
  deriving DecidableEq

namespace Config

instance : Inhabited Config := ⟨⟨false⟩⟩

/-- The configuration in a document. -/
def ofDocument? : Json.Document → Option Config
  | .object members => do
    let named ← members.mapM fun (key, d) => (Json.plain? key).map fun name => (name, d)
    match named.filter fun (name, _) => name == "show_sql" with
    | [] => some default
    | [(_, d)] => d.bool?.map Config.mk
    | _ => none
  | .array [] => some default
  | .array [d] => d.bool?.map Config.mk
  | _ => none

/-- Reads a configuration document. -/
def read (text : String) : Except Error Config :=
  match (Json.Document.read? text).bind ofDocument? with
  | some c => .ok c
  | none => .error (Fault.configuration "invalid session configuration").error

/-- The document text of a configuration. -/
def documentText (c : Config) : String :=
  "\x7b" ++ Json.quote "show_sql" ++ ":" ++ (if c.showSql then "true" else "false") ++ "\x7d"

/-- The configuration with the setting the other way. -/
def flipped (c : Config) : Config := { c with showSql := !c.showSql }

end Config

end EntitySession
