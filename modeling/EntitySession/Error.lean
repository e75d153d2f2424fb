import EntitySession.SqlType
import EntitySession.Value

/-!
# What can go wrong

An `Error` is a fault together with the faults behind it, the nearest first.  Faults come in nine
kinds.  Within a kind the fault names its cause, and the wording of a cause stands in one place:
`MappingFault.message`, `EntityFault.message` and so on.  A cause called `reported` carries the words
of someone outside: a connection, a loader, an entity's accessor.

`Error.text` is the whole message.  Where a fault shows what is behind it, the text of the cause
follows after a colon, so the text of a chain is computed from its far end.
-/

set_option autoImplicit false

namespace EntitySession

/-! ## Causes -/

/-- Why a mapping cannot be resolved. -/
inductive MappingFault where
  | notMarked
  | noIdentifier
  | identifierIsAssociation (field : String)
  | manyIdentifiers (fields : List String)
  | invalidName (what name : String)
  | repeatedField (field : String)
  | repeatedColumn (column : String)
  | targetNotMarked (field target : String)
  | targetWithoutIdentifier (field target : String)
  | mappedByUnknownField (field target inverse : String)
  | mappedByWithoutJoinTable (field target inverse : String)
  | mappedByForeignField (field target inverse owner : String)
  | noJoinTable (field : String)
  | noMappedBy (field : String)
  | reported (message : String)
  deriving DecidableEq

/-- The wording of a mapping fault. -/
def MappingFault.message : MappingFault → String
  | notMarked => "type is not marked as an entity"
  | noIdentifier => "no identifier field declared"
  | identifierIsAssociation field => "identifier field '" ++ field ++ "' cannot be an association"
  | manyIdentifiers fields =>
    "more than one identifier field declared: " ++ ", ".intercalate fields
  | invalidName what name => what ++ " name '" ++ name ++ "' is not a valid SQL identifier"
  | repeatedField field => "field '" ++ field ++ "' declared twice"
  | repeatedColumn column => "column '" ++ column ++ "' is mapped more than once"
  | targetNotMarked field target =>
    "association '" ++ field ++ "' targets " ++ target ++ ", which is not marked as an entity"
  | targetWithoutIdentifier field target =>
    "association '" ++ field ++ "' targets " ++ target ++ ", which declares no identifier"
  | mappedByUnknownField field target inverse =>
    "association '" ++ field ++ "' is mapped by unknown field " ++ target ++ "." ++ inverse
  | mappedByWithoutJoinTable field target inverse =>
    "association '" ++ field ++ "' is mapped by " ++ target ++ "." ++ inverse
      ++ ", which declares no join table"
  | mappedByForeignField field target inverse owner =>
    "association '" ++ field ++ "' is mapped by " ++ target ++ "." ++ inverse
      ++ ", which is not a to-one reference to " ++ owner
  | noJoinTable field => "many-to-many association '" ++ field ++ "' declares no join table"
  | noMappedBy field => "one-to-many association '" ++ field ++ "' declares no mapped_by field"
  | reported message => message

/-- Why a type gives no new instance. -/
inductive InstantiationFault where
  | missingConstructor
  | abstractType
  | constructorFailed (message : String)
  deriving DecidableEq

/-- The wording of an instantiation fault. -/
def InstantiationFault.message : InstantiationFault → String
  | missingConstructor => "type does not declare a no-argument constructor"
  | abstractType => "type is abstract"
  | constructorFailed message => "no-argument constructor failed: " ++ message

/-- Why an entity could not be read from the database or written to it. -/
inductive EntityFault where
  | cannotInstantiate (why : InstantiationFault)
  | missingColumn (column : String)
  | cannotMapColumn (field : String)
  | loadFailed
  | loadManyFailed
  | insertFailed
  | insertCount (rows : Nat)
  | noGeneratedKey
  | generatedKeyUnfit (key : Value)
  | cannotWriteIdentifier
  | updateFailed
  | deleteFailed
  | trackWithoutIdentifier
  | deleteWithoutIdentifier
  | unexpectedType
  | reported (message : String)
  deriving DecidableEq

/-- The wording of an entity fault. -/
def EntityFault.message : EntityFault → String
  | cannotInstantiate why => "cannot instantiate entity: " ++ why.message
  | missingColumn column => "result set has no column '" ++ column ++ "'"
  | cannotMapColumn field => "cannot map column into field '" ++ field ++ "'"
  | loadFailed => "failed to load entity"
  | loadManyFailed => "failed to load entities"
  | insertFailed => "failed to insert entity"
  | insertCount rows => "insert affected " ++ toString rows ++ " rows, expected exactly 1"
  | noGeneratedKey => "database did not return a generated key"
  | generatedKeyUnfit key => "generated key " ++ key.display ++ " does not fit identifier field"
  | cannotWriteIdentifier => "cannot write generated identifier"
  | updateFailed => "failed to update entity"
  | deleteFailed => "failed to delete entity"
  | trackWithoutIdentifier => "cannot track an entity without an identifier"
  | deleteWithoutIdentifier => "cannot delete an entity without an identifier"
  | unexpectedType => "tracked instance has an unexpected type"
  | reported message => message

/-- The kinds of association faults. -/
inductive AssociationFaultKind where
  | missingConstructor
  | abstractType
  | constructorFailed
  | unsupportedCollection
  | targetMismatch
  | mapping
  | load
  deriving DecidableEq

/-- The kind under which an instantiation fault of a target is reported. -/
def InstantiationFault.kind : InstantiationFault → AssociationFaultKind
  | missingConstructor => .missingConstructor
  | abstractType => .abstractType
  | constructorFailed _ => .constructorFailed

/-- Why an association value cannot be made or loaded. -/
inductive AssociationFault where
  | cannotInstantiate (target : String) (why : InstantiationFault)
  | unsupportedCollection (name : String)
  | targetMismatch (declared requested : String)
  | collectionAsReference
  | referenceAsCollection
  | otherShape (declared requested : String)
  | noOwnerQuery
  | loadedOther (actual expected : String)
  | loadFailed
  | reported (kind : AssociationFaultKind) (message : String)
  deriving DecidableEq

/-- The kind of an association fault. -/
def AssociationFault.kind : AssociationFault → AssociationFaultKind
  | cannotInstantiate _ why => why.kind
  | unsupportedCollection _ => .unsupportedCollection
  | targetMismatch _ _ | loadedOther _ _ => .targetMismatch
  | collectionAsReference | referenceAsCollection | otherShape _ _ | noOwnerQuery => .mapping
  | loadFailed => .load
  | reported kind _ => kind

/-- The wording of an association fault. -/
def AssociationFault.message : AssociationFault → String
  | cannotInstantiate target .missingConstructor =>
    "cannot create lazy proxy: " ++ target ++ " does not declare a no-argument constructor"
  | cannotInstantiate target .abstractType =>
    "cannot create lazy proxy: " ++ target ++ " is abstract"
  | cannotInstantiate target (.constructorFailed message) =>
    "cannot create lazy proxy: no-argument constructor of " ++ target ++ " failed: " ++ message
  | unsupportedCollection name =>
    "collection type " ++ name ++ " is not supported, use a list or a set"
  | targetMismatch declared requested =>
    "association targets " ++ declared ++ ", not " ++ requested
  | collectionAsReference => "collection association cannot be bound to a single reference"
  | referenceAsCollection => "single reference cannot be bound to a collection"
  | otherShape declared requested =>
    "association is declared as " ++ declared ++ ", not " ++ requested
  | noOwnerQuery => "collection association has no owner query"
  | loadedOther actual expected => "loader returned " ++ actual ++ ", expected " ++ expected
  | loadFailed => "failed to load association"
  | reported _ message => message

/-- Why a field cannot be read or written. -/
inductive FieldFault where
  | unknown
  | reported (message : String)
  deriving DecidableEq

/-- The wording of a field fault. -/
def FieldFault.message : FieldFault → String
  | unknown => "no such field"
  | reported message => message

/-- What was being done when a failure of the layer below was passed on. -/
inductive Undertaking where
  | openConnection
  | closeConnection
  | beginTransaction
  | commitTransaction
  | rollBackTransaction
  | reported (message : String)
  deriving DecidableEq

/-- The wording of a failed undertaking. -/
def Undertaking.message : Undertaking → String
  | openConnection => "Could not open connection"
  | closeConnection => "Could not close connection"
  | beginTransaction => "Could not begin transaction"
  | commitTransaction => "Could not commit transaction"
  | rollBackTransaction => "Could not roll back transaction"
  | reported message => message

/-- Why a call is not allowed in the present state. -/
inductive StateFault where
  | sessionClosed
  | alreadyActive
  | cannotCommit (status : String)
  | cannotRollBack (status : String)
  | reported (message : String)
  deriving DecidableEq

/-- The wording of a state fault. -/
def StateFault.message : StateFault → String
  | sessionClosed => "Session is closed"
  | alreadyActive => "Transaction is already active"
  | cannotCommit status => "Cannot commit transaction in status " ++ status
  | cannotRollBack status => "Cannot roll back transaction in status " ++ status
  | reported message => message

/-- The kinds of failures that a database reports. -/
inductive QueryFaultKind where
  | syntaxError
  | constraint
  | notFound
  | permission
  | dataTruncation
  | busy
  | cancelled
  | closed
  | database
  deriving DecidableEq

/-! ## Faults and errors -/

/-- One fault, with what it is about. -/
inductive Fault where
  /-- A mapping that cannot be resolved. -/
  | mapping (entity : String) (why : MappingFault)
  /-- An entity that could not be loaded or written. -/
  | entity (entity : String) (id : Option Value) (sql : Option String) (why : EntityFault)
  /-- An association value that cannot be made or loaded. -/
  | association (owner : String) (field : Option String) (why : AssociationFault)
  /-- A field that cannot be read or written. -/
  | field (entity field : String) (why : FieldFault)
  /-- A failure of the layer below, passed on. -/
  | failed (what : Undertaking)
  /-- A call that the present state does not allow. -/
  | illegalState (why : StateFault)
  /-- A failure that a database reports. -/
  | query (kind : QueryFaultKind) (sql : Option String) (message : String)
  /-- A value that does not convert. -/
  | conversion (expected actual : String) (column : Option String)
  /-- A configuration document that cannot be read. -/
  | configuration (message : String)
  deriving DecidableEq

/-- A fault and the faults behind it, the nearest first. -/
structure Error where
  fault : Fault
  causes : List Fault
  deriving DecidableEq

/-- The nine kinds of errors. -/
inductive ErrorKind where
  | mapping
  | entity
  | association
  | field
  | failed
  | illegalState
  | query
  | conversion
  | configuration
  deriving DecidableEq

namespace Fault

/-- The kind of a fault. -/
def kind : Fault → ErrorKind
  | mapping _ _ => .mapping
  | entity _ _ _ _ => .entity
  | association _ _ _ => .association
  | field _ _ _ => .field
  | failed _ => .failed
  | illegalState _ => .illegalState
  | query _ _ _ => .query
  | conversion _ _ _ => .conversion
  | configuration _ => .configuration

/-- The statement that a fault is about. -/
def sql? : Fault → Option String
  | query _ sql _ => sql
  | entity _ _ sql _ => sql
  | _ => none

/-- The fault as an error with nothing behind it. -/
def error (f : Fault) : Error := ⟨f, []⟩

/-- Puts a fault in front of the error that caused it. -/
def causedBy (f : Fault) (cause : Error) : Error := ⟨f, cause.fault :: cause.causes⟩

/-- The ending that names the cause of a fault, where there is one. -/
def ending : Option String → String
  | none => ""
  | some cause => ": " ++ cause

/-- What a fault says on its own, without the name of its kind.  Faults about an entity or an
association go on with the text of their cause. -/
def detail (cause : Option String) : Fault → String
  | mapping name why => name ++ ": " ++ why.message
  | entity name id sql why =>
    name ++ (match id with | some v => " with id " ++ v.display | none => "")
      ++ ": " ++ why.message
      ++ (match sql with | some s => " [SQL: " ++ s ++ "]" | none => "") ++ ending cause
  | association owner part why =>
    owner ++ (match part with | some f => "." ++ f | none => "")
      ++ ": " ++ why.message ++ ending cause
  | field owner name why => owner ++ "." ++ name ++ ": " ++ why.message
  | failed what => what.message
  | illegalState why => why.message
  | query _ _ message => message
  | conversion expected actual column =>
    "expected " ++ expected ++ (match column with | some c => " for column '" ++ c ++ "'" | none => "")
      ++ ", found " ++ actual
  | configuration message => message

/-- The whole text of a fault, given the text of its cause. -/
def text (cause : Option String) : Fault → String
  | f@(mapping _ _) => "Entity parse error: " ++ f.detail cause
  | f@(entity _ _ _ _) => "Entity query error: " ++ f.detail cause
  | f@(association _ _ _) => "Association error: " ++ f.detail cause
  | f@(field _ _ _) => "Field access error: " ++ f.detail cause
  | f@(failed _) => f.detail cause
  | f@(illegalState _) => "Illegal state: " ++ f.detail cause
  | f@(query _ _ _) => "Query error: " ++ f.detail cause
  | conversion expected actual column =>
    "Type error" ++ (match column with | some c => " in column '" ++ c ++ "'" | none => "")
      ++ ": expected " ++ expected ++ ", found " ++ actual
  | f@(configuration _) => "Configuration error: " ++ f.detail cause

end Fault

namespace Error

/-- The kind of an error is that of its own fault. -/
def kind (e : Error) : ErrorKind := e.fault.kind

/-- The statement that an error is about. -/
def sql? (e : Error) : Option String := e.fault.sql?

/-- The texts of a chain of faults, each with what is behind it. -/
def chainTexts : List Fault → List String
  | [] => []
  | f :: rest =>
    let behind := chainTexts rest
    f.text behind.head? :: behind

/-- The whole message of an error. -/
def text (e : Error) : String := e.fault.text (chainTexts e.causes).head?

/-- The message of an error without the name of its kind. -/
def detail (e : Error) : String := e.fault.detail (chainTexts e.causes).head?

/-- The messages of the causes of an error, the nearest first. -/
def causeTexts (e : Error) : List String := chainTexts e.causes

/-- The session that is asked has been closed. -/
def sessionClosed : Error := (Fault.illegalState .sessionClosed).error

/-- A field that an entity does not have. -/
def unknownField (entity field : String) : Error := (Fault.field entity field .unknown).error

/-- Whether an error says that the present state does not allow the call. -/
def isIllegalState (e : Error) : Bool := e.kind == .illegalState

end Error

end EntitySession
