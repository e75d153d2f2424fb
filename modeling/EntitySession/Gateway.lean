import EntitySession.Statement
import EntitySession.Surroundings

/-!
# The gateway to the tables

A `Gateway` loads, inserts, updates and deletes instances of any type over one connection.  It builds
each statement from the metadata of the type, records it in the log, sends it, and turns the rows that
come back into new instances; whom these ask for their associations is said by a `Loader`.

An instance without an identifier is inserted without the identifier column.  The identifier then
comes from the database and is written back, in the declared form.
-/

set_option autoImplicit false

namespace EntitySession

/-- Access to the tables over one connection. -/
structure Gateway where
  connection : ConnectionId
  /-- Whether statements are logged for the user to see. -/
  showSql : Bool
  deriving DecidableEq

namespace Gateway

variable {δ : Type} [Database δ]

/-- The gateway as it shows itself. -/
def describe (g : Gateway) : String :=
  "GenericDao \x7b show_sql: " ++ (if g.showSql then "true" else "false") ++ ", .. \x7d"

/-- A fault of a statement. -/
def fault (m : Metadata) (why : EntityFault) (sql : String) (id : Option Value) : Fault :=
  .entity m.entity id (some sql) why

/-- Records a statement and sends it; a failure becomes the cause of the given fault. -/
def send {α : Type} (g : Gateway) (sql : String) (f : Fault) (run : δ → Except Error α × δ) :
    Act (Site δ) α := do
  Site.note g.showSql sql
  (Site.call run).blaming f.causedBy

/-! ## Loading -/

/-- The statement that selects by a column. -/
def selectBy (m : Metadata) (column : String) : Statement :=
  .select m.columnNames m.table.name column

/-- Makes an instance of each row, in order. -/
def hydrateAll (S : Schema) (loader : Loader) (entity : String) :
    List Row → Act (Site δ) (List InstanceId)
  | [] => pure []
  | row :: rest => do
    let i ← Site.change fun h => h.hydrate S loader entity row
    let is ← hydrateAll S loader entity rest
    pure (i :: is)

/-- Loads the instance of a type with an identifier; of several rows the first one counts. -/
def findById (g : Gateway) (S : Schema) (loader : Loader) (entity : String) (id : Value) :
    Act (Site δ) (Option InstanceId) := do
  let m ← Act.lift (S.metadata entity)
  let sql := (selectBy m m.identifier.column).render
  let rows ← g.send sql (fault m .loadFailed sql (some id)) (Database.query g.connection sql [id])
  match rows with
  | row :: _ => do
    let i ← Site.change fun h => h.hydrate S loader entity row
    pure (some i)
  | [] => pure none

/-- Sends a selection for one value and makes the instances. -/
def findAll (g : Gateway) (S : Schema) (loader : Loader) (m : Metadata) (statement : Statement)
    (v : Value) : Act (Site δ) (List InstanceId) := do
  let sql := statement.render
  let rows ← g.send sql (fault m .loadManyFailed sql none) (Database.query g.connection sql [v])
  hydrateAll S loader m.entity rows

/-- Loads the instances of a type with a value in a column. -/
def findBy (g : Gateway) (S : Schema) (loader : Loader) (entity column : String) (v : Value) :
    Act (Site δ) (List InstanceId) := do
  let m ← Act.lift (S.metadata entity)
  g.findAll S loader m (selectBy m column) v

/-- Loads the instances of a type that a join table links to an owner. -/
def findLinked (g : Gateway) (S : Schema) (loader : Loader) (entity : String) (links : JoinTable)
    (ownerId : Value) : Act (Site δ) (List InstanceId) := do
  let m ← Act.lift (S.metadata entity)
  g.findAll S loader m
    (.selectLinked m.columnNames m.table.name links.table m.identifier.column
      links.inverseJoinColumn links.joinColumn)
    ownerId

/-- Loads the targets of an association. -/
def findAssociated (g : Gateway) (S : Schema) (loader : Loader) (q : AssociationQuery) :
    Act (Site δ) (List InstanceId) :=
  match q.source with
  | .foreignKey column => g.findBy S loader q.target column q.ownerId
  | .joinTable links => g.findLinked S loader q.target links q.ownerId

/-! ## Writing -/

/-- The values that an instance has for some of its fields, a reference in the form of the
identifier that it refers to. -/
def parameters (S : Schema) (h : Heap) (i : InstanceId) (fields : List PersistentField) :
    Except Error (List Value) := do
  let values ← h.getMany S i (fields.map PersistentField.name)
  (fields.zip values).mapM fun (f, v) => if f.isReference then v.cast f.sqlType else .ok v

/-- The fields that an insert lists: all of them, or those other than the identifier when the
database has to generate it. -/
def insertFields (m : Metadata) (id : Value) : List PersistentField :=
  if id.isNull then m.nonIdFields else m.fields

/-- Writes the identifier that an insert has generated into the instance. -/
def writeIdentifier (S : Schema) (m : Metadata) (sql : String) (i : InstanceId)
    (result : InsertResult) : Act (Site δ) Unit := do
  match result.generatedKey? with
  | none => throw (fault m .noGeneratedKey sql none).error
  | some key => do
    let id ← Act.lift ((key.cast m.identifier.sqlType).mapError
      (fault m (.generatedKeyUnfit key) sql none).causedBy)
    Site.change fun h => do
      let h ← (h.set S i m.identifier.name id).mapError
        (fault m .cannotWriteIdentifier sql (some id)).causedBy
      .ok ((), h)

/-- Inserts an instance. -/
def save (g : Gateway) (S : Schema) (i : InstanceId) : Act (Site δ) Unit := do
  let m ← Site.look fun h => S.metadata (h.typeOf i)
  let id ← Site.look fun h => h.id S i
  let fields := insertFields m id
  let values ← Site.look fun h => parameters S h i fields
  let sql := (Statement.insert m.table.name (fields.map PersistentField.column)).render
  let result ← g.send sql (fault m .insertFailed sql none) (Database.insert g.connection sql values)
  if result.rows ≠ 1 then throw (fault m (.insertCount result.rows) sql none).error
  if id.isNull then writeIdentifier S m sql i result

/-- Updates columns of the row with a key; how many rows were changed is the answer.  Without columns
there is nothing to do. -/
def update (g : Gateway) (S : Schema) (key : EntityKey) (columns : List ColumnValue) :
    Act (Site δ) Nat := do
  if columns.isEmpty then pure 0
  else
    let m ← Act.lift (S.metadata key.entity)
    let sql :=
      (Statement.update m.table.name (columns.map ColumnValue.column) m.identifier.column).render
    g.send sql (fault m .updateFailed sql (some key.id))
      (Database.execute g.connection sql (columns.map ColumnValue.value ++ [key.id]))

/-- Deletes the row with a key; how many rows were deleted is the answer. -/
def deleteByKey (g : Gateway) (S : Schema) (key : EntityKey) : Act (Site δ) Nat := do
  let m ← Act.lift (S.metadata key.entity)
  let sql := (Statement.delete m.table.name m.identifier.column).render
  g.send sql (fault m .deleteFailed sql (some key.id))
    (Database.execute g.connection sql [key.id])

/-- Deletes the row of an instance. -/
def delete (g : Gateway) (S : Schema) (i : InstanceId) : Act (Site δ) Nat := do
  let key ← Site.look fun h => h.key S i
  g.deleteByKey S key

end Gateway

end EntitySession
