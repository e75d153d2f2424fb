import EntitySession.Sqlite.Command.Reading
import EntitySession.Sqlite.Contents
import EntitySession.Sqlite.Engine
import EntitySession.Sqlite.Location

/-!
# Files and locks

A `Store` is the engine itself: database files and the handles on them.  Several handles may be on one
file.  Each sees the committed contents, and its own changes while it is in a transaction.

Who may go on is decided by locks, which a handle takes as it needs them and keeps until its
transaction ends.

* Reading takes a share.  Any number of handles may have one.
* Writing takes the reservation, which only one handle can have.  Others may go on reading.
* Committing a change needs the file alone.  While others have a share it fails, and the handle waits
  for them: it keeps its transaction, and until that ends nobody takes a new share.

Nobody is waited for; what cannot go on fails as locked.

A handle remembers the tables and their columns, as it has last seen them.  By them it prepares a
command, and only if one of them seems to be missing, or to be there already, does it look again.  When
the command runs, with the lock that it needs, it is checked by the tables as they are.

The store reads the texts that it is given.  A script is executed statement by statement, each as a text
of its own.
-/

set_option autoImplicit false

namespace EntitySession.Sqlite

/-- What a handle holds of its file. -/
inductive Lock where
  | free
  /-- A share, for reading. -/
  | shared
  /-- The reservation, for writing. -/
  | reserved
  /-- The reservation, waiting for the shares of others to end. -/
  | waiting
  deriving DecidableEq

namespace Lock

/-- Whether the lock includes the reservation. -/
def isReserved : Lock → Bool
  | reserved | waiting => true
  | _ => false

end Lock

/-- A handle on a file. -/
structure Handle where
  /-- The number of the file. -/
  file : Nat
  /-- What keeps the handle from writing. -/
  hindrance : Option Failure
  isOpen : Bool
  /-- Whether a transaction was begun. -/
  inTransaction : Bool
  lock : Lock
  /-- The contents as this handle has changed them. -/
  working : Option Contents
  /-- The tables without their rows, as this handle has last seen them. -/
  remembered : Option Contents
  changes : Nat
  lastRowId : Int

/-- Database files and the handles on them. -/
structure Store where
  /-- The committed contents of the files. -/
  files : Array Contents
  /-- The files that can be found where they are. -/
  found : List (Location × Nat)
  handles : Array Handle

namespace Store

/-- A store without files. -/
def empty : Store := ⟨#[], [], #[]⟩

/-! ## Opening -/

/-- Whether there is a file at a place. -/
def isFile (s : Store) (p : Place) : Bool := (s.found.lookup (.file p)).isSome

/-- Whether a handle on a file is open. -/
def isInUse (s : Store) (file : Nat) : Bool := s.handles.any fun h => h.isOpen && h.file == file

/-- Adds a file. -/
def addFile (s : Store) (l : Location) : Nat × Store :=
  let n := s.files.size
  (n, { s with files := s.files.push [], found := (l, n) :: s.found })

/-- The file at a place; it is made if that is asked for.  A directory can be opened to be read, but
there is nothing to read. -/
def fileAt (s : Store) (access : Access) (p : Place) : Except Failure (Nat × Store) :=
  match s.found.lookup (.file p) with
  | some n => .ok (n, s)
  | none =>
    if access = .creating ∧ p.isFree then .ok (s.addFile (.file p))
    else if access = .reading ∧ p.isDirectory ∧ p.start ≠ .root then .error .diskFault
    else .error .cannotOpen

/-- The file of a location.  A database in memory is there while somebody has a handle on it. -/
def fileOf (s : Store) (access : Access) : Location → Except Failure (Nat × Store)
  | .own => .ok (s.addFile .own)
  | .memory name =>
    match s.found.lookup (.memory name) with
    | some n => .ok (if s.isInUse n then (n, s) else s.addFile (.memory name))
    | none => .ok (s.addFile (.memory name))
  | .file p => s.fileAt access p

/-- What keeps a handle on a database from writing: it is only for reading, or the changes to the file
have no place for their journal. -/
def hindranceOf (access : Access) : Location → Option Failure
  | .file p => if access = .reading then some .readOnly else if p.hasJournal then none else some .cannotOpen
  | _ => if access = .reading then some .readOnly else none

/-- Opens a handle. -/
def openHandle (s : Store) (o : OpenOptions) : Except Failure (HandleId × Store) := do
  let opening ← o.opening
  let location ← opening.location s.isFile
  let (file, s) ← s.fileOf opening.access location
  let h : Handle :=
    { file
      hindrance := hindranceOf opening.access location
      isOpen := true
      inTransaction := false
      lock := .free
      working := none
      remembered := none
      changes := 0
      lastRowId := 0 }
  .ok (s.handles.size, { s with handles := s.handles.push h })

/-! ## Locks -/

/-- The other handles on the file of a handle. -/
def others (s : Store) (i : HandleId) (h : Handle) : List Handle :=
  ((s.handles.toList.zip (List.range s.handles.size)).filter fun (x, j) =>
    j != i && x.isOpen && x.file == h.file).map Prod.fst

/-- The committed contents of the file of a handle. -/
def committed (s : Store) (h : Handle) : Contents := s.files.getD h.file []

/-- The contents that a handle sees. -/
def contents (s : Store) (h : Handle) : Contents := h.working.getD (s.committed h)

/-- Takes a share, unless the handle has one. -/
def lockForReading (s : Store) (i : HandleId) (h : Handle) : Except Failure Handle :=
  if h.lock ≠ .free then .ok h
  else if (s.others i h).any fun x => x.lock == .waiting then .error .locked
  else .ok { h with lock := .shared }

/-- Takes the reservation, unless the handle has it. -/
def lockForWriting (s : Store) (i : HandleId) (h : Handle) : Except Failure Handle :=
  match h.hindrance with
  | some f => .error f
  | none =>
    if h.lock.isReserved then .ok h
    else if (s.others i h).any fun x => x.lock.isReserved then .error .locked
    else .ok { h with lock := .reserved }

/-- The lock that a command needs. -/
def lockFor (s : Store) (i : HandleId) (h : Handle) (c : Command) : Except Failure Handle :=
  if c.writes then s.lockForWriting i h
  else if c.reads then s.lockForReading i h
  else .ok h

/-- A handle that holds nothing and is in no transaction. -/
def released (h : Handle) : Handle :=
  { h with inTransaction := false, lock := .free, working := none }

/-- A handle that has given up its changes.  If there were tables among them, it has to look for the
tables again. -/
def abandoned (s : Store) (h : Handle) : Handle :=
  let remembered :=
    if (s.contents h).outline = (s.committed h).outline then h.remembered else none
  { released h with remembered }

/-- Puts a handle back. -/
def setHandle (s : Store) (i : HandleId) (h : Handle) : Store :=
  { s with handles := s.handles.setIfInBounds i h }

/-! ## Preparing -/

/-- Looks for the tables, for which a share is needed for a moment. -/
def look (s : Store) (i : HandleId) (h : Handle) : Except Failure Contents :=
  (s.lockForReading i h).map fun _ => (s.contents h).outline

/-- The tables as a handle knows them. -/
def knownTables (s : Store) (i : HandleId) (h : Handle) : Except Failure Contents :=
  match h.remembered with
  | some d => .ok d
  | none => s.look i h

/-- The tables by which a handle prepares a command: those that it knows, unless there is a doubt and it
can look again. -/
def tablesFor (s : Store) (i : HandleId) (h : Handle) (c : Command) (known : Contents) : Contents :=
  match known.check c with
  | .ok _ => known
  | .error f => if f.isDoubtful then (s.look i h).toOption.getD known else known

/-- Prepares a command.  One without a table needs to know none. -/
def prepareCommand (s : Store) (i : HandleId) (c : Command) : Except Failure (List String) × Store :=
  match s.handles[i]? with
  | none => (.error .misuse, s)
  | some h =>
    if !c.reads then (Contents.check [] c, s)
    else
      match s.knownTables i h with
      | .error f => (.error f, s)
      | .ok known =>
        let tables := s.tablesFor i h c known
        (tables.check c, s.setHandle i { h with remembered := some tables })

/-! ## Transactions -/

/-- Makes the changes of a handle last.  While others have a share of the file it fails, and the
handle begins to wait for them. -/
def commitHandle (s : Store) (i : HandleId) (h : Handle) : Except Failure Unit × Store :=
  if !h.lock.isReserved then (.ok (), s.setHandle i (released h))
  else if (s.others i h).any fun x => x.lock != .free then
    (.error .locked, s.setHandle i { h with lock := .waiting })
  else
    let files := s.files.setIfInBounds h.file (s.contents h)
    (.ok (), { s with files := files }.setHandle i (released h))

/-- Ends the transaction of a handle, if it has one. -/
def ending (how : String) (f : Store → Handle → Except Failure Unit × Store) (s : Store) (h : Handle) :
    Except Failure Unit × Store :=
  if h.inTransaction then f s h else (.error (.noTransaction how), s)

/-- The rows that a command answers. -/
abbrev Rows : Type := List (List Cell)

/-- Runs a command of a handle that has the lock for it. -/
def execute (s : Store) (h : Handle) (c : Command) (parameters : List Cell) :
    Except Failure Rows × Handle :=
  let e := (s.contents h).run parameters c
  let h := { h with changes := e.changed.getD h.changes, lastRowId := e.lastId.getD h.lastRowId }
  match e.contents with
  | none => (e.result, s.abandoned h)
  | some d =>
    (e.result,
      { h with
        working := if h.lock.isReserved then some d else h.working
        remembered := if c.reads then some d.outline else h.remembered })

/-- How many rows a command counts as changed when it could not even begin. -/
def changesOfRefused (h : Handle) : Command → Nat
  | .insert _ _ _ _ | .update _ _ _ | .delete _ _ => 0
  | _ => h.changes

/-- A handle after a command that could not begin. -/
def refused (h : Handle) (c : Command) : Handle := { h with changes := changesOfRefused h c }

/-- Runs a command as a transaction of its own. -/
def runAlone (s : Store) (i : HandleId) (h : Handle) (c : Command) (parameters : List Cell) :
    Except Failure Rows × Store :=
  let (r, after) := s.execute h c parameters
  match r with
  | .error f => (.error f, s.setHandle i (s.abandoned after))
  | .ok rows =>
    match s.commitHandle i after with
    | (.ok (), s) => (.ok rows, s)
    | (.error f, s) => (.error f, s.setHandle i (s.abandoned (refused after c)))

/-- Runs a command of a handle that has the lock for it, once its names are found. -/
def runLocked (s : Store) (i : HandleId) (h locked : Handle) (c : Command) (parameters : List Cell) :
    Except Failure Rows × Store :=
  let tables := (s.contents locked).outline
  match if c.reads then tables.check c else .ok [] with
  | .error f =>
    let stays := if h.inTransaction then locked else h
    (.error f, s.setHandle i { refused stays c with remembered := some tables })
  | .ok _ =>
    if h.inTransaction then
      let (r, after) := s.execute locked c parameters
      (r, s.setHandle i after)
    else s.runAlone i locked c parameters

/-- Runs a command. -/
def runCommand (s : Store) (i : HandleId) (c : Command) (parameters : List Cell) :
    Except Failure Rows × Store :=
  match s.handles[i]? with
  | none => (.error .misuse, s)
  | some h =>
    match s.lockFor i h c with
    | .error f => (.error f, s.setHandle i (refused h c))
    | .ok locked => s.runLocked i h locked c parameters

/-- Changes a handle. -/
def onHandle (i : HandleId) (f : Store → Handle → Except Failure Unit × Store) (s : Store) :
    Except Failure Unit × Store :=
  match s.handles[i]? with
  | none => (.error .misuse, s)
  | some h => f s h

/-! ## Texts -/

/-- What a call has come to, with the report of its failure. -/
def reported {α : Type} (x : Except Failure α × Store) : Except Report α × Store :=
  (x.1.mapError Failure.report, x.2)

/-- Prepares the first statement of a text. -/
def prepareFirst (i : HandleId) (sql : String) (s : Store) :
    Except Failure (Option (List (Option String))) × Store :=
  match Prepared.first? sql with
  | none => (.ok none, s)
  | some (.error f) => (.error f, s)
  | some (.ok p) =>
    let (r, s) := s.prepareCommand i p.command
    (r.map fun names => some (names.map some), s)

/-- Whether the first statement of a text has a parameter at a position. -/
def bindFirst (sql : String) (position : Nat) : Except Failure Unit :=
  match Prepared.first? sql with
  | some (.ok p) => if position < p.parameters then .ok () else .error .outOfRange
  | _ => .error .misuse

/-- Runs the first statement of a text. -/
def runFirst (i : HandleId) (sql : String) (parameters : List Cell) (s : Store) :
    Except Failure Rows × Store :=
  match Prepared.first? sql with
  | none => (.error .misuse, s)
  | some (.error f) => (.error f, s)
  | some (.ok p) => s.runCommand i p.command parameters

instance : Engine Store where
  begin i s :=
    reported (onHandle i (fun s h => (.ok (), s.setHandle i { h with inTransaction := true })) s)
  commit i s := reported (onHandle i (ending "commit" fun s h => s.commitHandle i h) s)
  rollback i s :=
    reported (onHandle i (ending "rollback" fun s h => (.ok (), s.setHandle i (s.abandoned h))) s)
  close i s :=
    reported (onHandle i (fun s h => (.ok (), s.setHandle i { released h with isOpen := false })) s)
  prepare i sql s := reported (prepareFirst i sql s)
  bind _ sql position _ _ := (bindFirst sql position).mapError Failure.report
  run i sql parameters s := reported (runFirst i sql parameters s)
  exec i sql :=
    runEach (fun sql s => reported (prepareFirst i sql s)) (fun sql s => reported (runFirst i sql [] s))
      (statementTexts sql)
  changes i s := ((s.handles[i]?).map Handle.changes).getD 0
  lastRowId i s := ((s.handles[i]?).map Handle.lastRowId).getD 0

end Store

end EntitySession.Sqlite
