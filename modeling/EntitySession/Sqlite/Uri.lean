import EntitySession.Sqlite.Failure

/-!
# URIs of databases

A database may be named by a URI of the scheme `file`: a path, and behind a question mark parameters
that say how it is opened.  `Uri.read` takes such a text apart.  An octet may be written in the path
and in the parameters as a percent sign and two digits, so that none of the signs that separate the
parts needs to be read as one.
-/

set_option autoImplicit false

namespace EntitySession.Sqlite

/-- What a URI says. -/
structure Uri where
  path : String
  /-- The parameters that have a name, in the order in which they are written. -/
  parameters : List (String × String)
  deriving DecidableEq

namespace Uri

/-! ## Escaped octets -/

/-- The worth of a hexadecimal digit. -/
def digit? (c : Char) : Option Nat :=
  if '0' ≤ c ∧ c ≤ '9' then some (c.toNat - '0'.toNat)
  else if 'a' ≤ c ∧ c ≤ 'f' then some (c.toNat - 'a'.toNat + 10)
  else if 'A' ≤ c ∧ c ≤ 'F' then some (c.toNat - 'A'.toNat + 10)
  else none

/-- The octet that two hexadecimal digits stand for. -/
def octet? (high low : Char) : Option Nat := do
  let a ← digit? high
  let b ← digit? low
  pure (16 * a + b)

/-- The letters of some octets; octets that are no text are replaced. -/
def lettersOf (octets : List UInt8) : List Char :=
  match String.fromUTF8? ⟨octets.toArray⟩ with
  | some s => s.toList
  | none => octets.map fun b => if b < 128 then Char.ofNat b.toNat else '\ufffd'

/-- Reads escaped octets, those in `octets` having been read last, in reverse order.  A percent sign
without two digits stands for itself, and an escaped NUL ends the text. -/
def unescapeAfter (octets : List UInt8) : List Char → List Char
  | [] => lettersOf octets.reverse
  | '%' :: high :: low :: rest =>
    match octet? high low with
    | some 0 => lettersOf octets.reverse
    | some n => unescapeAfter (UInt8.ofNat n :: octets) rest
    | none => lettersOf octets.reverse ++ '%' :: unescapeAfter [] (high :: low :: rest)
  | c :: rest => lettersOf octets.reverse ++ c :: unescapeAfter [] rest

/-- The text that letters with escaped octets stand for. -/
def unescape (letters : List Char) : String := String.ofList (unescapeAfter [] letters)

/-! ## Parts -/

/-- The letters before the first one of a kind, and those behind it. -/
def cut (separator : Char) (letters : List Char) : List Char × List Char :=
  (letters.takeWhile (· != separator), (letters.dropWhile (· != separator)).drop 1)

/-- One parameter: a name, and behind an equals sign its value, or else an empty one. -/
def parameter (letters : List Char) : String × String :=
  let (name, value) := cut '=' letters
  (unescape name, unescape value)

/-- The parameters of a query, of which those without a name are left out. -/
def parametersOf (query : List Char) : List (String × String) :=
  ((query.splitOn '&').map parameter).filter fun (name, _) => name != ""

/-- Goes behind the authority, which can only be this computer. -/
def afterAuthority : List Char → Except Failure (List Char)
  | '/' :: '/' :: rest =>
    let authority := String.ofList (rest.takeWhile (· != '/'))
    if authority = "" ∨ authority = "localhost" then .ok (rest.dropWhile (· != '/'))
    else .error (.badAuthority authority)
  | letters => .ok letters

/-- Reads what is behind the scheme.  A fragment is left out. -/
def ofLetters (letters : List Char) : Except Failure Uri := do
  let letters ← afterAuthority letters
  let (path, query) := cut '?' (cut '#' letters).1
  .ok ⟨unescape path, parametersOf query⟩

/-- Reads a text, if it is a URI of a database. -/
def read (text : String) : Option (Except Failure Uri) :=
  match text.toList with
  | 'f' :: 'i' :: 'l' :: 'e' :: ':' :: letters => some (ofLetters letters)
  | _ => none

end Uri

end EntitySession.Sqlite
