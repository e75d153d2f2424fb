import EntitySession.Binary64.Reading

/-!
# JSON documents

`Document.read?` turns a text into a tree when the whole text is one JSON value with white space
around its parts, and into nothing otherwise.

The tree keeps numbers and strings as they were written.  What a number means, and whether a string
is well formed, is asked only of the parts that are used: a member that nobody asks for may hold a
number too large for any type, or half of a surrogate pair.
-/

set_option autoImplicit false

namespace EntitySession

namespace Json

/-- A piece of a string: a character, or half of a surrogate pair that stands alone. -/
inductive Piece where
  | char (c : Char)
  | surrogate (unit : Nat)
  deriving DecidableEq

/-- A number as it was written. -/
structure Numeral where
  negative : Bool
  whole : List Char
  /-- The digits behind the point, where there is one. -/
  fraction : Option (List Char)
  /-- Whether the exponent is negative, and its digits, where there is one. -/
  exponent : Option (Bool × List Char)
  deriving DecidableEq

/-- A JSON value. -/
inductive Document where
  | null
  | bool (b : Bool)
  | number (n : Numeral)
  | string (s : List Piece)
  | array (items : List Document)
  | object (members : List (List Piece × Document))

/-! ## Strings -/

/-- The number that four hexadecimal digits write. -/
def hexUnit (cs : List Char) : Option Nat :=
  cs.foldlM (fun n c =>
    if '0' ≤ c ∧ c ≤ '9' then some (16 * n + (c.toNat - '0'.toNat))
    else if 'a' ≤ c ∧ c ≤ 'f' then some (16 * n + (c.toNat - 'a'.toNat + 10))
    else if 'A' ≤ c ∧ c ≤ 'F' then some (16 * n + (c.toNat - 'A'.toNat + 10))
    else none) 0

/-- The character that an escape of one letter stands for. -/
def simpleEscape : Char → Option Char
  | '"' => some '"'
  | '\\' => some '\\'
  | '/' => some '/'
  | 'b' => some '\x08'
  | 'f' => some '\x0c'
  | 'n' => some '\n'
  | 'r' => some '\r'
  | 't' => some '\t'
  | _ => none

/-- Puts a sixteen-bit unit in front of the pieces that follow it; the two halves of a pair become
one character. -/
def consUnit (unit : Nat) (rest : List Piece) : List Piece :=
  if unit < 0xD800 ∨ 0xDFFF < unit then .char (Char.ofNat unit) :: rest
  else match rest with
    | .surrogate low :: tail =>
      if unit < 0xDC00 ∧ 0xDC00 ≤ low then
        .char (Char.ofNat (0x10000 + (unit - 0xD800) * 0x400 + (low - 0xDC00))) :: tail
      else .surrogate unit :: rest
    | _ => .surrogate unit :: rest

/-- The pieces of a string up to its closing quote, and what follows the quote. -/
def stringBody : List Char → Option (List Piece × List Char)
  | [] => none
  | '"' :: rest => some ([], rest)
  | '\\' :: 'u' :: a :: b :: c :: d :: rest => do
    let unit ← hexUnit [a, b, c, d]
    let (pieces, rest) ← stringBody rest
    some (consUnit unit pieces, rest)
  | '\\' :: e :: rest => do
    let c ← simpleEscape e
    let (pieces, rest) ← stringBody rest
    some (.char c :: pieces, rest)
  | c :: rest => do
    if c.toNat < 0x20 ∨ c = '\\' then none
    else
      let (pieces, rest) ← stringBody rest
      some (.char c :: pieces, rest)

/-- The character of a piece that is one. -/
def Piece.char? : Piece → Option Char
  | .char c => some c
  | .surrogate _ => none

/-- The text of a string, if no half of a pair stands alone. -/
def plain? (pieces : List Piece) : Option String :=
  (pieces.mapM Piece.char?).map String.ofList

/-- How a character is written inside a string. -/
def escape (c : Char) : List Char :=
  if c = '"' then ['\\', '"']
  else if c = '\\' then ['\\', '\\']
  else if c = '\x08' then ['\\', 'b']
  else if c = '\x0c' then ['\\', 'f']
  else if c = '\n' then ['\\', 'n']
  else if c = '\r' then ['\\', 'r']
  else if c = '\t' then ['\\', 't']
  else if c.toNat < 0x20 then
    ['\\', 'u', '0', '0', Nat.digitChar (c.toNat / 16), Nat.digitChar (c.toNat % 16)]
  else [c]

/-- A text as a JSON string. -/
def quote (s : String) : String := "\"" ++ String.ofList (s.toList.flatMap escape) ++ "\""

/-! ## Numbers -/

/-- The exponent at the head of the characters, if one starts there. -/
def numeralExponent (cs : List Char) : Option (Option (Bool × List Char) × List Char) :=
  match cs with
  | c :: rest =>
    if c = 'e' ∨ c = 'E' then
      let (negative, rest) := Binary64.readSign rest
      let digits := rest.takeWhile Binary64.isDigit
      if digits.isEmpty then none
      else some (some (negative, digits), rest.dropWhile Binary64.isDigit)
    else some (none, cs)
  | [] => some (none, [])

/-- The number at the head of the characters. -/
def numeral (cs : List Char) : Option (Numeral × List Char) := do
  let (negative, cs) := match cs with | '-' :: rest => (true, rest) | _ => (false, cs)
  let whole := cs.takeWhile Binary64.isDigit
  let rest := cs.dropWhile Binary64.isDigit
  if whole.isEmpty || (whole.head? == some '0' && whole.length != 1) then none
  else
    match rest with
    | '.' :: tail =>
      let digits := tail.takeWhile Binary64.isDigit
      if digits.isEmpty then none
      else
        let (exponent, rest) ← numeralExponent (tail.dropWhile Binary64.isDigit)
        some (⟨negative, whole, some digits, exponent⟩, rest)
    | _ =>
      let (exponent, rest) ← numeralExponent rest
      some (⟨negative, whole, none, exponent⟩, rest)

namespace Numeral

/-- The largest number of sixty-four bits. -/
def wordLimit : Nat := 18446744073709551615

/-- The whole number written, if it has neither point nor exponent and fits sixty-four bits.  Minus
zero is not a whole number. -/
def toInt? (n : Numeral) : Option Int :=
  if n.fraction.isSome || n.exponent.isSome then none
  else
    let m := Binary64.ofDigits n.whole
    if n.negative then (if 0 < m ∧ m ≤ 9223372036854775808 then some (-(m : Int)) else none)
    else if m ≤ wordLimit then some m else none

/-- Appends digits to a number as long as it fits sixty-four bits; the digits left over are
returned. -/
def absorb (m : Nat) : List Char → Nat × List Char
  | [] => (m, [])
  | c :: rest =>
    let next := 10 * m + (c.toNat - '0'.toNat)
    if next ≤ wordLimit then absorb next rest else (m, c :: rest)

/-- Divides by 10³⁰⁸ as often as it takes to bring the exponent into the range of the powers of ten
that a double can hold, then scales once.  Nothing when the result would be infinite. -/
def scaled (x : Binary64) (exponent : Int) : Nat → Option Binary64
  | 0 => some x
  | fuel + 1 =>
    if exponent.natAbs ≤ 308 then
      let power := Binary64.ofInt (tenTo exponent.natAbs)
      if 0 ≤ exponent then
        let product := x.mul power
        if product.isInfinite then none else some product
      else some (x.div power)
    else if x.isZero then some x
    else if 0 ≤ exponent then none
    else scaled (x.div (Binary64.ofInt (tenTo 308))) (exponent + 308) fuel

/-- The number as a double, nothing when it is too large.  The digits beyond sixty-four bits are
dropped before the number is scaled, so the last bit may differ from that of the nearest double. -/
def toBinary64? (n : Numeral) : Option Binary64 :=
  match n.toInt? with
  | some i => some (.ofInt i)
  | none =>
    let (m, dropped) := absorb 0 n.whole
    let fraction := n.fraction.getD []
    let (m, unread) := absorb m fraction
    let start := (dropped.length : Int) - (fraction.length - unread.length : Nat)
    let signed (x : Binary64) : Binary64 := if n.negative then x.neg else x
    let found := match n.exponent with
      | none => scaled (.ofInt m) start 4
      | some (negative, digits) =>
        let e := Binary64.ofDigits digits
        if 2147483648 ≤ e then (if m ≠ 0 ∧ !negative then none else some .zero)
        else scaled (.ofInt m) (if negative then start - e else start + e) 4
    found.map signed

end Numeral

/-! ## Values -/

/-- Whether a character is white space between the parts of a document. -/
def isBlank (c : Char) : Bool := c = ' ' || c = '\n' || c = '\t' || c = '\r'

/-- Skips white space. -/
def skip (cs : List Char) : List Char := cs.dropWhile isBlank

mutual

/-- The value at the head of the characters, and what follows it. -/
def value : Nat → List Char → Option (Document × List Char)
  | 0, _ => none
  | fuel + 1, cs =>
    match skip cs with
    | 'n' :: 'u' :: 'l' :: 'l' :: rest => some (.null, rest)
    | 't' :: 'r' :: 'u' :: 'e' :: rest => some (.bool true, rest)
    | 'f' :: 'a' :: 'l' :: 's' :: 'e' :: rest => some (.bool false, rest)
    | '"' :: rest => (stringBody rest).map fun (s, rest) => (.string s, rest)
    | '[' :: rest =>
      match skip rest with
      | ']' :: rest => some (.array [], rest)
      | _ => (elements fuel rest).map fun (items, rest) => (.array items, rest)
    | '\x7b' :: rest =>
      match skip rest with
      | '\x7d' :: rest => some (.object [], rest)
      | _ => (members fuel rest).map fun (ms, rest) => (.object ms, rest)
    | cs => (numeral cs).map fun (n, rest) => (.number n, rest)

/-- The elements of an array up to its closing bracket. -/
def elements : Nat → List Char → Option (List Document × List Char)
  | 0, _ => none
  | fuel + 1, cs => do
    let (item, rest) ← value fuel cs
    match skip rest with
    | ',' :: rest =>
      let (items, rest) ← elements fuel rest
      some (item :: items, rest)
    | ']' :: rest => some ([item], rest)
    | _ => none

/-- The members of an object up to its closing brace. -/
def members : Nat → List Char → Option (List (List Piece × Document) × List Char)
  | 0, _ => none
  | fuel + 1, cs =>
    match skip cs with
    | '"' :: rest => do
      let (key, rest) ← stringBody rest
      match skip rest with
      | ':' :: rest =>
        let (item, rest) ← value fuel rest
        match skip rest with
        | ',' :: rest =>
          let (items, rest) ← members fuel rest
          some ((key, item) :: items, rest)
        | '\x7d' :: rest => some ([(key, item)], rest)
        | _ => none
      | _ => none
    | _ => none

end

/-- The document that a text writes.  Every nested value takes at most two steps per character. -/
def Document.read? (text : String) : Option Document :=
  let cs := text.toList
  match value (2 * cs.length + 2) cs with
  | some (d, rest) => if (skip rest).isEmpty then some d else none
  | none => none

end Json

end EntitySession
