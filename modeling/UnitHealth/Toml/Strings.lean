import UnitHealth.Toml.Reader

/-!
# Strings

A document writes a string in one of four forms. Between double quotes a backslash begins an
escape, between apostrophes every character stands for itself. A tripled delimiter lets the string
run over several lines: a line ending directly after the opening is dropped, every other line
ending is kept as a line feed, and up to two delimiters may stand directly before the closing.

In the multi-line form with escapes a backslash at the end of a line swallows the line ending and
all blanks and line endings after it.

Each function takes the body of a string off the front, with its closing, and returns the
characters that the body stands for. All its failures are final. Where the closing is missing, the
place is the end of the document or the character that may not stand in the string. One or two
delimiters directly before that place begin a closing that is not complete, and then the place is
before them, but in the form with escapes only at the end of the document.
-/

namespace UnitHealth.Toml

def hexValue? (c : Char) : Option Nat :=
  if '0' ≤ c ∧ c ≤ '9' then some (c.toNat - '0'.toNat)
  else if 'a' ≤ c ∧ c ≤ 'f' then some (c.toNat - 'a'.toNat + 10)
  else if 'A' ≤ c ∧ c ≤ 'F' then some (c.toNat - 'A'.toNat + 10)
  else none

/-! ## Escapes -/

/-- The failure of an escape at a place. -/
def escapeFailure (part : Part) (cause : Option Cause) (place : List Char) : Failure :=
  ⟨place, ⟨some part, [], cause⟩, true⟩

/-- The character whose code point the hexadecimal digits give. Surrogates and numbers beyond the
last code point give none. The digits are the first characters at the place. -/
def codePoint (part : Part) (digits place : List Char) : Except Failure Char :=
  match digits.mapM hexValue? with
  | none => .error (escapeFailure part none place)
  | some values =>
    let n := values.foldl (fun n d => n * 16 + d) 0
    if n.isValidChar then .ok (Char.ofNat n)
    else .error (escapeFailure part (some .outOfRange) place)

def escapeMarks : List Wanted :=
  ["b", "f", "n", "r", "t", "u", "U", "\\", "\""].map .mark

/-- The character that a one-letter escape stands for, given what follows the letter. A code point
is no one-letter escape, and ends up here when the document is too short for it. -/
def shortEscape (c : Char) (rest : List Char) : Except Failure Char :=
  match c with
  | 'b' => .ok '\x08'
  | 't' => .ok '\t'
  | 'n' => .ok '\n'
  | 'f' => .ok '\x0c'
  | 'r' => .ok '\r'
  | '"' => .ok '"'
  | '\\' => .ok '\\'
  | 'u' => .error (escapeFailure .shortCode none rest)
  | 'U' => .error (escapeFailure .longCode none rest)
  | c =>
    let place := if c.toNat < 0x80 then rest else c :: rest
    .error ⟨place, ⟨some .escape, escapeMarks, none⟩, true⟩

/-! ## Bodies -/

def unclosed (place : List Char) : Failure :=
  ⟨place, .bare, true⟩

/-- Put a character in front of what a reading returns. -/
def consRead (c : Char) (read : Except Failure (List Char × List Char)) :
    Except Failure (List Char × List Char) :=
  read.map fun (text, rest) => (c :: text, rest)

/-- The body of a one-line string with escapes. -/
def basicBody : List Char → Except Failure (List Char × List Char)
  | [] => .error (unclosed [])
  | '"' :: rest => .ok ([], rest)
  | ['\\'] => .error (unclosed ['\\'])
  | '\\' :: 'u' :: a :: b :: c :: d :: rest => do
    consRead (← codePoint .shortCode [a, b, c, d] (a :: b :: c :: d :: rest)) (basicBody rest)
  | '\\' :: 'U' :: a :: b :: c :: d :: e :: f :: g :: h :: rest => do
    let digits := [a, b, c, d, e, f, g, h]
    consRead (← codePoint .longCode digits (digits ++ rest)) (basicBody rest)
  | '\\' :: c :: rest => do consRead (← shortEscape c rest) (basicBody rest)
  | c :: rest => if isPlain c then consRead c (basicBody rest) else .error (unclosed (c :: rest))

def literalBody : List Char → Except Failure (List Char × List Char)
  | [] => .error (unclosed [])
  | '\'' :: rest => .ok ([], rest)
  | c :: rest => if isPlain c then consRead c (literalBody rest) else .error (unclosed (c :: rest))

/-- The closing of a multi-line string, after its three delimiters: up to two more delimiters
belong to the text, the last three of the run being the closing. -/
def closing (delimiter : Char) : List Char → List Char × List Char
  | a :: b :: rest =>
    if a = delimiter then
      if b = delimiter then ([a, b], rest) else ([a], b :: rest)
    else ([], a :: b :: rest)
  | [a] => if a = delimiter then ([a], []) else ([], [a])
  | [] => ([], [])

/-- Whether a line ends after some blanks. -/
def endsLine (cs : List Char) : Bool :=
  match cs.dropWhile isInlineBlank with
  | '\n' :: _ => true
  | '\r' :: '\n' :: _ => true
  | _ => false

/-- The body of a multi-line string with escapes. The flag tells that a backslash has ended a line
and nothing but blanks and line endings has followed. -/
def multilineBasicBody : Bool → List Char → Except Failure (List Char × List Char)
  | _, [] => .error (unclosed [])
  | _, '"' :: '"' :: '"' :: rest => .ok (closing '"' rest)
  | _, ['"', '"'] => .error (unclosed ['"', '"'])
  | _, ['"'] => .error (unclosed ['"'])
  | _, ['\\'] => .error (unclosed ['\\'])
  | swallow, '\n' :: rest =>
    if swallow then multilineBasicBody true rest
    else consRead '\n' (multilineBasicBody false rest)
  | swallow, '\r' :: '\n' :: rest =>
    if swallow then multilineBasicBody true rest
    else consRead '\n' (multilineBasicBody false rest)
  | _, '\\' :: 'u' :: a :: b :: c :: d :: rest => do
    consRead (← codePoint .shortCode [a, b, c, d] (a :: b :: c :: d :: rest))
      (multilineBasicBody false rest)
  | _, '\\' :: 'U' :: a :: b :: c :: d :: e :: f :: g :: h :: rest => do
    let digits := [a, b, c, d, e, f, g, h]
    consRead (← codePoint .longCode digits (digits ++ rest)) (multilineBasicBody false rest)
  | _, '\\' :: c :: rest =>
    if endsLine (c :: rest) then multilineBasicBody true (c :: rest)
    else do consRead (← shortEscape c rest) (multilineBasicBody false rest)
  | swallow, c :: rest =>
    if swallow && isInlineBlank c then multilineBasicBody true rest
    else if isPlain c then consRead c (multilineBasicBody false rest)
    else .error (unclosed (c :: rest))

/-- Whether characters go on with the text of a multi-line string without escapes. -/
def isLiteralText : List Char → Bool
  | '\n' :: _ => true
  | '\r' :: '\n' :: _ => true
  | c :: _ => isPlain c
  | [] => false

def multilineLiteralBody : List Char → Except Failure (List Char × List Char)
  | '\'' :: '\'' :: '\'' :: rest => .ok (closing '\'' rest)
  | '\'' :: '\'' :: rest =>
    if isLiteralText rest then consRead '\'' (consRead '\'' (multilineLiteralBody rest))
    else .error (unclosed ('\'' :: '\'' :: rest))
  | '\'' :: rest =>
    if isLiteralText rest then consRead '\'' (multilineLiteralBody rest)
    else .error (unclosed ('\'' :: rest))
  | '\n' :: rest => consRead '\n' (multilineLiteralBody rest)
  | '\r' :: '\n' :: rest => consRead '\n' (multilineLiteralBody rest)
  | c :: rest =>
    if isPlain c then consRead c (multilineLiteralBody rest) else .error (unclosed (c :: rest))
  | [] => .error (unclosed [])

def dropNewline : List Char → List Char
  | '\n' :: rest => rest
  | '\r' :: '\n' :: rest => rest
  | cs => cs

namespace Reader

/-- A body as a part of the document, when what is left is the body. -/
def bodyOf (part : Part) (body : List Char → Except Failure (List Char × List Char))
    (cs : List Char) : Reader String := do
  set cs
  return String.ofList (← reading part (ofFunction body))

/-- A one-line string in either form, as keys may be written. -/
def quotedKey : Reader String := do
  match ← rest with
  | '"' :: cs => bodyOf .basicString basicBody cs
  | '\'' :: cs => bodyOf .literalString literalBody cs
  | _ => fail

def string : Reader String := do
  match ← rest with
  | '"' :: '"' :: '"' :: cs =>
    bodyOf .multilineBasicString (multilineBasicBody false) (dropNewline cs)
  | '\'' :: '\'' :: '\'' :: cs =>
    bodyOf .multilineLiteralString multilineLiteralBody (dropNewline cs)
  | _ => quotedKey

end Reader

end UnitHealth.Toml
