import SchemaBook.Text.Integer
import SchemaBook.Text.ReferenceNames

/-!
Character references of HTML 5 inside text: decimal, hexadecimal and named ones. `references` cuts a
text into references and plain characters, `expand` writes each reference as the characters that it
stands for. A named reference without semicolon is read by the longest open name that starts it.
-/

namespace SchemaBook.Text

inductive Reference where
  /-- A character that stands for itself. -/
  | plain (c : CodePoint)
  /-- A code point in decimal digits. -/
  | decimal (digits : Text)
  /-- A code point in hexadecimal digits. -/
  | hexadecimal (digits : Text)
  /-- A name, and whether a semicolon ends it. -/
  | named (name : Text) (closed : Bool)
  deriving DecidableEq, Repr

def hexValue? (c : CodePoint) : Option Nat :=
  if c.isAsciiDigit then some (c.toNat - '0'.toNat)
  else if c.isBetween 'a' 'f' then some (c.toNat - 'a'.toNat + 10)
  else if c.isBetween 'A' 'F' then some (c.toNat - 'A'.toNat + 10)
  else none

/-- Whether a code point may occur in the name of a reference. -/
def isReferenceName (c : CodePoint) : Bool := !c.isOneOf "\t\n\x0c <&#;"

def nameLimit : Nat := 32

/-- One more than the length when a semicolon stands there. -/
def closedLength (length : Nat) (rest : Text) : Nat :=
  if rest.head? = some (.char ';') then length + 1 else length

/-- Reads a reference behind its ampersand and counts the characters it takes. -/
def Reference.read? : Text → Option (Reference × Nat)
  | .char '#' :: rest =>
    let digits := rest.takeWhile CodePoint.isAsciiDigit
    if !digits.isEmpty then
      some (.decimal digits, closedLength (1 + digits.length) (rest.drop digits.length))
    else
      match rest with
      | x :: more =>
        let digits := more.takeWhile fun c => (hexValue? c).isSome
        if x.isOneOf "xX" && !digits.isEmpty then
          some (.hexadecimal digits, closedLength (2 + digits.length) (more.drop digits.length))
        else none
      | [] => none
  | rest =>
    let name := (rest.take nameLimit).takeWhile isReferenceName
    let behind := rest.drop name.length
    if name.isEmpty then none
    else some (.named name (behind.head? = some (.char ';')), closedLength name.length behind)

def references (cs : Text) : List Reference :=
  match cs with
  | [] => []
  | c :: rest =>
    match if c = '&' then Reference.read? rest else none with
    | some (reference, used) => reference :: references (rest.drop used)
    | none => .plain c :: references rest
termination_by cs.length
decreasing_by
  · simp only [List.length_drop, List.length_cons]
    omega
  · simp

/-- The code points whose numeric reference stands for another character: zero, the carriage return,
and the controls that an old code page gave a meaning. -/
def replacedCodes : List (Nat × Nat) := [
  (0x00, 0xfffd), (0x0d, 0x0d), (0x80, 0x20ac), (0x81, 0x81), (0x82, 0x201a), (0x83, 0x192),
  (0x84, 0x201e), (0x85, 0x2026), (0x86, 0x2020), (0x87, 0x2021), (0x88, 0x2c6), (0x89, 0x2030),
  (0x8a, 0x160), (0x8b, 0x2039), (0x8c, 0x152), (0x8d, 0x8d), (0x8e, 0x17d), (0x8f, 0x8f),
  (0x90, 0x90), (0x91, 0x2018), (0x92, 0x2019), (0x93, 0x201c), (0x94, 0x201d), (0x95, 0x2022),
  (0x96, 0x2013), (0x97, 0x2014), (0x98, 0x2dc), (0x99, 0x2122), (0x9a, 0x161), (0x9b, 0x203a),
  (0x9c, 0x153), (0x9d, 0x9d), (0x9e, 0x17e), (0x9f, 0x178)]

/-- The code points whose numeric reference stands for nothing: controls and noncharacters. -/
def isOmittedCode (code : Nat) : Bool :=
  CodePoint.inRanges code [(0x1, 0x8), (0xb, 0xb), (0xe, 0x1f), (0x7f, 0x9f), (0xfdd0, 0xfdef)] ||
    0xfffe ≤ code % 0x10000

def characterOfCode (code : Nat) : Text :=
  match replacedCodes.lookup code with
  | some other => [.char (Char.ofNat other)]
  | none =>
    if (0xd800 ≤ code && code ≤ 0xdfff) || 0x10ffff < code then ['\ufffd']
    else if isOmittedCode code then []
    else [.char (Char.ofNat code)]

def charactersOfName? (name : Text) : Option (Text) :=
  (name.string?.bind fun known => referenceNames.lookup known).map fun codes =>
    codes.map fun code => .char (Char.ofNat code)

def charactersOfOpenName? (name : Text) : Option (Text) :=
  if name.string?.any openNames.contains then charactersOfName? name else none

/-- The longest open name of two or more characters that starts the text, as the characters it
stands for and the rest; the search begins at the given length. -/
def longestOpenName? (cs : Text) : Nat → Option (Text × Text)
  | 0 | 1 => none
  | length + 1 =>
    match charactersOfOpenName? (cs.take (length + 1)) with
    | some found => some (found, cs.drop (length + 1))
    | none => longestOpenName? cs length

/-- The characters that a reference stands for. A name that is not known is written as it stands. -/
def Reference.text : Reference → Text
  | .plain c => [c]
  | .decimal digits => characterOfCode (ofDigits 10 (digits.filterMap hexValue?))
  | .hexadecimal digits => characterOfCode (ofDigits 16 (digits.filterMap hexValue?))
  | .named name closed =>
    let ending : Text := if closed then [';'] else []
    match if closed then charactersOfName? name else charactersOfOpenName? name with
    | some found => found
    | none =>
      match longestOpenName? name (if closed then name.length else name.length - 1) with
      | some (found, rest) => found ++ rest ++ ending
      | none => "&" ++ name ++ ending

/-- The text with every reference written as the characters that it stands for. -/
def expand (cs : Text) : Text := (references cs).flatMap Reference.text

/-- The number of digits of a decimal reference that has more than a decimal notation may have. -/
def Reference.excess? : Reference → Option Nat
  | .decimal digits => if digits.length ≤ digitLimit then none else some digits.length
  | _ => none

/-- The number of digits of the first decimal reference with too many of them. -/
def excessDigits? (cs : Text) : Option Nat := (references cs).findSome? Reference.excess?

end SchemaBook.Text
