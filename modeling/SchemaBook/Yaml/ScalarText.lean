import SchemaBook.Text.Reference
import SchemaBook.Yaml.Input

/-!
The text of scalars, by style: plain, in apostrophes, in quotation marks, literal and folded. Line
ends inside a scalar are folded, but for literal blocks; a line that is empty stands for a line end.
-/

namespace SchemaBook.Yaml

structure PlainText where
  text : Text
  /-- Whether a line end was passed behind the last word. -/
  passedBreak : Bool
  rest : Input

/-- Whether a character separates or encloses the items of a collection in brackets. -/
def isFlowMark (c : CodePoint) : Bool := c.isOneOf ",[]\x7b\x7d"

/-- Whether a plain scalar ends before the next character. Inside brackets more of them end it. -/
def endsPlain (inFlow : Bool) (s : Input) : Bool :=
  match s with
  | [] => true
  | c :: rest =>
    endsToken (some c.char) ||
      (c.char == ':' && (endsToken (peek rest) || (inFlow && (peek rest).any isFlowMark))) ||
      (inFlow && (c.char == '?' || isFlowMark c.char))

/-- A word of a plain scalar. -/
def plainWord (inFlow : Bool) : Input → Text × Input
  | [] => ([], [])
  | c :: rest =>
    if endsPlain inFlow (c :: rest) then ([], c :: rest)
    else
      let (word, behind) := plainWord inFlow rest
      (c.char :: word, behind)

/-- Line ends and spaces inside a plain scalar, none where the document ends at a line's start. -/
def plainBreaks (atStart : Bool) : Input → Option (Text) × Input
  | [] => (some [], [])
  | c :: rest =>
    if atStart && endsDocument (c :: rest) then (none, c :: rest)
    else if c.char == ' ' || (c.char == '\r' && sees rest '\n') then plainBreaks false rest
    else if isBreak c.char then
      let (breaks, behind) := plainBreaks true rest
      (breaks.map (keptBreak c.char :: ·), behind)
    else (some [], c :: rest)

/-- What stands between two words of a plain scalar as it is kept, whether a line end was passed,
and what is left. -/
def plainSpaces (s : Input) : Text × Bool × Input :=
  let (spaces, s) := span (· == ' ') s
  match lineBreak s with
  | ([], _) => (spaces, false, s)
  | (first, s) =>
    let (others, behind) := plainBreaks true s
    ((others.map (foldBreaks first)).getD [], true, behind)

/-- The rest of a plain scalar behind what is kept so far; a line that is indented less than the
scalar's parent demands ends it. -/
def plainFrom (inFlow : Bool) (leastColumn : Int) : Nat → PlainText → Text → PlainText
  | 0, done, _ => done
  | steps + 1, done, spaces =>
    let (word, s) := plainWord inFlow done.rest
    if sees done.rest '#' || word.isEmpty then done
    else
      let (between, passedBreak, s) := plainSpaces s
      let next : PlainText := ⟨done.text ++ spaces ++ word, passedBreak, s⟩
      let isOutside := !inFlow && s.head?.any fun c => c.column < leastColumn
      if between.isEmpty || isOutside then next
      else plainFrom inFlow leastColumn steps next between

def plainText (inFlow : Bool) (indent : Int) (s : Input) : PlainText :=
  plainFrom inFlow (indent + 1) s.length ⟨[], false, s⟩ []

/-- Line ends and white space inside a quoted scalar; the document must not end there. -/
def quotedBreaks (atStart : Bool) : Input → Except Fault (Text × Input)
  | [] => .ok ([], [])
  | c :: rest =>
    if atStart && endsDocument (c :: rest) then .error .malformed
    else if c.char == ' ' || c.char == '\t' || (c.char == '\r' && sees rest '\n') then
      quotedBreaks false rest
    else if isBreak c.char then do
      let (breaks, behind) ← quotedBreaks true rest
      return (keptBreak c.char :: breaks, behind)
    else .ok ([], c :: rest)

/-- What stands between two words of a quoted scalar as it is kept. -/
def quotedSpaces (s : Input) : Except Fault (Text × Input) :=
  let (spaces, s) := span (·.isOneOf " \t") s
  match lineBreak s with
  | ([], _) => .ok (spaces, s)
  | (first, s) => do
    let (others, behind) ← quotedBreaks true s
    return (foldBreaks first others, behind)

def escapedChars : List (Char × Char) := [
  ('0', '\x00'), ('a', '\x07'), ('b', '\x08'), ('t', '\t'), ('\t', '\t'), ('n', '\n'),
    ('v', '\x0b'), ('f', '\x0c'), ('r', '\r'), ('e', '\x1b'), (' ', ' '), ('"', '"'), ('\\', '\\'),
    ('/', '/'), ('N', '\x85'), ('_', '\xa0'), ('L', '\u2028'), ('P', '\u2029')]

def escapedChar? (c : CodePoint) : Option Char := c.char?.bind fun d => escapedChars.lookup d

def codeLength? (c : CodePoint) : Option Nat :=
  c.char?.bind fun d => [('x', 2), ('u', 4), ('U', 8)].lookup d

def readEscape (s : Input) : Except Fault (Text × Input) :=
  match s with
  | [] => .error .malformed
  | c :: rest =>
    match escapedChar? c.char, codeLength? c.char with
    | some escaped, _ => .ok ([.char escaped], rest)
    | none, some length =>
      let digits := (rest.take length).filterMap fun digit => Text.hexValue? digit.char
      let code := Text.ofDigits 16 digits
      if digits.length = length then
        match CodePoint.ofNat? code with
        | some named => .ok ([named], rest.drop length)
        | none => .error (.scalar (if code < 0x80000000 then .noSuchCode else .codeTooLarge))
      else .error .malformed
    | none, none =>
      if isBreak c.char then quotedBreaks true (lineBreak (c :: rest)).2 else .error .malformed

/-- A quoted scalar behind its opening quote, up to and with the closing one. -/
def quotedFrom (quote : CodePoint) : Nat → Text → Input → Except Fault (Text × Input)
  | 0, _, _ => .error .malformed
  | steps + 1, done, s =>
    match s with
    | [] => .error .malformed
    | c :: rest =>
      if c.char == quote then
        if quote == '\'' && sees rest '\'' then
          quotedFrom quote steps (done ++ "'") rest.tail
        else .ok (done, rest)
      else if endsToken (some c.char) then do
        let (spaces, behind) ← quotedSpaces (c :: rest)
        quotedFrom quote steps (done ++ spaces) behind
      else if quote == '"' && c.char == '\\' then do
        let (escaped, behind) ← readEscape rest
        quotedFrom quote steps (done ++ escaped) behind
      else
        let (word, behind) := span
          (fun c => !endsToken (some c) && !c.isOneOf "'\"\\") (c :: rest)
        if word.isEmpty then quotedFrom quote steps (done ++ [c.char]) rest
        else quotedFrom quote steps (done ++ word) behind

def quotedText (quote : CodePoint) (s : Input) : Except Fault (Text × Input) :=
  quotedFrom quote (s.length + 1) [] s.tail

/-- What becomes of the line ends at the end of a block scalar. -/
inductive Chomping where
  | strip
  | clip
  | keep
  deriving DecidableEq, Repr

structure BlockHeader where
  chomping : Chomping := .clip
  increment : Option Nat := none
  deriving DecidableEq, Repr

def chomping? (c : Option CodePoint) : Option Chomping :=
  match c with
  | some (.char '+') => some .keep
  | some (.char '-') => some .strip
  | _ => none

def digit? (s : Input) : Option Nat :=
  (peek s).bind fun c => if c.isAsciiDigit then some (c.toNat - '0'.toNat) else none

/-- Reads the header of a block scalar: chomping and indentation, in either order. -/
def readBlockHeader (s : Input) : Except Fault (BlockHeader × Input) :=
  let (header, s) : BlockHeader × Input :=
    match chomping? (peek s) with
    | some chomping =>
      let s := s.tail
      (⟨chomping, digit? s⟩, if (digit? s).isSome then s.tail else s)
    | none =>
      match digit? s with
      | some digit =>
        let s := s.tail
        (⟨(chomping? (peek s)).getD .clip, some digit⟩,
          if (chomping? (peek s)).isSome then s.tail else s)
      | none => ({}, s)
  if header.increment = some 0 then .error .malformed
  else if endsWord (peek s) then .ok (header, s)
  else .error .malformed

/-- The line ends before the next line of a block scalar, with the spaces of its indentation. -/
def blockBreaks (indent : Nat) (s : Input) : Text × Input :=
  lineBreaks (fun c => c.char == ' ' && c.column < indent) s

/-- The greatest column that spaces before the first line of a block scalar reach. -/
def leadingColumn (s : Input) : Nat :=
  (s.takeWhile fun (c : Spot) => isBreak c.char || c.char == ' ').foldl
    (fun most (c : Spot) => if c.char == ' ' then max most (c.column + 1) else most) 0

/-- The lines of a block scalar from the next one on: their text, the line end behind the last of
them and the line ends behind that. -/
def blockLines (folded : Bool) (indent : Nat) :
    Nat → Text → Text → Input → Text × Text × Text × Input
  | 0, _, breaks, s => ([], [], breaks, s)
  | steps + 1, lastBreak, breaks, s =>
    if s.head?.any (·.column == indent) then
      let startsFull := !(peek s).any (·.isOneOf " \t")
      let (line, behind) := span (!isBreak ·) s
      let (lineEnd, behind) := lineBreak behind
      let (after, behind) := blockBreaks indent behind
      let continues := behind.head?.any (·.column == indent)
      let nextFull := !(peek behind).any (·.isOneOf " \t")
      let between :=
        if !continues then []
        else if folded && lineEnd == "\n" && startsFull && nextFull then
          (if after.isEmpty then " " else [])
        else lineEnd
      let (text, last, ending, rest) := blockLines folded indent steps lineEnd after behind
      (breaks ++ line ++ between ++ text, last, ending, rest)
    else ([], lastBreak, breaks, s)

def blockText (folded : Bool) (parentIndent : Int) (s : Input) :
    Except Fault (Text × Input) := do
  let (header, s) ← readBlockHeader s.tail
  let s ← restOfLine s
  let least := max (parentIndent + 1).toNat 1
  let indent :=
    match header.increment with
    | none => max least (leadingColumn s)
    | some increment => least + increment - 1
  let (breaks, s) :=
    match header.increment with
    | none => lineBreaks (·.char == ' ') s
    | some _ => blockBreaks indent s
  let (text, lastBreak, ending, rest) := blockLines folded indent (s.length + 1) [] breaks s
  let tail :=
    match header.chomping with
    | .strip => []
    | .clip => lastBreak
    | .keep => lastBreak ++ ending
  return (text ++ tail, rest)

end SchemaBook.Yaml
