import SchemaBook.Text.Split
import SchemaBook.Yaml.Fault

/-!
The input of a YAML text: its characters with their places. Line and column decide where collections
begin and end, so every character carries them from the start and reading is recursion on a list.
-/

namespace SchemaBook.Yaml

structure Spot where
  char : CodePoint
  index : Nat
  line : Nat
  column : Nat
  deriving Repr

abbrev Input := List Spot

def isBreak (c : CodePoint) : Bool := c.isOneOf "\r\n\u0085\u2028\u2029"

def isAllowed (c : CodePoint) : Bool :=
  c.isOneOf "\t\n\r\u0085" || c.isBetween ' ' '~' ||
    (0xa0 ≤ c.toNat && c.toNat != 0xfffe && c.toNat != 0xffff && !c.isHalf)

/-- The mark of byte order, which takes no column. -/
def byteOrderMark : CodePoint := '\ufeff'

/-- The input of a text from a place on. A carriage return before a line feed ends no line. -/
def inputFrom (index line column : Nat) : Text → Input
  | [] => []
  | c :: rest =>
    let here : Spot := ⟨c, index, line, column⟩
    if isBreak c && !(c == '\r' && rest.head? == some (.char '\n')) then
      here :: inputFrom (index + 1) (line + 1) 0 rest
    else if c == byteOrderMark then here :: inputFrom (index + 1) line column rest
    else here :: inputFrom (index + 1) line (column + 1) rest

/-- The input of a text; a mark of byte order at its start is skipped. -/
def inputOf (cs : Text) : Input :=
  match inputFrom 0 0 0 cs with
  | first :: rest => if first.char == byteOrderMark then rest else first :: rest
  | [] => []

def peek (s : Input) : Option CodePoint := s.head?.map (·.char)

def sees (s : Input) (c : Char) : Bool := peek s == some (.char c)

/-- The character that stands `n` places behind the next one. -/
def peekAt (s : Input) (n : Nat) : Option CodePoint := s[n]?.map (·.char)

/-- The characters up to the first one that fails the test, and what is left behind them. -/
def span (test : CodePoint → Bool) (s : Input) : Text × Input :=
  ((s.takeWhile (test ·.char)).map (·.char), s.dropWhile (test ·.char))

def skip (test : CodePoint → Bool) (s : Input) : Input := s.dropWhile (test ·.char)

def skipSpaces (s : Input) : Input := skip (· == ' ') s

def endsLine (next : Option CodePoint) : Bool := next.all isBreak

/-- Whether a space, the line or the text ends what was read. -/
def endsWord (next : Option CodePoint) : Bool := next.all fun c => isBreak c || c.isOneOf " "

def endsToken (next : Option CodePoint) : Bool := next.all fun c => isBreak c || c.isOneOf " \t"

/-- Whether three hyphens or dots end the document here, if this is the start of a line. -/
def endsDocument (s : Input) : Bool :=
  let start : Text := (s.take 3).map (·.char)
  (start == "---" || start == "...") && endsToken (peekAt s 3)

/-- A line end as it is kept in text: the separators as they are, all others as line feed. -/
def keptBreak (c : CodePoint) : CodePoint := if c.isOneOf "\u2028\u2029" then c else '\n'

/-- The line end that stands next, as it is kept, and what is left behind it. -/
def lineBreak (s : Input) : Text × Input :=
  match s with
  | [] => ([], [])
  | c :: rest =>
    if !isBreak c.char then ([], c :: rest)
    else if c.char == '\r' && sees rest '\n' then ("\n", rest.tail)
    else ([keptBreak c.char], rest)

/-- The line ends that stand next, with characters between them that are skipped. -/
def lineBreaks (skips : Spot → Bool) : Input → Text × Input
  | [] => ([], [])
  | c :: rest =>
    if skips c || (c.char == '\r' && sees rest '\n') then lineBreaks skips rest
    else if isBreak c.char then
      let (breaks, behind) := lineBreaks skips rest
      (keptBreak c.char :: breaks, behind)
    else ([], c :: rest)

/-- What is left behind spaces, a comment and the line end, if nothing else stands there. -/
def restOfLine (s : Input) : Except Fault Input :=
  let s := skipSpaces s
  let s := if sees s '#' then skip (!isBreak ·) s else s
  if endsLine (peek s) then .ok (lineBreak s).2 else .error .malformed

/-- One line end between two lines is read as a space, further ones are kept. -/
def foldBreaks (first others : Text) : Text :=
  if first != "\n" then first ++ others else if others.isEmpty then " " else others

end SchemaBook.Yaml
