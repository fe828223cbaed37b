import SchemaBook.Yaml.NodeMark
import SchemaBook.Yaml.ScalarText

/-!
From input to tokens. Indentation opens and closes block collections. A node before a colon is a
key: every node that could be one is noted with its place, and when the colon comes on the same
line, the key token is put in front of the node, with the start of a mapping where the column opens
one. A token is given to a reader once no key token can come in front of it any more, so a fault
further on in the text is met only by a reader that gets there.
-/

namespace SchemaBook.Yaml

structure KeyPlace where
  /-- The number of tokens in front of it. -/
  number : Nat
  /-- Whether it can be nothing but a key. -/
  required : Bool
  spot : Spot
  deriving Repr

/-- A key and its colon stand on one line, and not further apart than this. -/
def keyReach : Nat := 1024

/-- Whether the colon of a key can no longer stand at a place. -/
def KeyPlace.isStale (place : KeyPlace) (here : Spot) : Bool :=
  place.spot.line != here.line || place.spot.index + keyReach < here.index

structure Layout where
  input : Input
  /-- The tokens so far, the last one first. -/
  done : List Token := []
  /-- The number of open brackets. -/
  flow : Nat := 0
  /-- The column of the innermost block collection, with those around it. -/
  indent : Int := -1
  outer : List Int := []
  /-- Whether a key may start at the next token. -/
  allowKey : Bool := true
  /-- The last node of each bracket level that may be a key. -/
  keys : List (Nat × KeyPlace) := []

namespace Layout

def push (l : Layout) (token : Token) : Layout := { l with done := token :: l.done }

def insert (l : Layout) (number : Nat) (token : Token) : Layout :=
  let later := l.done.length - number
  { l with done := l.done.take later ++ token :: l.done.drop later }

def close (l : Layout) (column : Int) : Layout :=
  if l.flow != 0 then l
  else
    let closed := (l.indent :: l.outer).takeWhile (column < ·)
    let left := (l.indent :: l.outer).dropWhile (column < ·)
    { l with
      done := closed.map (fun _ => Token.blockEnd) ++ l.done
      indent := left.head?.getD (-1)
      outer := left.tail }

/-- The state with the column as that of a new block collection, if it stands further right. -/
def opened? (l : Layout) (column : Int) : Option Layout :=
  if l.indent < column then some { l with indent := column, outer := l.indent :: l.outer } else none

/-- Forgets the possible key of this bracket level; a required one is missing its colon. -/
def dropKey (l : Layout) : Except Fault Layout :=
  match l.keys.lookup l.flow with
  | some place =>
    if place.required then .error .malformed
    else .ok { l with keys := l.keys.filter (·.1 != l.flow) }
  | none => .ok l

def dropStaleKeys (l : Layout) (here : Spot) : Except Fault Layout :=
  if l.keys.any fun entry => entry.2.isStale here && entry.2.required then .error .malformed
  else .ok { l with keys := l.keys.filter fun entry => !entry.2.isStale here }

/-- The tokens that are given to a reader before the next one is read: those in front of the first
node that may still be a key. -/
def released (l : Layout) : List Token :=
  let isOpen (place : KeyPlace) : Bool := l.input.head?.all fun here => !place.isStale here
  let numbers := (l.keys.map (·.2)).filter isOpen |>.map (·.number)
  l.done.reverse.take (numbers.foldl min l.done.length)

def noteKey (l : Layout) (here : Spot) : Except Fault Layout :=
  if !l.allowKey then .ok l
  else do
    let l ← l.dropKey
    let place : KeyPlace :=
      { number := l.done.length
        required := l.flow == 0 && l.indent == (here.column : Int)
        spot := here }
    return { l with keys := (l.flow, place) :: l.keys }

/-- What is left behind spaces, comments and line ends, and whether a line end was passed. -/
def toNextToken (inComment passedBreak : Bool) : Input → Bool × Input
  | [] => (passedBreak, [])
  | c :: rest =>
    if isBreak c.char then toNextToken false true rest
    else if inComment then toNextToken true passedBreak rest
    else if c.char == ' ' then toNextToken false passedBreak rest
    else if c.char == '#' then toNextToken true passedBreak rest
    else (passedBreak, c :: rest)

def mark (l : Layout) (token : Token) : Layout :=
  { l with done := token :: l.done, input := l.input.tail }

/-- Starts a document, ends one or adds a directive: all block collections are closed. -/
def atMargin (l : Layout) : Except Fault Layout := do
  let l ← (l.close (-1)).dropKey
  return { l with allowKey := false }

def openBracket (l : Layout) (here : Spot) (token : Token) : Except Fault Layout := do
  let l ← l.noteKey here
  return { l.mark token with flow := l.flow + 1, allowKey := true }

def closeBracket (l : Layout) (token : Token) : Except Fault Layout := do
  let l ← l.dropKey
  if l.flow = 0 then .error .malformed
  else return { l.mark token with flow := l.flow - 1, allowKey := false }

def separate (l : Layout) : Except Fault Layout := do
  let l ← { l with allowKey := true }.dropKey
  return l.mark .flowEntry

def openBlock (l : Layout) (column : Nat) (start : Token) : Except Fault Layout :=
  if l.flow != 0 then .ok l
  else if !l.allowKey then .error .malformed
  else .ok (((l.opened? column).map (·.push start)).getD l)

def startItem (l : Layout) (here : Spot) : Except Fault Layout := do
  let l ← l.openBlock here.column .blockSequenceStart
  let l ← { l with allowKey := true }.dropKey
  return l.mark .blockEntry

def startKey (l : Layout) (here : Spot) : Except Fault Layout := do
  let l ← l.openBlock here.column .blockMappingStart
  let l ← { l with allowKey := l.flow == 0 }.dropKey
  return l.mark .key

def startValue (l : Layout) (here : Spot) : Except Fault Layout :=
  match l.keys.lookup l.flow with
  | some place =>
    let known := { l with keys := l.keys.filter (·.1 != l.flow), allowKey := false }
    let keyed := known.insert place.number .key
    let opened :=
      if l.flow != 0 then keyed
      else ((keyed.opened? place.spot.column).map
        (·.insert place.number .blockMappingStart)).getD keyed
    .ok (opened.mark .value)
  | none => do
    let l ← l.openBlock here.column .blockMappingStart
    let l ← { l with allowKey := l.flow == 0 }.dropKey
    return l.mark .value

/-- A token that is, or belongs to, a node that may be a key. -/
def node (l : Layout) (here : Spot) (read : Input → Except Fault (Token × Input)) :
    Except Fault Layout := do
  let l ← l.noteKey here
  let (token, rest) ← read l.input
  return { l with done := token :: l.done, input := rest, allowKey := false }

def quoted (l : Layout) (here : Spot) : Except Fault Layout :=
  l.node here fun s => do
    let (text, rest) ← quotedText here.char s
    return (.scalar text false, rest)

def block (l : Layout) (folded : Bool) : Except Fault Layout := do
  let l ← { l with allowKey := true }.dropKey
  let (text, rest) ← blockText folded l.indent l.input
  return { l with done := .scalar text false :: l.done, input := rest }

def plain (l : Layout) (here : Spot) : Except Fault Layout := do
  let l ← l.noteKey here
  let scalar := plainText (l.flow != 0) l.indent l.input
  return { l with
    done := .scalar scalar.text true :: l.done
    input := scalar.rest
    allowKey := scalar.passedBreak }

/-- Whether a plain scalar may start here. -/
def startsPlain (inFlow : Bool) (c : CodePoint) (next : Option CodePoint) : Bool :=
  !(endsToken (some c) || c.isOneOf "-?:,[]\x7b\x7d#&*!|>'\"%@\x60") ||
    (!endsToken next && (c == '-' || (!inFlow && (c == '?' || c == ':'))))

def tokenAt (l : Layout) (here : Spot) (rest : Input) : Except Fault Layout :=
  let inFlow := l.flow != 0
  let spaced := endsToken (peek rest)
  match here.char with
  | .char '[' => l.openBracket here .flowSequenceStart
  | .char '\x7b' => l.openBracket here .flowMappingStart
  | .char ']' => l.closeBracket .flowSequenceEnd
  | .char '\x7d' => l.closeBracket .flowMappingEnd
  | .char ',' => l.separate
  | .char '*' => l.node here fun s => do
    let (name, rest) ← readAnchorName s.tail
    return (.alias name, rest)
  | .char '&' => l.node here fun s => do
    let (name, rest) ← readAnchorName s.tail
    return (.anchor name, rest)
  | .char '!' => l.node here fun s => do
    let (name, rest) ← readTag s
    return (.tag name, rest)
  | .char '\'' | .char '"' => l.quoted here
  | c =>
    if c == '-' && spaced then l.startItem here
    else if c == '?' && (inFlow || spaced) then l.startKey here
    else if c == ':' && (inFlow || spaced) then l.startValue here
    else if c == '|' && !inFlow then l.block false
    else if c == '>' && !inFlow then l.block true
    else if startsPlain inFlow c (peek rest) then l.plain here
    else .error .malformed

def tokenOrMargin (l : Layout) (here : Spot) (rest : Input) : Except Fault Layout := do
  if here.column = 0 && here.char == '%' then
    let l ← l.atMargin
    let (content, behind) ← readDirective rest
    return { l.push (.directive content) with input := behind }
  else if here.column = 0 && endsDocument l.input then
    let l ← l.atMargin
    return { l.push (if here.char == '-' then .documentStart else .documentEnd) with
      input := l.input.drop 3 }
  else l.tokenAt here rest

/-- Reads one token; at the end of the input, closes what is open and reads none. -/
def step (l : Layout) : Except Fault Layout := do
  let (passedBreak, input) := toNextToken false false l.input
  let l := { l with input, allowKey := l.allowKey || (passedBreak && l.flow == 0) }
  match l.input with
  | [] => l.atMargin
  | here :: rest =>
    let l ← l.dropStaleKeys here
    (l.close here.column).tokenOrMargin here rest

/-- Reads tokens to the end of the input or to the first fault. Every step but the last reads a
character, so that there are no more steps than characters and one. -/
def run : Nat → Layout → TokenStream
  | 0, l => ⟨l.done.reverse, none⟩
  | steps + 1, l =>
    match l.step with
    | .error fault => ⟨l.released, some fault⟩
    | .ok next =>
      if next.input.isEmpty && l.input.isEmpty then ⟨next.done.reverse, none⟩ else run steps next

end Layout

def TokenStream.ofText (text : Text) : TokenStream :=
  if text.all isAllowed then Layout.run (text.length + 2) { input := inputOf text }
  else ⟨[], some .malformed⟩

end SchemaBook.Yaml
