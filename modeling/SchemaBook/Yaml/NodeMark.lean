import SchemaBook.Text.Reference
import SchemaBook.Text.Utf8
import SchemaBook.Yaml.Token

/-!
The marks of nodes and documents that are no scalars: anchors, aliases, tags and directives.
-/

namespace SchemaBook.Yaml

/-- Whether a character may occur in the name of an anchor, a handle or a directive. -/
def isNameChar (c : CodePoint) : Bool := c.isAsciiLetter || c.isAsciiDigit || c.isOneOf "-_"

/-- A name of at least one character. -/
def readName (s : Input) : Except Fault (Text × Input) :=
  let (name, rest) := span isNameChar s
  if name.isEmpty then .error .malformed else .ok (name, rest)

def readAnchorName (s : Input) : Except Fault (Text × Input) := do
  let (name, rest) ← readName s
  let ends := endsToken (peek rest) ||
    (peek rest).any (·.isOneOf "?:,]\x7d%@\x60")
  if ends then return (name, rest) else .error .malformed

/-- Whether a character may occur in a tag or in what a handle stands for. -/
def isTagChar (c : CodePoint) : Bool :=
  c.isAsciiLetter || c.isAsciiDigit || c.isOneOf "-;/?:@&=+$,_.!~*'()[]%"

/-- The octets that percent signs and digits name. -/
def percentOctets : Text → Option (List Nat × Text)
  | .char '%' :: high :: low :: rest => do
    let high ← Text.hexValue? high
    let low ← Text.hexValue? low
    let (octets, behind) ← percentOctets rest
    return ((16 * high + low) :: octets, behind)
  | .char '%' :: _ => none
  | rest => some ([], rest)

/-- The text of a tag with each run of named octets as the characters that they encode. -/
def decodePercents : Nat → Text → Option (Text)
  | 0, _ => none
  | _ + 1, [] => some []
  | steps + 1, c :: rest =>
    if c == '%' then do
      let (octets, behind) ← percentOctets (c :: rest)
      let named ← (Text.decodeUtf8 octets).toOption
      let others ← decodePercents steps behind
      return named ++ others
    else (decodePercents steps rest).map (c :: ·)

def readTagText (s : Input) : Except Fault (Text × Input) :=
  let (written, rest) := span isTagChar s
  match decodePercents (written.length + 1) written with
  | some text => if written.isEmpty then .error .malformed else .ok (text, rest)
  | none => .error .malformed

/-- A handle: an exclamation mark, or a name between two of them. -/
def readHandle (s : Input) : Except Fault (Text × Input) :=
  match s with
  | [] => .error .malformed
  | c :: rest =>
    let (name, behind) := span isNameChar rest
    if c.char != '!' then .error .malformed
    else if sees rest ' ' then .ok ("!", rest)
    else if sees behind '!' then .ok ("!" ++ name ++ "!", behind.tail)
    else .error .malformed

/-- The tag of a node: in angle brackets, a lone exclamation mark, or a handle with the rest. -/
def readTag (s : Input) : Except Fault (TagName × Input) := do
  let next := peekAt s 1
  let (tag, rest) ←
    if next == some (.char '<') then do
      let (text, rest) ← readTagText (s.drop 2)
      if sees rest '>' then .ok (⟨none, text⟩, rest.tail) else .error .malformed
    else if endsToken next then .ok (⟨none, "!"⟩, s.tail)
    else do
      let hasHandle := (span (fun c => !isBreak c && c != ' ') s.tail).1.contains '!'
      let (handle, rest) ← if hasHandle then readHandle s else .ok ("!", s.tail)
      let (text, rest) ← readTagText rest
      pure (⟨some handle, text⟩, rest)
  if endsWord (peek rest) then return (tag, rest) else .error .malformed

def readVersionNumber (s : Input) : Except Fault (Nat × Input) :=
  let (digits, rest) := span CodePoint.isAsciiDigit s
  match Text.readNat digits with
  | .ok number => .ok (number, rest)
  | .error .malformed => .error .malformed
  | .error (.tooLong length) => .error (.scalar (.integerTooLong length))

def readDirectiveContent (name : Text) (s : Input) : Except Fault (Directive × Input) := do
  if name = "YAML" then
    let (major, s) ← readVersionNumber (skipSpaces s)
    if !sees s '.' then .error .malformed
    let (_, s) ← readVersionNumber s.tail
    if endsWord (peek s) then return (.version major, s) else .error .malformed
  else if name = "TAG" then
    let (handle, s) ← readHandle (skipSpaces s)
    if !sees s ' ' then .error .malformed
    let (expansion, s) ← readTagText (skipSpaces s)
    if endsWord (peek s) then return (.tagHandle handle expansion, s) else .error .malformed
  else return (.other, skip (!isBreak ·) s)

/-- A directive behind its percent sign, with the rest of its line. -/
def readDirective (s : Input) : Except Fault (Directive × Input) := do
  let (name, s) ← readName s
  if !endsWord (peek s) then .error .malformed
  let (directive, s) ← readDirectiveContent name s
  let rest ← restOfLine s
  return (directive, rest)

end SchemaBook.Yaml
