import SchemaBook.Text.CharClass
import SchemaBook.Text.Quoted
import SchemaBook.Text.Split

/-!
The arguments of the command. An option may be shortened to any start that only one option has, and
its value may follow it or stand behind an equals sign. There are no arguments other than options.
-/

namespace SchemaBook

inductive Flag where
  | help
  | schema
  | out
  | title
  | strict
  deriving DecidableEq, Repr

namespace Flag

def spellings : Flag → List Text
  | .help => ["-h", "--help"]
  | .schema => ["--schema"]
  | .out => ["--out"]
  | .title => ["--title"]
  | .strict => ["--strict"]

def all : List Flag := [.help, .schema, .out, .title, .strict]

def table : List (Text × Flag) := all.flatMap fun flag => flag.spellings.map (·, flag)

def takesValue : Flag → Bool
  | .schema | .out | .title => true
  | .help | .strict => false

def shown (flag : Flag) : Text := Text.join "/" flag.spellings

end Flag

/-- What an argument is, as far as it can be told without the others. -/
inductive ArgumentKind where
  | word
  /-- Two hyphens: all that follow are words. -/
  | divider
  | unknownOption
  /-- An option, with the value that stands in its argument. -/
  | option (flag : Flag) (attached : Option Text)
  deriving DecidableEq, Repr

structure Options where
  /-- The path of the schema file, if the option has a value. -/
  schema : Option Text
  /-- The path of the document, if the option has a value. -/
  out : Option Text := some "ERD.md"
  title : Option Text := none
  strict : Bool := false
  deriving DecidableEq, Repr

inductive ArgumentStop where
  | help
  | misuse (message : Text)
  deriving DecidableEq, Repr

namespace Arguments

def dividerText : Text := "--"

/-- The part of a text before its first equals sign, and what is behind that. -/
def atEquals (text : Text) : Text × Option Text :=
  (text.takeWhile (· != '='), Text.after? ['='] text)

/-- The spellings that start with a text. -/
def startingWith (text : Text) : List (Text × Flag) :=
  Flag.table.filter fun entry => text.isPrefixOf entry.1

def candidates (text : Text) : List (Text × ArgumentKind) :=
  if text[1]? = some (.char '-') then
    let (front, value) := atEquals text
    (startingWith front).map fun entry => (entry.1, .option entry.2 value)
  else
    Flag.table.filterMap fun entry =>
      if entry.1 = text.take 2 then some (entry.1, .option entry.2 (some (text.drop 2)))
      else if text.isPrefixOf entry.1 then some (entry.1, .option entry.2 none)
      else none

/-- Whether a text is a negative number: a hyphen, digits, and a point among them or none. -/
def isNegativeNumber (text : Text) : Bool :=
  match text with
  | .char '-' :: rest =>
    let rest := if rest.getLast? = some (.char '\n') then rest.dropLast else rest
    let behind := rest.dropWhile CodePoint.isDigit
    (behind.isEmpty && !rest.isEmpty) ||
      (behind.head? == some (.char '.') && !behind.tail.isEmpty &&
        behind.tail.all CodePoint.isDigit)
  | _ => false

def kindOf (text : Text) : Except ArgumentStop ArgumentKind :=
  if text.head? != some (.char '-') then .ok .word
  else
    match Flag.table.lookup text with
    | some flag => .ok (.option flag none)
    | none =>
      if text.length = 1 then .ok .word
      else
        let (front, value) := atEquals text
        match value, Flag.table.lookup front with
        | some value, some flag => .ok (.option flag (some value))
        | _, _ =>
          match candidates text with
          | [(_, kind)] => .ok kind
          | [] =>
            if isNegativeNumber text || text.contains ' ' then .ok .word else .ok .unknownOption
          | several =>
            .error (.misuse ("ambiguous option: " ++ text ++ " could match " ++
              Text.join ", " (several.map (·.1))))

def kinds : List Text → Except ArgumentStop (List (ArgumentKind × Text))
  | [] => .ok []
  | text :: rest =>
    if text = dividerText then .ok ((.divider, text) :: rest.map (.word, ·))
    else do
      let kind ← kindOf text
      let others ← kinds rest
      return (kind, text) :: others

def misuse (flag : Flag) (message : Text) : ArgumentStop :=
  .misuse ("argument " ++ flag.shown ++ ": " ++ message)

def ignored (flag : Flag) (value : Text) : ArgumentStop :=
  misuse flag ("ignored explicit argument " ++ Text.quoted value)

/-- What becomes of the characters behind the short spelling of help. They are read as more short
options, of which there is only help itself. -/
def afterHelp : Text → ArgumentStop
  | [] => .help
  | c :: rest => if c = 'h' then afterHelp rest else ignored .help (c :: rest)

/-- The fault of a value that is attached to an option without one. -/
def attachedTo (flag : Flag) (spelled value : Text) : ArgumentStop :=
  if flag = .help ∧ spelled[1]? ≠ some (.char '-') ∧ value ≠ [] then afterHelp value
  else ignored flag value

/-- The value that an option is given. Two hyphens divide arguments wherever they stand, so they are
no value. -/
def valueOf (text : Text) : Option Text := if text = dividerText then none else some text

/-- What is known of the options so far, and the arguments that are none. -/
structure Progress where
  schema : Option (Option Text) := none
  out : Option (Option Text) := none
  title : Option Text := none
  strict : Bool := false
  extras : List Text := []
  deriving DecidableEq, Repr

def Progress.set (p : Progress) (flag : Flag) (value : Option Text) : Progress :=
  match flag with
  | .schema => { p with schema := some value }
  | .out => { p with out := some value }
  | .title => { p with title := value }
  | .help | .strict => p

def take (p : Progress) : List (ArgumentKind × Text) → Except ArgumentStop Progress
  | [] => .ok p
  | (.option flag attached, text) :: rest =>
    match flag.takesValue, attached with
    | true, some value => take (p.set flag (valueOf value)) rest
    | true, none =>
      match rest with
      | (.word, value) :: rest => take (p.set flag (valueOf value)) rest
      | _ => .error (misuse flag "expected one argument")
    | false, some value => .error (attachedTo flag text value)
    | false, none =>
      if flag = .help then .error .help else take { p with strict := true } rest
  | (_, text) :: rest => take { p with extras := p.extras ++ [text] } rest

def parse (arguments : List Text) : Except ArgumentStop Options := do
  let p ← take {} (← kinds arguments)
  match p.schema with
  | none => .error (.misuse "the following arguments are required: --schema")
  | some schema =>
    if p.extras.isEmpty then
      return { schema, out := p.out.getD (some "ERD.md"), title := p.title, strict := p.strict }
    else .error (.misuse ("unrecognized arguments: " ++ Text.join " " p.extras))

end Arguments

end SchemaBook
