import SchemaBook.Text.Basic

/-!
What the loader knows of the reader of YAML that it is given. A text has data; or it is malformed,
and the reader tells why; or an error of another kind ends the reading. The loader is defined for
every reader, and what is proved of it holds for every reader.
-/

namespace SchemaBook

/-- The kinds of errors, as far as a caller tells them apart. -/
inductive ErrorKind where
  | value
  | type
  | key
  | index
  | attribute
  | overflow
  | recursion
  | system
  | notFound
  | decoding
  | other (name : Text)
  deriving DecidableEq, Repr

/-- Whether an error of the kind is one of a wrong value. Octets that encode no text are such
values. -/
def ErrorKind.isValue : ErrorKind → Bool
  | .value | .decoding => true
  | _ => false

structure RaisedError where
  kind : ErrorKind
  message : Text
  deriving DecidableEq, Repr

inductive ReadFault where
  /-- The text has not the form of YAML, or a tag in it is unknown. -/
  | malformed (reason : Text)
  /-- An error that the reader does not report as one of the form. -/
  | raised (error : RaisedError)
  deriving DecidableEq, Repr

abbrev YamlReader (α : Type) := Text → Except ReadFault α

end SchemaBook
