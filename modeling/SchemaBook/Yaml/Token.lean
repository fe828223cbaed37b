import SchemaBook.Yaml.Input

/-!
The tokens of a YAML text. Marks for the start and end of block collections stand in the sequence of
tokens like brackets, so that the grammar does not see indentation.
-/

namespace SchemaBook.Yaml

/-- What a directive line says. -/
inductive Directive where
  | version (major : Nat)
  | tagHandle (handle expansion : Text)
  | other
  deriving DecidableEq, Repr

/-- The tag of a node as written: a handle that stands for the start of the tag, if any, and the
rest. -/
structure TagName where
  handle : Option Text
  suffix : Text
  deriving DecidableEq, Repr

inductive Token where
  | directive (content : Directive)
  | documentStart
  | documentEnd
  | blockSequenceStart
  | blockMappingStart
  | blockEnd
  | flowSequenceStart
  | flowSequenceEnd
  | flowMappingStart
  | flowMappingEnd
  | blockEntry
  | flowEntry
  | key
  | value
  | anchor (name : Text)
  | alias (name : Text)
  | tag (name : TagName)
  | scalar (text : Text) (plain : Bool)
  deriving DecidableEq, Repr

/-- The tokens of a text up to its end, or up to the first one that cannot be read. A reader meets
the fault only when it asks for a token behind the last one. -/
structure TokenStream where
  tokens : List Token
  fault : Option Fault

end SchemaBook.Yaml
