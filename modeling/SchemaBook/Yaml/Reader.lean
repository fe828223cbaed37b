import SchemaBook.Loader.YamlReader
import SchemaBook.Yaml.Data

/-!
The reader of YAML that the program runs with. It reads the core types of YAML 1.1 with their tags.
It sets no limit to how deep collections stand in each other, so the errors of a reader that has
such a limit are not among its own. Nothing that is proved of the loader for all readers rests on
it.
-/

namespace SchemaBook.Yaml

def ScalarFault.kind : ScalarFault → ErrorKind
  | .noTimestamp => .attribute
  | .timestampOfMapping => .type
  | .endless => .recursion
  | .noDigits => .index
  | .floatTooLarge | .codeTooLarge => .overflow
  | .noTruthValue _ => .key
  | _ => .value

/-- The reason for which a text is malformed is not told apart. -/
def Fault.readFault : Fault → ReadFault
  | .malformed => .malformed "the text has not the form of YAML"
  | .scalar fault => .raised ⟨fault.kind, fault.message⟩

def reader : YamlReader Value := fun text => (load text).mapError Fault.readFault

end SchemaBook.Yaml
