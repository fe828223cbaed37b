import SchemaBook.Decimal.FloatParts
import SchemaBook.Text.Basic

/-!
The data that a schema file holds before it is read as models: scalars, lists, tuples and mappings
of any shape, and objects of other kinds. A mapping keeps its entries in order, and its keys are no
collections; two keys are one key when they are the same text, or numbers of the same value, a truth
value counting as zero or one. A collection may hold itself: it is a knot then, and inside it a
label stands for it. `exposed` unties a knot by one turn, so that a reader sees a plain collection
of any depth.
-/

namespace SchemaBook

/-- An object of a kind that no schema asks for, such as octets, a set or a moment: what can be
learned of it by showing it, testing it and looking for items in it. -/
structure ForeignObject where
  kind : String
  /-- The kind with the name of what defines it. -/
  fullKind : String
  /-- What objects of the kind have in common when they are the same key of a mapping. -/
  identity : Text
  shown? : Option Text
  plain? : Option Text
  isGiven : Bool
  hasItems : Bool
  deriving DecidableEq, Repr, Inhabited

inductive Value where
  | null
  | bool (b : Bool)
  | int (n : Int)
  | float (x : Float)
  | text (s : Text)
  | date (year month day : Nat)
  | list (items : List Value)
  | tuple (items : List Value)
  | map (entries : List (Value × Value))
  /-- A collection that holds itself where its label stands. -/
  | knot (label : Nat) (content : Value)
  /-- The collection of this label, which the value is part of. -/
  | loop (label : Nat)
  | foreign (object : ForeignObject)
  deriving Inhabited

/-- The entries of a mapping, in order. -/
abbrev Entries := List (Value × Value)

namespace Value

mutual

/-- The value with another one in place of a label. -/
def tied (label : Nat) (whole : Value) : Value → Value
  | .list items => .list (tiedItems label whole items)
  | .tuple items => .tuple (tiedItems label whole items)
  | .map entries => .map (tiedEntries label whole entries)
  | .knot inner content =>
    if inner = label then .knot inner content else .knot inner (tied label whole content)
  | .loop inner => if inner = label then whole else .loop inner
  | .null => .null
  | .bool b => .bool b
  | .int n => .int n
  | .float x => .float x
  | .text s => .text s
  | .date year month day => .date year month day
  | .foreign object => .foreign object

def tiedItems (label : Nat) (whole : Value) : List Value → List Value
  | [] => []
  | item :: rest => tied label whole item :: tiedItems label whole rest

def tiedEntries (label : Nat) (whole : Value) : List (Value × Value) → List (Value × Value)
  | [] => []
  | (key, value) :: rest => (key, tied label whole value) :: tiedEntries label whole rest

end

/-- The value as a scalar, collection or other object: a knot stands for what it holds, with itself
in place of its label. -/
def exposed : Value → Value
  | .knot label content => tied label (.knot label content) content
  | v => v

def items? (v : Value) : Option (List Value) :=
  match v.exposed with
  | .list items => some items
  | _ => none

/-- The items of a list or tuple. -/
def sequence? (v : Value) : Option (List Value) :=
  match v.exposed with
  | .list items | .tuple items => some items
  | _ => none

def entries? (v : Value) : Option Entries :=
  match v.exposed with
  | .map entries => some entries
  | _ => none

def kindName : Value → String
  | .null => "NoneType"
  | .bool _ => "bool"
  | .int _ => "int"
  | .float _ => "float"
  | .text _ => "str"
  | .date .. => "date"
  | .list _ | .loop _ => "list"
  | .tuple _ => "tuple"
  | .map _ => "dict"
  | .knot _ content => content.kindName
  | .foreign object => object.kind

/-- The kind of a value with the name of what defines it, unless the kind is built in. -/
def fullKindName : Value → String
  | .date .. => "datetime.date"
  | .foreign object => object.fullKind
  | v => v.kindName

/-- Whether a value has items to look at. -/
def hasItems (v : Value) : Bool :=
  match v.exposed with
  | .text _ | .list _ | .tuple _ | .map _ => true
  | .foreign object => object.hasItems
  | _ => false

/-- Whether a value counts as given: the null value, false, zero and everything empty do not. -/
def isGiven : Value → Bool
  | .null => false
  | .bool b => b
  | .int n => n != 0
  | .float x => !(x == 0.0)
  | .text s => !s.isEmpty
  | .date .. | .loop _ => true
  | .list items | .tuple items => !items.isEmpty
  | .map entries => !entries.isEmpty
  | .knot _ content => content.isGiven
  | .foreign object => object.isGiven

def given? (v : Value) : Option Value := if v.isGiven then some v else none

/-- The whole number that a value equals. -/
def whole? : Value → Option Int
  | .bool b => some (if b then 1 else 0)
  | .int n => some n
  | .float x => Decimal.whole? x
  | _ => none

/-- Whether two scalars are the same key of a mapping. -/
def sameKey : Value → Value → Bool
  | .null, .null => true
  | .text s, .text t => s == t
  | .date y m d, .date y' m' d' => y == y' && m == m' && d == d'
  | .float x, .float y => x == y
  | .foreign a, .foreign b => a.kind == b.kind && a.identity == b.identity
  | v, w =>
    match v.whole?, w.whole? with
    | some m, some n => m == n
    | _, _ => false

/-- A value without knot is exposed as it stands. -/
theorem exposed_eq_self {v : Value} (h : ∀ label content, v ≠ .knot label content) :
    v.exposed = v := by
  cases v <;> first | rfl | exact absurd rfl (h _ _)

@[simp]
theorem items?_list (items : List Value) : (Value.list items).items? = some items := rfl

/-- A list is a sequence. -/
theorem sequence?_of_items? {v : Value} {items : List Value} (h : v.items? = some items) :
    v.sequence? = some items := by
  unfold items? at h
  unfold sequence?
  split at h
  · next heq => rw [heq, Option.some.inj h]
  · cases h

@[simp]
theorem entries?_map (entries : Entries) : (Value.map entries).entries? = some entries := rfl

end Value

namespace Entries

def get? (entries : Entries) (key : Text) : Option Value :=
  (entries.find? fun entry => entry.1.sameKey (.text key)).map (·.2)

def given? (entries : Entries) (key : Text) : Option Value :=
  (get? entries key).bind Value.given?

/-- Puts a value under a key. A key that is there keeps its place. -/
def put (entries : Entries) (key value : Value) : Entries :=
  match entries with
  | [] => [(key, value)]
  | (k, v) :: rest =>
    if k.sameKey key then (k, value) :: rest else (k, v) :: put rest key value

end Entries

end SchemaBook
