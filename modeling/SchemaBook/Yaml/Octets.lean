import SchemaBook.Text.Integer
import SchemaBook.Text.Quoted
import SchemaBook.Value.Basic

/-!
Octets that are written as a text in base sixty-four. What is no digit is looked over, and the
equals signs that fill up the last group end the text.
-/

namespace SchemaBook.Yaml

namespace Octets

def digits : List Char :=
  "ABCDEFGHIJKLMNOPQRSTUVWXYZabcdefghijklmnopqrstuvwxyz0123456789+/".toList

def digit? (c : CodePoint) : Option Nat := digits.findIdx? fun d => c == .char d

/-- The whole octets of a group of at most four digits. -/
def ofGroup (group : List Nat) : List Nat :=
  let size := Text.ofDigits 64 (group ++ List.replicate (4 - group.length) 0)
  [size / 0x10000, size / 0x100 % 0x100, size % 0x100].take (group.length - 1)

/-- The octets of a text behind the digits of a group that is not full, with the number of equals
signs just before it. A group of one digit cannot be filled up. -/
def from? (group : List Nat) (fillers : Nat) : Text → Option (List Nat)
  | [] => if group.isEmpty then some [] else none
  | c :: rest =>
    if c == '=' then
      if group.length < 2 then from? group fillers rest
      else if 4 ≤ group.length + fillers + 1 then some (ofGroup group)
      else from? group (fillers + 1) rest
    else
      match digit? c with
      | none => from? group fillers rest
      | some value =>
        if group.length = 3 then (from? [] 0 rest).map (ofGroup (group ++ [value]) ++ ·)
        else from? (group ++ [value]) 0 rest

def ofText? (text : Text) : Option (List Nat) :=
  if text.all (·.toNat < 0x80) then from? [] 0 text else none

/-- The quote is chosen, and marks are escaped, as in a text. -/
def shown (octets : List Nat) : Text :=
  let holds (c : Char) : Bool := octets.contains c.toNat
  let quote : CodePoint := if holds '\'' && !holds '"' then '"' else '\''
  let write (octet : Nat) : Text :=
    if octet < 0x80 then Text.escapeChar quote (.char (Char.ofNat octet))
    else Text.escapeCode octet
  "b" ++ quote :: octets.flatMap write ++ [quote]

end Octets

def octetsObject (octets : List Nat) : ForeignObject where
  kind := "bytes"
  fullKind := "bytes"
  identity := Octets.shown octets
  shown? := some (Octets.shown octets)
  plain? := some (Octets.shown octets)
  isGiven := !octets.isEmpty
  hasItems := true

end SchemaBook.Yaml
