import SchemaBook.Text.Quoted

/-!
UTF-8. Decoding is strict: no overlong forms, no halves of surrogate pairs, nothing beyond the last
code. A fault names the octets that begin a character and do not continue it.
-/

namespace SchemaBook.Text

/-- Why octets encode no text. -/
inductive Utf8FaultKind where
  | badStart
  | badContinuation
  | endOfData
  deriving DecidableEq, Repr

/-- The first octets that encode no character: their place, their number, and the first of them. -/
structure Utf8Fault where
  kind : Utf8FaultKind
  place : Nat
  count : Nat
  octet : Nat
  deriving DecidableEq, Repr

/-- The number of octets that follow a first octet, and the bounds of the one that follows next. -/
def continuation? (first : Nat) : Option (Nat × Nat × Nat) :=
  if 0xc2 ≤ first ∧ first ≤ 0xdf then some (1, 0x80, 0xbf)
  else if first = 0xe0 then some (2, 0xa0, 0xbf)
  else if first = 0xed then some (2, 0x80, 0x9f)
  else if 0xe1 ≤ first ∧ first ≤ 0xef then some (2, 0x80, 0xbf)
  else if first = 0xf0 then some (3, 0x90, 0xbf)
  else if 0xf1 ≤ first ∧ first ≤ 0xf3 then some (3, 0x80, 0xbf)
  else if first = 0xf4 then some (3, 0x80, 0x8f)
  else none

def leadBits (first : Nat) : Nat :=
  if first < 0xe0 then first % 0x20 else if first < 0xf0 then first % 0x10 else first % 0x08

/-- A character being read: its first octet and place, the octets that are still to come, the bounds
of the next one, the number of octets read and the code so far. -/
structure PartialCode where
  octet : Nat
  place : Nat
  missing : Nat
  low : Nat
  high : Nat
  count : Nat
  code : Nat

/-- Decodes octets from a place on, with the character that is being read, if any. -/
def decodeFrom (place : Nat) (open? : Option PartialCode) : List Nat →
    Except Utf8Fault Text
  | [] =>
    match open? with
    | none => .ok []
    | some p => .error ⟨.endOfData, p.place, p.count, p.octet⟩
  | octet :: rest =>
    match open? with
    | none =>
      if octet < 0x80 then do
        let others ← decodeFrom (place + 1) none rest
        return .char (Char.ofNat octet) :: others
      else
        match continuation? octet with
        | none => .error ⟨.badStart, place, 1, octet⟩
        | some (missing, low, high) =>
          decodeFrom (place + 1)
            (some ⟨octet, place, missing, low, high, 1, leadBits octet⟩) rest
    | some p =>
      if p.low ≤ octet ∧ octet ≤ p.high then
        let code := p.code * 0x40 + octet % 0x40
        if p.missing ≤ 1 then do
          let others ← decodeFrom (place + 1) none rest
          return .char (Char.ofNat code) :: others
        else
          decodeFrom (place + 1)
            (some ⟨p.octet, p.place, p.missing - 1, 0x80, 0xbf, p.count + 1, code⟩) rest
      else .error ⟨.badContinuation, p.place, p.count, p.octet⟩

def decodeUtf8 (octets : List Nat) : Except Utf8Fault Text := decodeFrom 0 none octets

def Utf8FaultKind.text : Utf8FaultKind → String
  | .badStart => "invalid start byte"
  | .badContinuation => "invalid continuation byte"
  | .endOfData => "unexpected end of data"

def Utf8Fault.message (fault : Utf8Fault) : Text :=
  let what : Text :=
    if fault.count = 1 then
      "byte 0x" ++ hexadecimal 2 fault.octet ++ " in position " ++ toString fault.place
    else
      "bytes in position " ++ toString fault.place ++ "-" ++
        toString (fault.place + fault.count - 1)
  "'utf-8' codec can't decode " ++ what ++ ": " ++ fault.kind.text

/-- The first halves of surrogate pairs in a row, which no octets encode. -/
structure EncodeFault where
  place : Nat
  /-- The halves; there is at least one. -/
  halves : Text
  deriving DecidableEq, Repr

/-- The first run of halves of surrogate pairs in a text, from a place on. -/
def encodeFault? (place : Nat) : Text → Option EncodeFault
  | [] => none
  | c :: rest =>
    if c.isHalf then some ⟨place, (c :: rest).takeWhile CodePoint.isHalf⟩
    else encodeFault? (place + 1) rest

def encodeUtf8 (text : Text) : Except EncodeFault (List UInt8) :=
  match encodeFault? 0 text with
  | some fault => .error fault
  | none => .ok (String.ofList (text.filterMap CodePoint.char?)).toUTF8.toList

/-- The number of octets that encode a code point, a half of a surrogate pair counted like the
characters around it. -/
def octetsOf (c : CodePoint) : Nat :=
  match c with
  | .char c => c.utf8Size
  | .half _ => 3

def octetCount (text : Text) : Nat := text.foldl (fun count c => count + octetsOf c) 0

def EncodeFault.message (fault : EncodeFault) : Text :=
  let what : Text :=
    match fault.halves with
    | [half] =>
      "character '" ++ escapeCode half.toNat ++ "' in position " ++ toString fault.place
    | halves =>
      "characters in position " ++ toString fault.place ++ "-" ++
        toString (fault.place + halves.length - 1)
  "'utf-8' codec can't encode " ++ what ++ ": surrogates not allowed"

end SchemaBook.Text
