/-!
Code points. A code point is a character or half of a surrogate pair. No octets encode such a half
and no character has its code, but an escape may name one, so texts may hold it. Code points are
counted and ordered by their codes, and the codes of the halves lie between those of characters.
-/

namespace SchemaBook

/-- A character, or half of a surrogate pair by its distance from the first half. -/
inductive CodePoint where
  | char (c : Char)
  | half (offset : Fin 0x800)
  deriving DecidableEq, Repr

namespace CodePoint

instance : Coe Char CodePoint := ⟨.char⟩

instance : Inhabited CodePoint := ⟨.char ' '⟩

/-- The code of the first half of a surrogate pair. -/
def firstHalf : Nat := 0xd800

def toNat : CodePoint → Nat
  | .char c => c.toNat
  | .half offset => firstHalf + offset

/-- The code point of a code; there is none beyond the last one. -/
def ofNat? (code : Nat) : Option CodePoint :=
  if h : code - firstHalf < 0x800 ∧ firstHalf ≤ code then some (.half ⟨code - firstHalf, h.1⟩)
  else if code ≤ 0x10ffff then some (.char (Char.ofNat code))
  else none

def isHalf : CodePoint → Bool
  | .char _ => false
  | .half _ => true

/-- The character that a code point is. -/
def char? : CodePoint → Option Char
  | .char c => some c
  | .half _ => none

def isBetween (low high : Char) (c : CodePoint) : Bool :=
  low.toNat ≤ c.toNat && c.toNat ≤ high.toNat

/-- Whether a code point is one of the ten digits of ASCII. -/
def isAsciiDigit (c : CodePoint) : Bool := c.isBetween '0' '9'

def isAsciiLetter (c : CodePoint) : Bool := c.isBetween 'a' 'z' || c.isBetween 'A' 'Z'

/-- Whether a code point is one of the characters of a string. -/
def isOneOf (c : CodePoint) (chars : String) : Bool := chars.toList.any fun d => c == .char d

theorem toNat_char_ne_toNat_half (c : Char) (offset : Fin 0x800) :
    toNat (.char c) ≠ toNat (.half offset) := by
  have hv := c.valid
  have ho := offset.isLt
  simp only [toNat, firstHalf, Char.toNat, UInt32.isValidChar, Nat.isValidChar] at *
  omega

theorem toNat_injective {c d : CodePoint} (h : c.toNat = d.toNat) : c = d := by
  cases c with
  | char c =>
    cases d with
    | char d => exact congrArg char (Char.toNat_inj.1 h)
    | half o => exact absurd h (toNat_char_ne_toNat_half c o)
  | half o =>
    cases d with
    | char d => exact absurd h.symm (toNat_char_ne_toNat_half d o)
    | half p => exact congrArg half (Fin.ext (Nat.add_left_cancel h))

theorem ofNat?_toNat (c : CodePoint) : ofNat? c.toNat = some c := by
  cases c with
  | char c =>
    have hv := c.valid
    simp only [UInt32.isValidChar, Nat.isValidChar] at hv
    have hn : ¬(c.toNat - firstHalf < 0x800 ∧ firstHalf ≤ c.toNat) := by
      simp only [firstHalf, Char.toNat]
      omega
    have hl : c.toNat ≤ 0x10ffff := by
      simp only [Char.toNat]
      omega
    simp [ofNat?, toNat, hn, hl]
  | half o =>
    have ho := o.isLt
    have hs : firstHalf + o.val - firstHalf = o.val := Nat.add_sub_cancel_left ..
    simp [ofNat?, toNat, hs, ho]

end CodePoint

end SchemaBook
