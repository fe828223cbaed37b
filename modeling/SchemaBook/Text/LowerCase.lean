import SchemaBook.Text.Basic
import SchemaBook.Text.CaseRanges
import SchemaBook.Text.CharClass

/-!
Texts in small letters. Every capital has one small letter but for two: the capital I with a dot
becomes a small i and a combining dot, and a capital sigma becomes the final sigma at the end of a
word that has other letters in front of it.
-/

namespace SchemaBook.Text

/-- The small letter of a capital; every other code point stands for itself. -/
def smallLetter (c : CodePoint) : CodePoint :=
  let code := c.toNat
  match capitalRuns.find? fun run =>
    run.first ≤ code && code ≤ run.last && (code - run.first) % run.step == 0 with
  | some run => (CodePoint.ofNat? (code + run.distance).toNat).getD c
  | none => c

/-- Whether a code point is a letter with a case that no mark inside words is. -/
def isCased (c : CodePoint) : Bool := CodePoint.inRanges c.toNat casedRanges

/-- Whether a code point may stand inside a word without interrupting it. -/
def isInWord (c : CodePoint) : Bool := CodePoint.inRanges c.toNat inWordRanges

/-- Whether the first code point that is no mark inside words is a letter with a case. -/
def meetsCased (cs : Text) : Bool := (cs.dropWhile isInWord).head?.any isCased

/-- The small letters of one code point; what stands in front of it is given last first. -/
def smallLetters (before : Text) (c : CodePoint) (behind : Text) : Text :=
  if c = '\u0130' then ['i', '\u0307']
  else if c = '\u03a3' then
    [if meetsCased before && !meetsCased behind then '\u03c2' else '\u03c3']
  else [smallLetter c]

/-- The small letters of what follows some text, which is given last first. -/
def lowerFrom (before : Text) : Text → Text
  | [] => []
  | c :: rest => smallLetters before c rest ++ lowerFrom (c :: before) rest

def lower (text : Text) : Text := lowerFrom [] text

end SchemaBook.Text
