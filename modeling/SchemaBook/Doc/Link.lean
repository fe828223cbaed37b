import SchemaBook.Text.Split

/-!
Links in documentation text. A link is written as an opening brace with `@link`, white space, a
target, optionally white space and a label, and a closing brace; it becomes a Markdown link to the
heading of the part of the target before its first dot. A link without target stays as it is.
-/

namespace SchemaBook.Link

def opening : Text := "@link"

def anchor (target : Text) : Text := target.takeWhile (· != '.')

/-- A Markdown link. -/
def markdown (target label : Text) : Text :=
  "[" ++ label ++ "](#" ++ anchor target ++ ")"

/-- The body of a link behind its opening brace and the number of characters up to and with the
closing brace. -/
def read? (cs : Text) : Option (Text × Nat) :=
  match opening.isPrefixOf? cs with
  | some (c :: rest) =>
    let body := rest.takeWhile fun (c : CodePoint) => c != '\x7d'
    if c.isBlank && body.length < rest.length then
      some (body, opening.length + 1 + body.length + 1)
    else none
  | _ => none

/-- A link body as Markdown; without a target there is nothing to write. -/
def inMarkdown? (body : Text) : Option (Text) :=
  let trimmed := Text.trim body
  if trimmed.isEmpty then none
  else
    let target := Text.firstWord trimmed
    let label := Text.trim (Text.afterFirstWord trimmed)
    some (markdown target (if label.isEmpty then target else label))

def resolve (cs : Text) : Text :=
  match cs with
  | [] => []
  | c :: rest =>
    match if c = '\x7b' then read? rest else none with
    | some (body, used) =>
      (inMarkdown? body).getD (c :: rest.take used) ++ resolve (rest.drop used)
    | none => c :: resolve rest
termination_by cs.length
decreasing_by
  · simp only [List.length_drop, List.length_cons]
    omega
  · simp

end SchemaBook.Link
