import SchemaBook.Proofs.Loader.TextEntry

/-!
Values that the repair has put into quotation marks, read back by a reader that knows the escapes of
the backslash and of the quotation mark and no others. Main statement: of every changed line it
reads, behind the opening mark, the value that stood there before, and it stops at the last mark of
the line.
-/

namespace SchemaBook

namespace Repair

/-- Reads what stands behind an opening quotation mark: the value, and what is left behind the
closing mark. A backslash and the backslash or quotation mark behind it stand for the second of
them; any other escape is refused. -/
def readQuoted? : Text → Option (Text × Text)
  | [] => none
  | .char '"' :: rest => some ([], rest)
  | .char '\\' :: c :: rest =>
    if c.isOneOf "\\\"" then (readQuoted? rest).map (Prod.map (c :: ·) id) else none
  | c :: rest => (readQuoted? rest).map (Prod.map (c :: ·) id)

def escaped (value : Text) : Text := value.flatMap escape

theorem isOneOf_escapes_iff {c : CodePoint} :
    c.isOneOf "\\\"" = true ↔ c = .char '\\' ∨ c = .char '"' := by
  simp [CodePoint.isOneOf]

theorem escaped_cons_of_isOneOf {c : CodePoint} (h : c.isOneOf "\\\"" = true) (value : Text) :
    escaped (c :: value) = .char '\\' :: c :: escaped value := by
  rw [escaped, List.flatMap_cons, escape, if_pos h]
  rfl

theorem escaped_cons_of_not {c : CodePoint} (h : c.isOneOf "\\\"" = false) (value : Text) :
    escaped (c :: value) = c :: escaped value := by
  rw [escaped, List.flatMap_cons, escape, if_neg (by simp [h])]
  rfl

theorem readQuoted?_escaped (value rest : Text) :
    readQuoted? (escaped value ++ .char '"' :: rest) = some (value, rest) := by
  induction value with
  | nil => rfl
  | cons c value ih =>
    cases hc : c.isOneOf "\\\"" with
    | true =>
      rw [escaped_cons_of_isOneOf hc, List.cons_append, List.cons_append, readQuoted?]
      simp [hc, ih]
    | false =>
      have hmarks := mt isOneOf_escapes_iff.2 (Bool.eq_false_iff.1 hc)
      rw [not_or] at hmarks
      rw [escaped_cons_of_not hc, List.cons_append, readQuoted?]
      · simp [ih]
      · exact hmarks.2
      · exact fun _ _ hslash _ => hmarks.1 hslash

theorem TextEntry.quotedLine_eq (e : TextEntry) :
    e.quotedLine = e.lead ++ "\"" ++ escaped e.value ++ "\"" := by
  simp only [quotedLine, enclose, List.append_assoc]
  rfl

/-- Every value that the repair puts into quotation marks is read back as it was. Behind the opening
mark of a changed line, a reader that knows two escapes reads the value that stood there, meets no
other escape, and stops at the mark that ends the line. -/
theorem repaired_value_reads_back {text : Text} {change : Change} (h : change ∈ (repair text).2) :
    ∃ lead value written : Text, change.before = lead ++ value ∧
      change.after = lead ++ "\"" ++ written ++ "\"" ∧
      readQuoted? (written ++ "\"") = some (value, []) := by
  obtain ⟨place, e, rfl, -, -⟩ := mem_repair_iff.1 h
  exact ⟨e.lead, e.value, escaped e.value, rfl, e.quotedLine_eq, readQuoted?_escaped e.value []⟩

/-- A title that holds quotation marks and ends in a backslash. -/
def slashedTitle : Text := "title: say: \"\\\" # \\\n"

/-- Of that title the mark behind a backslash and the backslash at the end are read back. -/
theorem slashedTitle_reads_back :
    (⟨1, "title: say: \"\\\" # \\", "title: \"say: \\\"\\\\\\\" # \\\\\""⟩ : Change) ∈
        (repair slashedTitle).2 ∧
      ∃ lead value written : Text,
        (("title: say: \"\\\" # \\" : String) : Text) = lead ++ value ∧
        (("title: \"say: \\\"\\\\\\\" # \\\\\"" : String) : Text) =
          lead ++ "\"" ++ written ++ "\"" ∧
        readQuoted? (written ++ "\"") = some (value, []) := by
  have hchange : (⟨1, "title: say: \"\\\" # \\",
      "title: \"say: \\\"\\\\\\\" # \\\\\""⟩ : Change) ∈ (repair slashedTitle).2 := by decide
  exact ⟨hchange, repaired_value_reads_back hchange⟩

end Repair

end SchemaBook
