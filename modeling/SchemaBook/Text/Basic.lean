import SchemaBook.Text.CodePoint

/-!
Texts as sequences of code points, and their order: the first place where two texts differ decides
by its codes, and a text comes before every longer one that it starts.
-/

namespace SchemaBook

abbrev Text := List CodePoint

namespace Text

def ofChars (cs : List Char) : Text := cs.map .char

def ofString (s : String) : Text := ofChars s.toList

instance : Coe String Text := ⟨ofString⟩

/-- The string of a text without halves of surrogate pairs. -/
def string? (text : Text) : Option String := (text.mapM CodePoint.char?).map String.ofList

/-- Whether the first text comes before the second in the order of their codes. -/
def isBefore : Text → Text → Bool
  | [], [] => false
  | [], _ :: _ => true
  | _ :: _, [] => false
  | c :: rest, d :: others =>
    c.toNat < d.toNat || (c.toNat == d.toNat && isBefore rest others)

def join (separator : Text) (pieces : List Text) : Text := separator.intercalate pieces

def joinLines (lines : List Text) : Text := join ['\n'] lines

@[simp]
theorem ofString_append (s t : String) : ofString (s ++ t) = ofString s ++ ofString t := by
  simp [ofString, ofChars]

theorem ofChars_injective {cs ds : List Char} (h : ofChars cs = ofChars ds) : cs = ds :=
  List.map_inj_right (fun _ _ hc => CodePoint.char.inj hc) |>.1 h

theorem ofString_injective {s t : String} (h : ofString s = ofString t) : s = t :=
  String.toList_inj.1 (ofChars_injective h)

/-- No text comes before itself. -/
theorem isBefore_irrefl (a : Text) : isBefore a a = false := by
  induction a with
  | nil => rfl
  | cons c rest ih => simp [isBefore, ih]

/-- Of two texts at most one comes before the other. -/
theorem isBefore_asymm {a b : Text} (h : isBefore a b = true) : isBefore b a = false := by
  induction a generalizing b with
  | nil => cases b <;> simp_all [isBefore]
  | cons c rest ih =>
    cases b with
    | nil => simp [isBefore] at h
    | cons d others =>
      simp only [isBefore, Bool.or_eq_true, decide_eq_true_eq, Bool.and_eq_true, beq_iff_eq,
        Bool.or_eq_false_iff, decide_eq_false_iff_not] at h ⊢
      rcases h with h | ⟨hc, h⟩
      · exact ⟨by omega, by simp; omega⟩
      · exact ⟨by omega, by simp [ih h]⟩

/-- Of two texts that differ one comes before the other. -/
theorem eq_of_isBefore_eq_false {a b : Text} (hab : isBefore a b = false)
    (hba : isBefore b a = false) : a = b := by
  induction a generalizing b with
  | nil => cases b <;> simp_all [isBefore]
  | cons c rest ih =>
    cases b with
    | nil => simp [isBefore] at hba
    | cons d others =>
      simp only [isBefore, Bool.or_eq_false_iff, decide_eq_false_iff_not] at hab hba
      have hcd : c.toNat = d.toNat := by omega
      have hab := hab.2
      have hba := hba.2
      simp only [hcd, beq_self_eq_true, Bool.true_and] at hab hba
      rw [CodePoint.toNat_injective hcd, ih hab hba]

end Text

end SchemaBook
