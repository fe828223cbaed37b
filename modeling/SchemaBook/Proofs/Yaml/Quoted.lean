import SchemaBook.Proofs.Loader.Quoting
import SchemaBook.Yaml.ScalarText

/-!
Quoted values under the reader of quoted scalars that the program runs with. It scans words, spaces
and line ends apart, so the value is followed through the steps of this scan. Main statement: of a
changed line it reads the value that stood there before, wherever the quoted value stands in an
input.
-/

namespace SchemaBook

namespace Repair

theorem length_le_escaped (value : Text) : value.length ≤ (escaped value).length := by
  induction value with
  | nil => exact Nat.le_refl _
  | cons c value ih =>
    cases hc : c.isOneOf "\\\"" with
    | true =>
      rw [escaped_cons_of_isOneOf hc, List.length_cons, List.length_cons, List.length_cons]
      omega
    | false =>
      rw [escaped_cons_of_not hc, List.length_cons, List.length_cons]
      omega

/-- Up to the first mark that is escaped, an escaped value is the value. -/
theorem takeWhile_dropWhile_escaped {test : CodePoint → Bool} (hslash : test (.char '\\') = false)
    (hquote : test (.char '"') = false) (value rest : Text) :
    (escaped value ++ .char '"' :: rest).takeWhile test = value.takeWhile test ∧
      (escaped value ++ .char '"' :: rest).dropWhile test =
        escaped (value.dropWhile test) ++ .char '"' :: rest := by
  induction value with
  | nil =>
    constructor
    · exact List.takeWhile_cons_of_neg (by simp [hquote])
    · exact List.dropWhile_cons_of_neg (by simp [hquote])
  | cons c value ih =>
    cases hc : c.isOneOf "\\\"" with
    | true =>
      have hstop : test c = false := by
        rcases isOneOf_escapes_iff.1 hc with rfl | rfl
        · exact hslash
        · exact hquote
      rw [List.takeWhile_cons_of_neg (by simp [hstop]),
        List.dropWhile_cons_of_neg (by simp [hstop]), escaped_cons_of_isOneOf hc]
      constructor
      · exact List.takeWhile_cons_of_neg (by simp [hslash])
      · exact List.dropWhile_cons_of_neg (by simp [hslash])
    | false =>
      rw [escaped_cons_of_not hc, List.cons_append]
      cases htest : test c with
      | true =>
        rw [List.takeWhile_cons_of_pos htest, List.takeWhile_cons_of_pos htest,
          List.dropWhile_cons_of_pos htest, List.dropWhile_cons_of_pos htest, ih.1]
        exact ⟨rfl, ih.2⟩
      | false =>
        have hstop : ¬test c = true := by simp [htest]
        rw [List.takeWhile_cons_of_neg hstop, List.takeWhile_cons_of_neg hstop,
          List.dropWhile_cons_of_neg hstop, List.dropWhile_cons_of_neg hstop,
          escaped_cons_of_not hc]
        exact ⟨rfl, rfl⟩

end Repair

namespace Yaml

open Repair

section Scan

variable {value rest : Text} {s : Input}

theorem span_escaped (test : CodePoint → Bool) (hslash : test (.char '\\') = false)
    (hquote : test (.char '"') = false)
    (hs : s.map (·.char) = escaped value ++ .char '"' :: rest) :
    ∃ behind, span test s = (value.takeWhile test, behind) ∧
      behind.map (·.char) = escaped (value.dropWhile test) ++ .char '"' :: rest := by
  obtain ⟨htake, hdrop⟩ := takeWhile_dropWhile_escaped hslash hquote value rest
  rw [← hs, List.takeWhile_map] at htake
  rw [← hs, List.dropWhile_map] at hdrop
  exact ⟨s.dropWhile (test ·.char), congrArg (·, _) htake, hdrop⟩

/-- No line ends where an escaped value goes on or the closing mark stands. -/
theorem lineBreak_escaped (hbreaks : ∀ c ∈ value, isBreak c = false)
    (hs : s.map (·.char) = escaped value ++ .char '"' :: rest) : lineBreak s = ([], s) := by
  have hnot : ∀ (c : CodePoint) (more : Text), isBreak c = false →
      s.map (·.char) = c :: more → lineBreak s = ([], s) := by
    intro c more hc hmap
    obtain ⟨spot, behind, rfl, rfl, -⟩ := List.map_eq_cons_iff.1 hmap
    rw [lineBreak, if_pos (by simp [hc])]
  cases value with
  | nil => exact hnot _ _ (by decide) hs
  | cons c value =>
    cases hc : c.isOneOf "\\\"" with
    | true =>
      rw [escaped_cons_of_isOneOf hc] at hs
      exact hnot _ _ (by decide) hs
    | false =>
      rw [escaped_cons_of_not hc] at hs
      exact hnot _ _ (hbreaks c List.mem_cons_self) hs

theorem quotedSpaces_escaped (hbreaks : ∀ c ∈ value, isBreak c = false)
    (hs : s.map (·.char) = escaped value ++ .char '"' :: rest) :
    ∃ behind, quotedSpaces s = .ok (value.takeWhile (·.isOneOf " \t"), behind) ∧
      behind.map (·.char) = escaped (value.dropWhile (·.isOneOf " \t")) ++ .char '"' :: rest := by
  obtain ⟨behind, hspan, hbehind⟩ :=
    span_escaped (·.isOneOf " \t") (by decide) (by decide) hs
  have hend := lineBreak_escaped
    (fun c hc => hbreaks c ((List.dropWhile_suffix _).subset hc)) hbehind
  refine ⟨behind, ?_, hbehind⟩
  rw [quotedSpaces, hspan]
  dsimp only
  rw [hend]

theorem readEscape_of_isOneOf {c : CodePoint} (hc : c.isOneOf "\\\"" = true) {spot : Spot}
    (hspot : spot.char = c) (behind : Input) :
    readEscape (spot :: behind) = .ok ([c], behind) := by
  obtain ⟨d, rfl, hd⟩ : ∃ d : Char, c = .char d ∧ escapedChar? (.char d) = some d := by
    rcases isOneOf_escapes_iff.1 hc with rfl | rfl
    · exact ⟨_, rfl, by decide⟩
    · exact ⟨_, rfl, by decide⟩
  rw [readEscape, hspot, hd]

theorem quotedFrom_quote {spot : Spot} (hspot : spot.char = .char '"') (steps : Nat) (done : Text)
    (behind : Input) :
    quotedFrom (.char '"') (steps + 1) done (spot :: behind) = .ok (done, behind) := by
  rw [quotedFrom, hspot]
  rfl

theorem quotedFrom_slash {spot : Spot} (hspot : spot.char = .char '\\') (steps : Nat) (done : Text)
    (behind : Input) :
    quotedFrom (.char '"') (steps + 1) done (spot :: behind) =
      readEscape behind >>= fun found =>
        quotedFrom (.char '"') steps (done ++ found.1) found.2 := by
  rw [quotedFrom, hspot]
  rfl

theorem quotedFrom_space {spot : Spot} (hquote : spot.char ≠ .char '"')
    (hends : endsToken (some spot.char) = true) (steps : Nat) (done : Text) (behind : Input) :
    quotedFrom (.char '"') (steps + 1) done (spot :: behind) =
      quotedSpaces (spot :: behind) >>= fun found =>
        quotedFrom (.char '"') steps (done ++ found.1) found.2 := by
  rw [quotedFrom, if_neg (by simpa using hquote), if_pos hends]

theorem quotedFrom_word {spot : Spot} (hquote : spot.char ≠ .char '"')
    (hslash : spot.char ≠ .char '\\') (hends : endsToken (some spot.char) = false) (steps : Nat)
    (done : Text) (behind : Input) :
    quotedFrom (.char '"') (steps + 1) done (spot :: behind) =
      let found := span (fun c => !endsToken (some c) && !c.isOneOf "'\"\\") (spot :: behind)
      if found.1.isEmpty then quotedFrom (.char '"') steps (done ++ [spot.char]) behind
      else quotedFrom (.char '"') steps (done ++ found.1) found.2 := by
  rw [quotedFrom, if_neg (by simpa using hquote), if_neg (by simp [hends]),
    if_neg (by simp [hslash])]

/-- The reader of quoted scalars reads an escaped value up to the closing mark. -/
theorem quotedFrom_escaped {steps : Nat} {done : Text} (hsteps : value.length < steps)
    (hbreaks : ∀ c ∈ value, isBreak c = false)
    (hs : s.map (·.char) = escaped value ++ .char '"' :: rest) :
    ∃ behind, quotedFrom (.char '"') steps done s = .ok (done ++ value, behind) ∧
      behind.map (·.char) = rest := by
  induction steps generalizing done value s with
  | zero => exact absurd hsteps (Nat.not_lt_zero _)
  | succ steps ih =>
    -- Every step but the last reads a part of the value that is not empty.
    have hnext : ∀ {front back : Text} {behind : Input}, front ++ back = value → front ≠ [] →
        behind.map (·.char) = escaped back ++ .char '"' :: rest →
        ∃ tail, quotedFrom (.char '"') steps (done ++ front) behind = .ok (done ++ value, tail) ∧
          tail.map (·.char) = rest := by
      rintro front back behind rfl hfront hbehind
      have hlength := List.length_pos_iff.2 hfront
      rw [List.length_append] at hsteps
      rw [← List.append_assoc]
      exact ih (by omega) (fun c hc => hbreaks c (List.mem_append_right front hc)) hbehind
    cases value with
    | nil =>
      obtain ⟨spot, behind, rfl, hspot, hbehind⟩ := List.map_eq_cons_iff.1 hs
      refine ⟨behind, ?_, hbehind⟩
      rw [quotedFrom_quote hspot, List.append_nil]
    | cons c value =>
      cases hc : c.isOneOf "\\\"" with
      | true =>
        rw [escaped_cons_of_isOneOf hc] at hs
        obtain ⟨spot, more, rfl, hspot, hmore⟩ := List.map_eq_cons_iff.1 hs
        obtain ⟨second, behind, rfl, hsecond, hbehind⟩ := List.map_eq_cons_iff.1 hmore
        rw [quotedFrom_slash hspot, readEscape_of_isOneOf hc hsecond]
        exact hnext List.singleton_append (List.cons_ne_nil c []) hbehind
      | false =>
        have hmarks := mt isOneOf_escapes_iff.2 (Bool.eq_false_iff.1 hc)
        rw [not_or] at hmarks
        have hcons := escaped_cons_of_not hc value
        obtain ⟨spot, behind, rfl, hspot, hbehind⟩ :=
          List.map_eq_cons_iff.1 (hcons ▸ hs : s.map (·.char) = c :: _)
        subst hspot
        cases hends : endsToken (some spot.char) with
        | true =>
          obtain ⟨tail, hspaces, htail⟩ := quotedSpaces_escaped hbreaks hs
          rw [quotedFrom_space hmarks.2 hends, hspaces]
          have hspace : spot.char.isOneOf " \t" = true := by
            simpa [endsToken, hbreaks _ List.mem_cons_self] using hends
          refine hnext List.takeWhile_append_dropWhile ?_ htail
          rw [List.takeWhile_cons, if_pos hspace]
          exact List.cons_ne_nil _ _
        | false =>
          obtain ⟨tail, hword, htail⟩ :=
            span_escaped (fun c => !endsToken (some c) && !c.isOneOf "'\"\\") (by decide)
              (by decide) hs
          rw [quotedFrom_word hmarks.2 hmarks.1 hends, hword]
          dsimp only
          split
          · exact hnext List.singleton_append (List.cons_ne_nil _ []) hbehind
          · next hfull =>
            exact hnext List.takeWhile_append_dropWhile (by simpa using hfull) htail

theorem quotedText_escaped (hbreaks : ∀ c ∈ value, isBreak c = false)
    (hs : s.map (·.char) = .char '"' :: (escaped value ++ .char '"' :: rest)) :
    ∃ behind, quotedText (.char '"') s = .ok (value, behind) ∧ behind.map (·.char) = rest := by
  obtain ⟨spot, behind, rfl, -, hbehind⟩ := List.map_eq_cons_iff.1 hs
  have hlength := congrArg List.length hbehind
  rw [List.length_map, List.length_append] at hlength
  have hescaped := length_le_escaped value
  exact quotedFrom_escaped (by rw [List.length_cons]; omega) hbreaks hbehind

end Scan

theorem isLineEnd_of_isBreak {c : CodePoint} (h : isBreak c = true) : Text.isLineEnd c = true := by
  have hends : ("\r\n\u0085\u2028\u2029" : String).toList.all (fun d =>
      Text.isLineEnd (.char d)) = true := by decide
  obtain ⟨d, hd, hc⟩ := List.any_eq_true.1 h
  rw [eq_of_beq hc]
  exact List.all_eq_true.1 hends d hd

/-- Every value that the repair puts into quotation marks is read back as it was by the reader of
quoted scalars, which stops at the mark that ends the line. -/
theorem quotedText_of_mem_repair {text : Text} {change : Change} (h : change ∈ (repair text).2) :
    ∃ lead value written : Text, change.before = lead ++ value ∧
      change.after = lead ++ "\"" ++ written ++ "\"" ∧
      ∀ (s : Input) (rest : Text), s.map (·.char) = "\"" ++ written ++ "\"" ++ rest →
        ∃ behind, quotedText (.char '"') s = .ok (value, behind) ∧
          behind.map (·.char) = rest := by
  obtain ⟨place, e, rfl, -, hrow⟩ := mem_repair_iff.1 h
  have hbreaks : ∀ c ∈ e.value, isBreak c = false := by
    intro c hc
    have hend := Text.isLineEnd_of_mem_rows (List.mem_of_getElem? hrow)
      (List.mem_append_right e.lead hc)
    rw [← Bool.not_eq_true] at hend ⊢
    exact mt isLineEnd_of_isBreak hend
  refine ⟨e.lead, e.value, escaped e.value, rfl, e.quotedLine_eq, fun s rest hs => ?_⟩
  refine quotedText_escaped hbreaks (hs.trans ?_)
  simp only [List.append_assoc]
  rfl

end Yaml

end SchemaBook
