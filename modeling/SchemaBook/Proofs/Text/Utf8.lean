import Mathlib.Tactic
import SchemaBook.Text.Utf8

/-!
Encoding and decoding. The octets of a character are read back one after the other: the first one
announces how many follow and bounds the next, so that no overlong form and no half of a surrogate
pair is taken. Main statement: the octets of a text without such halves decode to the text.
-/

namespace SchemaBook.Text

section Steps

variable {place octet : Nat} {rest : List Nat} {p : PartialCode}

theorem decodeFrom_ascii (h : octet < 0x80) :
    decodeFrom place none (octet :: rest) =
      (decodeFrom (place + 1) none rest).map (.char (Char.ofNat octet) :: ·) := by
  rw [decodeFrom]
  simp only [if_pos h]
  rfl

theorem decodeFrom_first {missing low high : Nat} (h : 0x80 ≤ octet)
    (hfirst : continuation? octet = some (missing, low, high)) :
    decodeFrom place none (octet :: rest) =
      decodeFrom (place + 1) (some ⟨octet, place, missing, low, high, 1, leadBits octet⟩) rest := by
  rw [decodeFrom]
  simp only [if_neg (Nat.not_lt.2 h), hfirst]

theorem decodeFrom_next (hmissing : 1 < p.missing) (hbounds : p.low ≤ octet ∧ octet ≤ p.high) :
    decodeFrom place (some p) (octet :: rest) =
      decodeFrom (place + 1) (some ⟨p.octet, p.place, p.missing - 1, 0x80, 0xbf, p.count + 1,
        p.code * 0x40 + octet % 0x40⟩) rest := by
  rw [decodeFrom]
  simp only [if_pos hbounds, if_neg (Nat.not_le.2 hmissing)]

theorem decodeFrom_last (hmissing : p.missing ≤ 1) (hbounds : p.low ≤ octet ∧ octet ≤ p.high) :
    decodeFrom place (some p) (octet :: rest) =
      (decodeFrom (place + 1) none rest).map
        (.char (Char.ofNat (p.code * 0x40 + octet % 0x40)) :: ·) := by
  rw [decodeFrom]
  simp only [if_pos hbounds, if_pos hmissing]
  rfl

end Steps

theorem continuation?_two {code : Nat} (hlow : 0x80 ≤ code) (hhigh : code ≤ 0x7ff) :
    continuation? (code / 64 + 192) = some (1, 0x80, 0xbf) := by
  have hbounds : 0xc2 ≤ code / 64 + 192 ∧ code / 64 + 192 ≤ 0xdf := by omega
  rw [continuation?, if_pos hbounds]

/-- The bounds for the second of three octets leave out overlong forms and the halves of surrogate
pairs. -/
theorem continuation?_three {code : Nat} (hlow : 0x800 ≤ code) (hhigh : code ≤ 0xffff)
    (hhalf : code < 0xd800 ∨ 0xdfff < code) :
    ∃ low high, continuation? (code / 4096 + 224) = some (2, low, high) ∧
      low ≤ code / 64 % 64 + 128 ∧ code / 64 % 64 + 128 ≤ high := by
  unfold continuation?
  split_ifs
  all_goals first | omega | exact ⟨_, _, rfl, by omega, by omega⟩

/-- The bounds for the second of four octets leave out overlong forms and what is beyond the last
code. -/
theorem continuation?_four {code : Nat} (hlow : 0x10000 ≤ code) (hhigh : code ≤ 0x10ffff) :
    ∃ low high, continuation? (code / 262144 + 240) = some (3, low, high) ∧
      low ≤ code / 4096 % 64 + 128 ∧ code / 4096 % 64 + 128 ≤ high := by
  unfold continuation?
  split_ifs
  all_goals first | omega | exact ⟨_, _, rfl, by omega, by omega⟩

private theorem toNat_octet {n : Nat} (h : n < 256) : (UInt8.ofNat n).toNat = n :=
  UInt8.toNat_ofNat_of_lt' h

/-- Six bits of a code make an octet that goes on with a character. -/
private theorem bounds_low (code : Nat) : 0x80 ≤ code % 64 + 128 ∧ code % 64 + 128 ≤ 0xbf := by
  omega

section Characters

variable {code place : Nat} {rest : List Nat}

theorem decodeFrom_two (hlow : 0x80 ≤ code) (hhigh : code ≤ 0x7ff) :
    decodeFrom place none ((code / 64 + 192) :: (code % 64 + 128) :: rest) =
      (decodeFrom (place + 2) none rest).map (.char (Char.ofNat code) :: ·) := by
  have hlead : leadBits (code / 64 + 192) = code / 64 := by
    rw [leadBits, if_pos (by omega)]
    omega
  have hcode : code / 64 * 0x40 + (code % 64 + 128) % 0x40 = code := by omega
  rw [decodeFrom_first (by omega) (continuation?_two hlow hhigh),
    decodeFrom_last le_rfl (bounds_low _), hlead, hcode]

theorem decodeFrom_three (hlow : 0x800 ≤ code) (hhigh : code ≤ 0xffff)
    (hhalf : code < 0xd800 ∨ 0xdfff < code) :
    decodeFrom place none ((code / 4096 + 224) ::
        (code / 64 % 64 + 128) :: (code % 64 + 128) :: rest) =
      (decodeFrom (place + 3) none rest).map (.char (Char.ofNat code) :: ·) := by
  obtain ⟨low, high, hfirst, hbounds⟩ := continuation?_three hlow hhigh hhalf
  have hlead : leadBits (code / 4096 + 224) = code / 4096 := by
    rw [leadBits, if_neg (by omega), if_pos (by omega)]
    omega
  have hcode : (code / 4096 * 0x40 + (code / 64 % 64 + 128) % 0x40) * 0x40 +
      (code % 64 + 128) % 0x40 = code := by omega
  rw [decodeFrom_first (by omega) hfirst, decodeFrom_next Nat.one_lt_two hbounds,
    decodeFrom_last le_rfl (bounds_low _), hlead, hcode]

theorem decodeFrom_four (hlow : 0x10000 ≤ code) (hhigh : code ≤ 0x10ffff) :
    decodeFrom place none ((code / 262144 + 240) :: (code / 4096 % 64 + 128) ::
        (code / 64 % 64 + 128) :: (code % 64 + 128) :: rest) =
      (decodeFrom (place + 4) none rest).map (.char (Char.ofNat code) :: ·) := by
  obtain ⟨low, high, hfirst, hbounds⟩ := continuation?_four hlow hhigh
  have hlead : leadBits (code / 262144 + 240) = code / 262144 := by
    rw [leadBits, if_neg (by omega), if_neg (by omega)]
    omega
  have hcode : ((code / 262144 * 0x40 + (code / 4096 % 64 + 128) % 0x40) * 0x40 +
      (code / 64 % 64 + 128) % 0x40) * 0x40 + (code % 64 + 128) % 0x40 = code := by omega
  rw [decodeFrom_first (by omega) hfirst, decodeFrom_next (by simp) hbounds,
    decodeFrom_next (by simp) (bounds_low _),
    decodeFrom_last le_rfl (bounds_low _), hlead, hcode]

end Characters

/-- The octets of a character are read as this character. -/
theorem decodeFrom_utf8EncodeChar (c : Char) (place : Nat) (rest : List Nat) :
    ∃ next, decodeFrom place none ((String.utf8EncodeChar c).map UInt8.toNat ++ rest) =
      (decodeFrom next none rest).map (.char c :: ·) := by
  have hvalid : c.toNat < 0xd800 ∨ 0xdfff < c.toNat ∧ c.toNat < 0x110000 := c.valid
  have hc : Char.ofNat c.toNat = c := Char.ofNat_toNat c
  have hval : c.val.toNat = c.toNat := rfl
  simp only [String.utf8EncodeChar, hval]
  -- One case for each number of octets. The bits of the first octet are all that the code has left.
  split_ifs with hone htwo hthree
  case pos =>
    refine ⟨place + 1, ?_⟩
    rw [List.map_singleton, toNat_octet (by omega), List.singleton_append,
      decodeFrom_ascii (by omega), hc]
  case pos =>
    refine ⟨place + 2, ?_⟩
    have hfirst : c.toNat / 64 % 32 = c.toNat / 64 := by omega
    simp only [List.map_cons, List.map_nil, List.cons_append, List.nil_append, hfirst]
    rw [toNat_octet (by omega), toNat_octet (by omega), decodeFrom_two (by omega) htwo, hc]
  case pos =>
    refine ⟨place + 3, ?_⟩
    have hfirst : c.toNat / 4096 % 16 = c.toNat / 4096 := by omega
    simp only [List.map_cons, List.map_nil, List.cons_append, List.nil_append, hfirst]
    rw [toNat_octet (by omega), toNat_octet (by omega), toNat_octet (by omega),
      decodeFrom_three (by omega) hthree (by omega), hc]
  case neg =>
    refine ⟨place + 4, ?_⟩
    have hfirst : c.toNat / 262144 % 8 = c.toNat / 262144 := by omega
    simp only [List.map_cons, List.map_nil, List.cons_append, List.nil_append, hfirst]
    rw [toNat_octet (by omega), toNat_octet (by omega), toNat_octet (by omega),
      toNat_octet (by omega), decodeFrom_four (by omega) (by omega), hc]

/-- The octets of characters in a row are read as these characters. -/
theorem decodeFrom_flatMap_utf8EncodeChar (cs : List Char) (place : Nat) :
    decodeFrom place none ((cs.flatMap String.utf8EncodeChar).map UInt8.toNat) =
      .ok (ofChars cs) := by
  induction cs generalizing place with
  | nil => rfl
  | cons c rest ih =>
    obtain ⟨next, hstep⟩ := decodeFrom_utf8EncodeChar c place
      ((rest.flatMap String.utf8EncodeChar).map UInt8.toNat)
    rw [List.flatMap_cons, List.map_append, hstep, ih next]
    rfl

theorem toList_loop_eq (octets : ByteArray) (i : Nat) (read : List UInt8) :
    ByteArray.toList.loop octets i read = read.reverse ++ octets.data.toList.drop i := by
  fun_induction ByteArray.toList.loop octets i read with
  | case1 i read hi ih =>
    have hlength : i < octets.data.toList.length := hi
    have hoctet : octets.get! i = octets.data.toList[i] := getElem!_pos octets.data i hi
    rw [ih, List.reverse_cons, List.append_assoc, List.singleton_append, hoctet,
      List.drop_eq_getElem_cons hlength]
  | case2 i read hi =>
    have hlength : octets.data.toList.length ≤ i := Nat.not_lt.1 hi
    rw [List.drop_eq_nil_of_le hlength, List.append_nil]

theorem toList_toUTF8_ofList (cs : List Char) :
    (String.ofList cs).toUTF8.toList = cs.flatMap String.utf8EncodeChar := by
  change (String.ofList cs).toByteArray.toList = _
  rw [String.toByteArray_ofList, List.utf8Encode, ByteArray.toList, toList_loop_eq,
    List.toList_data_toByteArray]
  rfl

theorem encodeFault?_eq_none_iff (place : Nat) (text : Text) :
    encodeFault? place text = none ↔ ∀ c ∈ text, c.isHalf = false := by
  induction text generalizing place with
  | nil => simp [encodeFault?]
  | cons c rest ih =>
    rw [encodeFault?, List.forall_mem_cons]
    split
    · next hhalf => simp [hhalf]
    · next hhalf => simp [hhalf, ih]

/-- A text has octets exactly when it holds no half of a surrogate pair. -/
theorem exists_encodeUtf8_ok_iff {text : Text} :
    (∃ octets, encodeUtf8 text = .ok octets) ↔ ∀ c ∈ text, c.isHalf = false := by
  rw [← encodeFault?_eq_none_iff 0, encodeUtf8]
  cases encodeFault? 0 text <;> simp

theorem ofChars_filterMap_char? {text : Text} (h : ∀ c ∈ text, c.isHalf = false) :
    ofChars (text.filterMap CodePoint.char?) = text := by
  induction text with
  | nil => rfl
  | cons c rest ih =>
    obtain ⟨hc, hrest⟩ := List.forall_mem_cons.1 h
    cases c with
    | char c => exact congrArg (CodePoint.char c :: ·) (ih hrest)
    | half offset => cases hc

/-- What a text is encoded to is decoded to this text. -/
theorem decodeUtf8_of_encodeUtf8 {text : Text} {octets : List UInt8}
    (h : encodeUtf8 text = .ok octets) : decodeUtf8 (octets.map UInt8.toNat) = .ok text := by
  unfold encodeUtf8 at h
  split at h
  case h_1 => cases h
  case h_2 hnone =>
    have hhalves := (encodeFault?_eq_none_iff 0 text).1 hnone
    rw [← Except.ok.inj h, toList_toUTF8_ofList, decodeUtf8, decodeFrom_flatMap_utf8EncodeChar,
      ofChars_filterMap_char? hhalves]

end SchemaBook.Text
