import SerialScript.Proofs.Text.Utf8

/-!
Lossy decoding in front of a text. Whatever a malformed stretch takes up are continuations, and a
text does not begin with one. So bytes in front of it are read as they would be alone, even if they
break off inside a character, and the text comes out as it is.
-/

namespace SerialScript.Text

/-- No character that has begun before can go on here. -/
def BeginsAnew (bs : List UInt8) : Prop := ∀ b ∈ bs.head?, isContinuation b = false

theorem beginsAnew_bytes (text : List Char) : BeginsAnew (bytes text) := by
  intro b hb
  cases text with
  | nil => cases hb
  | cons c text =>
    obtain ⟨lead, tail, henc, h⟩ := exists_encodes c
    rw [bytes_cons, henc, List.cons_append, List.head?_cons, Option.mem_some_iff] at hb
    exact hb ▸ h.lead_isStart

theorem isSecond_eq_false {b : UInt8} (h : isContinuation b = false) (lead : UInt8) :
    isSecond lead b = false := by
  rw [Bool.eq_false_iff]
  intro hsecond
  rw [(isSecond_iff.1 hsecond).1] at h
  cases h

/-- A lead and what follows it are read in the same way if something else stands behind that: where
a byte of the character is missing, the one that comes next is no better. -/
theorem readChar_append (lead : UInt8) (rest : List UInt8) {more : List UInt8}
    (h : BeginsAnew more) : readChar lead (rest ++ more) = readChar lead rest := by
  cases more with
  | nil => rw [List.append_nil]
  | cons b more =>
    have hb : isContinuation b = false := h b rfl
    have hsecond := isSecond_eq_false hb lead
    unfold readChar
    -- One branch for each length.
    split
    · rfl
    split
    · rfl
    split
    · cases rest with
      | nil => simp [hb]
      | cons a rest => rfl
    split
    · rcases rest with _ | ⟨a, _ | ⟨c, rest⟩⟩
      · cases more <;> simp [hsecond]
      · cases ha : isSecond lead a <;> simp [ha, hb]
      · rfl
    split
    · rcases rest with _ | ⟨a, _ | ⟨c, _ | ⟨d, rest⟩⟩⟩
      · rcases more with _ | ⟨d, _ | ⟨e, more⟩⟩ <;> simp [hsecond]
      · cases more <;> cases ha : isSecond lead a <;> simp [ha, hb]
      · cases ha : isSecond lead a <;> cases hc : isContinuation c <;> simp [ha, hb, hc]
      · rfl
    · rfl

theorem readChar_used_le (lead : UInt8) (rest : List UInt8) :
    (readChar lead rest).2 ≤ rest.length := by
  unfold readChar
  grind

theorem decodeUnits_append (bs : List UInt8) {more : List UInt8} (h : BeginsAnew more) :
    decodeUnits (bs ++ more) = decodeUnits bs ++ decodeUnits more := by
  induction bs using decodeUnits.induct with
  | case1 => simp [decodeUnits]
  | case2 lead rest unit used hread ih =>
    have hused := readChar_used_le lead rest
    rw [hread] at hused
    rw [List.cons_append, decodeUnits, decodeUnits, readChar_append lead rest h, hread]
    dsimp only
    rw [List.drop_append_of_le_length hused, ih, List.cons_append]

/-- Bytes in front of a text do not get at it, nor does it get at them. -/
theorem decodeLossy_append_toBytes (bs : List UInt8) (text : String) :
    decodeLossy (bs ++ toBytes text) = decodeLossy bs ++ text := by
  have hbreak : BeginsAnew (toBytes text) := beginsAnew_bytes text.toList
  have htext : decodeLossy (toBytes text) = text :=
    (decodeLossy_bytes text.toList).trans String.ofList_toList
  calc
    decodeLossy (bs ++ toBytes text) = decodeLossy bs ++ decodeLossy (toBytes text) := by
      unfold decodeLossy
      rw [decodeUnits_append bs hbreak, List.map_append, String.ofList_append]
    _ = decodeLossy bs ++ text := by rw [htext]

/-- A truncated euro sign and a stray byte in front of a text. -/
example : decodeLossy ([0xE2, 0x82, 0xFF] ++ toBytes "é") = "\uFFFD\uFFFDé" := by decide +kernel

end SerialScript.Text
