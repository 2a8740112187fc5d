import SerialScript.Proofs.Text.Utf8

namespace SerialScript.Text

theorem val_ofNat {v : Nat} (h : v.isValidChar) : (Char.ofNat v).val.toNat = v := by
  unfold Char.ofNat
  rw [dif_pos h]
  rfl

section Encoding

variable {lead a b c : UInt8}

theorem payload_lt (b : UInt8) : payload b < 64 := by
  unfold payload
  omega

theorem toNat_of_isContinuation (h : isContinuation b = true) : b.toNat = payload b + 128 := by
  simp only [isContinuation, UInt8.le_iff_toNat_le, UInt8.reduceToNat, Bool.and_eq_true,
    decide_eq_true_eq] at h
  unfold payload
  omega

/-- A continuation is what its payload says. -/
theorem ofNat_payload (h : isContinuation b = true) : UInt8.ofNat (payload b + 128) = b := by
  rw [← toNat_of_isContinuation h, UInt8.ofNat_toNat]

theorem encode_one (h : lead.toNat < 0x80) :
    String.utf8EncodeChar (Char.ofNat lead.toNat) = [lead] := by
  have hv := val_ofNat (v := lead.toNat) (.inl (by omega))
  unfold String.utf8EncodeChar
  simp only [hv]
  rw [if_pos (by omega), UInt8.ofNat_toNat]

theorem encode_two (h : 0xC2 ≤ lead.toNat) (h' : lead.toNat < 0xE0)
    (ha : isContinuation a = true) :
    String.utf8EncodeChar (Char.ofNat (lead.toNat % 32 * 64 + payload a)) = [lead, a] := by
  have hpa := payload_lt a
  have hlead : (lead.toNat % 32 * 64 + payload a) / 64 % 32 + 192 = lead.toNat := by omega
  have hlast : (lead.toNat % 32 * 64 + payload a) % 64 = payload a := by omega
  unfold String.utf8EncodeChar
  simp only [val_ofNat (v := lead.toNat % 32 * 64 + payload a) (.inl (by omega))]
  rw [if_neg (by omega), if_pos (by omega), hlead, hlast, UInt8.ofNat_toNat, ofNat_payload ha]

theorem encode_three (h : 0xE0 ≤ lead.toNat) (h' : lead.toNat < 0xF0)
    (ha : isSecond lead a = true) (hb : isContinuation b = true) :
    String.utf8EncodeChar
        (Char.ofNat ((lead.toNat % 16 * 64 + payload a) * 64 + payload b)) = [lead, a, b] := by
  obtain ⟨hsecond, hoverlong, hsurrogate, -, -⟩ := isSecond_iff.1 ha
  rw [toNat_of_isContinuation hsecond] at hoverlong hsurrogate
  have hpa := payload_lt a
  have hpb := payload_lt b
  generalize hv : (lead.toNat % 16 * 64 + payload a) * 64 + payload b = v
  have hvalid : v.isValidChar := by
    unfold Nat.isValidChar
    omega
  have hlead : v / 4096 % 16 + 224 = lead.toNat := by omega
  have hmiddle : v / 64 % 64 = payload a := by omega
  have hlast : v % 64 = payload b := by omega
  unfold String.utf8EncodeChar
  simp only [val_ofNat hvalid]
  rw [if_neg (by omega), if_neg (by omega), if_pos (by omega), hlead, hmiddle, hlast,
    UInt8.ofNat_toNat, ofNat_payload hsecond, ofNat_payload hb]

theorem encode_four (h : 0xF0 ≤ lead.toNat) (h' : lead.toNat < 0xF5)
    (ha : isSecond lead a = true) (hb : isContinuation b = true) (hc : isContinuation c = true) :
    String.utf8EncodeChar
        (Char.ofNat (((lead.toNat % 8 * 64 + payload a) * 64 + payload b) * 64 + payload c)) =
      [lead, a, b, c] := by
  obtain ⟨hsecond, -, -, hoverlong, hbeyond⟩ := isSecond_iff.1 ha
  rw [toNat_of_isContinuation hsecond] at hoverlong hbeyond
  have hpa := payload_lt a
  have hpb := payload_lt b
  have hpc := payload_lt c
  generalize hv : ((lead.toNat % 8 * 64 + payload a) * 64 + payload b) * 64 + payload c = v
  have hvalid : v.isValidChar := by
    unfold Nat.isValidChar
    omega
  have hlead : v / 262144 % 8 + 240 = lead.toNat := by omega
  have hsecond' : v / 4096 % 64 = payload a := by omega
  have hthird : v / 64 % 64 = payload b := by omega
  have hlast : v % 64 = payload c := by omega
  unfold String.utf8EncodeChar
  simp only [val_ofNat hvalid]
  rw [if_neg (by omega), if_neg (by omega), if_neg (by omega), hlead, hsecond', hthird, hlast,
    UInt8.ofNat_toNat, ofNat_payload hsecond, ofNat_payload hb, ofNat_payload hc]

end Encoding

/-- What is read as a character encodes it. -/
theorem exists_of_readChar {lead : UInt8} {rest : List UInt8} {c : Char} {used : Nat}
    (h : readChar lead rest = (some c, used)) :
    ∃ tail more, rest = tail ++ more ∧ tail.length = used ∧
      String.utf8EncodeChar c = lead :: tail := by
  unfold readChar at h
  simp only [UInt8.lt_iff_toNat_lt, UInt8.reduceToNat] at h
  -- One branch for each length; nothing is read in the others.
  split at h
  · rename_i hone
    cases h
    exact ⟨[], rest, rfl, rfl, encode_one hone⟩
  split at h
  · cases h
  split at h
  · rename_i hlow htwo
    rcases rest with _ | ⟨a, more⟩
    · cases h
    · simp only at h
      split at h
      · rename_i ha
        cases h
        exact ⟨[a], more, rfl, rfl, encode_two (by omega) htwo ha⟩
      · cases h
  split at h
  · rename_i hlow hthree
    rcases rest with _ | ⟨a, _ | ⟨b, more⟩⟩
    · cases h
    · cases h
    · simp only [Bool.not_eq_true'] at h
      split at h
      · cases h
      split at h
      · cases h
      rename_i ha hb
      cases h
      exact ⟨[a, b], more, rfl, rfl,
        encode_three (by omega) hthree (by simpa using ha) (by simpa using hb)⟩
  split at h
  · rename_i hlow hfour
    rcases rest with _ | ⟨a, _ | ⟨b, _ | ⟨c, more⟩⟩⟩
    · cases h
    · cases h
    · cases h
    · simp only [Bool.not_eq_true'] at h
      split at h
      · cases h
      split at h
      · cases h
      split at h
      · cases h
      rename_i ha hb hc
      cases h
      exact ⟨[a, b, c], more, rfl, rfl,
        encode_four (by omega) hfour (by simpa using ha) (by simpa using hb) (by simpa using hc)⟩
  · cases h

theorem bytes_of_decodeUnits {bs : List UInt8} {text : List Char}
    (h : decodeUnits bs = text.map some) : bytes text = bs := by
  induction text generalizing bs with
  | nil =>
    cases bs with
    | nil => rfl
    | cons lead rest =>
      rw [decodeUnits] at h
      cases h
  | cons c text ih =>
    cases bs with
    | nil =>
      rw [decodeUnits] at h
      cases h
    | cons lead rest =>
      rcases hread : readChar lead rest with ⟨unit, used⟩
      rw [decodeUnits, hread] at h
      obtain ⟨rfl, hlater⟩ := List.cons.inj h
      obtain ⟨tail, more, rfl, rfl, hencode⟩ := exists_of_readChar hread
      rw [List.drop_left] at hlater
      rw [bytes_cons, hencode, ih hlater, List.cons_append]

theorem mapM_id_eq_some_iff {α : Type} {units : List (Option α)} {values : List α} :
    units.mapM id = some values ↔ units = values.map some := by
  induction units generalizing values with
  | nil => cases values <;> simp
  | cons unit later ih =>
    cases unit with
    | none => cases values <;> simp
    | some value =>
      cases values with
      | nil => simp [Option.bind_eq_some_iff]
      | cons value' values =>
        simp only [List.mapM_cons, id, Option.bind_eq_bind, Option.bind_some,
          Option.bind_eq_some_iff, ih, Option.pure_def, Option.some_inj, List.map_cons,
          List.cons.injEq]
        constructor
        · rintro ⟨rest, hrest, rfl, rfl⟩
          exact ⟨rfl, hrest⟩
        · rintro ⟨rfl, hrest⟩
          exact ⟨values, hrest, rfl, rfl⟩

/-- Strict decoding accepts what encodes a text, and gives that text. -/
theorem decode?_eq_some_iff {bs : List UInt8} {text : String} :
    decode? bs = some text ↔ bs = toBytes text := by
  unfold decode? toBytes
  constructor
  · intro h
    obtain ⟨chars, hchars, rfl⟩ := Option.map_eq_some_iff.1 h
    rw [String.toList_ofList]
    exact (bytes_of_decodeUnits (mapM_id_eq_some_iff.1 hchars)).symm
  · rintro rfl
    have hunits := decodeUnits_bytes_append text.toList []
    rw [List.append_nil, decodeUnits, List.append_nil] at hunits
    rw [mapM_id_eq_some_iff.2 hunits, Option.map_some, String.ofList_toList]

end SerialScript.Text
