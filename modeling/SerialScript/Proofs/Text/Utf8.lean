import SerialScript.Proofs.Text.Occurrence
import SerialScript.Text.Utf8

/-!
Encoded text. The bytes of a character begin with one that is no continuation and go on with
continuations, and reading them gives the character back. Hence the bytes of a text fall apart into
characters in one way only, wherever a reader begins: searching the bytes of a text for the bytes
of a pattern is searching the text for the pattern.
-/

namespace SerialScript.Text

theorem toNat_ofNat_of_lt {n : Nat} (h : n < 256) : (UInt8.ofNat n).toNat = n :=
  UInt8.toNat_ofNat_of_lt' h

theorem isContinuation_ofNat (n : Nat) :
    isContinuation (UInt8.ofNat (n % 64 + 128)) = true := by
  have hn : (n % 64 + 128) % 2 ^ 8 = n % 64 + 128 := by omega
  simp only [isContinuation, Bool.and_eq_true, decide_eq_true_eq, UInt8.le_iff_toNat_le,
    UInt8.toNat_ofNat', UInt8.reduceToNat, hn]
  omega

theorem payload_ofNat (n : Nat) : payload (UInt8.ofNat (n % 64 + 128)) = n % 64 := by
  simp only [payload, UInt8.toNat_ofNat']
  omega

theorem isContinuation_eq_false {b : UInt8} (h : b.toNat < 0x80 ∨ 0xBF < b.toNat) :
    isContinuation b = false := by
  simp only [isContinuation, UInt8.le_iff_toNat_le, UInt8.reduceToNat, Bool.and_eq_false_iff,
    decide_eq_false_iff_not]
  omega

/-- Four leads ask more of the next byte than that it is a continuation. -/
theorem isSecond_iff {lead b : UInt8} :
    isSecond lead b = true ↔ isContinuation b = true ∧
      (lead.toNat = 0xE0 → 0xA0 ≤ b.toNat) ∧ (lead.toNat = 0xED → b.toNat ≤ 0x9F) ∧
      (lead.toNat = 0xF0 → 0x90 ≤ b.toNat) ∧ (lead.toNat = 0xF4 → b.toNat ≤ 0x8F) := by
  unfold isSecond isContinuation
  simp only [UInt8.le_iff_toNat_le, ← UInt8.toNat_inj, Bool.and_eq_true, decide_eq_true_eq,
    UInt8.reduceToNat]
  split
  · simp_all
    omega
  · split
    · simp_all
      omega
    · split
      · simp_all
        omega
      · split
        · simp_all
          omega
        · simp_all

section Reading

variable {lead : UInt8}

theorem readChar_one (h : lead.toNat < 0x80) (more : List UInt8) :
    readChar lead more = (some (Char.ofNat lead.toNat), 0) := by
  unfold readChar
  simp only [UInt8.lt_iff_toNat_lt, UInt8.reduceToNat]
  rw [if_pos h]

theorem readChar_two {a : UInt8} (h : 0xC2 ≤ lead.toNat) (h' : lead.toNat < 0xE0)
    (ha : isContinuation a = true) (more : List UInt8) :
    readChar lead (a :: more) =
      (some (Char.ofNat (lead.toNat % 32 * 64 + payload a)), 1) := by
  unfold readChar
  simp only [UInt8.lt_iff_toNat_lt, UInt8.reduceToNat]
  rw [if_neg (by omega), if_neg (by omega), if_pos h', if_pos ha]

theorem readChar_three {a b : UInt8} (h : 0xE0 ≤ lead.toNat) (h' : lead.toNat < 0xF0)
    (ha : isSecond lead a = true) (hb : isContinuation b = true) (more : List UInt8) :
    readChar lead (a :: b :: more) =
      (some (Char.ofNat ((lead.toNat % 16 * 64 + payload a) * 64 + payload b)), 2) := by
  unfold readChar
  simp only [UInt8.lt_iff_toNat_lt, UInt8.reduceToNat]
  rw [if_neg (by omega), if_neg (by omega), if_neg (by omega), if_pos h', if_neg (by simp [ha]),
    if_neg (by simp [hb])]

theorem readChar_four {a b c : UInt8} (h : 0xF0 ≤ lead.toNat) (h' : lead.toNat < 0xF5)
    (ha : isSecond lead a = true) (hb : isContinuation b = true) (hc : isContinuation c = true)
    (more : List UInt8) :
    readChar lead (a :: b :: c :: more) =
      (some (Char.ofNat
        (((lead.toNat % 8 * 64 + payload a) * 64 + payload b) * 64 + payload c)), 3) := by
  unfold readChar
  simp only [UInt8.lt_iff_toNat_lt, UInt8.reduceToNat]
  rw [if_neg (by omega), if_neg (by omega), if_neg (by omega), if_neg (by omega), if_pos h',
    if_neg (by simp [ha]), if_neg (by simp [hb]), if_neg (by simp [hc])]

end Reading

/-- The bytes of one character: where it begins shows, and reading goes exactly to its end. -/
structure Encodes (c : Char) (lead : UInt8) (tail : List UInt8) : Prop where
  lead_isStart : isContinuation lead = false
  tail_continues : ∀ b ∈ tail, isContinuation b = true
  reads : ∀ more, readChar lead (tail ++ more) = (some c, tail.length)

section Encoding

variable {v : Nat}

theorem encodes_one (h : v ≤ 0x7F) : Encodes (Char.ofNat v) (UInt8.ofNat v) [] := by
  have hl : (UInt8.ofNat v).toNat = v := toNat_ofNat_of_lt (by omega)
  refine ⟨isContinuation_eq_false (by omega), List.forall_mem_nil _, fun more => ?_⟩
  rw [List.nil_append, readChar_one (by omega), hl, List.length_nil]

theorem encodes_two (h : 0x7F < v) (h' : v ≤ 0x7FF) :
    Encodes (Char.ofNat v) (UInt8.ofNat (v / 64 % 32 + 192)) [UInt8.ofNat (v % 64 + 128)] := by
  have hl : (UInt8.ofNat (v / 64 % 32 + 192)).toNat = v / 64 % 32 + 192 :=
    toNat_ofNat_of_lt (by omega)
  refine ⟨isContinuation_eq_false (by omega), ?_, fun more => ?_⟩
  · exact List.forall_mem_singleton.2 (isContinuation_ofNat v)
  · have hv : (v / 64 % 32 + 192) % 32 * 64 + v % 64 = v := by omega
    rw [List.singleton_append, readChar_two (by omega) (by omega) (isContinuation_ofNat v), hl,
      payload_ofNat, hv, List.length_singleton]

theorem encodes_three (h : 0x7FF < v) (h' : v ≤ 0xFFFF) (hvalid : v < 0xD800 ∨ 0xDFFF < v) :
    Encodes (Char.ofNat v) (UInt8.ofNat (v / 4096 % 16 + 224))
      [UInt8.ofNat (v / 64 % 64 + 128), UInt8.ofNat (v % 64 + 128)] := by
  have hl : (UInt8.ofNat (v / 4096 % 16 + 224)).toNat = v / 4096 % 16 + 224 :=
    toNat_ofNat_of_lt (by omega)
  have ha : (UInt8.ofNat (v / 64 % 64 + 128)).toNat = v / 64 % 64 + 128 :=
    toNat_ofNat_of_lt (by omega)
  -- E0 and ED ask more of the second byte: no overlong form, no surrogate
  have hsecond : isSecond (UInt8.ofNat (v / 4096 % 16 + 224))
      (UInt8.ofNat (v / 64 % 64 + 128)) = true := by
    rw [isSecond_iff, hl, ha]
    exact ⟨isContinuation_ofNat _, by omega, by omega, by omega, by omega⟩
  refine ⟨isContinuation_eq_false (by omega), ?_, fun more => ?_⟩
  · exact List.forall_mem_cons.2
      ⟨isContinuation_ofNat _, List.forall_mem_singleton.2 (isContinuation_ofNat v)⟩
  · have hv : ((v / 4096 % 16 + 224) % 16 * 64 + v / 64 % 64) * 64 + v % 64 = v := by omega
    rw [List.cons_append, List.singleton_append,
      readChar_three (by omega) (by omega) hsecond (isContinuation_ofNat v), hl, payload_ofNat,
      payload_ofNat, hv, List.length_cons, List.length_singleton]

theorem encodes_four (h : 0xFFFF < v) (h' : v ≤ 0x10FFFF) :
    Encodes (Char.ofNat v) (UInt8.ofNat (v / 262144 % 8 + 240))
      [UInt8.ofNat (v / 4096 % 64 + 128), UInt8.ofNat (v / 64 % 64 + 128),
        UInt8.ofNat (v % 64 + 128)] := by
  have hl : (UInt8.ofNat (v / 262144 % 8 + 240)).toNat = v / 262144 % 8 + 240 :=
    toNat_ofNat_of_lt (by omega)
  have ha : (UInt8.ofNat (v / 4096 % 64 + 128)).toNat = v / 4096 % 64 + 128 :=
    toNat_ofNat_of_lt (by omega)
  -- F0 and F4 do: no overlong form, nothing past the last code point
  have hsecond : isSecond (UInt8.ofNat (v / 262144 % 8 + 240))
      (UInt8.ofNat (v / 4096 % 64 + 128)) = true := by
    rw [isSecond_iff, hl, ha]
    exact ⟨isContinuation_ofNat _, by omega, by omega, by omega, by omega⟩
  refine ⟨isContinuation_eq_false (by omega), ?_, fun more => ?_⟩
  · exact List.forall_mem_cons.2 ⟨isContinuation_ofNat _, List.forall_mem_cons.2
      ⟨isContinuation_ofNat _, List.forall_mem_singleton.2 (isContinuation_ofNat v)⟩⟩
  · have hv : (((v / 262144 % 8 + 240) % 8 * 64 + v / 4096 % 64) * 64 + v / 64 % 64) * 64 +
        v % 64 = v := by omega
    rw [List.cons_append, List.cons_append, List.singleton_append,
      readChar_four (by omega) (by omega) hsecond (isContinuation_ofNat _)
        (isContinuation_ofNat v), hl, payload_ofNat, payload_ofNat, payload_ofNat, hv,
      List.length_cons, List.length_cons, List.length_singleton]

end Encoding

theorem exists_encodes (c : Char) :
    ∃ lead tail, String.utf8EncodeChar c = lead :: tail ∧ Encodes c lead tail := by
  have hvalid : c.val.toNat < 0xD800 ∨ 0xDFFF < c.val.toNat ∧ c.val.toNat < 0x110000 := c.valid
  have hc : Char.ofNat c.val.toNat = c := Char.ofNat_toNat c
  unfold String.utf8EncodeChar
  generalize c.val.toNat = v at hvalid hc
  subst hc
  dsimp only
  split
  · exact ⟨_, _, rfl, encodes_one (by omega)⟩
  · split
    · exact ⟨_, _, rfl, encodes_two (by omega) (by omega)⟩
    · split
      · exact ⟨_, _, rfl, encodes_three (by omega) (by omega) (by omega)⟩
      · exact ⟨_, _, rfl, encodes_four (by omega) (by omega)⟩

@[simp] theorem bytes_nil : bytes [] = [] := rfl

@[simp] theorem bytes_cons (c : Char) (text : List Char) :
    bytes (c :: text) = String.utf8EncodeChar c ++ bytes text := rfl

@[simp] theorem bytes_append (left right : List Char) :
    bytes (left ++ right) = bytes left ++ bytes right := List.flatMap_append

theorem decodeUnits_bytes_append (text : List Char) (more : List UInt8) :
    decodeUnits (bytes text ++ more) = text.map some ++ decodeUnits more := by
  induction text with
  | nil => rfl
  | cons c text ih =>
    obtain ⟨lead, tail, henc, h⟩ := exists_encodes c
    rw [bytes_cons, henc, List.cons_append, List.cons_append, List.append_assoc, decodeUnits,
      h.reads]
    dsimp only
    rw [List.drop_left, ih]
    rfl

theorem decodeLossy_bytes (text : List Char) : decodeLossy (bytes text) = String.ofList text := by
  have h := decodeUnits_bytes_append text []
  rw [List.append_nil, decodeUnits, List.append_nil] at h
  rw [decodeLossy, h, List.map_map]
  exact congrArg String.ofList (List.map_id text)

theorem decodeLossy_eq_empty {bs : List UInt8} (h : decodeLossy bs = "") : bs = [] := by
  cases bs with
  | nil => rfl
  | cons lead rest =>
    have hchars := congrArg String.toList h
    rw [decodeLossy, decodeUnits, String.toList_ofList] at hchars
    cases hchars

theorem toBytes_eq_nil {text : String} (h : toBytes text = []) : text = "" := by
  have hchars : text.toList = [] := by
    cases ht : text.toList with
    | nil => rfl
    | cons c rest =>
      obtain ⟨lead, tail, henc, _⟩ := exists_encodes c
      rw [toBytes, ht, bytes_cons, henc] at h
      cases h
  exact String.toList_eq_nil_iff.1 hchars

theorem encodeChar_append_inj {c c' : Char} {more more' : List UInt8}
    (h : String.utf8EncodeChar c ++ more = String.utf8EncodeChar c' ++ more') :
    c = c' ∧ more = more' := by
  obtain ⟨lead, tail, henc, he⟩ := exists_encodes c
  obtain ⟨lead', tail', henc', he'⟩ := exists_encodes c'
  rw [henc, henc', List.cons_append, List.cons_append] at h
  obtain ⟨rfl, htails⟩ := List.cons.inj h
  have hread := (he.reads more).symm.trans (htails ▸ he'.reads more')
  obtain ⟨hchar, hlen⟩ := Prod.mk.inj hread
  exact ⟨Option.some.inj hchar, (List.append_inj htails hlen).2⟩

theorem exists_of_bytes_append {pattern text : List Char} {more : List UInt8}
    (h : bytes pattern ++ more = bytes text) :
    ∃ rest, text = pattern ++ rest ∧ more = bytes rest := by
  induction pattern generalizing text with
  | nil => exact ⟨text, rfl, h⟩
  | cons c pattern ih =>
    rw [bytes_cons, List.append_assoc] at h
    cases text with
    | nil =>
      obtain ⟨lead, tail, henc, _⟩ := exists_encodes c
      rw [henc] at h
      cases h
    | cons c' text =>
      obtain ⟨rfl, hmore⟩ := encodeChar_append_inj h
      obtain ⟨rest, rfl, hrest⟩ := ih hmore
      exact ⟨rest, rfl, hrest⟩

/-- No text begins inside a character, since it would begin with a continuation. -/
theorem Encodes.length_tail_le {c : Char} {lead : UInt8} {tail before after more : List UInt8}
    {pattern : List Char} (h : Encodes c lead tail) (hne : pattern ≠ [])
    (heq : before ++ (bytes pattern ++ after) = tail ++ more) : tail.length ≤ before.length := by
  refine Nat.le_of_not_lt fun hlt => ?_
  obtain ⟨c', pattern, rfl⟩ := List.exists_cons_of_ne_nil hne
  obtain ⟨lead', tail', henc', h'⟩ := exists_encodes c'
  rw [bytes_cons, henc'] at heq
  have hget := congrArg (fun bs => bs[before.length]?) heq
  simp only [List.cons_append, List.getElem?_append_right (Nat.le_refl _), Nat.sub_self,
    List.getElem?_cons_zero, List.getElem?_append_left hlt] at hget
  have hin := h.tail_continues lead' (List.mem_of_getElem? hget.symm)
  rw [h'.lead_isStart] at hin
  cases hin

theorem exists_of_append_bytes_append {pattern text : List Char} {before after : List UInt8}
    (hne : pattern ≠ []) (h : before ++ bytes pattern ++ after = bytes text) :
    ∃ left right, text = left ++ pattern ++ right ∧ before = bytes left ∧ after = bytes right := by
  induction text generalizing before with
  | nil =>
    cases pattern with
    | nil => exact absurd rfl hne
    | cons c pattern =>
      obtain ⟨lead, tail, henc, _⟩ := exists_encodes c
      simp [henc] at h
  | cons c text ih =>
    rcases before with _ | ⟨b, before⟩
    · obtain ⟨rest, htext, hrest⟩ := exists_of_bytes_append h
      exact ⟨[], rest, htext, rfl, hrest⟩
    · obtain ⟨lead, tail, henc, he⟩ := exists_encodes c
      rw [bytes_cons, henc] at h
      simp only [List.cons_append, List.append_assoc, List.cons.injEq] at h
      obtain ⟨rfl, h⟩ := h
      obtain ⟨before', rfl⟩ := List.prefix_of_prefix_length_le
        (List.prefix_append tail (bytes text)) ⟨_, h⟩ (he.length_tail_le hne h)
      rw [List.append_assoc] at h
      have htail : before' ++ bytes pattern ++ after = bytes text := by
        rw [List.append_assoc]
        exact List.append_cancel_left h
      obtain ⟨left, right, rfl, hleft, hright⟩ := ih htail
      refine ⟨c :: left, right, rfl, ?_, hright⟩
      rw [bytes_cons, henc, hleft]
      rfl

/-- Searching encoded text for an encoded pattern is searching the text. -/
theorem takeThrough_bytes (pattern text : List Char) :
    takeThrough (bytes pattern) (bytes text) =
      (takeThrough pattern text).map fun (found, rest) => (bytes found, bytes rest) := by
  by_cases hne : pattern = []
  · subst hne
    simp
  cases hs : takeThrough pattern text with
  | none =>
    refine takeThrough_eq_none_iff.2 ?_
    rintro ⟨before, after, h⟩
    obtain ⟨left, right, rfl, _⟩ := exists_of_append_bytes_append hne h
    exact takeThrough_eq_none_iff.1 hs ⟨left, right, rfl⟩
  | some cut =>
    obtain ⟨rfl, hend⟩ := takeThrough_eq_some_iff.1 hs
    obtain ⟨before, hbefore⟩ := hend.isSuffix
    refine takeThrough_eq_some_iff.2 ⟨(bytes_append _ _).symm, ⟨?_, ?_⟩⟩
    · rw [← hbefore, bytes_append]
      exact List.suffix_append _ _
    · rintro shorter ⟨after, hafter⟩ ⟨start, rfl⟩
      obtain ⟨left, right, htext, hleft, _⟩ := exists_of_append_bytes_append hne hafter
      have hwhole := hend.least (left ++ pattern) ⟨right, htext.symm⟩ (List.suffix_append _ _)
      rw [← hwhole, bytes_append, hleft]

end SerialScript.Text
