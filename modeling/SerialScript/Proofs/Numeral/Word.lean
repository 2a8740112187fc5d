import SerialScript.Proofs.Numeral

/-!
Numerals in words of 64 bits. Digits are taken here one by one, and what no word can hold is noticed
as soon as it comes up. It is noticed for a numeral exactly if its whole value is out of range, be
there ever so many digits: what does not fit cannot fit again with more digits behind it, and a
negative numeral is counted downwards, as there is one more word below zero than above.
-/

namespace SerialScript.Numeral

def word? (value : Int) : Option Int64 :=
  if Fits value then some (.ofInt value) else none

def push (negative : Bool) (word : Int64) (d : Char) : Option Int64 := do
  let tenfold ← word? (10 * word.toInt)
  word? (tenfold.toInt + signed negative (d.toNat - '0'.toNat))

def accumulate (negative : Bool) (digits : List Char) : Option Int64 :=
  digits.foldlM (push negative) 0

/-- Reading that never holds more than a word. -/
def readWord (text : String) : Except NumeralFault Int64 :=
  let (negative, digits) := splitSign text.toList
  if digits = [] || !digits.all Char.isDigit then .error .notAnInteger
  else
    match accumulate negative digits with
    | some word => .ok word
    | none => .error .outOfRange

theorem fits_toInt (word : Int64) : Fits word.toInt := ⟨word.le_toInt, word.toInt_lt⟩

theorem word?_eq_some_iff {value : Int} {word : Int64} :
    word? value = some word ↔ word.toInt = value := by
  unfold word?
  constructor
  · intro h
    split at h
    · rename_i hfits
      cases h
      exact Int64.toInt_ofInt_of_le hfits.1 hfits.2
    · cases h
  · rintro rfl
    rw [if_pos (fits_toInt word), Int64.ofInt_toInt]

theorem word?_eq_none_iff {value : Int} : word? value = none ↔ ¬ Fits value := by
  unfold word?
  simp

/-- What is nearer to zero on the same side fits too. -/
theorem fits_of_le {negative : Bool} {m n : Nat} (hle : m ≤ n) (h : Fits (signed negative n)) :
    Fits (signed negative m) := by
  unfold Fits limit at *
  cases negative with
  | false =>
    simp only [signed, Bool.false_eq_true, if_false] at *
    omega
  | true =>
    simp only [signed, if_true] at *
    omega

theorem word?_eq_none_of_le {negative : Bool} {m n : Nat} (hle : m ≤ n)
    (h : word? (signed negative m) = none) : word? (signed negative n) = none := by
  rw [word?_eq_none_iff] at *
  intro hfits
  exact h (fits_of_le hle hfits)

theorem signed_push (negative : Bool) (m n : Nat) :
    signed negative (10 * m + n) = 10 * signed negative m + signed negative n := by
  cases negative with
  | false => simp [signed]
  | true =>
    simp only [signed, if_true]
    omega

theorem push_of_toInt {negative : Bool} {word : Int64} {n : Nat}
    (hword : word.toInt = signed negative n) (d : Char) :
    push negative word d = word? (signed negative (10 * n + (d.toNat - '0'.toNat))) := by
  have htenfold : 10 * word.toInt = signed negative (10 * n) := by
    rw [hword]
    cases negative <;> simp [signed]
  unfold push
  cases hfound : word? (10 * word.toInt) with
  | none =>
    -- Ten times the word is too much already, and a digit only leads farther away from zero.
    rw [htenfold] at hfound
    rw [Option.bind_eq_bind, Option.bind_none, word?_eq_none_of_le (by omega) hfound]
  | some tenfold =>
    rw [Option.bind_eq_bind, Option.bind_some, word?_eq_some_iff.1 hfound, hword, signed_push]

/-- Whether some digits are too many for a word is seen of their whole value. -/
theorem accumulate_eq (negative : Bool) (digits : List Char) :
    accumulate negative digits = word? (signed negative (magnitude digits)) := by
  induction digits using List.reverseRecOn with
  | nil => cases negative <;> rfl
  | append_singleton digits d ih =>
    have hstep : accumulate negative (digits ++ [d]) =
        (accumulate negative digits).bind (push negative · d) := by
      simp [accumulate, List.foldlM_append]
    rw [hstep, ih, magnitude_append_singleton]
    cases hfound : word? (signed negative (magnitude digits)) with
    | none => rw [Option.bind_none, word?_eq_none_of_le (by omega) hfound]
    | some word => exact push_of_toInt (word?_eq_some_iff.1 hfound) d

example : accumulate true "9223372036854775808".toList = some .minValue ∧
    accumulate false "9223372036854775808".toList = none := by
  decide +kernel

theorem map_readWord (text : String) : (readWord text).map Int64.toInt = read text := by
  unfold readWord read
  simp only [accumulate_eq]
  split
  · rfl
  · split
    · rename_i word hfound
      rw [word?_eq_some_iff] at hfound
      rw [← hfound, if_pos (fits_toInt word)]
      rfl
    · rename_i hfound
      rw [if_neg (word?_eq_none_iff.1 hfound)]
      rfl

theorem isDigits_toDigits (n : Nat) : IsDigits (Nat.toDigits 10 n) := by
  refine ⟨Nat.toDigits_ne_nil, ?_⟩
  intro d hd
  exact Nat.isDigit_of_mem_toDigits (by decide) (by decide) hd

theorem natural_toDigits (n : Nat) : natural (Nat.toDigits 10 n) = n := by
  rw [← magnitude_eq_natural]
  exact Nat.ofDigitChars_ten_toDigits

/-- The decimal text of an integer denotes it. -/
theorem denotes_toString (value : Int) : Denotes (toString value) value := by
  rw [Int.toString_eq_repr]
  cases value with
  | ofNat n =>
    have h := Denotes.unsigned (isDigits_toDigits n)
    rw [natural_toDigits] at h
    rw [Int.repr, Nat.repr_eq_ofList_toDigits]
    exact h
  | negSucc n =>
    have h := Denotes.minus (isDigits_toDigits (n + 1))
    rw [natural_toDigits, String.ofList_cons] at h
    rw [Int.repr, Nat.repr_eq_ofList_toDigits]
    exact h

theorem read_toString (word : Int64) : read (toString word) = .ok word.toInt :=
  read_eq_ok_iff.2 ⟨denotes_toString word.toInt, fits_toInt word⟩

theorem fits_iff {value : Int} : Fits value ↔ -2 ^ 63 ≤ value ∧ value ≤ 2 ^ 63 - 1 := by
  unfold Fits limit
  omega

theorem read_dressed (sign : Sign) (zeros : Nat) {digits : List Char} (h : IsDigits digits) :
    read (dressed sign zeros digits) = read (dressed sign 0 digits) := by
  rw [read_of_denotes (denotes_dressed sign zeros h), read_of_denotes (denotes_dressed sign 0 h)]

/-- Reading finds fault with the form of a text exactly if it is not an optional sign and digits.
Any other text denotes one integer, which is the result if it lies in the range of a word, and out
of range if it does not; zeros in front of the digits change neither. The decimal text of every word
is read as that word, and reading that never holds more than a word comes to the same in all
cases. -/
theorem reads_what_is_denoted :
    (∀ text, read text = .error .notAnInteger ↔ ¬ IsNumeral text) ∧
    (∀ text, IsNumeral text → ∃! value, Denotes text value) ∧
    (∀ text value, Denotes text value →
      (read text = .ok value ↔ -2 ^ 63 ≤ value ∧ value ≤ 2 ^ 63 - 1) ∧
      (read text = .error .outOfRange ↔ ¬ (-2 ^ 63 ≤ value ∧ value ≤ 2 ^ 63 - 1))) ∧
    (∀ sign zeros digits, IsDigits digits →
      read (dressed sign zeros digits) = read (dressed sign 0 digits)) ∧
    (∀ word : Int64, read (toString word) = .ok word.toInt) ∧
    (∀ text, (readWord text).map Int64.toInt = read text) := by
  refine ⟨?_, ?_, ?_, ?_, read_toString, map_readWord⟩
  · intro text
    rw [isNumeral_iff]
    exact read_eq_notAnInteger_iff
  · intro text hnumeral
    obtain ⟨value, hdenotes⟩ := isNumeral_iff.1 hnumeral
    exact ⟨value, hdenotes, fun _ hother => hother.unique hdenotes⟩
  · intro text value hdenotes
    rw [← fits_iff, read_of_denotes hdenotes]
    by_cases hfits : Fits value <;> simp [hfits]
  · intro sign zeros digits hdigits
    exact read_dressed sign zeros hdigits

/-- The least word, with zeros in front; with a plus it is one more than the greatest. -/
theorem reads_what_is_denoted_at_limits :
    (∃! value, Denotes "-9223372036854775808" value) ∧
      read "-009223372036854775808" = .ok (-9223372036854775808) ∧
      read "+9223372036854775808" = .error .outOfRange := by
  obtain ⟨-, hunique, hexact, hzeros, -⟩ := reads_what_is_denoted
  have hdigits : IsDigits "9223372036854775808".toList :=
    ⟨nofun, List.all_eq_true.1 (by decide +kernel)⟩
  have hvalue : natural "9223372036854775808".toList = 2 ^ 63 := by decide +kernel
  refine ⟨hunique _ ⟨.minus, _, hdigits, rfl⟩, ?_, ?_⟩
  · have hleast := (hexact _ _ (.minus hdigits)).1.2 (by rw [hvalue]; decide)
    rw [hvalue] at hleast
    exact (hzeros .minus 2 _ hdigits).trans hleast
  · exact (hexact _ _ (.plus hdigits)).2.2 (by rw [hvalue]; decide)

end SerialScript.Numeral
