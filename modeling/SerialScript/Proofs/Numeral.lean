import Mathlib.Data.List.Induction
import Mathlib.Data.Nat.Digits.Defs
import SerialScript.Numeral

namespace SerialScript.Numeral

def natural (digits : List Char) : Nat :=
  Nat.ofDigits 10 (digits.reverse.map fun d => d.toNat - '0'.toNat)

def IsDigits (digits : List Char) : Prop := digits ≠ [] ∧ ∀ d ∈ digits, d.isDigit = true

inductive Denotes : String → Int → Prop where
  | unsigned {digits : List Char} : IsDigits digits →
      Denotes (String.ofList digits) (natural digits)
  | plus {digits : List Char} : IsDigits digits →
      Denotes (String.ofList ('+' :: digits)) (natural digits)
  | minus {digits : List Char} : IsDigits digits →
      Denotes (String.ofList ('-' :: digits)) (-natural digits)

theorem magnitude_append_singleton (digits : List Char) (d : Char) :
    magnitude (digits ++ [d]) = 10 * magnitude digits + (d.toNat - '0'.toNat) := by
  simp [magnitude]

theorem magnitude_eq_natural (digits : List Char) : magnitude digits = natural digits := by
  induction digits using List.reverseRecOn with
  | nil => rfl
  | append_singleton digits d ih =>
    rw [magnitude_append_singleton, ih]
    simp [natural, Nat.ofDigits_cons, Nat.add_comm]

theorem splitSign_of_digit {d : Char} (hd : d.isDigit = true) (later : List Char) :
    splitSign (d :: later) = (false, d :: later) := by
  have hminus : d ≠ '-' := by
    rintro rfl
    cases hd
  have hplus : d ≠ '+' := by
    rintro rfl
    cases hd
  unfold splitSign
  split <;> simp_all

theorem splitSign_of_isDigits {digits : List Char} (h : IsDigits digits) :
    splitSign digits = (false, digits) := by
  obtain ⟨hne, hdigits⟩ := h
  obtain ⟨d, later, rfl⟩ := List.exists_cons_of_ne_nil hne
  exact splitSign_of_digit (hdigits d List.mem_cons_self) later

/-- The sign and the digits are those that reading takes apart. -/
theorem denotes_iff {text : String} {value : Int} :
    Denotes text value ↔ IsDigits (splitSign text.toList).2 ∧
      value = signed (splitSign text.toList).1 (magnitude (splitSign text.toList).2) := by
  constructor
  · rintro (h | h | h)
    · rw [String.toList_ofList, splitSign_of_isDigits h, magnitude_eq_natural]
      exact ⟨h, rfl⟩
    · rw [String.toList_ofList]
      exact ⟨h, by simp [splitSign, signed, magnitude_eq_natural]⟩
    · rw [String.toList_ofList]
      exact ⟨h, by simp [splitSign, signed, magnitude_eq_natural]⟩
  · rintro ⟨hdigits, rfl⟩
    rw [magnitude_eq_natural, ← String.ofList_toList (s := text), String.toList_ofList]
    generalize text.toList = chars at hdigits ⊢
    rcases hsplit : splitSign chars with ⟨negative, digits⟩
    rw [hsplit] at hdigits
    unfold splitSign at hsplit
    split at hsplit
    · cases hsplit
      exact .minus hdigits
    · cases hsplit
      exact .plus hdigits
    · cases hsplit
      exact .unsigned hdigits

theorem isDigits_iff {digits : List Char} :
    IsDigits digits ↔ (digits = [] || !digits.all Char.isDigit) = false := by
  unfold IsDigits
  simp

/-- What denotes a number is read as that number, or is out of range. -/
theorem read_of_denotes {text : String} {value : Int} (h : Denotes text value) :
    read text = if Fits value then .ok value else .error .outOfRange := by
  obtain ⟨hdigits, rfl⟩ := denotes_iff.1 h
  have hgood := isDigits_iff.1 hdigits
  unfold read
  simp only [hgood, Bool.false_eq_true, if_false]

theorem read_eq_notAnInteger_iff {text : String} :
    read text = .error .notAnInteger ↔ ¬ ∃ value, Denotes text value := by
  constructor
  · rintro hread ⟨value, hdenotes⟩
    rw [read_of_denotes hdenotes] at hread
    split at hread <;> cases hread
  · intro h
    have hbad : ¬ IsDigits (splitSign text.toList).2 := by
      intro hdigits
      exact h ⟨_, denotes_iff.2 ⟨hdigits, rfl⟩⟩
    rw [isDigits_iff, Bool.not_eq_false] at hbad
    unfold read
    simp only [hbad, if_true]

theorem Denotes.unique {text : String} {value value' : Int} (h : Denotes text value)
    (h' : Denotes text value') : value = value' :=
  (denotes_iff.1 h).2.trans (denotes_iff.1 h').2.symm

theorem read_eq_ok_iff {text : String} {value : Int} :
    read text = .ok value ↔ Denotes text value ∧ Fits value := by
  constructor
  · intro hread
    by_cases hdenoted : ∃ denoted, Denotes text denoted
    · obtain ⟨denoted, hdenotes⟩ := hdenoted
      rw [read_of_denotes hdenotes] at hread
      split at hread
      · rename_i hfits
        cases hread
        exact ⟨hdenotes, hfits⟩
      · cases hread
    · rw [read_eq_notAnInteger_iff.2 hdenoted] at hread
      cases hread
  · rintro ⟨hdenotes, hfits⟩
    rw [read_of_denotes hdenotes, if_pos hfits]

inductive Sign where
  | unsigned
  | plus
  | minus
  deriving DecidableEq, Repr

namespace Sign

def chars : Sign → List Char
  | unsigned => []
  | plus => ['+']
  | minus => ['-']

def apply : Sign → Nat → Int
  | minus, n => -n
  | _, n => n

end Sign

def IsNumeral (text : String) : Prop :=
  ∃ (sign : Sign) (digits : List Char),
    IsDigits digits ∧ text = String.ofList (sign.chars ++ digits)

/-- What has the form of a numeral denotes a number, and nothing else does. -/
theorem isNumeral_iff {text : String} : IsNumeral text ↔ ∃ value, Denotes text value := by
  constructor
  · rintro ⟨sign, digits, h, rfl⟩
    cases sign with
    | unsigned => exact ⟨_, .unsigned h⟩
    | plus => exact ⟨_, .plus h⟩
    | minus => exact ⟨_, .minus h⟩
  · rintro ⟨_, h | h | h⟩
    · exact ⟨.unsigned, _, h, rfl⟩
    · exact ⟨.plus, _, h, rfl⟩
    · exact ⟨.minus, _, h, rfl⟩

def dressed (sign : Sign) (zeros : Nat) (digits : List Char) : String :=
  String.ofList (sign.chars ++ (List.replicate zeros '0' ++ digits))

theorem natural_replicate_append (zeros : Nat) (digits : List Char) :
    natural (List.replicate zeros '0' ++ digits) = natural digits := by
  unfold natural
  rw [List.reverse_append, List.map_append, List.reverse_replicate, List.map_replicate]
  exact Nat.ofDigits_append_replicate_zero _

theorem isDigits_replicate_append (zeros : Nat) {digits : List Char} (h : IsDigits digits) :
    IsDigits (List.replicate zeros '0' ++ digits) := by
  refine ⟨List.append_ne_nil_of_right_ne_nil _ h.1, ?_⟩
  intro d hd
  rcases List.mem_append.1 hd with hzero | hdigit
  · rw [List.eq_of_mem_replicate hzero]
    rfl
  · exact h.2 d hdigit

theorem denotes_dressed (sign : Sign) (zeros : Nat) {digits : List Char} (h : IsDigits digits) :
    Denotes (dressed sign zeros digits) (sign.apply (natural digits)) := by
  have hdigits := isDigits_replicate_append zeros h
  rw [← natural_replicate_append zeros]
  cases sign with
  | unsigned => exact .unsigned hdigits
  | plus => exact .plus hdigits
  | minus => exact .minus hdigits

theorem denotes_dressed_iff (sign : Sign) (zeros : Nat) {digits : List Char} (h : IsDigits digits)
    {value : Int} :
    Denotes (dressed sign zeros digits) value ↔ value = sign.apply (natural digits) := by
  constructor
  · intro hvalue
    exact hvalue.unique (denotes_dressed sign zeros h)
  · rintro rfl
    exact denotes_dressed sign zeros h

theorem fits_natCast {n : Nat} : Fits n ↔ n < 2 ^ 63 := by
  unfold Fits limit
  omega

/-- For what counts something a sign and zeros change nothing, but that a minus admits only zero. -/
theorem read_dressed_iff (sign : Sign) (zeros : Nat) {digits : List Char} (h : IsDigits digits)
    (n : Nat) :
    read (dressed sign zeros digits) = .ok n ↔
      (sign = .minus → natural digits = 0) ∧ read (String.ofList digits) = .ok n := by
  have hplain : Denotes (String.ofList digits) n ↔ (n : Int) = natural digits :=
    denotes_dressed_iff .unsigned 0 h
  rw [read_eq_ok_iff, read_eq_ok_iff, denotes_dressed_iff sign zeros h, hplain]
  cases sign with
  | unsigned | plus => simp [Sign.apply]
  | minus =>
    simp only [Sign.apply, fits_natCast, forall_const]
    constructor
    · rintro ⟨hvalue, hfits⟩
      exact ⟨by omega, by omega, hfits⟩
    · rintro ⟨hzero, hvalue, hfits⟩
      exact ⟨by omega, hfits⟩

end SerialScript.Numeral
