import SerialScript.Proofs.Numeral
import SerialScript.Proofs.Session.Transcript

namespace SerialScript

theorem map_eq_ok_iff {ε α β : Type} {result : Except ε α} {f : α → β} {b : β} :
    result.map f = .ok b ↔ ∃ a, result = .ok a ∧ b = f a := by
  cases result with
  | error cause => simp [Except.map]
  | ok a => simp [Except.map, eq_comm]

open Numeral (Denotes)

theorem readCount_eq_ok_iff_read {directive quantity argument : String} {n : Nat} :
    readCount directive quantity argument = .ok n ↔ Numeral.read argument = .ok n := by
  unfold readCount
  rcases Numeral.read argument with (_ | _) | value
  · simp
  · simp
  · simp only [Except.ok.injEq]
    split
    · rw [Except.ok.injEq]
      omega
    · simp only [reduceCtorEq, false_iff]
      omega

theorem readBaudRate_eq_ok_iff_read {argument : String} {rate : UInt32} :
    readBaudRate argument = .ok rate ↔ Numeral.read argument = .ok rate.toNat := by
  have hrate := rate.toNat_lt
  unfold readBaudRate
  rcases Numeral.read argument with (_ | _) | value
  · simp
  · simp
  · simp only [Except.ok.injEq]
    split
    · rw [Except.ok.injEq, ← UInt32.toNat_inj, UInt32.toNat_ofNat']
      omega
    · simp only [reduceCtorEq, false_iff]
      omega

/-- A count is what is denoted, and below two to the power of 63. -/
theorem readCount_eq_ok_iff {directive quantity argument : String} {n : Nat} :
    readCount directive quantity argument = .ok n ↔ Denotes argument n ∧ n < 2 ^ 63 := by
  rw [readCount_eq_ok_iff_read, Numeral.read_eq_ok_iff, Numeral.fits_natCast]

theorem readBaudRate_eq_ok_iff {argument : String} {rate : UInt32} :
    readBaudRate argument = .ok rate ↔ Denotes argument rate.toNat := by
  have hrate := rate.toNat_lt
  rw [readBaudRate_eq_ok_iff_read, Numeral.read_eq_ok_iff, Numeral.fits_natCast]
  exact and_iff_left (by omega)

theorem readEol_eq_ok_iff {argument : String} {eol : Eol} :
    readEol argument = .ok eol ↔ argument = eol.name := by
  unfold readEol
  constructor
  · intro h
    split at h
    · rename_i found hfound
      cases h
      have hname := List.find?_some hfound
      exact (beq_iff_eq.1 hname).symm
    · cases h
  · rintro rfl
    rw [Eol.ofName?_name]

namespace Directive

/-- What each directive takes, and what is asked for by that. All but `CMD` and `RES` leave out of
account what follows. -/
inductive Accepts : Keyword → List String → Directive → Prop where
  | connect {port numeral : String} {later : List String} {rate : Nat} : Denotes numeral rate →
      rate < 2 ^ 32 → Accepts .connect (port :: numeral :: later) (.connect port (.ofNat rate))
  | disconnect {port : String} {later : List String} :
      Accepts .disconnect (port :: later) (.disconnect port)
  | cr {later : List String} : Accepts .cfgEol ("CR" :: later) (.cfgEol .cr)
  | lf {later : List String} : Accepts .cfgEol ("LF" :: later) (.cfgEol .lf)
  | crlf {later : List String} : Accepts .cfgEol ("CRLF" :: later) (.cfgEol .crlf)
  | cfgResTimeout {numeral : String} {later : List String} {n : Nat} : Denotes numeral n →
      n < 2 ^ 63 → Accepts .cfgResTimeout (numeral :: later) (.cfgResTimeout n)
  | delay {numeral : String} {later : List String} {n : Nat} : Denotes numeral n →
      n < 2 ^ 63 → Accepts .delay (numeral :: later) (.delay n)
  | delayMs {numeral : String} {later : List String} {n : Nat} : Denotes numeral n →
      n < 2 ^ 63 → Accepts .delayMs (numeral :: later) (.delayMs n)
  | eol {arguments : List String} : Accepts .eol arguments .eol
  | cmd {first : String} {later : List String} :
      Accepts .cmd (first :: later) (.cmd (" ".intercalate (first :: later)))
  | res {first : String} {later : List String} :
      Accepts .res (first :: later) (.res (" ".intercalate (first :: later)))

theorem ofArguments_of_accepts {k : Keyword} {arguments : List String} {d : Directive}
    (h : Accepts k arguments d) : ofArguments k arguments = .ok d := by
  cases h with
  | @connect port numeral later rate hdenotes hrange =>
    have hrate : (UInt32.ofNat rate).toNat = rate := UInt32.toNat_ofNat_of_lt' hrange
    have hread := readBaudRate_eq_ok_iff.2 (hrate.symm ▸ hdenotes)
    exact map_eq_ok_iff.2 ⟨_, hread, rfl⟩
  | cfgResTimeout hdenotes hrange | delay hdenotes hrange | delayMs hdenotes hrange =>
    exact map_eq_ok_iff.2 ⟨_, readCount_eq_ok_iff.2 ⟨hdenotes, hrange⟩, rfl⟩
  | cr =>
    have hread : readEol "CR" = .ok .cr := readEol_eq_ok_iff.2 rfl
    simp only [ofArguments, withFirst, hread]
  | lf =>
    have hread : readEol "LF" = .ok .lf := readEol_eq_ok_iff.2 rfl
    simp only [ofArguments, withFirst, hread]
  | crlf =>
    have hread : readEol "CRLF" = .ok .crlf := readEol_eq_ok_iff.2 rfl
    simp only [ofArguments, withFirst, hread]
  | disconnect | eol | cmd | res => rfl

theorem exists_count {k : Keyword} {arguments : List String} {build : Nat → Directive}
    {d : Directive}
    (h : withFirst k arguments (fun argument =>
      (readCount k.spelling "time value" argument).map build) = .ok d) :
    ∃ numeral later n, arguments = numeral :: later ∧ Denotes numeral (n : Nat) ∧ n < 2 ^ 63 ∧
      d = build n := by
  cases arguments with
  | nil => cases h
  | cons numeral later =>
    obtain ⟨n, hread, hd⟩ := map_eq_ok_iff.1 h
    obtain ⟨hdenotes, hrange⟩ := readCount_eq_ok_iff.1 hread
    exact ⟨numeral, later, n, rfl, hdenotes, hrange, hd⟩

theorem accepts_of_ofArguments {k : Keyword} {arguments : List String} {d : Directive}
    (h : ofArguments k arguments = .ok d) : Accepts k arguments d := by
  cases k with
  | connect =>
    rcases arguments with _ | ⟨port, _ | ⟨numeral, later⟩⟩
    · cases h
    · cases h
    · obtain ⟨rate, hread, rfl⟩ := map_eq_ok_iff.1 h
      have haccepts : Accepts .connect (port :: numeral :: later)
          (.connect port (.ofNat rate.toNat)) :=
        .connect (readBaudRate_eq_ok_iff.1 hread) rate.toNat_lt
      rwa [UInt32.ofNat_toNat] at haccepts
  | eol =>
    cases h
    exact .eol
  | disconnect | cmd | res =>
    rcases arguments with _ | ⟨first, later⟩
    · cases h
    · cases h
      constructor
  | cfgEol =>
    rcases arguments with _ | ⟨first, later⟩
    · cases h
    · simp only [ofArguments, withFirst] at h
      split at h
      · rename_i eol hread
        cases h
        rw [readEol_eq_ok_iff.1 hread]
        cases eol with
        | cr => exact .cr
        | lf => exact .lf
        | crlf => exact .crlf
      · cases h
  | cfgResTimeout =>
    obtain ⟨numeral, later, n, rfl, hdenotes, hrange, rfl⟩ := exists_count h
    exact .cfgResTimeout hdenotes hrange
  | delay =>
    obtain ⟨numeral, later, n, rfl, hdenotes, hrange, rfl⟩ := exists_count h
    exact .delay hdenotes hrange
  | delayMs =>
    obtain ⟨numeral, later, n, rfl, hdenotes, hrange, rfl⟩ := exists_count h
    exact .delayMs hdenotes hrange

theorem ofArguments_eq_ok_iff {k : Keyword} {arguments : List String} {d : Directive} :
    ofArguments k arguments = .ok d ↔ Accepts k arguments d :=
  ⟨accepts_of_ofArguments, ofArguments_of_accepts⟩

end Directive

def Keyword.needed : Keyword → Nat
  | connect => 2
  | eol => 0
  | _ => 1

namespace Directive

theorem ofArguments_of_few {k : Keyword} {arguments : List String}
    (h : arguments.length < k.needed) :
    ofArguments k arguments = .error (.missingArguments k.spelling) := by
  cases k with
  | connect =>
    have hfew : arguments.length < 2 := h
    rw [ofArguments_connect_eq_bind, requireArguments_of_lt hfew]
    rfl
  | eol => cases h
  | _ =>
    have hfew : arguments.length < 1 := h
    simp only [ofArguments, withFirst_eq_bind, requireArguments_of_lt hfew]
    rfl

/-- What follows the arguments that are asked for has no say in what comes of them, be it a
directive or a fault. -/
theorem ofArguments_append {k : Keyword} {arguments : List String} (hcmd : k ≠ .cmd)
    (hres : k ≠ .res) (h : k.needed ≤ arguments.length) (later : List String) :
    ofArguments k (arguments ++ later) = ofArguments k arguments := by
  cases k with
  | cmd => exact absurd rfl hcmd
  | res => exact absurd rfl hres
  | eol => rfl
  | connect =>
    rcases arguments with _ | ⟨port, _ | ⟨numeral, more⟩⟩
    · cases h
    · simp [Keyword.needed] at h
    · rfl
  | disconnect | cfgEol | cfgResTimeout | delay | delayMs =>
    cases arguments with
    | nil => cases h
    | cons first more => rfl

inductive TakesNumber : Keyword → List String → Prop where
  | connect {port : String} : TakesNumber .connect [port]
  | cfgResTimeout : TakesNumber .cfgResTimeout []
  | delay : TakesNumber .delay []
  | delayMs : TakesNumber .delayMs []

theorem map_eq_ok_iff_and {ε α β : Type} {p : Prop} {result result' : Except ε α}
    (h : ∀ a, result = .ok a ↔ p ∧ result' = .ok a) (f : α → β) (b : β) :
    result.map f = .ok b ↔ p ∧ result'.map f = .ok b := by
  simp only [map_eq_ok_iff, h]
  constructor
  · rintro ⟨a, ⟨hp, ha⟩, hb⟩
    exact ⟨hp, a, ha, hb⟩
  · rintro ⟨hp, a, ha, hb⟩
    exact ⟨a, ⟨hp, ha⟩, hb⟩

theorem ofArguments_dressed_iff {k : Keyword} {before : List String} (htakes : TakesNumber k before)
    (sign : Numeral.Sign) (zeros : Nat) {digits : List Char} (h : Numeral.IsDigits digits)
    (later : List String) (d : Directive) :
    ofArguments k (before ++ Numeral.dressed sign zeros digits :: later) = .ok d ↔
      (sign = .minus → Numeral.natural digits = 0) ∧
        ofArguments k (before ++ String.ofList digits :: later) = .ok d := by
  cases htakes with
  | connect =>
    apply map_eq_ok_iff_and
    intro rate
    rw [readBaudRate_eq_ok_iff_read, readBaudRate_eq_ok_iff_read]
    exact Numeral.read_dressed_iff sign zeros h rate.toNat
  | cfgResTimeout | delay | delayMs =>
    apply map_eq_ok_iff_and
    intro n
    rw [readCount_eq_ok_iff_read, readCount_eq_ok_iff_read]
    exact Numeral.read_dressed_iff sign zeros h n

theorem pause_of_accepted {numeral : String} {n : Nat} (hdenotes : Denotes numeral n)
    (hrange : n < 2 ^ 63) (later : List String) :
    (ofArguments .delay (numeral :: later)).map pause = .ok (1000 * n) ∧
      (ofArguments .delayMs (numeral :: later)).map pause = .ok n := by
  rw [ofArguments_of_accepts (.delay hdenotes hrange),
    ofArguments_of_accepts (.delayMs hdenotes hrange)]
  exact ⟨rfl, rfl⟩

/-- Checking arguments accepts what each directive takes, and nothing else. A pause lasts as long as
is denoted, in seconds or in milliseconds. Zeros in front of a number and a sign do not change what
is accepted, except that a minus admits only zero; and neither does anything behind the arguments
that are asked for, except for `CMD` and `RES`. -/
theorem arguments_validated :
    (∀ k arguments d, ofArguments k arguments = .ok d ↔ Accepts k arguments d) ∧
    (∀ numeral later, ∀ n : Nat, Denotes numeral n → n < 2 ^ 63 →
      (ofArguments .delay (numeral :: later)).map pause = .ok (1000 * n) ∧
        (ofArguments .delayMs (numeral :: later)).map pause = .ok n) ∧
    (∀ k before, TakesNumber k before → ∀ sign zeros digits, Numeral.IsDigits digits →
      ∀ later d, ofArguments k (before ++ Numeral.dressed sign zeros digits :: later) = .ok d ↔
        (sign = .minus → Numeral.natural digits = 0) ∧
          ofArguments k (before ++ String.ofList digits :: later) = .ok d) ∧
    (∀ k arguments, arguments.length < k.needed →
      ofArguments k arguments = .error (.missingArguments k.spelling)) ∧
    (∀ k arguments later, k ≠ .cmd → k ≠ .res → k.needed ≤ arguments.length →
      ofArguments k (arguments ++ later) = ofArguments k arguments) := by
  refine ⟨fun k arguments d => ofArguments_eq_ok_iff, ?_, ?_, ?_, ?_⟩
  · intro numeral later n hdenotes hrange
    exact pause_of_accepted hdenotes hrange later
  · intro k before htakes sign zeros digits hdigits later d
    exact ofArguments_dressed_iff htakes sign zeros hdigits later d
  · intro k arguments hfew
    exact ofArguments_of_few hfew
  · intro k arguments later hcmd hres henough
    exact ofArguments_append hcmd hres henough later

/-- The longest pause in seconds with a sign and zeros, and a zero with a minus as a baud rate. -/
theorem arguments_validated_at_limits :
    ofArguments .delay ["+009223372036854775807", "x"] = .ok (.delay 9223372036854775807) ∧
      ofArguments .connect ["p", "-00"] = .ok (.connect "p" 0) := by
  obtain ⟨-, -, hdressed, -, hmore⟩ := arguments_validated
  have hlimit : Numeral.IsDigits "9223372036854775807".toList :=
    ⟨nofun, List.all_eq_true.1 (by decide +kernel)⟩
  have hzero : Numeral.IsDigits ['0'] := ⟨nofun, List.all_eq_true.1 (by decide)⟩
  constructor
  · have hplain : ofArguments .delay ["9223372036854775807"] =
        .ok (.delay 9223372036854775807) := by decide +kernel
    have hsigned := (hdressed .delay [] .delay .plus 2 _ hlimit [] _).2 ⟨nofun, hplain⟩
    have htext : Numeral.dressed .plus 2 "9223372036854775807".toList = "+009223372036854775807" :=
      rfl
    rw [htext] at hsigned
    exact (hmore .delay ["+009223372036854775807"] ["x"] nofun nofun (Nat.le_refl 1)).trans hsigned
  · have hplain : ofArguments .connect ["p", "0"] = .ok (.connect "p" 0) := by decide +kernel
    exact (hdressed .connect ["p"] .connect .minus 1 _ hzero [] _).2 ⟨fun _ => rfl, hplain⟩

end Directive

end SerialScript
