import Mathlib.Data.Finset.Card
import Mathlib.Data.Nat.Find
import Mathlib.Order.Bounds.Basic
import SerialScript.Proofs.Text.Occurrence

/-!
Occurrences that do not overlap. Searching on behind each match picks the least place there is, then
the least that the first leaves free, and so on. No choice of places does better: of places that are
kept apart, at most one lies before the end of the least occurrence, and that one may as well be the
least.
-/

namespace SerialScript.Text

variable {α : Type} {pattern text : List α}

def OccursAt (pattern text : List α) (place : Nat) : Prop := pattern <+: text.drop place

structure Apart (pattern text : List α) (places : Finset Nat) : Prop where
  occurs : ∀ i ∈ places, OccursAt pattern text i
  disjoint : ∀ i ∈ places, ∀ j ∈ places, i < j → i + pattern.length ≤ j

/-- How many places of the pattern can be kept apart. -/
def packable (pattern text : List α) : Set Nat :=
  {count | ∃ places : Finset Nat, Apart pattern text places ∧ places.card = count}

/-- The places that are found from a start on, if each search goes on behind the match before it. -/
inductive Searched (pattern text : List α) : Nat → List Nat → Prop where
  | missing {start} : (∀ i, start ≤ i → ¬ OccursAt pattern text i) → Searched pattern text start []
  | found {start place later} : start ≤ place → OccursAt pattern text place →
      (∀ i, start ≤ i → OccursAt pattern text i → place ≤ i) →
      Searched pattern text (place + pattern.length) later →
      Searched pattern text start (place :: later)

theorem OccursAt.add_length_le {place : Nat} (h : OccursAt pattern text place)
    (hsome : pattern ≠ []) : place + pattern.length ≤ text.length := by
  have hlen := List.IsPrefix.length_le h
  have hpos := List.length_pos_iff.2 hsome
  rw [List.length_drop] at hlen
  omega

theorem isInfix_drop_iff {start : Nat} :
    pattern <:+: text.drop start ↔ ∃ i, start ≤ i ∧ OccursAt pattern text i := by
  unfold OccursAt
  constructor
  · rintro ⟨before, after, h⟩
    refine ⟨start + before.length, Nat.le_add_right _ _, after, ?_⟩
    rw [← List.drop_drop, ← h, List.append_assoc, List.drop_left]
  · rintro ⟨i, hi, hocc⟩
    obtain ⟨gap, rfl⟩ := Nat.exists_eq_add_of_le hi
    rw [← List.drop_drop] at hocc
    exact hocc.isInfix.trans (List.drop_suffix _ _).isInfix

namespace Searched

variable {start place : Nat} {places later : List Nat}

theorem tail (h : Searched pattern text start (place :: later)) :
    Searched pattern text (place + pattern.length) later := by
  cases h
  assumption

/-- When no place is left the pattern is not behind the start. -/
theorem missing_of_nil (h : Searched pattern text start []) :
    ¬ pattern <:+: text.drop start := by
  cases h with
  | missing hnone =>
    rw [isInfix_drop_iff]
    rintro ⟨i, hi, hocc⟩
    exact hnone i hi hocc

theorem start_le (h : Searched pattern text start places) : ∀ i ∈ places, start ≤ i := by
  induction h with
  | missing => exact List.forall_mem_nil _
  | found hstart _ _ _ ih =>
    refine List.forall_mem_cons.2 ⟨hstart, fun i hi => ?_⟩
    have := ih i hi
    omega

theorem occurs (h : Searched pattern text start places) :
    ∀ i ∈ places, OccursAt pattern text i := by
  induction h with
  | missing => exact List.forall_mem_nil _
  | found _ hocc _ _ ih => exact List.forall_mem_cons.2 ⟨hocc, ih⟩

theorem pairwise (h : Searched pattern text start places) :
    places.Pairwise fun i j => i + pattern.length ≤ j := by
  induction h with
  | missing => exact .nil
  | found _ _ _ hlater ih => exact .cons hlater.start_le ih

theorem ascending (h : Searched pattern text start places) (hsome : pattern ≠ []) :
    places.Pairwise fun i j => i < j ∧ i + pattern.length ≤ j := by
  have hpos := List.length_pos_iff.2 hsome
  exact h.pairwise.imp fun hij => ⟨by omega, hij⟩

theorem apart (h : Searched pattern text start places) (hsome : pattern ≠ []) :
    Apart pattern text places.toFinset ∧ places.toFinset.card = places.length := by
  have hlt := h.ascending hsome
  refine ⟨⟨fun i hi => h.occurs i (List.mem_toFinset.1 hi), ?_⟩,
    List.toFinset_card_of_nodup (hlt.imp fun hij => Nat.ne_of_lt hij.1)⟩
  intro i hi j hj hij
  obtain ⟨m, hm, rfl⟩ := List.getElem_of_mem (List.mem_toFinset.1 hi)
  obtain ⟨n, hn, rfl⟩ := List.getElem_of_mem (List.mem_toFinset.1 hj)
  -- Places come in ascending order, so the smaller of two is the one found first.
  rcases Nat.lt_trichotomy m n with hmn | rfl | hnm
  · exact List.pairwise_iff_getElem.1 h.pairwise m n hm hn hmn
  · omega
  · have := List.pairwise_iff_getElem.1 hlt n m hn hm hnm
    omega

end Searched

/-- Places kept apart of which none lies before the least occurrence: at most one of them lies
before the end of that occurrence. -/
theorem Apart.card_le_behind {places : Finset Nat} {place : Nat}
    (h : Apart pattern text places) (hleast : ∀ i ∈ places, place ≤ i) :
    places.card ≤ (places.filter (place + pattern.length ≤ ·)).card + 1 := by
  have hone : (places.filter (¬ place + pattern.length ≤ ·)).card ≤ 1 := by
    rw [Finset.card_le_one]
    intro i hi j hj
    rw [Finset.mem_filter] at hi hj
    have hi' := hleast i hi.1
    have hj' := hleast j hj.1
    rcases Nat.lt_trichotomy i j with hij | hij | hji
    · have := h.disjoint i hi.1 j hj.1 hij
      omega
    · exact hij
    · have := h.disjoint j hj.1 i hi.1 hji
      omega
  have hsplit := Finset.card_filter_add_card_filter_not (s := places) (place + pattern.length ≤ ·)
  omega

/-- Searching on finds as many places as can be kept apart. -/
theorem Searched.card_le {start : Nat} {places : List Nat} {apart : Finset Nat}
    (h : Searched pattern text start places) (hapart : Apart pattern text apart)
    (hstart : ∀ i ∈ apart, start ≤ i) : apart.card ≤ places.length := by
  induction h generalizing apart with
  | missing hnone =>
    have hempty : apart = ∅ := Finset.eq_empty_of_forall_notMem fun i hi =>
      hnone i (hstart i hi) (hapart.occurs i hi)
    rw [hempty, Finset.card_empty]
    exact Nat.zero_le _
  | @found start place later _ _ hleast _ ih =>
    have hone := hapart.card_le_behind fun i hi => hleast i (hstart i hi) (hapart.occurs i hi)
    have hbehind : Apart pattern text (apart.filter (place + pattern.length ≤ ·)) := by
      constructor
      · intro i hi
        exact hapart.occurs i (Finset.mem_of_mem_filter i hi)
      · intro i hi j hj
        exact hapart.disjoint i (Finset.mem_of_mem_filter i hi) j (Finset.mem_of_mem_filter j hj)
    have hlater := ih hbehind fun i hi => (Finset.mem_filter.1 hi).2
    rw [List.length_cons]
    omega

theorem Searched.isGreatest {places : List Nat} (h : Searched pattern text 0 places)
    (hsome : pattern ≠ []) : IsGreatest (packable pattern text) places.length := by
  constructor
  · obtain ⟨hapart, hcard⟩ := h.apart hsome
    exact ⟨_, hapart, hcard⟩
  · rintro count ⟨apart, hapart, rfl⟩
    exact h.card_le hapart fun i _ => Nat.zero_le i

theorem exists_searched (hsome : pattern ≠ []) (text : List α) (start : Nat) :
    ∃ places, Searched pattern text start places := by
  induction hn : text.length - start using Nat.strongRecOn generalizing start with
  | ind n ih =>
    by_cases hex : ∃ i, start ≤ i ∧ OccursAt pattern text i
    · classical
      have hleast := fun i hi hocc => Nat.find_min' hex (m := i) ⟨hi, hocc⟩
      obtain ⟨hstart, hocc⟩ := Nat.find_spec hex
      have hpos := List.length_pos_iff.2 hsome
      have hend := hocc.add_length_le hsome
      obtain ⟨later, hlater⟩ := ih _ (by omega) (Nat.find hex + pattern.length) rfl
      exact ⟨_, .found hstart hocc hleast hlater⟩
    · simp only [not_exists, not_and] at hex
      exact ⟨[], .missing hex⟩

section Search

variable [BEq α] [LawfulBEq α]

/-- To search on from a start is to drain the text from there. -/
theorem Searched.takeThrough_of_cons {start place : Nat} {later : List Nat}
    (h : Searched pattern text start (place :: later)) (hsome : pattern ≠ []) :
    ∃ found, takeThrough pattern (text.drop start) =
      some (found, text.drop (place + pattern.length)) := by
  cases h with
  | found hstart hocc hleast _ =>
    have hend := hocc.add_length_le hsome
    have hoffset : firstOffset pattern (text.drop start) = some (place - start) := by
      rw [firstOffset_eq_some_iff]
      refine ⟨?_, ?_, ?_⟩
      · rw [List.length_drop]
        omega
      · rw [List.drop_drop, Nat.add_sub_cancel' hstart]
        exact hocc
      · intro j hj hearlier
        rw [List.drop_drop] at hearlier
        have := hleast (start + j) (Nat.le_add_right _ _) hearlier
        omega
    refine ⟨(text.drop start).take (place - start + pattern.length), ?_⟩
    rw [takeThrough, hoffset, Option.map_some, List.drop_drop, ← Nat.add_assoc,
      Nat.add_sub_cancel' hstart]

end Search

end SerialScript.Text
