import SerialScript.Text.Occurrence

/-!
What the search for a pattern finds: the shortest prefix that ends in it. An occurrence is told by
its end and not by its start, because a wait for a pattern is over where the pattern ends. Three
facts follow for texts that arrive in parts: more text behind an occurrence does not move it, an
occurrence that is new ends in the new part, and a stretch in front may be forgotten once what is
kept is as long as the pattern less one.
-/

namespace SerialScript.Text

variable {α : Type}

/-- The text ends in the pattern, and none of its proper prefixes does. -/
structure FirstEnd (pattern text : List α) : Prop where
  isSuffix : pattern <:+ text
  least : ∀ shorter, shorter <+: text → pattern <:+ shorter → shorter = text

theorem exists_firstEnd {pattern text : List α} (h : pattern <:+ text) :
    ∃ found, found <+: text ∧ FirstEnd pattern found := by
  induction hn : text.length using Nat.strongRecOn generalizing text with
  | ind n ih =>
    by_cases hleast : ∀ shorter, shorter <+: text → pattern <:+ shorter → shorter = text
    · exact ⟨text, List.prefix_rfl, h, hleast⟩
    · simp only [Classical.not_forall] at hleast
      obtain ⟨shorter, hshort, hsuffix, hne⟩ := hleast
      have hlt : shorter.length < n := by
        have := hshort.length_le
        have : shorter.length ≠ text.length := fun e => hne (hshort.eq_of_length e)
        omega
      obtain ⟨found, hfound, hend⟩ := ih shorter.length hlt hsuffix rfl
      exact ⟨found, hfound.trans hshort, hend⟩

section Search

variable [BEq α] [LawfulBEq α]

theorem offsetWithin_eq_some_iff {pattern text : List α} {slack i : Nat} :
    offsetWithin pattern slack text = some i ↔
      i ≤ slack ∧ pattern <+: text.drop i ∧ ∀ j < i, ¬ pattern <+: text.drop j := by
  induction slack generalizing text i with
  | zero =>
    rw [offsetWithin]
    constructor
    · intro h
      split at h
      · rename_i hp
        cases h
        exact ⟨Nat.le_refl _, List.isPrefixOf_iff_prefix.1 hp, by simp⟩
      · cases h
    · rintro ⟨hi, hp, _⟩
      obtain rfl : i = 0 := by omega
      exact if_pos (List.isPrefixOf_iff_prefix.2 hp)
  | succ slack ih =>
    rw [offsetWithin]
    by_cases hp : pattern.isPrefixOf text
    · rw [if_pos hp]
      constructor
      · intro h
        cases h
        exact ⟨Nat.zero_le _, List.isPrefixOf_iff_prefix.1 hp, by simp⟩
      · rintro ⟨_, _, hleast⟩
        cases i with
        | zero => rfl
        | succ i => exact absurd (List.isPrefixOf_iff_prefix.1 hp) (hleast 0 (by omega))
    · rw [if_neg hp, Option.map_eq_some_iff]
      have hfirst : ¬ pattern <+: text := fun h => hp (List.isPrefixOf_iff_prefix.2 h)
      constructor
      · rintro ⟨k, hk, rfl⟩
        obtain ⟨hle, hocc, hleast⟩ := ih.1 hk
        refine ⟨by omega, by simpa using hocc, fun j hj => ?_⟩
        cases j with
        | zero => exact hfirst
        | succ j => simpa using hleast j (by omega)
      · rintro ⟨hle, hocc, hleast⟩
        cases i with
        | zero => exact absurd hocc hfirst
        | succ i =>
          refine ⟨i, ih.2 ⟨by omega, by simpa using hocc, fun j hj => ?_⟩, rfl⟩
          simpa using hleast (j + 1) (by omega)

omit [BEq α] [LawfulBEq α] in
theorem offset_le_of_prefix_drop {pattern text : List α} {i : Nat} (h : pattern <+: text.drop i)
    (hi : i ≤ text.length) : i ≤ text.length - pattern.length ∧ pattern.length ≤ text.length := by
  have := h.length_le
  rw [List.length_drop] at this
  omega

theorem firstOffset_eq_some_iff {pattern text : List α} {i : Nat} :
    firstOffset pattern text = some i ↔
      i ≤ text.length ∧ pattern <+: text.drop i ∧ ∀ j < i, ¬ pattern <+: text.drop j := by
  unfold firstOffset
  split
  · rename_i hshort
    constructor
    · intro h
      cases h
    · rintro ⟨hi, hp, _⟩
      have := offset_le_of_prefix_drop hp hi
      omega
  · rw [offsetWithin_eq_some_iff]
    constructor
    · rintro ⟨hi, h⟩
      exact ⟨by omega, h⟩
    · rintro ⟨hi, hp, hleast⟩
      exact ⟨(offset_le_of_prefix_drop hp hi).1, hp, hleast⟩

theorem firstEnd_of_firstOffset {pattern text : List α} {i : Nat}
    (h : firstOffset pattern text = some i) :
    FirstEnd pattern (text.take (i + pattern.length)) := by
  obtain ⟨hle, ⟨tail, htail⟩, hleast⟩ := firstOffset_eq_some_iff.1 h
  have htext : text = text.take i ++ pattern ++ tail := by
    rw [List.append_assoc, htail, List.take_append_drop]
  have hlen : (text.take i ++ pattern).length = i + pattern.length := by
    rw [List.length_append, List.length_take, Nat.min_eq_left hle]
  have hfound : text.take (i + pattern.length) = text.take i ++ pattern := by
    conv => lhs; rw [htext, ← hlen, List.take_left]
  constructor
  · rw [hfound]
    exact List.suffix_append _ _
  · rintro shorter hshort ⟨before, rfl⟩
    obtain ⟨more, hmore⟩ := hshort.trans (List.take_prefix _ _)
    have hocc : pattern <+: text.drop before.length := by
      rw [← hmore, List.append_assoc, List.drop_left]
      exact List.prefix_append _ _
    have hnot : ¬ before.length < i := fun hlt => hleast _ hlt hocc
    apply hshort.eq_of_length_le
    rw [hfound, hlen, List.length_append]
    omega

theorem firstOffset_of_firstEnd {pattern before rest : List α}
    (h : FirstEnd pattern (before ++ pattern)) :
    firstOffset pattern (before ++ pattern ++ rest) = some before.length := by
  rw [firstOffset_eq_some_iff]
  refine ⟨?_, ?_, ?_⟩
  · simp only [List.length_append]
    omega
  · rw [List.append_assoc, List.drop_left]
    exact List.prefix_append _ _
  · rintro j hj ⟨tail, htail⟩
    have hlt : j ≤ (before ++ pattern ++ rest).length := by
      simp only [List.length_append]
      omega
    have hcut : (before ++ pattern ++ rest).take j ++ pattern ++ tail =
        before ++ pattern ++ rest := by
      rw [List.append_assoc _ pattern tail, htail, List.take_append_drop]
    have hprefix : (before ++ pattern ++ rest).take j ++ pattern <+: before ++ pattern := by
      apply List.prefix_of_prefix_length_le ⟨tail, hcut⟩ (List.prefix_append _ _)
      rw [List.length_append, List.length_append, List.length_take, Nat.min_eq_left hlt]
      omega
    have hwhole := congrArg List.length (h.least _ hprefix (List.suffix_append _ _))
    rw [List.length_append, List.length_append, List.length_take, Nat.min_eq_left hlt] at hwhole
    omega

/-- The search cuts a text behind the first end of the pattern. -/
theorem takeThrough_eq_some_iff {pattern text found rest : List α} :
    takeThrough pattern text = some (found, rest) ↔
      found ++ rest = text ∧ FirstEnd pattern found := by
  simp only [takeThrough, Option.map_eq_some_iff, Prod.mk.injEq]
  constructor
  · rintro ⟨i, hi, rfl, rfl⟩
    exact ⟨List.take_append_drop _ _, firstEnd_of_firstOffset hi⟩
  · rintro ⟨rfl, hend⟩
    obtain ⟨before, rfl⟩ := hend.isSuffix
    refine ⟨before.length, firstOffset_of_firstEnd hend, ?_, ?_⟩
    · rw [← List.length_append, List.take_left]
    · rw [← List.length_append, List.drop_left]

theorem takeThrough_eq_none_iff {pattern text : List α} :
    takeThrough pattern text = none ↔ ¬ pattern <:+: text := by
  constructor
  · intro h hin
    obtain ⟨whole, hsuffix, hprefix⟩ := List.infix_iff_suffix_prefix.1 hin
    obtain ⟨found, hfound, hend⟩ := exists_firstEnd hsuffix
    obtain ⟨rest, hrest⟩ := hfound.trans hprefix
    exact absurd (takeThrough_eq_some_iff.2 ⟨hrest, hend⟩) (by rw [h]; simp)
  · intro h
    cases hs : takeThrough pattern text with
    | none => rfl
    | some cut =>
      obtain ⟨rfl, hend⟩ := takeThrough_eq_some_iff.1 hs
      exact absurd (hend.isSuffix.isInfix.trans (List.prefix_append _ _).isInfix) h

theorem takeThrough_append {pattern text found rest : List α}
    (h : takeThrough pattern text = some (found, rest)) (more : List α) :
    takeThrough pattern (text ++ more) = some (found, rest ++ more) := by
  obtain ⟨rfl, hend⟩ := takeThrough_eq_some_iff.1 h
  exact takeThrough_eq_some_iff.2 ⟨(List.append_assoc _ _ _).symm, hend⟩

/-- An occurrence that was not there before ends in the part that is new. -/
theorem length_lt_of_fresh {pattern old new found rest : List α}
    (h : takeThrough pattern (old ++ new) = some (found, rest)) (hold : ¬ pattern <:+: old) :
    old.length < found.length := by
  obtain ⟨hcut, hend⟩ := takeThrough_eq_some_iff.1 h
  refine Nat.lt_of_not_le fun hle => hold ?_
  have hfound : found <+: old ++ new := ⟨rest, hcut⟩
  exact List.infix_iff_suffix_prefix.2
    ⟨found, hend.isSuffix, List.prefix_of_prefix_length_le hfound (List.prefix_append _ _) hle⟩

omit [BEq α] [LawfulBEq α] in
/-- A new end of the pattern lies behind what was dropped, and so does the pattern that ends there:
what was kept is all there was, or as long as the pattern less one. -/
theorem exists_suffix_behind {pattern dropped kept new text : List α}
    (hnone : ¬ pattern <:+: dropped ++ kept)
    (hkept : dropped = [] ∨ pattern.length ≤ kept.length + 1)
    (htext : text <+: dropped ++ (kept ++ new)) (hsuffix : pattern <:+ text) :
    ∃ text', text = dropped ++ text' ∧ pattern <:+ text' := by
  rcases hkept with rfl | hkept
  · exact ⟨text, rfl, hsuffix⟩
  have hold : dropped ++ kept <+: dropped ++ (kept ++ new) := by
    rw [← List.append_assoc]
    exact List.prefix_append _ _
  have hlong : dropped.length + kept.length < text.length := by
    refine Nat.lt_of_not_le fun hle => hnone ?_
    rw [← List.length_append] at hle
    exact List.infix_iff_suffix_prefix.2
      ⟨text, hsuffix, List.prefix_of_prefix_length_le htext hold hle⟩
  obtain ⟨text', rfl⟩ :=
    List.prefix_of_prefix_length_le (List.prefix_append dropped _) htext (by omega)
  rw [List.length_append] at hlong
  exact ⟨text', rfl, List.suffix_of_suffix_length_le hsuffix (List.suffix_append _ _) (by omega)⟩

/-- The search sees the same occurrences with and without what was dropped. -/
theorem takeThrough_append_left {pattern dropped kept : List α}
    (hnone : ¬ pattern <:+: dropped ++ kept)
    (hkept : dropped = [] ∨ pattern.length ≤ kept.length + 1) (new : List α) :
    takeThrough pattern (dropped ++ (kept ++ new)) =
      (takeThrough pattern (kept ++ new)).map fun (found, rest) => (dropped ++ found, rest) := by
  cases hs : takeThrough pattern (kept ++ new) with
  | none =>
    refine takeThrough_eq_none_iff.2 fun hin => takeThrough_eq_none_iff.1 hs ?_
    obtain ⟨text, hsuffix, hprefix⟩ := List.infix_iff_suffix_prefix.1 hin
    obtain ⟨text', rfl, hsuffix'⟩ := exists_suffix_behind hnone hkept hprefix hsuffix
    exact List.infix_iff_suffix_prefix.2
      ⟨text', hsuffix', (List.prefix_append_right_inj dropped).1 hprefix⟩
  | some cut =>
    obtain ⟨hcut, hend⟩ := takeThrough_eq_some_iff.1 hs
    refine takeThrough_eq_some_iff.2 ⟨by rw [List.append_assoc, hcut], ?_, ?_⟩
    · exact hend.isSuffix.trans (List.suffix_append _ _)
    · intro shorter hshort hsuffix
      have hwhole : dropped ++ cut.1 <+: dropped ++ (kept ++ new) :=
        (List.prefix_append_right_inj dropped).2 ⟨cut.2, hcut⟩
      obtain ⟨shorter', rfl, hsuffix'⟩ :=
        exists_suffix_behind hnone hkept (hshort.trans hwhole) hsuffix
      rw [hend.least shorter' ((List.prefix_append_right_inj dropped).1 hshort) hsuffix']

theorem takeThrough_singleton_eq_none {a : α} {text : List α} (h : a ∉ text) :
    takeThrough [a] text = none := by
  rw [takeThrough_eq_none_iff]
  intro hin
  exact h (hin.sublist.subset (List.mem_singleton.2 rfl))

theorem takeThrough_singleton {a : α} {before : List α} (h : a ∉ before) (after : List α) :
    takeThrough [a] (before ++ a :: after) = some (before ++ [a], after) := by
  refine takeThrough_eq_some_iff.2 ⟨List.append_cons before a after ▸ rfl, ?_, ?_⟩
  · exact List.suffix_append before [a]
  · intro shorter hshort hsuffix
    rcases List.prefix_concat_iff.1 hshort with heq | hbefore
    · exact heq
    · have hin := hbefore.subset (hsuffix.subset (List.mem_singleton.2 rfl))
      exact absurd hin h

end Search

end SerialScript.Text
