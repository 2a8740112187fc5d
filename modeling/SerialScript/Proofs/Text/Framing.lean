import Mathlib.Data.List.Chain
import SerialScript.Proofs.Text.Utf8
import SerialScript.Text.Blank

namespace SerialScript.Text

def IsWord (word : List Char) : Prop := word ≠ [] ∧ ∀ c ∈ word, isBlank c = false

structure Tidy (text : List Char) : Prop where
  ne_nil : text ≠ []
  head : ∀ c ∈ text.head?, isBlank c = false
  last : ∀ c ∈ text.getLast?, isBlank c = false
  single : text.IsChain fun a b => isBlank a = true → isBlank b = false
  space : ∀ c ∈ text, isBlank c = true → c = ' '

theorem isWord_of_mem_leadingWord (text : List Char) :
    (∀ c ∈ (leadingWord text).1, isBlank c = false) ∧
      ∀ word ∈ (leadingWord text).2, IsWord word := by
  induction text with
  | nil => exact ⟨List.forall_mem_nil _, List.forall_mem_nil _⟩
  | cons c rest ih =>
    obtain ⟨hfirst, hlater⟩ := ih
    rw [leadingWord]
    cases hc : isBlank c with
    | false => exact ⟨List.forall_mem_cons.2 ⟨hc, hfirst⟩, hlater⟩
    | true =>
      refine ⟨List.forall_mem_nil _, ?_⟩
      by_cases hne : (leadingWord rest).1 = []
      · simpa [hne] using hlater
      · simpa [hne] using ⟨⟨hne, hfirst⟩, hlater⟩

theorem isWord_of_mem_words {text word : List Char} (h : word ∈ words text) : IsWord word := by
  obtain ⟨hfirst, hlater⟩ := isWord_of_mem_leadingWord text
  simp only [words] at h
  by_cases hne : (leadingWord text).1 = []
  · rw [if_pos hne] at h
    exact hlater word h
  · rw [if_neg hne, List.mem_cons] at h
    rcases h with rfl | h
    · exact ⟨hne, hfirst⟩
    · exact hlater word h

theorem IsWord.tidy {word : List Char} (h : IsWord word) : Tidy word where
  ne_nil := h.1
  head c hc := h.2 c (List.mem_of_head? hc)
  last c hc := h.2 c (List.mem_of_getLast? hc)
  single := by
    have hall : word.Pairwise fun a b => isBlank a = true → isBlank b = false :=
      List.pairwise_of_forall_mem_list fun _ _ b hb _ => h.2 b hb
    exact hall.isChain
  space c hc hblank := absurd hblank (Bool.eq_false_iff.1 (h.2 c hc))

theorem Tidy.cons {word text : List Char} (hword : IsWord word) (h : Tidy text) :
    Tidy (word ++ ' ' :: text) where
  ne_nil := List.append_ne_nil_of_left_ne_nil hword.1 _
  head c hc := by
    rw [List.head?_append_of_ne_nil _ hword.1] at hc
    exact hword.tidy.head c hc
  last c hc := by
    rw [List.getLast?_append_of_ne_nil _ (List.cons_ne_nil _ _),
      List.getLast?_cons_of_ne_nil h.ne_nil] at hc
    exact h.last c hc
  single := by
    refine hword.tidy.single.append ?_ ?_
    · exact h.single.cons fun c hc _ => h.head c hc
    · intro a ha _ _ hblank
      rw [hword.tidy.last a ha] at hblank
      cases hblank
  space c hc hblank := by
    rcases List.mem_append.1 hc with hc | hc
    · exact hword.tidy.space c hc hblank
    · rcases List.mem_cons.1 hc with rfl | hc
      · rfl
      · exact h.space c hc hblank

theorem tidy_intercalate {texts : List (List Char)} (hne : texts ≠ [])
    (h : ∀ word ∈ texts, IsWord word) : Tidy ([' '].intercalate texts) := by
  induction texts with
  | nil => exact absurd rfl hne
  | cons word later ih =>
    obtain ⟨hword, hlater⟩ := List.forall_mem_cons.1 h
    cases later with
    | nil =>
      rw [List.intercalate_singleton]
      exact hword.tidy
    | cons next rest =>
      rw [List.intercalate_cons_cons, List.append_assoc, List.singleton_append]
      exact (ih (List.cons_ne_nil _ _) hlater).cons hword

theorem mem_of_mem_bytes {c : Char} {b : UInt8} (hc : bytes [c] = [b]) {text : List Char}
    (h : b ∈ bytes text) : c ∈ text := by
  obtain ⟨before, after, hsplit⟩ := List.append_of_mem h
  have hin : before ++ bytes [c] ++ after = bytes text := by
    rw [hc, hsplit, List.append_assoc, List.singleton_append]
  obtain ⟨left, right, rfl, -⟩ := exists_of_append_bytes_append (List.cons_ne_nil _ _) hin
  simp

/-- What holds no blank but spaces has no byte of an end of line. -/
theorem notMem_bytes_of_space {text : List Char} (h : ∀ c ∈ text, isBlank c = true → c = ' ') :
    0x0D ∉ bytes text ∧ 0x0A ∉ bytes text := by
  have hcr : bytes ['\r'] = [0x0D] := by decide
  have hlf : bytes ['\n'] = [0x0A] := by decide
  constructor
  · intro hmem
    exact absurd (h '\r' (mem_of_mem_bytes hcr hmem) (by decide)) (by decide)
  · intro hmem
    exact absurd (h '\n' (mem_of_mem_bytes hlf hmem) (by decide)) (by decide)

section Cutting

variable {α : Type} [BEq α] [LawfulBEq α]

/-- A mark leaves less behind it than there was. -/
theorem length_sub_lt {mark text : List α} (hmark : mark ≠ []) {i : Nat}
    (hcut : firstOffset mark text = some i) :
    text.length - (i + mark.length) < text.length := by
  have hpos : 0 < mark.length := List.length_pos_of_ne_nil hmark
  obtain ⟨hi, hocc, -⟩ := firstOffset_eq_some_iff.1 hcut
  have hroom := offset_le_of_prefix_drop hocc hi
  omega

/-- Cuts a text at every mark, from the first on. The last piece is what follows the last mark. A
mark of no length does not cut. -/
def piecesBy (mark text : List α) : List (List α) :=
  if hmark : mark = [] then [text]
  else
    match hcut : firstOffset mark text with
    | none => [text]
    | some i =>
      have := length_sub_lt hmark hcut
      text.take i :: piecesBy mark (text.drop (i + mark.length))
termination_by text.length

theorem firstOffset_of_notMem {first : α} {mark piece : List α} (hpiece : first ∉ piece)
    (rest : List α) :
    firstOffset (first :: mark) (piece ++ (first :: mark ++ rest)) = some piece.length := by
  rw [firstOffset_eq_some_iff]
  refine ⟨by simp, ?_, ?_⟩
  · rw [List.drop_left]
    exact List.prefix_append _ _
  · rintro j hj ⟨after, hafter⟩
    -- The mark would begin within the piece.
    have hget := congrArg List.head? hafter
    rw [List.drop_append_of_le_length (Nat.le_of_lt hj), List.drop_eq_getElem_cons hj] at hget
    simp only [List.cons_append, List.head?_cons, Option.some.injEq] at hget
    exact hpiece (hget ▸ List.getElem_mem hj)

theorem piecesBy_append {first : α} {mark piece : List α} (hpiece : first ∉ piece)
    (rest : List α) :
    piecesBy (first :: mark) (piece ++ (first :: mark ++ rest)) =
      piece :: piecesBy (first :: mark) rest := by
  rw [piecesBy, dif_neg (List.cons_ne_nil _ _)]
  split
  · rename_i hcut
    rw [firstOffset_of_notMem hpiece] at hcut
    cases hcut
  · rename_i i hcut
    rw [firstOffset_of_notMem hpiece] at hcut
    cases hcut
    have hbehind : (piece ++ (first :: mark ++ rest)).drop (piece.length + (first :: mark).length) =
        rest := by
      rw [← List.length_append, ← List.append_assoc, List.drop_left]
    simp only [List.take_left, hbehind]

theorem piecesBy_nil (mark : List α) : piecesBy mark [] = [[]] := by
  rw [piecesBy]
  split
  · rfl
  · rename_i hmark
    split
    · rfl
    · rename_i i hcut
      obtain ⟨-, hocc, -⟩ := firstOffset_eq_some_iff.1 hcut
      rw [List.drop_nil, List.prefix_nil] at hocc
      exact absurd hocc hmark

/-- Pieces with a mark behind each come back, and nothing follows the last. -/
theorem piecesBy_marked {first : α} {mark : List α} {pieces : List (List α)}
    (h : ∀ piece ∈ pieces, first ∉ piece) :
    piecesBy (first :: mark) (pieces.flatMap fun piece => piece ++ first :: mark) =
      pieces ++ [[]] := by
  induction pieces with
  | nil => exact piecesBy_nil _
  | cons piece later ih =>
    obtain ⟨hpiece, hlater⟩ := List.forall_mem_cons.1 h
    rw [List.flatMap_cons, List.append_assoc, piecesBy_append hpiece, ih hlater, List.cons_append]

end Cutting

end SerialScript.Text
