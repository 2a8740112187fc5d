/-!
Blank characters and the words between them. A text is read through its list of characters, so
that every fact about words is a fact about lists.
-/

namespace SerialScript.Text

/-- The characters with the White_Space property, twenty-five code points in eleven ranges. -/
def isBlank (c : Char) : Bool :=
  let n := c.toNat
  (9 ≤ n && n ≤ 13) || n == 0x20 || n == 0x85 || n == 0xA0 || n == 0x1680 ||
    (0x2000 ≤ n && n ≤ 0x200A) || n == 0x2028 || n == 0x2029 || n == 0x202F || n == 0x205F ||
    n == 0x3000

/-- The word that begins at the head, empty if none does, and the words after it. -/
def leadingWord : List Char → List Char × List (List Char)
  | [] => ([], [])
  | c :: rest =>
    let (word, later) := leadingWord rest
    if isBlank c then ([], if word = [] then later else word :: later) else (c :: word, later)

/-- The words of a text: its maximal runs of characters that are not blank, in order. -/
def words (text : List Char) : List (List Char) :=
  let (word, later) := leadingWord text
  if word = [] then later else word :: later

def tokens (text : String) : List String := (words text.toList).map String.ofList

def trim (text : List Char) : List Char :=
  ((text.dropWhile isBlank).reverse.dropWhile isBlank).reverse

@[simp] theorem words_nil : words [] = [] := rfl

theorem words_cons_of_isBlank {c : Char} (h : isBlank c = true) (rest : List Char) :
    words (c :: rest) = words rest := by
  simp [words, leadingWord, h]

theorem leadingWord_append {word : List Char} (hw : ∀ c ∈ word, isBlank c = false) {b : Char}
    (hb : isBlank b = true) (rest : List Char) :
    leadingWord (word ++ b :: rest) = (word, words rest) := by
  induction word with
  | nil => simp [leadingWord, words, hb]
  | cons c word ih =>
    have hc : isBlank c = false := hw c (by simp)
    have hr := ih fun d hd => hw d (by simp [hd])
    simp [leadingWord, hr, hc]

/-- A word is cut off at the first blank that follows it. -/
theorem words_append {word : List Char} (hw : ∀ c ∈ word, isBlank c = false) (hne : word ≠ [])
    {b : Char} (hb : isBlank b = true) (rest : List Char) :
    words (word ++ b :: rest) = word :: words rest := by
  simp [words, leadingWord_append hw hb, hne]

end SerialScript.Text
