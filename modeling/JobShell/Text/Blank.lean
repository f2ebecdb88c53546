/-
Module: JobShell.Text.Blank
Purpose: Blank characters and the words between them.  Every reading of a line starts from `words`,
  so what separates two words is decided here and nowhere else.
Main exports: isBlank, trimStart, trim, words
-/
namespace JobShell.Text

/-- The characters with the property White_Space. -/
def isBlank (c : Char) : Bool :=
  let code := c.toNat
  (9 ≤ code && code ≤ 13) || code == 0x20 || code == 0x85 || code == 0xA0 || code == 0x1680 ||
    (0x2000 ≤ code && code ≤ 0x200A) || code == 0x2028 || code == 0x2029 || code == 0x202F ||
    code == 0x205F || code == 0x3000

/-- What is left of a text without its leading blanks. -/
def trimStart (text : List Char) : List Char :=
  text.dropWhile isBlank

/-- What is left of a text without its leading and trailing blanks. -/
def trim (text : List Char) : List Char :=
  (trimStart (trimStart text).reverse).reverse

/-- Puts a character in front of the first word. -/
def consFirst (c : Char) : List (List Char) → List (List Char)
  | [] => [[c]]
  | word :: rest => (c :: word) :: rest

/-- The maximal runs of characters that are not blank, in order. -/
def words : List Char → List (List Char)
  | [] => []
  | [c] => if isBlank c then [] else [[c]]
  | c :: d :: rest =>
      if isBlank c then words (d :: rest)
      else if isBlank d then [c] :: words (d :: rest)
      else consFirst c (words (d :: rest))

/-- No word is empty. -/
theorem ne_nil_of_mem_words {text word : List Char} (member : word ∈ words text) : word ≠ [] := by
  fun_induction words text with
  | case1 => simp at member
  | case2 c blank => simp at member
  | case3 c notBlank => simp_all
  | case4 c d rest blank ih => exact ih member
  | case5 c d rest notBlank blank ih =>
      rcases List.mem_cons.1 member with rfl | later
      · simp
      · exact ih later
  | case6 c d rest notBlank notBlank' ih =>
      cases tail : words (d :: rest) with
      | nil => simp_all [consFirst]
      | cons first others =>
          rw [tail, consFirst] at member
          rcases List.mem_cons.1 member with rfl | later
          · simp
          · exact ih (by rw [tail]; exact List.mem_cons_of_mem _ later)

/-- No word holds a blank. -/
theorem not_isBlank_of_mem_words {text word : List Char} {c : Char}
    (member : word ∈ words text) (inside : c ∈ word) : isBlank c = false := by
  fun_induction words text generalizing word with
  | case1 => simp at member
  | case2 c' blank => simp at member
  | case3 c' notBlank => simp_all
  | case4 c' d rest blank ih => exact ih member inside
  | case5 c' d rest notBlank blank ih =>
      rcases List.mem_cons.1 member with rfl | later
      · simp_all
      · exact ih later inside
  | case6 c' d rest notBlank notBlank' ih =>
      cases tail : words (d :: rest) with
      | nil => simp_all [consFirst]
      | cons first others =>
          rw [tail, consFirst] at member
          rcases List.mem_cons.1 member with rfl | later
          · rcases List.mem_cons.1 inside with rfl | further
            · simpa using notBlank
            · exact @ih first (by rw [tail]; exact List.mem_cons_self) further
          · exact ih (by rw [tail]; exact List.mem_cons_of_mem _ later) inside

end JobShell.Text
