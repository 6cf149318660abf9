/-! # Blank characters and lines

* `isBlank`: the characters with the Unicode property `White_Space`.
* `trim`: a text without the blanks at its two ends.
* `lines`: a text cut at its line feeds.
-/

namespace ModelScribe.Text

/-- The characters with the Unicode property `White_Space`. -/
def isBlank (character : Char) : Bool :=
  let code := character.toNat
  (0x9 ≤ code && code ≤ 0xD) || code == 0x20 || code == 0x85 || code == 0xA0 ||
    code == 0x1680 || (0x2000 ≤ code && code ≤ 0x200A) || code == 0x2028 || code == 0x2029 ||
    code == 0x202F || code == 0x205F || code == 0x3000

/-- The text without its leading blanks. -/
def trimStart (text : List Char) : List Char :=
  text.dropWhile isBlank

/-- The text without its trailing blanks. -/
def trimEnd (text : List Char) : List Char :=
  (text.reverse.dropWhile isBlank).reverse

/-- The text without the blanks at its two ends. -/
def trim (text : List Char) : List Char :=
  trimEnd (trimStart text)

/-- The lines of a text: a line feed ends a line, a carriage return just before it belongs to the
line break, and the empty text after a final line break is no line. -/
def lines : List Char → List (List Char)
  | [] => []
  | '\r' :: '\n' :: rest => [] :: lines rest
  | '\n' :: rest => [] :: lines rest
  | character :: rest =>
      match lines rest with
      | [] => [[character]]
      | line :: more => (character :: line) :: more

theorem lines_eq_nil {text : List Char} (none : lines text = []) : text = [] := by
  fun_cases lines text <;> simp_all [lines]

/-- No line has a line feed in it. -/
theorem lineFeed_not_mem_of_mem_lines {text line : List Char} (member : line ∈ lines text) :
    '\n' ∉ line := by
  fun_induction lines text generalizing line with
  | case1 => simp at member
  | case2 rest ih =>
      rcases List.mem_cons.mp member with rfl | member
      · simp
      · exact ih member
  | case3 rest ih =>
      rcases List.mem_cons.mp member with rfl | member
      · simp
      · exact ih member
  | case4 character rest noReturn noFeed last ih =>
      obtain rfl := List.mem_singleton.mp member
      simpa using fun same => noFeed same.symm
  | case5 character rest noReturn noFeed first more cut ih =>
      rcases List.mem_cons.mp member with rfl | member
      · rw [List.mem_cons, not_or]
        exact ⟨fun same => noFeed same.symm, ih (cut ▸ List.mem_cons_self ..)⟩
      · exact ih (cut ▸ List.mem_cons_of_mem _ member)

end ModelScribe.Text
