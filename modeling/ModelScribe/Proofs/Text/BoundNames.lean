import ModelScribe.Proofs.Text.Lines
import ModelScribe.Text.Word

/-! # Names that a text binds

The identifiers that the lines of a JavaScript text bind, as a reader of the text
finds them (`ModelScribe.Text.boundNames`): a line is cut into words, and what
stands behind `const` or `import` is bound up to the end of the identifier. Text
that is joined with blank lines binds what its parts bind
(`ModelScribe.Text.boundNames_intercalate`).
-/

namespace ModelScribe

namespace Text

/-- The characters of identifiers: letters, digits, low lines and dollar signs of ASCII, and what
follows ASCII and leaves no blank. -/
def inIdentifier (character : Char) : Bool :=
  isAsciiWord character || character == '$' ||
    (0x7F < character.toNat && !isBlank character && character != '\uFEFF')

/-- The words of a line, which stand between blanks. -/
def words (line : List Char) : List (List Char) :=
  (line.splitOnP isBlank).filter (!·.isEmpty)

/-- The name that the words of a line bind. -/
def bound? : (words : List (List Char)) → Option String
  | keyword :: others =>
      if keyword = "export".toList then bound? others
      else if keyword ∈ ["const".toList, "import".toList] then
        others.head?.map fun word => String.ofList (word.takeWhile inIdentifier)
      else none
  | [] => none

/-- The names that the lines of a text bind. -/
def boundNames (text : List Char) : List String :=
  (text.splitOn '\n').filterMap fun line => bound? (words line)

variable {blank : Char} {line word text : List Char}

/-- The words before a blank and behind it are those of the line. -/
theorem words_append_cons (blanks : isBlank blank = true) (line rest : List Char) :
    words (line ++ blank :: rest) = words line ++ words rest := by
  rw [words, List.splitOnP_append_cons _ _ blanks, List.filter_append]
  rfl

theorem words_cons (blanks : isBlank blank = true) (line : List Char) :
    words (blank :: line) = words line :=
  words_append_cons blanks [] line

/-- In a word that is written out, blanks are looked for one character after another. -/
theorem inked_of_any (none : word.any isBlank = false) :
    ∀ character ∈ word, isBlank character = false := by
  simpa using none

/-- A text without blanks is one word. -/
theorem words_of_inked (nonempty : word ≠ [])
    (inked : ∀ character ∈ word, isBlank character = false) : words word = [word] := by
  rw [words, List.splitOnP_eq_singleton inked]
  simpa using nonempty

/-- A word is cut off at the space behind it. -/
theorem words_word (nonempty : word ≠ [])
    (inked : ∀ character ∈ word, isBlank character = false) (rest : List Char) :
    words (word ++ ' ' :: rest) = word :: words rest := by
  rw [words_append_cons (by decide), words_of_inked nonempty inked]
  rfl

/-- A keyword is a word by itself. -/
theorem words_keyword {keyword : String} (among : keyword ∈ ["const", "default", "export"])
    (rest : List Char) :
    words (keyword.toList ++ ' ' :: rest) = keyword.toList :: words rest := by
  simp only [List.mem_cons, List.not_mem_nil, or_false] at among
  rcases among with rfl | rfl | rfl
  all_goals exact words_word (by decide) (inked_of_any (by decide)) rest

/-- The names before a line feed and behind it are those of the text. -/
theorem boundNames_append_lineFeed (text rest : List Char) :
    boundNames (text ++ '\n' :: rest) = boundNames text ++ boundNames rest := by
  rw [boundNames, List.splitOn_append_cons_self, List.filterMap_append]
  rfl

/-- A line binds what its words bind. -/
theorem boundNames_of_inLine (inLine : '\n' ∉ line) :
    boundNames line = (bound? (words line)).toList := by
  rw [boundNames, List.splitOn_eq_singleton inLine, List.filterMap_cons]
  cases bound? (words line) with
  | none => rfl
  | some name => rfl

theorem boundNames_cons (blanks : isBlank blank = true) (inLine : blank ≠ '\n')
    (text : List Char) : boundNames (blank :: text) = boundNames text := by
  obtain ⟨line, lines, cut⟩ := List.exists_cons_of_ne_nil (List.splitOn_ne_nil '\n' text)
  have apart : (blank == '\n') = false := beq_eq_false_iff_ne.mpr inLine
  rw [boundNames, boundNames, List.splitOn_cons_eq_if_modifyHead, cut, apart, if_neg (by decide),
    List.modifyHead_cons, List.filterMap_cons, List.filterMap_cons, words_cons blanks]

/-- A blank within a line makes no difference at the end of a text. -/
theorem boundNames_concat (blanks : isBlank blank = true) (inLine : blank ≠ '\n')
    (text : List Char) : boundNames (text ++ [blank]) = boundNames text := by
  by_cases feeds : '\n' ∈ text
  -- Only the last line meets the blank: those before it are cut off one by one.
  · obtain ⟨first, rest, rfl, -⟩ := List.eq_append_cons_of_mem feeds
    have shorter : rest.length < (first ++ '\n' :: rest).length := by
      rw [List.length_append, List.length_cons]
      omega
    rw [List.append_assoc, List.cons_append, boundNames_append_lineFeed,
      boundNames_append_lineFeed, boundNames_concat blanks inLine rest]
  · have concat : '\n' ∉ text ++ [blank] := by simpa [feeds] using inLine.symm
    rw [boundNames_of_inLine feeds, boundNames_of_inLine concat, words_append_cons blanks]
    simp [words]
termination_by text.length

/-- Blanks within lines make no difference at the start of a text. -/
theorem boundNames_indentation {indentation : List Char} (indents : IsIndentation indentation)
    (text : List Char) : boundNames (indentation ++ text) = boundNames text := by
  induction indentation with
  | nil => rfl
  | cons blank indentation ih =>
      obtain ⟨⟨blanks, inLine⟩, others⟩ := List.forall_mem_cons.mp indents
      rw [List.cons_append, boundNames_cons blanks inLine, ih others]

/-- Blanks within lines make no difference at the end of a text. -/
theorem boundNames_append_indentation {indentation : List Char}
    (indents : IsIndentation indentation) (text : List Char) :
    boundNames (text ++ indentation) = boundNames text := by
  induction indentation generalizing text with
  | nil => rw [List.append_nil]
  | cons blank indentation ih =>
      obtain ⟨⟨blanks, inLine⟩, others⟩ := List.forall_mem_cons.mp indents
      rw [← List.singleton_append, ← List.append_assoc, ih others,
        boundNames_concat blanks inLine]

/-- **Joined texts.** Texts with a line feed between each two bind what each of them binds, if what
comes before and after the line feed makes no difference. -/
theorem boundNames_intercalate {before after : List Char} {texts : List (List Char)}
    (ends : ∀ text ∈ texts, boundNames (text ++ before) = boundNames text)
    (begins : ∀ text, boundNames (after ++ text) = boundNames text) :
    boundNames (List.intercalate (before ++ '\n' :: after) texts) = texts.flatMap boundNames := by
  induction texts with
  | nil => rfl
  | cons text texts ih =>
      obtain ⟨own, others⟩ := List.forall_mem_cons.mp ends
      cases texts with
      | nil => simp
      | cons next more =>
          rw [List.intercalate_cons_cons, List.append_assoc, List.append_assoc, ← List.append_assoc,
            List.cons_append, boundNames_append_lineFeed, own, begins, ih others]
          rfl

/-- Texts with a blank line between each two bind what each of them binds. -/
theorem boundNames_intercalate_blankLine {indentation : List Char}
    (indents : IsIndentation indentation) (texts : List (List Char)) :
    boundNames (List.intercalate (indentation ++ '\n' :: '\n' :: indentation) texts) =
      texts.flatMap boundNames := by
  refine boundNames_intercalate (fun text _ => boundNames_append_indentation indents text) ?_
  intro text
  have empty := boundNames_append_lineFeed [] (indentation ++ text)
  exact empty.trans (boundNames_indentation indents text)

/-- A line binds nothing if its first word is no keyword of a binding. -/
theorem boundNames_silent {rest : List Char}
    (apart : word ∉ ["export".toList, "const".toList, "import".toList]) (nonempty : word ≠ [])
    (inked : ∀ character ∈ word, isBlank character = false) (inLine : '\n' ∉ rest) :
    boundNames (word ++ ' ' :: rest) = [] := by
  have noFeed : '\n' ∉ word := fun member => absurd (inked _ member) (by decide)
  have whole : '\n' ∉ word ++ ' ' :: rest := by simp [noFeed, inLine]
  have nothing : bound? (word :: words rest) = none := by
    obtain ⟨noExport, noBinding⟩ := not_or.mp (mt List.mem_cons.mpr apart)
    rw [bound?, if_neg noExport, if_neg noBinding]
  rw [boundNames_of_inLine whole, words_word nonempty inked, nothing]
  rfl

end Text

end ModelScribe
