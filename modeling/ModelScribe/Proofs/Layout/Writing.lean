import ModelScribe.Proofs.Layout.Recutting

/-! # Layouts of fragments

What a fragment of a source is laid out as, whatever follows it
(`ModelScribe.Layout.Writes`). Such judgments compose
(`ModelScribe.Layout.Writes.append`), and there is one for each kind of fragment:
words, spaces, strings, comments, punctuation, and what stands in braces.
-/

namespace ModelScribe

open Text

/-- A run of characters that is laid out as it is, in one piece. -/
def IsWord (word : List Char) : Prop :=
  word ≠ [] ∧ ∀ character ∈ word, Piece.isPlain character = true ∧ character ≠ '/'

instance (word : List Char) : Decidable (IsWord word) :=
  @instDecidableAnd _ _ _ (List.decidableBAll _ word)

/-- Two words without a gap are one. -/
theorem IsWord.append {first second : List Char} (before : IsWord first) (behind : IsWord second) :
    IsWord (first ++ second) := by
  refine ⟨List.append_ne_nil_of_left_ne_nil before.1 _, fun character member => ?_⟩
  rcases List.mem_append.mp member with member | member
  · exact before.2 character member
  · exact behind.2 character member

/-- A word begins with something to see. -/
theorem IsWord.beginsInked {word : List Char} (isWord : IsWord word) : BeginsInked word := by
  obtain ⟨character, more, rfl⟩ := List.exists_cons_of_ne_nil isWord.1
  have plain := (isWord.2 character (List.mem_cons_self ..)).1
  simp only [Piece.isPlain, Bool.not_eq_true', Bool.or_eq_false_iff] at plain
  exact ⟨character, more, rfl, plain.1.1.2⟩

namespace Spot

@[simp]
theorem pause_zero_inLine (depth : Nat) (spaceDue : Bool) :
    (⟨depth, .inLine spaceDue⟩ : Spot).pause 0 = ⟨depth, .inLine true⟩ := by
  simp [pause]

@[simp]
theorem gap_inLine (unit : List Char) (depth : Nat) (spaceDue : Bool) :
    (⟨depth, .inLine spaceDue⟩ : Spot).gap unit = if spaceDue then [' '] else [] := rfl

/-- A space before other blanks makes no difference. -/
theorem pause_pause_zero (spot : Spot) (lineFeeds : Nat) :
    (spot.pause 0).pause lineFeeds = spot.pause lineFeeds := by
  obtain ⟨depth, place⟩ := spot
  cases place with
  | inLine spaceDue => rw [pause_zero_inLine, pause_inLine, pause_inLine]
  | _ => simp [pause]

end Spot

namespace Layout

/-- A text laid out from a spot on. -/
def laidOut (unit : List Char) (spot : Spot) (text : List Char) : List Char :=
  (lay unit spot (Piece.split text)).flatMap Piece.text

/-- The layout of a text is what is laid out from the start. -/
theorem format_eq_laidOut (options : LayoutOptions) (source : String) :
    format options source = String.ofList (laidOut options.indentUnit .start source.toList) := by
  rw [format, text_draft]
  rfl

variable {unit : List Char}

/-- A piece is laid out at its spot, and what follows it at the one behind it. -/
theorem laidOut_append (unit : List Char) {piece : Piece} {rest : List Char}
    (stands : piece.Stands rest) (spot : Spot) :
    laidOut unit spot (piece.text ++ rest) =
      (layPiece unit spot piece).flatMap Piece.text ++
        laidOut unit (spot.after piece) rest := by
  rw [laidOut, Piece.split_text_append stands, lay, List.flatMap_append]
  rfl

/-- A longest run of blanks only moves the spot. -/
theorem laidOut_blanks (unit gap rest : List Char) (nonempty : gap ≠ [])
    (blank : ∀ character ∈ gap, isBlank character = true)
    (stops : ∀ next ∈ rest.head?, isBlank next = false) (spot : Spot) :
    laidOut unit spot (gap ++ rest) = laidOut unit (spot.pause (gap.count '\n')) rest := by
  have stands : (Piece.blanks gap).Stands rest := ⟨nonempty, blank, stops⟩
  exact laidOut_append unit stands spot

/-- A fragment is laid out so between two spots, whatever follows it. -/
def Writes (unit : List Char) (before : Spot) (source laid : List Char) (after : Spot) : Prop :=
  ∀ rest, laidOut unit before (source ++ rest) = laid ++ laidOut unit after rest

namespace Writes

variable {before middle after spot : Spot}

/-- A fragment behind a fragment. -/
theorem append {first second laidFirst laidSecond : List Char}
    (one : Writes unit before first laidFirst middle)
    (other : Writes unit middle second laidSecond after) :
    Writes unit before (first ++ second) (laidFirst ++ laidSecond) after := by
  intro rest
  rw [List.append_assoc, one, other, List.append_assoc]

/-- Pieces that stand before every text. -/
theorem of_piece (unit : List Char) (piece : Piece) (stands : ∀ rest, piece.Stands rest)
    (spot : Spot) :
    Writes unit spot piece.text ((layPiece unit spot piece).flatMap Piece.text)
      (spot.after piece) :=
  fun rest => laidOut_append unit (stands rest) spot

/-- A plain character is written behind its gap. -/
theorem plain (unit : List Char) {character : Char} (plain : Piece.isPlain character = true)
    (noSlash : character ≠ '/') (spot : Spot) :
    Writes unit spot [character] (spot.gap unit ++ [character]) ⟨spot.depth, .inLine false⟩ := by
  have written := of_piece unit (.plain character)
    (fun rest => ⟨plain, fun slash => absurd slash noSlash⟩) spot
  rwa [flatMap_text_layPiece _ _ (by simp)] at written

/-- A word is written behind the gap of its spot. -/
theorem word (unit : List Char) {word : List Char} (isWord : IsWord word) (spot : Spot) :
    Writes unit spot word (spot.gap unit ++ word) ⟨spot.depth, .inLine false⟩ := by
  obtain ⟨nonempty, characters⟩ := isWord
  induction word generalizing spot with
  | nil => exact absurd rfl nonempty
  | cons character others ih =>
      have own := characters character (List.mem_cons_self ..)
      have first := Writes.plain unit own.1 own.2 spot
      cases others with
      | nil => exact first
      | cons next others =>
          have behind := first.append (ih ⟨spot.depth, .inLine false⟩ (List.cons_ne_nil _ _)
            fun other member => characters other (List.mem_cons_of_mem _ member))
          rw [List.append_assoc] at behind
          exact behind

/-- A space is written with what follows it, if at all. -/
theorem space (unit : List Char) (spot : Spot) : Writes unit spot [' '] [] (spot.pause 0) := by
  intro rest
  have whole := List.takeWhile_append_dropWhile (p := isBlank) (l := rest)
  have stops : ∀ next ∈ (rest.dropWhile isBlank).head?, isBlank next = false := by
    intro next member
    have stopped := List.head?_dropWhile_not isBlank rest
    rwa [Option.mem_def.mp member] at stopped
  have blank : ∀ character ∈ rest.takeWhile isBlank, isBlank character = true :=
    fun _ member => List.mem_takeWhile_imp member
  generalize rest.takeWhile isBlank = gap at whole blank
  generalize rest.dropWhile isBlank = behind at whole stops
  subst whole
  have wide := laidOut_blanks unit (' ' :: gap) behind (List.cons_ne_nil _ _)
    (by simpa [isBlank] using blank) stops spot
  by_cases none : gap = []
  · subst none
    exact wide
  · have narrow := laidOut_blanks unit gap behind none blank stops (spot.pause 0)
    rw [Spot.pause_pause_zero] at narrow
    exact wide.trans narrow.symm

/-- Words with a space between each two are written so. -/
theorem words (unit first : List Char) (others : List (List Char)) (isWord : IsWord first)
    (areWords : ∀ word ∈ others, IsWord word) (spot : Spot) :
    Writes unit spot (List.intercalate [' '] (first :: others))
      (spot.gap unit ++ List.intercalate [' '] (first :: others)) ⟨spot.depth, .inLine false⟩ := by
  induction others generalizing first spot with
  | nil =>
      rw [List.intercalate_singleton]
      exact word unit isWord spot
  | cons next others ih =>
      have behind := ih next (areWords next (List.mem_cons_self ..))
        (fun other member => areWords other (List.mem_cons_of_mem _ member))
        ⟨spot.depth, .inLine true⟩
      have spaced := (space unit ⟨spot.depth, .inLine false⟩).append
        (by rwa [Spot.pause_zero_inLine])
      have written := (word unit isWord spot).append spaced
      rw [List.intercalate_cons_cons]
      rw [List.append_assoc] at written ⊢
      exact written

/-- A string without its quote and without backslashes inside. -/
theorem literal (unit : List Char) (quote : Char) (inside : List Char)
    (quoted : Piece.isQuote quote = true) (noQuote : quote ∉ inside)
    (noBackslash : '\\' ∉ inside) (spot : Spot) :
    Writes unit spot (quote :: (inside ++ [quote])) (spot.gap unit ++ quote :: (inside ++ [quote]))
      ⟨spot.depth, .inLine false⟩ := by
  have belongs : Piece.LiteralInside quote true (inside ++ [quote]) := by
    induction inside with
    | nil => exact .quote
    | cons character inside ih =>
        rw [List.mem_cons, not_or] at noQuote noBackslash
        exact .character (Ne.symm noQuote.1) (Ne.symm noBackslash.1)
          (ih noQuote.2 noBackslash.2)
  have written := of_piece unit (.literal (quote :: (inside ++ [quote])))
    (fun rest => ⟨quote, _, true, quoted, rfl, belongs, fun opens => absurd opens (by decide)⟩)
    spot
  have ends : EndsInked (quote :: (inside ++ [quote])) := (belongs.endsInked quoted).append [quote]
  rw [flatMap_text_layPiece _ _ (by simp)] at written
  simp only [Piece.settled, Piece.text, trimEnd_of_endsInked ends] at written
  exact written

/-- A closed comment at the start of a line ends the line. -/
theorem blockComment (unit : List Char) {inside : List Char}
    (belongs : Piece.CommentInside true inside) {spot : Spot}
    (fresh : spot.breakLine = spot) :
    Writes unit spot ('/' :: '*' :: inside)
      (spot.gap unit ++ Draft.settledComment (spot.indentation unit) ('/' :: '*' :: inside))
      ⟨spot.depth, .lineStart false⟩ := by
  have written := of_piece unit (.blockComment ('/' :: '*' :: inside))
    (fun rest => ⟨inside, true, rfl, belongs, fun opens => absurd opens (by decide)⟩) spot
  have approach : spot.approach (.blockComment ('/' :: '*' :: inside)) = spot := fresh
  have after : spot.after (.blockComment ('/' :: '*' :: inside)) = ⟨spot.depth, .lineStart false⟩ :=
    rfl
  rw [flatMap_text_layPiece _ _ (by simp), approach, after] at written
  exact written

/-- A closing character is written without a gap. -/
theorem closer (unit : List Char) (character : Char)
    (closes : Piece.isCloser character = true) (depth : Nat) (spaceDue : Bool) :
    Writes unit ⟨depth, .inLine spaceDue⟩ [character] [character] ⟨depth, .inLine false⟩ :=
  of_piece unit (.closer character) (fun _ => closes) ⟨depth, .inLine spaceDue⟩

/-- A semicolon is written without a gap and ends its line. -/
theorem semicolon (unit : List Char) (depth : Nat) (spaceDue : Bool) :
    Writes unit ⟨depth, .inLine spaceDue⟩ [';'] [';'] ⟨depth, .lineStart false⟩ :=
  of_piece unit .semicolon (fun _ => trivial) ⟨depth, .inLine spaceDue⟩

/-- A comma between braces ends the line. -/
theorem comma (unit : List Char) (depth : Nat) (spaceDue : Bool) :
    Writes unit ⟨depth + 1, .inLine spaceDue⟩ [','] [','] ⟨depth + 1, .lineStart false⟩ :=
  of_piece unit .comma (fun _ => trivial) ⟨depth + 1, .inLine spaceDue⟩

/-- A closing brace goes on a line of its own, one level less deep. -/
theorem closeBrace (unit : List Char) (depth : Nat) (spaceDue : Bool) :
    Writes unit ⟨depth + 1, .inLine spaceDue⟩ ['}']
      ('\n' :: (List.replicate depth unit).flatten ++ ['}']) ⟨depth, .inLine false⟩ := by
  have written := of_piece unit .closeBrace (fun _ => trivial)
    ⟨depth + 1, .inLine spaceDue⟩
  rwa [flatMap_text_layPiece _ _ (by simp)] at written

/-- A pair of braces with blanks between them only. -/
theorem emptyBraces (unit gap : List Char)
    (blank : ∀ character ∈ gap, isBlank character = true) (spot : Spot) :
    Writes unit spot ('{' :: gap ++ ['}']) (spot.gap unit ++ ['{', '}'])
      ⟨spot.depth, .inLine false⟩ := by
  have written := of_piece unit (.emptyBraces gap) (fun _ => blank) spot
  rwa [flatMap_text_layPiece _ _ (by simp)] at written

/-- Behind an opening brace the line ends, and what stands in the braces is laid out one level
deeper. -/
theorem openBrace {source laid : List Char} (nonempty : ∃ first, (ink source).head? = some first ∧
      first ≠ '}') (spot : Spot)
    (inside : Writes unit ⟨spot.depth + 1, .lineStart false⟩ source laid after) :
    Writes unit spot ('{' :: source) (spot.gap unit ++ '{' :: laid) after := by
  intro rest
  obtain ⟨first, head, other⟩ := nonempty
  have stands : Piece.openBrace.Stands (source ++ rest) := by
    have more : (ink (source ++ rest)).head? = some first := by
      rw [ink_append, List.head?_append, head]
      rfl
    rw [← head?_dropWhile_isBlank] at more
    exact fun closes => other (Option.some.inj (more.symm.trans closes))
  have written := laidOut_append unit stands spot
  rw [flatMap_text_layPiece _ _ (by simp)] at written
  refine written.trans ?_
  have behind : laidOut unit (spot.after .openBrace) (source ++ rest) =
      laid ++ laidOut unit after rest := inside rest
  rw [behind, List.append_assoc, List.append_assoc]
  rfl

end Writes

end Layout

end ModelScribe
