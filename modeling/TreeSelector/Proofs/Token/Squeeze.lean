import TreeSelector.Proofs.Token.Spelling

/-!
# Rows of tokens with more than one blank in a place

A writer that puts a space before and behind what it writes gets two spaces
where it writes nothing between them. The scanner reads both as one blank. So
a row of tokens in which blanks follow blanks is read back from its spelling
with every run of blanks drawn together (`spelled_squeeze`), as long as no
other two neighbours run into each other (`Legible`).

Whether a blank is dropped depends on what stands before it. `squeeze` is told
whether that is a blank, and `endsBlank` says what it has to be told behind a
row of tokens (`squeeze_append`).
-/

set_option autoImplicit false

namespace TreeSelector

/-! ## Runs of blanks -/

/-- The tokens with every run of blanks drawn together. The flag tells that a
blank stands before them. -/
def squeeze : Bool → List Token → List Token
  | _, [] => []
  | behindBlank, token :: later =>
      if token = .blank then
        if behindBlank then squeeze true later else .blank :: squeeze true later
      else token :: squeeze false later

/-- Whether the row, with what stands before it, ends in a blank. -/
def endsBlank : Bool → List Token → Bool
  | behindBlank, [] => behindBlank
  | _, token :: later => endsBlank (decide (token = .blank)) later

theorem squeeze_append (behindBlank : Bool) (tokens later : List Token) :
    squeeze behindBlank (tokens ++ later) =
      squeeze behindBlank tokens ++ squeeze (endsBlank behindBlank tokens) later := by
  induction tokens generalizing behindBlank with
  | nil => rfl
  | cons token tokens ih =>
      simp only [List.cons_append, squeeze, endsBlank]
      by_cases blank : token = .blank
      · cases behindBlank <;> simp [blank, ih]
      · simp [blank, ih]

theorem endsBlank_append (behindBlank : Bool) (tokens later : List Token) :
    endsBlank behindBlank (tokens ++ later) = endsBlank (endsBlank behindBlank tokens) later := by
  induction tokens generalizing behindBlank with
  | nil => rfl
  | cons token tokens ih => rw [List.cons_append, endsBlank, endsBlank, ih]

theorem length_squeeze_le (behindBlank : Bool) (tokens : List Token) :
    (squeeze behindBlank tokens).length ≤ tokens.length := by
  induction tokens generalizing behindBlank with
  | nil => exact Nat.le_refl 0
  | cons token later ih =>
      have kept := ih false
      have drawn := ih true
      rw [squeeze, List.length_cons]
      split
      · split
        · omega
        · rw [List.length_cons]
          omega
      · rw [List.length_cons]
        omega

/-- In a row that stays as it is, no blank follows another. -/
theorem of_squeeze_cons_eq {behindBlank : Bool} {token : Token} {later : List Token}
    (squeezed : squeeze behindBlank (token :: later) = token :: later) :
    (token = .blank → behindBlank = false) ∧
      squeeze (decide (token = .blank)) later = later := by
  by_cases blank : token = .blank
  · subst blank
    cases behindBlank with
    | true =>
        have shorter := length_squeeze_le true later
        simp only [squeeze, if_true] at squeezed
        rw [squeezed, List.length_cons] at shorter
        omega
    | false => simpa [squeeze] using squeezed
  · simpa [squeeze, blank] using squeezed

/-- Where there is no blank, nothing is drawn together. -/
theorem squeeze_of_blank_notMem {tokens : List Token} (none : .blank ∉ tokens)
    (behindBlank : Bool) : squeeze behindBlank tokens = tokens := by
  induction tokens generalizing behindBlank with
  | nil => rfl
  | cons token tokens ih =>
      obtain ⟨other, none⟩ := List.ne_and_not_mem_of_not_mem_cons none
      rw [squeeze, if_neg (Ne.symm other), ih none]

theorem endsBlank_of_blank_notMem {tokens : List Token} (none : .blank ∉ tokens)
    (some : tokens ≠ []) (behindBlank : Bool) : endsBlank behindBlank tokens = false := by
  induction tokens generalizing behindBlank with
  | nil => exact absurd rfl some
  | cons token tokens ih =>
      obtain ⟨other, none⟩ := List.ne_and_not_mem_of_not_mem_cons none
      rw [endsBlank, decide_eq_false (Ne.symm other)]
      cases tokens with
      | nil => rfl
      | cons next later => exact ih none (by simp) false

/-! ## Neighbours that run into each other -/

/-- Two tokens that stand side by side are not read as the two tokens. Blanks
are left out, since they are drawn together. -/
def Token.Clashes : Token → Token → Prop
  | .identifier _, .identifier _ => True
  | .literal _, .literal _ => True
  | .literal _, .blank => True
  | _, _ => False

/-- Every token is one of its mode, and no two neighbours clash. -/
def Legible : Mode → List Token → Prop
  | _, [] => True
  | mode, token :: later =>
      mode.Gives token ∧ (∀ next ∈ later.head?, ¬ token.Clashes next) ∧
        Legible (mode.after token) later

namespace Legible

variable {mode : Mode} {later : List Token}

/-- A sign stands before any tokens of the mode behind it. -/
theorem sign {mark : Sign} (gives : mode.Gives (.sign mark))
    (back : Legible (mode.after (.sign mark)) later) : Legible mode (.sign mark :: later) :=
  ⟨gives, fun _ _ => id, back⟩

/-- A blank stands before any tokens of the same mode. -/
theorem blank (back : Legible mode later) : Legible mode (.blank :: later) := by
  refine ⟨?_, fun _ _ => id, back⟩
  cases mode <;> exact trivial

/-- A quoted value stands before any tokens. -/
theorem quoted {text : String} (quoted : IsQuoted text) (back : Legible .value later) :
    Legible .value (.quoted text :: later) :=
  ⟨quoted, fun _ _ => id, back⟩

/-- An identifier stands before a sign. -/
theorem identifier {name : String} {mark : Sign} (named : isIdentifier name = true)
    (back : Legible .plain (.sign mark :: later)) :
    Legible .plain (.identifier name :: .sign mark :: later) := by
  refine ⟨named, ?_, back⟩
  rintro next first
  cases first
  exact id

/-- An identifier stands at the end. -/
theorem identifier_nil {name : String} (named : isIdentifier name = true) :
    Legible .plain [.identifier name] :=
  ⟨named, nofun, trivial⟩

end Legible

theorem Legible.append {mode : Mode} {tokens later : List Token} (front : Legible mode tokens)
    (back : Legible (tokens.foldl Mode.after mode) later)
    (seam : ∀ last ∈ tokens.getLast?, ∀ next ∈ later.head?, ¬ last.Clashes next) :
    Legible mode (tokens ++ later) := by
  induction tokens generalizing mode with
  | nil => exact back
  | cons token tokens ih =>
      obtain ⟨gives, apart, front⟩ := front
      refine ⟨gives, ?_, ?_⟩
      · cases tokens with
        | nil => exact seam token rfl
        | cons next rest => exact apart
      · refine ih front back fun last final => seam last ?_
        cases tokens with
        | nil => cases final
        | cons next rest => rw [List.getLast?_cons_cons]; exact final

/-! ## Reading a row back from its spelling -/

/-- The spellings of the tokens, one behind the other. -/
def spell (tokens : List Token) : List Char :=
  tokens.flatMap Token.spelling

theorem spelledBy_spelling (token : Token) : token.SpelledBy token.spelling := by
  cases token with
  | blank =>
      have space : Unicode.isWhiteSpace ' ' = true := by decide +kernel
      refine ⟨List.cons_ne_nil ' ' [], fun c member => ?_⟩
      obtain rfl := List.mem_singleton.mp member
      exact space
  | sign | identifier | literal | quoted | endOfInput => rfl

/-- Only a blank is spelled with white space in front. -/
theorem stops_isWhiteSpace_spelling {mode : Mode} {token : Token} (gives : mode.Gives token)
    (notBlank : token ≠ .blank) (rest : List Char) :
    Stops Unicode.isWhiteSpace (token.spelling ++ rest) := by
  obtain ⟨c, run, whole, first⟩ := gives.exists_spelling_eq_cons notBlank
  rw [whole]
  exact stops_cons.mpr first

/-- A token that does not clash with its neighbour is not continued by the
neighbour's spelling. -/
theorem stops_continues_spelling {mode : Mode} {token next : Token} (gives : mode.Gives token)
    (notBlank : token ≠ .blank) (nextGives : (mode.after token).Gives next)
    (apart : ¬ token.Clashes next) (rest : List Char) :
    Stops token.continues (next.spelling ++ rest) := by
  cases token with
  | blank => exact absurd rfl notBlank
  | sign mark => exact fun _ _ => rfl
  | quoted text => exact fun _ _ => rfl
  | endOfInput => exact fun _ _ => rfl
  | identifier name =>
      obtain ⟨rfl, -⟩ := Mode.gives_identifier_iff.mp gives
      cases next with
      | identifier other => exact absurd trivial apart
      | sign mark => exact stops_cons.mpr (isIdentifierCharacter_char_eq_false mark)
      | blank =>
          exact stops_cons.mpr (isIdentifierCharacter_eq_false_of_isWhiteSpace (by decide +kernel))
      | literal | quoted | endOfInput => exact absurd nextGives id
  | literal text =>
      obtain ⟨rfl, -⟩ := Mode.gives_literal_iff.mp gives
      cases next with
      | literal | blank => exact absurd trivial apart
      | sign mark =>
          obtain rfl : mark = .rightBracket := nextGives
          exact stops_cons.mpr (show isLiteralCharacter ']' = false by decide)
      | quoted other =>
          obtain ⟨quote, body, isQuote, -, whole⟩ := nextGives
          simp only [Token.spelling, whole]
          exact stops_cons.mpr (isLiteralCharacter_eq_false_of_isQuote isQuote)
      | identifier | endOfInput => exact absurd nextGives id

theorem Legible.stops_continues {mode : Mode} {token : Token} {later : List Token}
    (legible : Legible mode (token :: later)) (notBlank : token ≠ .blank) :
    Stops token.continues (spell later) := by
  obtain ⟨gives, apart, back⟩ := legible
  cases later with
  | nil => exact stops_nil _
  | cons next later =>
      exact stops_continues_spelling gives notBlank back.1 (apart next rfl) (spell later)

/-- **A legible row is read back with its blanks drawn together**, and so is what
is left of its spelling behind white space. -/
theorem spelled_squeeze {mode : Mode} {tokens : List Token} (legible : Legible mode tokens) :
    Spelled mode (squeeze false tokens) (spell tokens) ∧
      Spelled mode (squeeze true tokens) ((spell tokens).dropWhile Unicode.isWhiteSpace) := by
  induction tokens generalizing mode with
  | nil => exact ⟨.nil mode, .nil mode⟩
  | cons token tokens ih =>
      obtain ⟨whole, trimmed⟩ := ih legible.2.2
      have text : spell (token :: tokens) = token.spelling ++ spell tokens := rfl
      by_cases blank : token = .blank
      · subst blank
        have space : Unicode.isWhiteSpace ' ' = true := by decide +kernel
        have dropped : (spell (.blank :: tokens)).dropWhile Unicode.isWhiteSpace =
            (spell tokens).dropWhile Unicode.isWhiteSpace := by
          simp [text, Token.spelling, space]
        have parted : spell (.blank :: tokens) =
            (' ' :: (spell tokens).takeWhile Unicode.isWhiteSpace) ++
              (spell tokens).dropWhile Unicode.isWhiteSpace := by
          simp [text, Token.spelling]
        have run : Token.SpelledBy .blank
            (' ' :: (spell tokens).takeWhile Unicode.isWhiteSpace) := by
          refine ⟨by simp, fun c member => ?_⟩
          rcases List.mem_cons.mp member with rfl | member
          · exact space
          · exact accept_of_mem_takeWhile member
        constructor
        · rw [parted]
          exact .cons ⟨legible.1, run, stops_dropWhile _ _⟩ trimmed
        · rw [dropped]
          exact trimmed
      · have front : Read mode token token.spelling (spell tokens) :=
          ⟨legible.1, spelledBy_spelling token, legible.stops_continues blank⟩
        have squeezed (behindBlank : Bool) :
            squeeze behindBlank (token :: tokens) = token :: squeeze false tokens := by
          rw [squeeze, if_neg blank]
        have kept : (spell (token :: tokens)).dropWhile Unicode.isWhiteSpace =
            spell (token :: tokens) :=
          dropWhile_eq_self_of_stops (stops_isWhiteSpace_spelling legible.1 blank _)
        rw [squeezed, squeezed, kept, text]
        exact ⟨.cons front whole, .cons front whole⟩

/-! ## Rows that have been read -/

/-- A token that has been read is one of some mode. -/
theorem Spelled.exists_gives {mode : Mode} {tokens : List Token} {text : List Char}
    (spelled : Spelled mode tokens text) {token : Token} (member : token ∈ tokens) :
    ∃ before : Mode, before.Gives token := by
  induction spelled with
  | nil => cases member
  | @cons mode _ _ _ _ front _ ih =>
      rcases List.mem_cons.mp member with rfl | member
      · exact ⟨mode, front.gives⟩
      · exact ih member

/-- In a row that has been read, no blank follows another. -/
theorem Spelled.squeeze_eq {mode : Mode} {tokens : List Token} {text : List Char}
    (spelled : Spelled mode tokens text) :
    squeeze false tokens = tokens ∧
      (Stops Unicode.isWhiteSpace text → squeeze true tokens = tokens) := by
  induction spelled with
  | nil => exact ⟨rfl, fun _ => rfl⟩
  | @cons mode token covered tokens rest front _ ih =>
      by_cases blank : token = .blank
      · subst blank
        constructor
        · simp [squeeze, ih.2 front.stops]
        · intro stops
          obtain ⟨some, white⟩ := front.spelled
          obtain ⟨c, run, rfl⟩ := List.exists_cons_of_ne_nil some
          rw [List.cons_append, stops_cons, white c List.mem_cons_self] at stops
          cases stops
      · simp [squeeze, blank, ih.1]

end TreeSelector
