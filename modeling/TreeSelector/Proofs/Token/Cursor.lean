import TreeSelector.Proofs.Token.Modes

/-!
# Scanning by positions

A scanner can be kept as a position in the whole text and a mode (`Cursor`), and be moved by
positions alone: one further for the character that is taken, one back where a run begins with a
character that has been taken already, and on to the end of a run, whose characters are the slice
between two positions. Such a cursor can go astray. There is no position before the beginning
(`Cursor.back?`), and no slice beyond the end (`Cursor.slice?`).

It never does (`Cursor.calls?_eq`): whatever the number of calls, errors among them, every position
that is asked for is there, and the calls come to what those of the scanner come to. That a run
gets beyond the character that it begins with again rests on the classes of characters: what begins
an identifier also continues it.

So every call before the end of the text gets further, and behind as many calls as the text has
characters there is nothing left (`calls_progress_and_end`).
-/

set_option autoImplicit false

namespace TreeSelector

/-! ## Cursors -/

/-- A position in a text, and the mode there. -/
structure Cursor where
  position : Nat
  mode : Mode
  deriving DecidableEq

namespace Cursor

/-- The position before. There is none before the beginning. -/
def back? : Nat → Option Nat
  | 0 => none
  | position + 1 => some position

section

variable (text : List Char)

/-- The characters between two positions of the text, in their order. -/
def slice? (start stop : Nat) : Option (List Char) :=
  if start ≤ stop ∧ stop ≤ text.length then some (text.extract start stop) else none

/-- The position behind a run of accepted characters. -/
def pass (accept : Char → Bool) (position : Nat) : Nat :=
  if inside : position < text.length then
    if accept text[position] then pass accept (position + 1) else position
  else position
  termination_by text.length - position

/-- A run of accepted characters, and the position behind it. -/
def run? (accept : Char → Bool) (start : Nat) : Option (List Char × Nat) :=
  (slice? text start (pass text accept start)).map (·, pass text accept start)

/-- A quoted value that begins at the start, of which some characters have been read, and the
position behind it. -/
def readString (quote : Char) (start : Nat) (read : String) (position : Nat) :
    Except LexicalError Token × Nat :=
  if inside : position < text.length then
    if text[position] = quote then (.ok (.quoted (read.push text[position])), position + 1)
    else readString quote start (read.push text[position]) (position + 1)
  else (.error (.unterminatedString read start), position)
  termination_by text.length - position

/-- What the character before the position is in plain mode. -/
def plain? (c : Char) (behind : Nat) : Option (Except LexicalError Token × Cursor) :=
  match Sign.ofChar? c with
  | some .equals => some (.ok (.sign .equals), ⟨behind, .value⟩)
  | some sign => some (.ok (.sign sign), ⟨behind, .plain⟩)
  | none =>
      (back? behind).bind fun start =>
        if isIdentifierStart c then
          (run? text isIdentifierCharacter start).map fun (name, stop) =>
            (.ok (.identifier (String.ofList name)), ⟨stop, .plain⟩)
        else some (.error (.unexpectedCharacter c start), ⟨behind, .plain⟩)

/-- What the character before the position is in value mode. -/
def value? (c : Char) (behind : Nat) : Option (Except LexicalError Token × Cursor) :=
  if c = ']' then some (.ok (.sign .rightBracket), ⟨behind, .plain⟩)
  else
    (back? behind).bind fun start =>
      if isQuote c then
        let (outcome, stop) := readString text c start (String.singleton c) behind
        some (outcome, ⟨stop, .value⟩)
      else
        (run? text isLiteralCharacter start).map fun (literal, stop) =>
          (.ok (.literal (String.ofList literal)), ⟨stop, .value⟩)

/-- The next token or error, and the cursor behind it. There is none where a position is asked for
that the text does not have. -/
def next? (cursor : Cursor) : Option (Except LexicalError Token × Cursor) :=
  match text[cursor.position]? with
  | none => some (.ok .endOfInput, cursor)
  | some c =>
      if Unicode.isWhiteSpace c then
        (run? text Unicode.isWhiteSpace (cursor.position + 1)).map fun (_, stop) =>
          (.ok .blank, ⟨stop, cursor.mode⟩)
      else
        match cursor.mode with
        | .plain => plain? text c (cursor.position + 1)
        | .value => value? text c (cursor.position + 1)

/-- The outcomes of a number of calls, each with the cursor behind it. -/
def calls? (cursor : Cursor) : Nat → Option (List (Except LexicalError Token × Cursor))
  | 0 => some []
  | count + 1 =>
      (next? text cursor).bind fun (outcome, behind) =>
        (calls? behind count).map ((outcome, behind) :: ·)

end

/-! ## Positions and what is left -/

section

variable {text rest : List Char} {position : Nat} {c : Char}

theorem drop_succ_of_drop (left : text.drop position = c :: rest) :
    text.drop (position + 1) = rest := by
  rw [← List.tail_drop, left, List.tail_cons]

theorem getElem?_of_drop (left : text.drop position = c :: rest) : text[position]? = some c := by
  rw [← List.head?_drop, left, List.head?_cons]

theorem pass_eq (accept : Char → Bool) (left : text.drop position = rest) :
    pass text accept position = position + (rest.takeWhile accept).length := by
  induction rest generalizing position with
  | nil =>
      have beyond : ¬ position < text.length := Nat.not_lt.mpr (List.drop_eq_nil_iff.mp left)
      rw [pass, dif_neg beyond]
      rfl
  | cons c rest ih =>
      obtain ⟨inside, is⟩ := List.getElem?_eq_some_iff.mp (getElem?_of_drop left)
      rw [pass, dif_pos inside, is, List.takeWhile_cons]
      split
      · rw [ih (drop_succ_of_drop left), List.length_cons]
        omega
      · rfl

/-- A run of accepted characters is there, whatever the class. -/
theorem run?_eq (accept : Char → Bool) (left : text.drop position = rest)
    (inside : position ≤ text.length) :
    run? text accept position =
      some (rest.takeWhile accept, position + (rest.takeWhile accept).length) := by
  have taken := (List.takeWhile_prefix accept (l := rest)).length_le
  have lengths := congrArg List.length left
  rw [List.length_drop] at lengths
  have fits : position + (rest.takeWhile accept).length ≤ text.length := by omega
  have slice : text.extract position (position + (rest.takeWhile accept).length) =
      rest.takeWhile accept := by
    rw [List.extract_eq_take_drop, Nat.add_sub_cancel_left, left]
    exact (List.prefix_iff_eq_take.mp (List.takeWhile_prefix accept)).symm
  rw [run?, pass_eq accept left, slice?, if_pos ⟨Nat.le_add_right _ _, fits⟩, slice]
  rfl

theorem push_append_ofList (read : String) (c : Char) (rest : List Char) :
    read.push c ++ String.ofList rest = read ++ String.ofList (c :: rest) := by
  simp [String.ext_iff]

/-- Reading up to the quote comes to what stands at the front of the text there. -/
theorem readString_eq (quote : Char) (start : Nat) (read : String)
    (left : text.drop position = rest) :
    readString text quote start read position =
      match rest.dropWhile (· != quote) with
      | [] => (.error (.unterminatedString (read ++ String.ofList rest) start),
          position + rest.length)
      | _ :: _ => (.ok (.quoted (read ++ String.ofList (rest.takeWhile (· != quote) ++ [quote]))),
          position + (rest.takeWhile (· != quote)).length + 1) := by
  induction rest generalizing position read with
  | nil =>
      have beyond : ¬ position < text.length := Nat.not_lt.mpr (List.drop_eq_nil_iff.mp left)
      rw [readString, dif_neg beyond]
      simp
  | cons c rest ih =>
      obtain ⟨inside, is⟩ := List.getElem?_eq_some_iff.mp (getElem?_of_drop left)
      rw [readString, dif_pos inside, is]
      by_cases closed : c = quote
      · subst closed
        simp
      · have other : (c != quote) = true := bne_iff_ne.mpr closed
        rw [if_neg closed, ih _ (drop_succ_of_drop left), List.dropWhile_cons, List.takeWhile_cons,
          if_pos other, if_pos other, List.cons_append, List.length_cons, List.length_cons,
          push_append_ofList, push_append_ofList, Nat.add_right_comm position 1,
          Nat.add_right_comm position 1]
        rfl

/-! ## A cursor goes with the scanner -/

/-- In plain mode the call of a cursor comes to what stands at the front of the text. The character
that an identifier is begun with is taken again, since it also continues one. -/
theorem plain?_eq (left : text.drop position = c :: rest) (inside : position ≤ text.length) :
    plain? text c (position + 1) =
      some ((lexPlain position c rest).outcome,
        ⟨position + (lexPlain position c rest).covered.length, (lexPlain position c rest).mode⟩) := by
  unfold plain? lexPlain
  cases Sign.ofChar? c with
  | some sign => cases sign <;> rfl
  | none =>
      simp only [back?, Option.bind_some]
      by_cases start : isIdentifierStart c = true
      · have again := isIdentifierCharacter_of_isIdentifierStart start
        rw [if_pos start, if_pos start, run?_eq _ left inside, List.takeWhile_cons, if_pos again]
        rfl
      · rw [if_neg start, if_neg start]
        rfl

/-- In value mode the call of a cursor comes to what stands at the front of the text. The character
that a bare value is begun with is neither a quote nor a bracket, and is taken again. -/
theorem value?_eq (left : text.drop position = c :: rest) (inside : position ≤ text.length) :
    value? text c (position + 1) =
      some ((lexValue position c rest).outcome,
        ⟨position + (lexValue position c rest).covered.length, (lexValue position c rest).mode⟩) := by
  unfold value? lexValue
  by_cases bracket : c = ']'
  · rw [if_pos bracket, if_pos bracket]
    rfl
  · rw [if_neg bracket, if_neg bracket, back?, Option.bind_some]
    by_cases quote : isQuote c = true
    · have opened (later : List Char) :
          String.singleton c ++ String.ofList later = String.ofList (c :: later) := by
        simp
      rw [if_pos quote, if_pos quote, readString_eq c position _ (drop_succ_of_drop left), lexQuoted]
      cases rest.dropWhile (· != c) with
      | nil => simp only [opened, List.length_cons, Nat.add_assoc, Nat.add_comm 1]
      | cons =>
          simp only [opened, List.cons_append, List.length_cons, List.length_append,
            List.length_nil, Nat.add_assoc, Nat.add_comm 1]
    · have again : isLiteralCharacter c = true := by simp [isLiteralCharacter, quote, bracket]
      rw [if_neg quote, if_neg quote, run?_eq _ left inside, List.takeWhile_cons, if_pos again]
      rfl

/-- The call of a cursor comes to what stands at the front of the text. -/
theorem next?_eq_lex (mode : Mode) (left : text.drop position = rest)
    (inside : position ≤ text.length) :
    next? text ⟨position, mode⟩ =
      some ((lex mode position rest).outcome,
        ⟨position + (lex mode position rest).covered.length, (lex mode position rest).mode⟩) := by
  cases rest with
  | nil =>
      have none : text[position]? = none :=
        List.getElem?_eq_none_iff.mpr (List.drop_eq_nil_iff.mp left)
      simp only [next?, none]
      rfl
  | cons c rest =>
      simp only [next?, getElem?_of_drop left, lex]
      by_cases blank : Unicode.isWhiteSpace c = true
      · have bound : position + 1 ≤ text.length :=
          (List.getElem?_eq_some_iff.mp (getElem?_of_drop left)).1
        rw [if_pos blank, if_pos blank, run?_eq _ (drop_succ_of_drop left) bound,
          Nat.add_right_comm]
        rfl
      · rw [if_neg blank, if_neg blank]
        cases mode with
        | plain => exact plain?_eq left inside
        | value => exact value?_eq left inside

end

end Cursor

/-- The position and the mode of a scanner. -/
def Scanner.cursor (scanner : Scanner) : Cursor :=
  ⟨scanner.position, scanner.mode⟩

namespace Cursor

variable {text : List Char} {scanner : Scanner}

/-- **Every position that a call asks for is there**, and the call comes to what that of the
scanner comes to. -/
theorem next?_eq (stands : scanner.StandsIn text) :
    next? text scanner.cursor = some (scanner.next.1, scanner.next.2.cursor) :=
  next?_eq_lex scanner.mode stands.rest_eq.symm stands.position_le

/-- The calls of a cursor are those of the scanner, whatever their number. -/
theorem calls?_eq (stands : scanner.StandsIn text) (count : Nat) :
    calls? text scanner.cursor count =
      some ((scanner.calls count).map (Prod.map id Scanner.cursor)) := by
  induction count generalizing scanner with
  | zero => rfl
  | succ count ih =>
      have later : calls? text scanner.next.2.cursor count = _ := ih stands.advance
      simp only [calls?, next?_eq stands, Option.bind_some, later]
      rfl

end Cursor

/-! ## Progress -/

namespace Scanner

variable {text : List Char} {scanner : Scanner}

theorem StandsIn.behind (stands : scanner.StandsIn text) (count : Nat) :
    (scanner.behind count).StandsIn text := by
  induction count generalizing scanner with
  | zero => exact stands
  | succ count ih => exact behind_succ scanner count ▸ ih stands.advance

/-- **A call before the end of the text gets further**, whatever it comes to. -/
theorem StandsIn.position_lt_of_lt (stands : scanner.StandsIn text)
    (more : scanner.position < text.length) : scanner.position < scanner.advance.position := by
  have some : scanner.rest ≠ [] := by
    rw [stands.rest_eq]
    exact fun nothing => Nat.not_le.mpr more (List.drop_eq_nil_iff.mp nothing)
  exact Nat.lt_add_of_pos_right
    (List.length_pos_iff.mpr (covered_ne_nil scanner.mode scanner.position some))

/-- At the end of the text a call comes to its end, and leaves the scanner as it is. -/
theorem StandsIn.next_of_position_eq (stands : scanner.StandsIn text)
    (ended : scanner.position = text.length) : scanner.next = (.ok .endOfInput, scanner) := by
  obtain ⟨rest, position, mode⟩ := scanner
  obtain rfl : rest = [] := stands.rest_eq.trans (List.drop_eq_nil_iff.mpr ended.ge)
  rfl

/-- A number of calls gets at least that far, or to the end of the text. -/
theorem StandsIn.min_le_position_behind (stands : scanner.StandsIn text) (count : Nat) :
    min (scanner.position + count) text.length ≤ (scanner.behind count).position := by
  induction count generalizing scanner with
  | zero => exact min_le_left _ _
  | succ count ih =>
      have later := ih stands.advance
      have forward := (stands.of_answers scanner.answers).2.1
      rw [behind_succ]
      by_cases more : scanner.position < text.length
      · have further := stands.position_lt_of_lt more
        omega
      · omega

/-- The last of a number of calls is the one behind the others. -/
theorem getLast?_calls_succ (scanner : Scanner) (count : Nat) :
    (scanner.calls (count + 1)).getLast? = some (scanner.behind count).next := by
  induction count generalizing scanner with
  | zero => rfl
  | succ count ih =>
      rw [calls, List.getLast?_cons, ih scanner.advance, behind_succ]
      rfl

/-- What is emitted is no longer than what is left, but for the end token. -/
theorem length_emission_le (scanner : Scanner) :
    scanner.emission.tokens.length ≤ scanner.rest.length + 1 ∧
      (scanner.emission.failure ≠ none →
        scanner.emission.tokens.length ≤ scanner.rest.length) := by
  induction scanner using emission_induction with
  | ended scanner ended =>
      rw [emission_of_rest_nil ended]
      exact ⟨Nat.le_add_left 1 _, fun failed => absurd rfl failed⟩
  | failed scanner error failed =>
      rw [emission_of_outcome_error failed]
      exact ⟨Nat.zero_le _, fun _ => Nat.zero_le _⟩
  | read scanner token more read ih =>
      have shorter := advance_rest_length_lt more
      rw [emission_of_outcome_ok more read]
      refine ⟨?_, fun failed => ?_⟩
      · have bound := ih.1
        rw [Emission.cons, List.length_cons]
        omega
      · have bound := ih.2 failed
        rw [Emission.cons, List.length_cons]
        omega

end Scanner

/-- **Scanning goes forward and comes to the end.** Behind any number of calls on a text of `n`
characters the scanner stands in the text. If it is not at the end, the next call gets further,
token or error, and stays in the text; at the end it comes to the end token and leaves the scanner
as it is. A cursor that is moved by positions alone does the same, so that every position that it
asks for is there. The text therefore has at most `n + 1` tokens, or at most `n` before its first
error, and the last of `n + 1` calls comes to the end token, whatever the calls before it. -/
theorem calls_progress_and_end (text : String) :
    (∀ count,
      ((Scanner.ofString text).behind count).position ≤ text.length ∧
      (((Scanner.ofString text).behind count).position < text.length →
        ((Scanner.ofString text).behind count).position <
            ((Scanner.ofString text).behind count).next.2.position ∧
          ((Scanner.ofString text).behind count).next.2.position ≤ text.length) ∧
      (((Scanner.ofString text).behind count).position = text.length →
        ((Scanner.ofString text).behind count).next =
          (.ok .endOfInput, (Scanner.ofString text).behind count)) ∧
      Cursor.next? text.toList ((Scanner.ofString text).behind count).cursor =
        some (((Scanner.ofString text).behind count).next.1,
          ((Scanner.ofString text).behind count).next.2.cursor) ∧
      Cursor.calls? text.toList ⟨0, .plain⟩ count =
        some (((Scanner.ofString text).calls count).map (Prod.map id Scanner.cursor))) ∧
    ((∃ tokens, tokenize text = .ok tokens ∧ tokens.length ≤ text.length + 1) ∨
      ∃ error, tokenize text = .error error ∧ (emission text).tokens.length ≤ text.length) ∧
    ((Scanner.ofString text).calls (text.length + 1)).getLast?.map Prod.fst =
      some (.ok .endOfInput) := by
  have stands : (Scanner.ofString text).StandsIn text.toList := Scanner.standsIn_ofList text.toList
  have size : text.toList.length = text.length := String.length_toList
  refine ⟨fun count => ?_, ?_, ?_⟩
  · have here := stands.behind count
    rw [← size]
    exact ⟨here.position_le, fun more => ⟨here.position_lt_of_lt more, here.advance.position_le⟩,
      here.next_of_position_eq, Cursor.next?_eq here, Cursor.calls?_eq stands count⟩
  · obtain ⟨whole, front⟩ := (Scanner.ofString text).length_emission_le
    rw [show (Scanner.ofString text).rest.length = text.length from size, ← emission] at whole front
    rw [tokenize, Scanner.tokens_eq_emission, ← emission]
    cases failure : (emission text).failure with
    | none => exact .inl ⟨_, rfl, whole⟩
    | some error => exact .inr ⟨error, rfl, front (failure ▸ Option.some_ne_none error)⟩
  · have here := stands.behind text.length
    have far := stands.min_le_position_behind text.length
    have ended : ((Scanner.ofString text).behind text.length).position = text.toList.length := by
      have atMost := here.position_le
      omega
    rw [Scanner.getLast?_calls_succ, here.next_of_position_eq ended]
    rfl

/-- A text with two errors, one of them at its end: a call in front of each, and the call behind as
many as the text has characters. -/
theorem calls_progress_and_end_of_two_errors :
    ∃ scanner, scanner = Scanner.ofString "é! [a='b" ∧
      (scanner.behind 1).next.1 = .error (.unexpectedCharacter '!' 1) ∧
      (scanner.behind 1).position < (scanner.behind 1).next.2.position ∧
      Cursor.next? "é! [a='b".toList ⟨6, .value⟩ =
        some (.error (.unterminatedString "'b" 6), ⟨8, .value⟩) ∧
      (scanner.behind 8).next = (.ok .endOfInput, scanner.behind 8) ∧
      (scanner.calls 9).getLast?.map Prod.fst = some (.ok .endOfInput) := by
  obtain ⟨calls, -, ended⟩ := calls_progress_and_end "é! [a='b"
  obtain ⟨-, forward, -⟩ := calls 1
  obtain ⟨-, -, -, cutOff, -⟩ := calls 6
  obtain ⟨-, -, atEnd, -⟩ := calls 8
  have cursor : ((Scanner.ofString "é! [a='b").behind 6).cursor = ⟨6, .value⟩ := by decide +kernel
  have outcome : ((Scanner.ofString "é! [a='b").behind 6).next.1 =
      .error (.unterminatedString "'b" 6) := by decide +kernel
  have behind : ((Scanner.ofString "é! [a='b").behind 6).next.2.cursor = ⟨8, .value⟩ := by
    decide +kernel
  rw [cursor, outcome, behind] at cutOff
  exact ⟨_, rfl, by decide +kernel, (forward (by decide +kernel)).1, cutOff,
    atEnd (by decide +kernel), ended⟩

end TreeSelector
