import Mathlib.Data.List.Induction
import TreeSelector.Proofs.Token.Calls

/-!
# The mode of a scanner and the tokens before it

The mode is the one thing besides its place that a scanner carries from call to call. It is
no secret: the tokens that have been emitted determine it (`Scanner.mode_behind`). It is
value exactly when the last of them that sets the mode, an `=` or a `]`, is an `=`
(`foldl_after_eq_value_iff`), in other words where an `=` has been emitted and no `]` since
(`openValue_iff`).

So from the outcomes alone one can tell where a value is read and where none is
(`mode_eq_value_iff_and_outcomes`). An error leaves the mode as it is, and what the scanner
emits behind an error fits the tokens before it.
-/

set_option autoImplicit false

namespace TreeSelector

/-! ## The mode behind tokens -/

/-- Whether a token sets the mode of what stands behind it. -/
def Token.setsMode : Token → Bool
  | .sign .equals => true
  | .sign .rightBracket => true
  | _ => false

theorem Mode.after_eq_value_iff {mode : Mode} {token : Token} :
    mode.after token = .value ↔
      token = .sign .equals ∨ mode = .value ∧ token ≠ .sign .rightBracket := by
  cases token with
  | sign mark => cases mark <;> cases mode <;> simp [Mode.after]
  | identifier | literal | quoted | blank | endOfInput => cases mode <;> simp [Mode.after]

/-- **The mode behind a row of tokens is value when the last one that sets the mode is an
`=`.** -/
theorem foldl_after_eq_value_iff (tokens : List Token) :
    tokens.foldl Mode.after .plain = .value ↔
      (tokens.filter Token.setsMode).getLast? = some (.sign .equals) := by
  induction tokens using List.reverseRecOn with
  | nil => simp
  | append_singleton tokens token ih =>
      rw [List.foldl_append, List.foldl_cons, List.foldl_nil, Mode.after_eq_value_iff, ih,
        List.filter_append]
      cases token with
      | sign mark => cases mark <;> simp [Token.setsMode]
      | identifier | literal | quoted | blank | endOfInput => simp [Token.setsMode]

/-- An `=` is among the tokens, and no `]` behind it. -/
def OpenValue (tokens : List Token) : Prop :=
  ∃ front between, tokens = front ++ .sign .equals :: between ∧ .sign .rightBracket ∉ between

theorem openValue_concat_iff {tokens : List Token} {token : Token} :
    OpenValue (tokens ++ [token]) ↔
      token = .sign .equals ∨ OpenValue tokens ∧ token ≠ .sign .rightBracket := by
  constructor
  · rintro ⟨front, between, whole, absent⟩
    rcases List.eq_nil_or_concat between with rfl | ⟨init, last, rfl⟩
    · obtain ⟨-, same⟩ := List.append_inj' whole rfl
      exact .inl (List.singleton_inj.mp same)
    · rw [List.concat_eq_append, ← List.cons_append, ← List.append_assoc] at whole
      obtain ⟨same, isLast⟩ := List.append_inj' whole rfl
      obtain rfl := List.singleton_inj.mp isLast
      rw [List.concat_eq_append, List.mem_append, not_or] at absent
      refine .inr ⟨⟨front, init, same, absent.1⟩, ?_⟩
      rintro rfl
      exact absent.2 (List.mem_singleton_self _)
  · rintro (rfl | ⟨⟨front, between, rfl, absent⟩, other⟩)
    · exact ⟨tokens, [], rfl, List.not_mem_nil⟩
    · refine ⟨front, between ++ [token], by simp, ?_⟩
      rw [List.mem_append, List.mem_singleton, not_or]
      exact ⟨absent, Ne.symm other⟩

/-- **The mode behind a row of tokens is value when an `=` is open.** -/
theorem openValue_iff (tokens : List Token) :
    OpenValue tokens ↔ tokens.foldl Mode.after .plain = .value := by
  induction tokens using List.reverseRecOn with
  | nil =>
      refine ⟨?_, fun value => by cases value⟩
      rintro ⟨front, between, whole, -⟩
      simp at whole
  | append_singleton tokens token ih =>
      rw [openValue_concat_iff, ih, List.foldl_append, List.foldl_cons, List.foldl_nil,
        Mode.after_eq_value_iff]

/-! ## The mode behind calls -/

/-- The tokens among the outcomes of calls. -/
def emitted (calls : List Call) : List Token :=
  calls.filterMap fun call => call.outcome.toOption

theorem emitted_cons (call : Call) (later : List Call) :
    emitted (call :: later) = call.outcome.toOption.toList ++ emitted later := by
  rw [emitted, List.filterMap_cons]
  cases call.outcome.toOption <;> rfl

namespace Scanner

/-- The scanner behind a number of calls: the last one that they hand out. -/
def behind (scanner : Scanner) (count : Nat) : Scanner :=
  ((scanner.calls count).getLast?.map Prod.snd).getD scanner

theorem length_history (scanner : Scanner) (count : Nat) :
    (scanner.history count).length = count := by
  induction count generalizing scanner with
  | zero => rfl
  | succ count ih => rw [history, List.length_cons, ih]

theorem behind_succ (scanner : Scanner) (count : Nat) :
    scanner.behind (count + 1) = scanner.advance.behind count := by
  rw [behind, behind, calls, List.getLast?_cons]
  cases (scanner.advance.calls count).getLast? <;> rfl

/-- A token sets the mode, and an error leaves it as it is. -/
theorem Answers.mode_eq {before behind : Scanner} {outcome : Except LexicalError Token}
    (answers : before.Answers outcome behind) :
    behind.mode = outcome.toOption.toList.foldl Mode.after before.mode := by
  cases answers with
  | ended position mode => cases mode <;> rfl
  | read position front => rfl
  | refused front => rfl

/-- **The mode behind calls is the mode behind the tokens that they emit.** -/
theorem mode_behind (scanner : Scanner) (count : Nat) :
    (scanner.behind count).mode =
      (emitted (scanner.history count)).foldl Mode.after scanner.mode := by
  induction count generalizing scanner with
  | zero => rfl
  | succ count ih =>
      have first : scanner.advance.mode =
          scanner.call.outcome.toOption.toList.foldl Mode.after scanner.mode :=
        scanner.answers.mode_eq
      rw [behind_succ, ih, history, emitted_cons, List.foldl_append, ← first]

/-- A history goes on behind any number of its calls. -/
theorem history_add (scanner : Scanner) (count more : Nat) :
    scanner.history (count + more) =
      scanner.history count ++ (scanner.behind count).history more := by
  induction count generalizing scanner with
  | zero => rw [Nat.zero_add]; rfl
  | succ count ih => rw [Nat.succ_add, history, history, ih, behind_succ, List.cons_append]

/-- A call in a history is the one that is made behind the calls before it. -/
theorem call_of_history_eq {scanner : Scanner} {count : Nat} {earlier later : List Call}
    {call : Call} (split : scanner.history count = earlier ++ call :: later) :
    earlier = scanner.history earlier.length ∧ call = (scanner.behind earlier.length).call := by
  have lengths := congrArg List.length split
  rw [length_history, List.length_append, List.length_cons] at lengths
  rw [lengths, history_add, history] at split
  obtain ⟨same, rest⟩ := List.append_inj split (length_history _ _)
  exact ⟨same.symm, (List.cons.inj rest).1.symm⟩

end Scanner

/-! ## The outcomes of a mode -/

/-- What a call may come to within a value: white space, a value, the end of the text, or a
value that the end of the text cuts off. -/
def InValue : Except LexicalError Token → Prop
  | .ok .blank => True
  | .ok (.literal _) => True
  | .ok (.quoted _) => True
  | .ok .endOfInput => True
  | .error (.unterminatedString _ _) => True
  | _ => False

/-- A value, or one that the end of the text cuts off. -/
def IsValue : Except LexicalError Token → Prop
  | .ok (.literal _) => True
  | .ok (.quoted _) => True
  | .error (.unterminatedString _ _) => True
  | _ => False

namespace Scanner.Answers

variable {before behind : Scanner} {outcome : Except LexicalError Token}

/-- In value mode a call stays within the value, or closes it. -/
theorem inValue (answers : before.Answers outcome behind) (mode : before.mode = .value) :
    outcome = .ok (.sign .rightBracket) ∨ InValue outcome := by
  cases answers with
  | ended position mode => exact .inr trivial
  | @read _ token _ _ position front =>
      have gives := front.gives
      obtain rfl : _ = Mode.value := mode
      cases token with
      | sign mark =>
          obtain rfl : mark = .rightBracket := gives
          exact .inl rfl
      | blank | literal | quoted => exact .inr trivial
      | identifier | endOfInput => exact absurd gives id
  | refused front =>
      cases front with
      | character => cases mode
      | string => exact .inr trivial

/-- In plain mode no call comes to a value. -/
theorem not_isValue (answers : before.Answers outcome behind) (mode : before.mode = .plain) :
    ¬ IsValue outcome := by
  cases answers with
  | ended position mode => exact id
  | @read _ token _ _ position front =>
      have gives := front.gives
      obtain rfl : _ = Mode.plain := mode
      cases token with
      | sign | identifier | blank | endOfInput => exact id
      | literal | quoted => exact absurd gives id
  | refused front =>
      cases front with
      | character => exact id
      | string => cases mode

end Scanner.Answers

/-- **The tokens that have been emitted tell the mode.** Behind any number of calls on a text
the mode is value exactly when the last `=` or `]` that was emitted is an `=`. From an `=` up to
the next `]` the calls come to white space, values, cut off values and the end of the text
alone, and elsewhere no call comes to a value. An error changes the mode nowhere. -/
theorem mode_eq_value_iff_and_outcomes (text : String) (count : Nat) :
    (((Scanner.ofString text).behind count).mode = .value ↔
      ((emitted ((Scanner.ofString text).history count)).filter Token.setsMode).getLast? =
        some (.sign .equals)) ∧
    ∀ earlier call later,
      (Scanner.ofString text).history count = earlier ++ call :: later →
        (OpenValue (emitted earlier) →
          call.outcome = .ok (.sign .rightBracket) ∨ InValue call.outcome) ∧
        (¬ OpenValue (emitted earlier) → ¬ IsValue call.outcome) ∧
        ∀ error, call.outcome = .error error → call.behind.mode = call.before.mode := by
  constructor
  · rw [Scanner.mode_behind, ← foldl_after_eq_value_iff]
    rfl
  · intro earlier call later split
    obtain ⟨isHistory, rfl⟩ := Scanner.call_of_history_eq split
    have answers := ((Scanner.ofString text).behind earlier.length).answers
    have mode : ((Scanner.ofString text).behind earlier.length).mode =
        (emitted earlier).foldl Mode.after .plain := by
      rw [Scanner.mode_behind, ← isHistory]
      rfl
    refine ⟨fun opened => ?_, fun closed => ?_, fun error failed => ?_⟩
    · exact answers.inValue (mode.trans ((openValue_iff _).mp opened))
    · refine answers.not_isValue ?_
      cases plain : ((Scanner.ofString text).behind earlier.length).mode with
      | plain => rfl
      | value => exact absurd ((openValue_iff _).mpr (mode.symm.trans plain)) closed
    · have kept := answers.mode_eq
      rw [show ((Scanner.ofString text).behind earlier.length).lexeme.outcome = .error error
        from failed] at kept
      exact kept

/-- A text with an error, a value that is closed, and one that its end cuts off: the calls
behind the first seven, and those behind the first five. -/
theorem mode_eq_value_iff_and_outcomes_of_cut_off_value :
    ∃ scanner, scanner = Scanner.ofString "x!=b ]y='z" ∧ (scanner.behind 10).mode = .value ∧
      (OpenValue (emitted (scanner.history 7)) ∧
        (scanner.behind 7).call.outcome = .error (.unterminatedString "'z" 8) ∧
        InValue (scanner.behind 7).call.outcome ∧
        (scanner.behind 7).call.behind.mode = (scanner.behind 7).call.before.mode) ∧
      ¬ OpenValue (emitted (scanner.history 5)) ∧
      ¬ IsValue (scanner.behind 5).call.outcome := by
  obtain ⟨mode, outcomes⟩ := mode_eq_value_iff_and_outcomes "x!=b ]y='z" 10
  obtain ⟨within, -, kept⟩ := outcomes _ _ _ (Scanner.history_add _ 7 3)
  obtain ⟨-, outside, -⟩ := outcomes _ _ _ (Scanner.history_add _ 5 5)
  have opened : OpenValue (emitted ((Scanner.ofString "x!=b ]y='z").history 7)) := by
    rw [openValue_iff]
    decide +kernel
  have closed : ¬ OpenValue (emitted ((Scanner.ofString "x!=b ]y='z").history 5)) := by
    rw [openValue_iff]
    decide +kernel
  have cutOff : ((Scanner.ofString "x!=b ]y='z").behind 7).call.outcome =
      .error (.unterminatedString "'z" 8) := by
    decide +kernel
  refine ⟨_, rfl, mode.mpr (by decide +kernel), ⟨opened, cutOff, ?_, kept _ cutOff⟩, closed,
    outside closed⟩
  rcases within opened with bracket | within
  · rw [cutOff] at bracket
    cases bracket
  · exact within

end TreeSelector
