import TreeSelector.Proofs.Grammar

/-!
# Where a text that is no selector is refused

A row of tokens is viable when it can be continued to a sentence of the grammar
(`Viable`). A phase admits a token exactly when the tokens up to it are viable
(`viable_iff_run`), since from every phase before the end some tokens lead to the
end (`Phase.exists_accepts`). So the token that is refused is the first behind
which no sentence is left, and the kinds that are named instead are kinds that
would have left one (`Phase.exists_transition_of_mem_expected`).

An error of the scanner is reported only when the tokens before it are viable:
of all that is wrong with a text, what comes first is reported
(`parse_error_exact`).
-/

set_option autoImplicit false

namespace TreeSelector

/-- Some continuation of the tokens is a sentence. -/
def Viable (tokens : List Token) : Prop :=
  ∃ later, Derives .selector (tokens ++ later)

/-- The token may stand behind the tokens. The end may stand behind a sentence,
any other token where what it leaves is viable. -/
def MayFollow (tokens : List Token) (token : Token) : Prop :=
  if token = .endOfInput then Derives .selector tokens else Viable (tokens ++ [token])

/-- The index is that of the first token which may not stand behind the tokens
before it. -/
structure FirstRefused (tokens : List Token) (index : Nat) : Prop where
  refused : ∃ token, tokens[index]? = some token ∧ ¬ MayFollow (tokens.take index) token
  first : ∀ earlier < index, ∀ token, tokens[earlier]? = some token →
    MayFollow (tokens.take earlier) token

theorem FirstRefused.unique {tokens : List Token} {index other : Nat}
    (here : FirstRefused tokens index) (there : FirstRefused tokens other) : index = other := by
  obtain ⟨token, found, refused⟩ := here.refused
  obtain ⟨otherToken, otherFound, otherRefused⟩ := there.refused
  rcases Nat.lt_trichotomy index other with before | same | behind
  · exact absurd (there.first index before token found) refused
  · exact same
  · exact absurd (here.first other behind otherToken otherFound) otherRefused

/-! ## The end can always be reached -/

/-- Tokens that finish the selector at a place. -/
def Place.completion : Place → List Token
  | .front | .behind => []
  | .idName | .className => [.identifier "a"]
  | .attributeName => [.identifier "a", .sign .rightBracket]
  | .attributeOperator _ => [.sign .rightBracket]
  | .attributeAssign _ _ => [.sign .equals, .literal "a", .sign .rightBracket]
  | .attributeValue _ _ => [.literal "a", .sign .rightBracket]
  | .attributeEnd _ => [.sign .rightBracket]

theorem Place.accepts_completion (place : Place) : place.Accepts place.completion := by
  have ended : Place.Accepts .behind [] := ⟨_, rfl⟩
  cases place with
  | front => exact ended.front
  | behind => exact ended
  | idName | className | attributeOperator | attributeEnd => exact accepts_cons rfl rfl ended
  | attributeName | attributeValue => exact accepts_cons rfl rfl (accepts_cons rfl rfl ended)
  | attributeAssign =>
      exact accepts_cons rfl rfl (accepts_cons rfl rfl (accepts_cons rfl rfl ended))

theorem Place.endOfInput_notMem_completion (place : Place) :
    .endOfInput ∉ place.completion := by
  cases place <;> simp [completion]

/-- From every phase before the end, some tokens lead to the end. -/
theorem Phase.exists_accepts {phase : Phase} (unended : phase ≠ .ended) :
    ∃ later, .endOfInput ∉ later ∧ phase.Accepts later := by
  cases here : phase.place? with
  | none => exact absurd (eq_ended_of_place?_eq_none here) unended
  | some place =>
      have same : (Phase.within none place).place? = phase.place? := here.symm
      exact ⟨place.completion, place.endOfInput_notMem_completion,
        place.accepts_completion.of_place?_eq same⟩

/-! ## Viable rows of tokens -/

namespace Draft

/-- A run goes on with a token unless its phase refuses the token. -/
theorem not_exists_run_iff_refused {draft reached : Draft} {tokens : List Token}
    (ran : draft.run tokens = .ok reached) (token : Token) :
    (¬ ∃ last, draft.run (tokens ++ [token]) = .ok last) ↔
      ∃ expected, reached.phase.step token = .error expected := by
  simp only [run_append_of_ok ran, run_singleton_eq_ok_iff]
  cases stepped : reached.phase.step token with
  | ok move =>
      have moves : reached.phase.Transition token move := Phase.transition_of_step stepped
      constructor
      · exact fun none => absurd ⟨_, move, moves, rfl⟩ none
      · exact nofun
  | error expected =>
      refine ⟨fun _ => ⟨expected, rfl⟩, fun _ => ?_⟩
      rintro ⟨last, move, moves, -⟩
      rw [Phase.step_of_transition moves] at stepped
      cases stepped

end Draft

/-- The sentences are the rows that are read up to the end of the text. -/
theorem derives_iff_run {tokens : List Token} (more : .endOfInput ∉ tokens) :
    Derives .selector tokens ↔ ∃ last, Draft.start.run (tokens ++ [.endOfInput]) = .ok last := by
  rw [Draft.exists_run_iff_accepts]
  exact (accepts_iff_derives more).symm

/-- **The viable rows are exactly those that are read.** -/
theorem viable_iff_run {tokens : List Token} (more : .endOfInput ∉ tokens) :
    Viable tokens ↔ ∃ last, Draft.start.run tokens = .ok last := by
  constructor
  · rintro ⟨later, derives⟩
    have accepts : Draft.start.phase.Accepts (tokens ++ later) := derives.leads
    obtain ⟨last, ran⟩ := Draft.exists_run_iff_accepts.mpr accepts
    rw [List.append_assoc] at ran
    exact Draft.exists_run_of_append ran
  · rintro ⟨reached, ran⟩
    obtain ⟨later, absent, accepts⟩ :=
      Phase.exists_accepts (Draft.phase_ne_ended_of_run more ran)
    obtain ⟨last, ended⟩ := Draft.exists_run_iff_accepts.mpr accepts
    refine ⟨later, (derives_iff_run (by simp [more, absent])).mpr ⟨last, ?_⟩⟩
    rw [List.append_assoc, Draft.run_append_of_ok ran, ended]

theorem mayFollow_iff_run {tokens : List Token} (more : .endOfInput ∉ tokens) (token : Token) :
    MayFollow tokens token ↔ ∃ last, Draft.start.run (tokens ++ [token]) = .ok last := by
  unfold MayFollow
  by_cases isEnd : token = .endOfInput
  · rw [if_pos isEnd, isEnd]
    exact derives_iff_run more
  · rw [if_neg isEnd]
    exact viable_iff_run (by simp [more, Ne.symm isEnd])

/-! ## Refusals -/

namespace Phase

/-- **Whether a token is admitted depends on its kind alone.** -/
theorem exists_transition_of_kind_eq {phase : Phase} {token other : Token} {move : Move}
    (moves : phase.Transition token move) (same : token.kind = other.kind) :
    ∃ next, phase.Transition other next := by
  cases token with
  | identifier name =>
      cases other with
      | identifier otherName =>
          cases moves with
          | tag _ opens => exact ⟨_, .tag otherName opens⟩
          | id joint => exact ⟨_, .id joint otherName⟩
          | className joint => exact ⟨_, .className joint otherName⟩
          | attributeName joint => exact ⟨_, .attributeName joint otherName⟩
      | _ => cases same
  | literal text =>
      cases other with
      | literal otherText =>
          cases moves with
          | literal joint name test => exact ⟨_, .literal joint name test otherText⟩
      | _ => cases same
  | quoted text =>
      cases other with
      | quoted otherText =>
          cases moves with
          | quoted joint name test => exact ⟨_, .quoted joint name test otherText⟩
      | _ => cases same
  | sign | blank | endOfInput =>
      cases other <;> cases same
      exact ⟨move, moves⟩

end Phase

/-- The kinds that are named where a token is refused at a place. -/
def Place.named : Place → List Kind
  | .front | .behind => [.sign .hash, .sign .dot, .sign .leftBracket]
  | .idName | .className | .attributeName => [.identifier]
  | .attributeOperator _ =>
      [.sign .rightBracket, .sign .equals, .sign .caret, .sign .dollar, .sign .star]
  | .attributeAssign _ _ => [.sign .equals]
  | .attributeValue _ _ => [.quoted, .literal]
  | .attributeEnd _ => [.sign .rightBracket]

/-- A token of each kind. -/
def Kind.sample : Kind → Token
  | .sign mark => .sign mark
  | .identifier => .identifier "a"
  | .literal => .literal "a"
  | .quoted => .quoted "'a'"
  | .blank => .blank
  | .endOfInput => .endOfInput

theorem Kind.kind_sample (kind : Kind) : kind.sample.kind = kind := by
  cases kind <;> rfl

namespace Place

theorem stepBehind_named {joint : Option Combinator} {token : Token} {expected : List Kind}
    (refused : Phase.stepBehind joint token = .error expected) : expected = behind.named := by
  unfold Phase.stepBehind at refused
  split at refused <;> cases refused
  rfl

theorem stepWithin_named {joint : Option Combinator} {place : Place} {token : Token}
    {expected : List Kind} (refused : Phase.stepWithin joint place token = .error expected) :
    expected = place.named := by
  cases place with
  | front =>
      simp only [Phase.stepWithin, Phase.stepFront] at refused
      split at refused
      · cases refused
      · cases refused
      · exact stepBehind_named refused
  | behind => exact stepBehind_named refused
  | attributeOperator name =>
      simp only [Phase.stepWithin, Phase.stepOperator] at refused
      split at refused <;> cases refused
      rfl
  | idName | className | attributeName | attributeAssign | attributeValue | attributeEnd =>
      unfold Phase.stepWithin at refused
      split at refused <;> simp_all [Phase.moveTo, Phase.record, named]

/-- Every kind that is named at a place is admitted there. -/
theorem exists_step_sample {place : Place} {kind : Kind} (admitted : kind ∈ place.named) :
    kind ≠ .endOfInput ∧ ∃ move, (Phase.within none place).step kind.sample = .ok move := by
  cases place with
  | front | behind =>
      simp only [named, List.mem_cons, List.not_mem_nil, or_false] at admitted
      rcases admitted with rfl | rfl | rfl <;> exact ⟨nofun, _, rfl⟩
  | idName | className | attributeName | attributeAssign | attributeEnd =>
      simp only [named, List.mem_singleton] at admitted
      subst admitted
      exact ⟨nofun, _, rfl⟩
  | attributeOperator name =>
      simp only [named, List.mem_cons, List.not_mem_nil, or_false] at admitted
      rcases admitted with rfl | rfl | rfl | rfl | rfl <;> exact ⟨nofun, _, rfl⟩
  | attributeValue name test =>
      simp only [named, List.mem_cons, List.not_mem_nil, or_false] at admitted
      rcases admitted with rfl | rfl <;> exact ⟨nofun, _, rfl⟩

end Place

namespace Phase

/-- A phase names the kinds of its place. -/
theorem expected_eq_named {phase : Phase} {place : Place} (here : phase.place? = some place)
    {token : Token} {expected : List Kind} (refused : phase.step token = .error expected) :
    expected = place.named := by
  have alike := step_place? here token
  rw [refused] at alike
  cases stepped : (within none place).step token with
  | ok move =>
      rw [stepped] at alike
      cases alike
  | error other =>
      rw [stepped] at alike
      obtain rfl := Except.error.inj alike
      exact Place.stepWithin_named stepped

/-- **Every kind that a refusal names is admitted** in place of the refused token. -/
theorem exists_transition_of_mem_expected {phase : Phase} {token : Token} {expected : List Kind}
    (unended : phase ≠ .ended) (refused : phase.step token = .error expected) {kind : Kind}
    (named : kind ∈ expected) :
    kind ≠ .endOfInput ∧ ∃ move, phase.Transition kind.sample move := by
  cases here : phase.place? with
  | none => exact absurd (eq_ended_of_place?_eq_none here) unended
  | some place =>
      rw [expected_eq_named here refused] at named
      obtain ⟨other, move, admitted⟩ := Place.exists_step_sample named
      have same : (within none place).place? = phase.place? := here.symm
      obtain ⟨next, moves, -⟩ := exists_step_of_place?_eq same admitted
      exact ⟨other, next, transition_of_step moves⟩

/-- A refused token is of none of the kinds that are named. -/
theorem kind_notMem_expected {phase : Phase} {token : Token} {expected : List Kind}
    (unended : phase ≠ .ended) (refused : phase.step token = .error expected) :
    token.kind ∉ expected := by
  intro named
  obtain ⟨-, move, moves⟩ := exists_transition_of_mem_expected unended refused named
  obtain ⟨next, admitted⟩ := exists_transition_of_kind_eq moves (Kind.kind_sample token.kind)
  rw [step_of_transition admitted] at refused
  cases refused

end Phase

/-! ## The first refusal -/

/-- The end token is not among the tokens before one that the scanner emits. -/
theorem endOfInput_notMem_take {text : String} {index : Nat} {token : Token}
    (found : (emission text).tokens[index]? = some token) :
    .endOfInput ∉ (emission text).tokens.take index := by
  obtain ⟨tokens, absent, ⟨error, whole⟩ | whole⟩ :=
    Scanner.exists_emission_eq_append (Scanner.ofString text)
  · rw [emission, whole]
    exact fun member => absent (List.mem_of_mem_take member)
  · rw [emission, whole] at found ⊢
    obtain ⟨inside, -⟩ := List.getElem?_eq_some_iff.mp found
    rw [List.length_append, List.length_singleton] at inside
    rw [List.take_append_of_le_length (by omega)]
    exact fun member => absent (List.mem_of_mem_take member)

/-- At a token that the scanner emits, the tokens up to it are read exactly when it
may stand there. -/
theorem mayFollow_take_iff_run {text : String} {index : Nat} {token : Token}
    (found : (emission text).tokens[index]? = some token) :
    MayFollow ((emission text).tokens.take index) token ↔
      ∃ last, Draft.start.run ((emission text).tokens.take (index + 1)) = .ok last := by
  rw [List.take_add_one, found]
  exact mayFollow_iff_run (endOfInput_notMem_take found) token

/-- The first token that may not stand where it stands is the one that a run of
the tokens before it refuses. -/
theorem firstRefused_iff_run {text : String} {index : Nat} :
    FirstRefused (emission text).tokens index ↔
      ∃ found reached expected, (emission text).tokens[index]? = some found ∧
        Draft.start.run ((emission text).tokens.take index) = .ok reached ∧
          reached.phase.step found = .error expected := by
  have refused_iff {found : Token} {reached : Draft}
      (here : (emission text).tokens[index]? = some found)
      (ran : Draft.start.run ((emission text).tokens.take index) = .ok reached) :
      ¬ MayFollow ((emission text).tokens.take index) found ↔
        ∃ expected, reached.phase.step found = .error expected := by
    rw [← Draft.not_exists_run_iff_refused ran, mayFollow_take_iff_run here, List.take_add_one,
      here]
    rfl
  constructor
  · rintro ⟨⟨found, here, refused⟩, first⟩
    have read : ∃ reached, Draft.start.run ((emission text).tokens.take index) = .ok reached := by
      cases index with
      | zero => exact ⟨Draft.start, rfl⟩
      | succ earlier =>
          obtain ⟨inside, -⟩ := List.getElem?_eq_some_iff.mp here
          have there := List.getElem?_eq_getElem (Nat.lt_of_succ_lt inside)
          exact (mayFollow_take_iff_run there).mp (first earlier (Nat.lt_succ_self earlier) _ there)
    obtain ⟨reached, ran⟩ := read
    obtain ⟨expected, stepped⟩ := (refused_iff here ran).mp refused
    exact ⟨found, reached, expected, here, ran, stepped⟩
  · rintro ⟨found, reached, expected, here, ran, refused⟩
    refine ⟨⟨found, here, (refused_iff here ran).mpr ⟨expected, refused⟩⟩, ?_⟩
    intro earlier before token there
    obtain ⟨later, whole⟩ : (emission text).tokens.take (earlier + 1) <+:
        (emission text).tokens.take index := List.take_prefix_take_left before
    rw [← whole] at ran
    exact (mayFollow_take_iff_run there).mpr (Draft.exists_run_of_append ran)

/-- A refusal is that of the first token that may not stand where it stands. -/
theorem parse_eq_unexpected_iff_firstRefused {text : String} {expected : List Kind}
    {found : Token} :
    parse text = .error (.unexpected expected found) ↔
      ∃ index reached, FirstRefused (emission text).tokens index ∧
        (emission text).tokens[index]? = some found ∧
          Draft.start.run ((emission text).tokens.take index) = .ok reached ∧
            reached.phase.step found = .error expected := by
  rw [parse_eq_unexpected_iff, Draft.run_eq_error_iff]
  constructor
  · rintro ⟨before, found, after, reached, expected, parts, ran, refused, same⟩
    cases same
    have here : (emission text).tokens[before.length]? = some found := by simp [parts]
    have taken : (emission text).tokens.take before.length = before := by simp [parts]
    rw [← taken] at ran
    exact ⟨before.length, reached,
      firstRefused_iff_run.mpr ⟨found, reached, expected, here, ran, refused⟩, here, ran, refused⟩
  · rintro ⟨index, reached, -, here, ran, refused⟩
    obtain ⟨bound, rfl⟩ := List.getElem?_eq_some_iff.mp here
    refine ⟨_, _, (emission text).tokens.drop (index + 1), reached, expected, ?_, ran, refused, rfl⟩
    rw [← List.drop_eq_getElem_cons, List.take_append_drop]

/-- A kind that a refusal names leaves the tokens before it viable. -/
theorem viable_of_mem_expected {tokens : List Token} {reached : Draft} {found : Token}
    {expected : List Kind} (more : .endOfInput ∉ tokens)
    (ran : Draft.start.run tokens = .ok reached)
    (refused : reached.phase.step found = .error expected) {kind : Kind} (named : kind ∈ expected) :
    Viable (tokens ++ [kind.sample]) := by
  obtain ⟨other, move, moves⟩ := Phase.exists_transition_of_mem_expected
    (Draft.phase_ne_ended_of_run more ran) refused named
  have notEnd : kind.sample ≠ .endOfInput := by
    intro isEnd
    have sampled := kind.kind_sample
    rw [isEnd] at sampled
    exact other sampled.symm
  have goesOn : Draft.start.run (tokens ++ [kind.sample]) = .ok (reached.perform move) := by
    rw [Draft.run_append_of_ok ran, Draft.run_cons_of_transition moves, Draft.run_nil]
  exact (viable_iff_run (by simp [more, Ne.symm notEnd])).mpr ⟨_, goesOn⟩

/-- **Errors are exact.** A lexical error is reported when the tokens before it are
viable. A refusal is reported when there is a first token that may not stand where
it stands; it names this token, and kinds that would have left the tokens viable. -/
theorem parse_error_exact (text : String) :
    (∀ error, parse text = .error (.lexical error) ↔
      (emission text).failure = some error ∧ Viable (emission text).tokens) ∧
    ((∃ expected found, parse text = .error (.unexpected expected found)) ↔
      ∃ index, FirstRefused (emission text).tokens index) ∧
    ∀ expected found index, parse text = .error (.unexpected expected found) →
      FirstRefused (emission text).tokens index →
        (emission text).tokens[index]? = some found ∧
        (∀ kind ∈ expected, ∃ token, token.kind = kind ∧
          Viable ((emission text).tokens.take index ++ [token])) ∧
        found.kind ∉ expected := by
  refine ⟨?_, ⟨?_, ?_⟩, ?_⟩
  · intro error
    rw [parse_eq_lexical_iff]
    refine and_congr_right fun failed => (viable_iff_run ?_).symm
    obtain ⟨tokens, absent, ⟨other, whole⟩ | whole⟩ :=
      Scanner.exists_emission_eq_append (Scanner.ofString text)
    · rw [emission, whole]
      exact absent
    · rw [emission, whole] at failed
      cases failed
  · rintro ⟨expected, found, failed⟩
    obtain ⟨index, -, refused, -⟩ := parse_eq_unexpected_iff_firstRefused.mp failed
    exact ⟨index, refused⟩
  · rintro ⟨index, refused⟩
    obtain ⟨found, reached, expected, here, ran, stepped⟩ := firstRefused_iff_run.mp refused
    exact ⟨expected, found, parse_eq_unexpected_iff_firstRefused.mpr
      ⟨index, reached, refused, here, ran, stepped⟩⟩
  · intro expected found index failed refused
    obtain ⟨other, reached, otherRefused, here, ran, stepped⟩ :=
      parse_eq_unexpected_iff_firstRefused.mp failed
    obtain rfl := otherRefused.unique refused
    have more := endOfInput_notMem_take here
    refine ⟨here, ?_, Phase.kind_notMem_expected (Draft.phase_ne_ended_of_run more ran) stepped⟩
    intro kind named
    exact ⟨kind.sample, kind.kind_sample, viable_of_mem_expected more ran stepped named⟩

/-- The `=` is refused, and the quote behind it, which is never closed, plays no part. -/
theorem parse_error_exact_of_unclosed_quote :
    parse "a='" =
        .error (.unexpected [.sign .hash, .sign .dot, .sign .leftBracket] (.sign .equals)) ∧
      ∃ index, FirstRefused (emission "a='").tokens index ∧
        (emission "a='").tokens[index]? = some (.sign .equals) := by
  have failed : parse "a='" =
      .error (.unexpected [.sign .hash, .sign .dot, .sign .leftBracket] (.sign .equals)) := by
    decide +kernel
  obtain ⟨-, refused, names⟩ := parse_error_exact "a='"
  obtain ⟨index, first⟩ := refused.mp ⟨_, _, failed⟩
  exact ⟨failed, index, first, (names _ _ index failed first).1⟩

end TreeSelector
