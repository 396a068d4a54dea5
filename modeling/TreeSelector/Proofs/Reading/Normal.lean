import TreeSelector.Proofs.Reading.Outcome
import TreeSelector.Proofs.Selector.Tokens

/-!
# What reading leaves of the tokens

Reading forgets little of a text. A blank beside `>`, `+` or `~` or behind a comma
is padding, and a value is the same with and without quotes. The normal form of a
row of tokens (`normal`) leaves out the padding and takes the quotes off the
values. Two texts are read as the same selector exactly when their tokens have
the same normal form (`parse_eq_iff_normal_eq`).

Both directions come from one induction on the row (`Draft.run_normal`). The
normal form is read like the row itself, because a blank that is padding leads to
where the token behind it is read alike (`Draft.run_of_run_padding`). And nothing
of the normal form is lost: a draft can be written out again (`Draft.written`),
and every move that is not padding writes its own token (`Draft.written_perform`).
-/

set_option autoImplicit false

namespace TreeSelector

/-! ## Normal form -/

namespace Token

/-- Whether the token is `>`, `+` or `~`. A blank beside one of these is padding. -/
def isCombinator : Token → Bool
  | .sign mark => mark.combinator?.isSome
  | _ => false

/-- Whether a blank behind the token is padding: behind `>`, `+`, `~` and a comma. -/
def padsBehind (token : Token) : Bool :=
  token.isCombinator || decide (token = .sign .comma)

/-- The token, where a quoted value has lost its quotes. -/
def bare : Token → Token
  | .quoted text => .literal (unquoted text)
  | token => token

end Token

/-- Whether a blank is padding, by the tokens next to it, as far as there are any. -/
def isPadding (before next : Option Token) : Bool :=
  before.any Token.padsBehind || next.any Token.isCombinator

/-- The normal form of a row behind a token, if there is one: without padding, and
with every value bare. -/
def normalBehind : Option Token → List Token → List Token
  | _, [] => []
  | before, token :: later =>
      if token = .blank ∧ isPadding before later.head? = true then normalBehind (some token) later
      else token.bare :: normalBehind (some token) later

/-- The normal form of a whole row. -/
def normal (tokens : List Token) : List Token :=
  normalBehind none tokens

/-- What stands before a row counts only for a blank at its front. -/
theorem normalBehind_eq_of_head?_ne_blank {tokens : List Token}
    (other : tokens.head? ≠ some .blank) (before after : Option Token) :
    normalBehind before tokens = normalBehind after tokens := by
  cases tokens with
  | nil => rfl
  | cons token later =>
      have notBlank : token ≠ .blank := fun same => other (congrArg some same)
      simp [normalBehind, notBlank]

/-- No blank stands behind a blank. -/
theorem head?_ne_blank_of_squeeze {token : Token} {later : List Token}
    (squeezed : squeeze (decide (token = .blank)) later = later) (blank : token = .blank) :
    (later ++ [Token.endOfInput]).head? ≠ some .blank := by
  cases later with
  | nil => exact nofun
  | cons next rest =>
      intro same
      have apart := (of_squeeze_cons_eq squeezed).1 (Option.some.inj same)
      rw [decide_eq_true blank] at apart
      cases apart

theorem Token.exists_combinator_of_isCombinator {token : Token}
    (is : token.isCombinator = true) :
    ∃ mark combinator, token = .sign mark ∧ mark.combinator? = some combinator := by
  cases token with
  | sign mark =>
      obtain ⟨combinator, same⟩ := Option.isSome_iff_exists.mp is
      exact ⟨mark, combinator, rfl, same⟩
  | _ => cases is

/-! ## Moves and padding -/

namespace Phase

/-- The test of an attribute whose operator has been begun asks for a value. -/
def Tested : Phase → Prop
  | .within _ (.attributeAssign _ test) => test ≠ .present
  | .within _ (.attributeValue _ test) => test ≠ .present
  | .within _ (.attributeEnd predicate) => predicate.test ≠ .present
  | _ => True

variable {phase : Phase} {token : Token} {move : Move}

theorem Transition.tested (moves : phase.Transition token move) (tested : phase.Tested) :
    move.phase.Tested := by
  cases moves with
  | assign => exact tested
  | quoted | literal => exact tested
  | equals => exact nofun
  | @operator _ _ mark test begins =>
      rintro rfl
      cases mark <;> cases begins
  | _ => trivial

/-- A blank is padding behind exactly those tokens that take it as padding. -/
theorem Transition.padded_eq (moves : phase.Transition token move) :
    move.phase.padded = token.padsBehind := by
  cases moves with
  | @combinator _ _ mark _ _ _ is | @combinatorAfterBlank mark _ is =>
      simp [padded, Token.padsBehind, Token.isCombinator, is]
  | @operator _ _ mark _ begins => cases mark <;> cases begins <;> rfl
  | _ => rfl

/-- Only a blank leads behind a blank. -/
theorem Transition.eq_blank_of_afterBlank (moves : phase.Transition token move)
    (afterBlank : move.phase = .afterBlank) : token = .blank := by
  cases moves with
  | blank => rfl
  | _ => cases afterBlank

/-- A value is read alike with and without its quotes. -/
theorem Transition.bare (moves : phase.Transition token move) :
    phase.Transition token.bare move := by
  cases token with
  | quoted text =>
      cases moves with
      | quoted joint name test => exact .literal joint name test (unquoted text)
  | _ => exact moves

/-- Where a blank is padding, any other token is read as behind the blank. -/
theorem step_eq_of_padded {joint : Option Combinator} (opens : phase.Opens joint)
    (padded : phase.padded = true) (other : token ≠ .blank) :
    phase.step token = (Phase.within joint .front).step token := by
  have same : stepPadded joint token = stepFront joint token := by
    cases token with
    | blank => exact absurd rfl other
    | _ => rfl
  cases opens with
  | front | afterBlank => cases padded
  | afterCombinator | afterComma => exact same

end Phase

namespace Draft

variable {draft last : Draft}

/-- **Padding can be left out.** A blank that is padding leads to where the token
behind it is read as without the blank. -/
theorem run_of_run_padding {before : Option Token} {next : Token} {later : List Token}
    (padding : isPadding before (some next) = true)
    (padded : draft.phase.padded = before.any Token.padsBehind)
    (unblank : draft.phase ≠ .afterBlank) (other : next ≠ .blank)
    (ran : draft.run (.blank :: next :: later) = .ok last) :
    draft.run (next :: later) = .ok last := by
  obtain ⟨phase, chains, predicates⟩ := draft
  obtain ⟨move, moves, ranLater⟩ := run_cons_eq_ok_iff.mp ran
  simp only at padded unblank moves
  cases moves with
  | @padding _ joint opens isPadded =>
      obtain ⟨move, moves, ranRest⟩ := run_cons_eq_ok_iff.mp ranLater
      refine run_cons_eq_ok_iff.mpr ⟨move, ?_, ranRest⟩
      rw [← Phase.step_eq_ok_iff, Phase.step_eq_of_padded opens isPadded other]
      exact Phase.step_of_transition moves
  | blank here unpadded =>
      -- The blank ends the compound, and so does the combinator by itself.
      rw [unpadded] at padded
      simp only [isPadding, ← padded, Option.any_some, Bool.false_or] at padding
      obtain ⟨mark, combinator, rfl, is⟩ := Token.exists_combinator_of_isCombinator padding
      rw [run_cons_of_transition (.combinatorAfterBlank is)] at ranLater
      rw [run_cons_of_transition (.combinator here unblank is)]
      exact ranLater

end Draft

/-! ## Writing a draft out -/

/-- The token of a combinator without padding. -/
def Combinator.token : Combinator → Token
  | .descendant => .blank
  | .child => .sign .greater
  | .adjacentSibling => .sign .plus
  | .generalSibling => .sign .tilde

theorem Sign.token_of_combinator? {mark : Sign} {combinator : Combinator}
    (is : mark.combinator? = some combinator) : combinator.token = .sign mark := by
  cases mark <;> cases is <;> rfl

/-- The tokens of a compound, with its values bare. -/
def Compound.row (compound : Compound) : List Token :=
  compound.tokens.map Token.bare

/-- The tokens of a chain without padding, with its values bare. -/
def Chain.row : Chain → List Token
  | .single compound => compound.row
  | .link before combinator last => before.row ++ combinator.token :: last.row

/-- The tokens of the closed chains, the last of which comes first in the list, with
commas between them. -/
def chainsRow : List Chain → List Token
  | [] => []
  | [chain] => chain.row
  | chain :: next :: below => chainsRow (next :: below) ++ .sign .comma :: chain.row

/-- The tokens up to the front of a compound behind closed chains: those of the
chains, and the token between the last of them and the compound. -/
def jointRow (chains : List Chain) : Option Combinator → List Token
  | some combinator => chainsRow chains ++ [combinator.token]
  | none => if chains = [] then [] else chainsRow chains ++ [.sign .comma]

/-- The tokens of what has been begun behind the last predicate. -/
def Place.row : Place → List Token
  | .front | .behind => []
  | .idName => [.sign .hash]
  | .className => [.sign .dot]
  | .attributeName => [.sign .leftBracket]
  | .attributeOperator name => [.sign .leftBracket, .identifier name]
  | .attributeAssign name test =>
      .sign .leftBracket :: .identifier name :: test.tokens.dropLast
  | .attributeValue name test => .sign .leftBracket :: .identifier name :: test.tokens
  | .attributeEnd predicate =>
      .sign .leftBracket :: .identifier predicate.name ::
        (predicate.test.tokens ++ [.literal predicate.expected])

/-- The tokens of what a phase has begun. -/
def Phase.row : Phase → List Token
  | .within _ place => place.row
  | .afterBlank | .afterCombinator _ | .afterComma | .ended => []

/-- The tokens that a draft has been read from, in normal form. -/
def Draft.written (draft : Draft) : List Token :=
  match draft.phase with
  | .ended => chainsRow draft.chains ++ [.endOfInput]
  | phase =>
      jointRow draft.chains phase.joint? ++ ((Compound.mk draft.predicates).row ++ phase.row)

theorem Compound.row_concat (predicates : List Predicate) (predicate : Predicate) :
    (Compound.mk (predicates ++ [predicate])).row =
      (Compound.mk predicates).row ++ predicate.tokens.map Token.bare := by
  simp [Compound.row, Compound.tokens]

/-- The tokens of an attribute test that asks for a value. -/
theorem Predicate.bare_tokens_of_tested {predicate : AttributePredicate}
    (tested : predicate.test ≠ .present) :
    (Predicate.withAttribute predicate).tokens.map Token.bare =
      (Place.attributeEnd predicate).row ++ [.sign .rightBracket] := by
  obtain ⟨name, test, expected⟩ := predicate
  cases test with
  | present => exact absurd rfl tested
  | equals | startsWith | endsWith | contains =>
      simp [Predicate.tokens, AttributePredicate.testTokens, AttributeTest.tokens, Token.bare,
        unquoted_quotedFor, Place.row]

namespace Draft

/-- A compound that is closed is written behind the chains before it. -/
theorem chainsRow_close {joint : Option Combinator} {chains : List Chain}
    (linked : joint ≠ none → chains ≠ []) (compound : Compound) :
    chainsRow (close joint compound chains) = jointRow chains joint ++ compound.row := by
  cases chains with
  | nil =>
      cases joint with
      | none => rfl
      | some combinator => exact absurd rfl (linked nofun)
  | cons before below =>
      cases joint with
      | none => simp [close, chainsRow, jointRow, Chain.row]
      | some combinator => cases below <;> simp [close, chainsRow, jointRow, Chain.row]

variable {draft last : Draft} {token : Token} {move : Move}

/-- Where a compound is read and nothing has been begun behind its last predicate. -/
theorem written_of_atCompound {joint : Option Combinator} (here : draft.phase.AtCompound joint) :
    draft.written = jointRow draft.chains joint ++ (Compound.mk draft.predicates).row := by
  obtain ⟨phase, chains, predicates⟩ := draft
  cases here with
  | behind => simp [written, Phase.joint?, Phase.row, Place.row]
  | opens opens => cases opens <;> simp [written, Phase.joint?, Phase.row, Place.row]

/-- Where nothing has been read of a compound. -/
theorem written_of_opens {phase : Phase} {joint : Option Combinator} (opens : phase.Opens joint)
    (chains : List Chain) : (Draft.mk phase chains []).written = jointRow chains joint := by
  rw [written_of_atCompound (.opens opens)]
  exact List.append_nil _

theorem written_ended (chains : List Chain) (predicates : List Predicate) :
    (Draft.mk .ended chains predicates).written = chainsRow chains ++ [.endOfInput] :=
  rfl

theorem written_within (joint : Option Combinator) (place : Place) (chains : List Chain)
    (predicates : List Predicate) :
    (Draft.mk (.within joint place) chains predicates).written =
      jointRow chains joint ++ ((Compound.mk predicates).row ++ place.row) :=
  rfl

/-- **Every move that is not padding writes its own token.** -/
theorem written_perform (fits : draft.Fits) (tested : draft.phase.Tested)
    (live : draft.phase ≠ .ended) (unpadded : draft.phase.Unpadded token)
    (named : token ≠ .identifier "*") (moves : draft.phase.Transition token move) :
    (draft.perform move).written = draft.written ++ [token.bare] := by
  obtain ⟨phase, chains, predicates⟩ := draft
  have linked := fits.linked
  simp only at linked tested live unpadded moves
  have closed {joint : Option Combinator} (here : phase.AtCompound joint) :
      chainsRow (close joint ⟨predicates⟩ chains) = (Draft.mk phase chains predicates).written := by
    rw [chainsRow_close (fun joined => linked (here.joint?_eq ▸ joined)),
      written_of_atCompound here]
  cases moves with
  | tag name opens =>
      have other : name ≠ "*" := fun same => named (congrArg Token.identifier same)
      rw [perform, written_within, Compound.row_concat, written_of_atCompound (.opens opens)]
      simp [Predicate.tokens, other, Token.bare, Place.row]
  | anyTag opens =>
      rw [perform, written_within, Compound.row_concat, written_of_atCompound (.opens opens)]
      simp [Predicate.tokens, Token.bare, Place.row]
  | hash here | dot here | leftBracket here =>
      rw [perform, written_within, written_of_atCompound here]
      simp [Token.bare, Place.row]
  | id | className =>
      rw [perform, written_within, written_within, Compound.row_concat]
      simp [Predicate.tokens, Token.bare, Place.row]
  | present =>
      rw [perform, written_within, written_within, Compound.row_concat]
      simp [Predicate.tokens, AttributePredicate.testTokens, Token.bare, Place.row]
  | attributeName | equals | quoted | literal =>
      rw [perform, written_within, written_within]
      simp [AttributeTest.tokens, Token.bare, Place.row]
  | @operator _ _ mark _ begins =>
      rw [perform, written_within, written_within]
      cases mark <;> cases begins <;> simp [AttributeTest.tokens, Token.bare, Place.row]
  | assign joint name test =>
      rw [perform, written_within, written_within]
      cases test with
      | present => exact absurd rfl tested
      | _ => simp [AttributeTest.tokens, Token.bare, Place.row]
  | rightBracket joint predicate =>
      rw [perform, written_within, written_within, Compound.row_concat,
        Predicate.bare_tokens_of_tested tested]
      simp [Token.bare, Place.row]
  | padding opens padded =>
      rw [unpadded.blank rfl] at padded
      cases padded
  | blank here =>
      rw [perform, written_of_opens .afterBlank, jointRow, closed here]
      rfl
  | combinator here unblank is =>
      rw [perform, written_of_opens (.afterCombinator _), jointRow, closed here,
        Sign.token_of_combinator? is]
      rfl
  | combinatorAfterBlank is =>
      exact absurd rfl (unpadded.combinator _ rfl (by rw [is]; exact Option.some_ne_none _))
  | comma here =>
      rw [perform, written_of_opens .afterComma, jointRow, if_neg (close_ne_nil _ _ chains),
        closed here]
      rfl
  | endOfInput here =>
      rw [perform, written_ended, closed here]
      rfl
  | ended => exact absurd rfl live

/-! ## Reading a normal form -/

/-- What holds between a draft and the rest of the row: the token before the rest
tells whether a blank is padding there, and behind a blank neither another blank
nor a combinator follows. -/
structure Meets (draft : Draft) (before : Option Token) (behindBlank : Bool)
    (rest : List Token) : Prop where
  fits : draft.Fits
  tested : draft.phase.Tested
  live : draft.phase ≠ .ended
  padded : draft.phase.padded = before.any Token.padsBehind
  behind : draft.phase = .afterBlank → behindBlank = true
  alone : draft.phase = .afterBlank → rest.head?.any Token.isCombinator = false

/-- Before any text nothing has been read. -/
theorem meets_start (rest : List Token) : start.Meets none false rest :=
  ⟨fits_start, trivial, nofun, rfl, nofun, nofun⟩

namespace Meets

variable {before : Option Token} {behindBlank : Bool} {later : List Token}

/-- A token that is kept is not padding in its phase. -/
theorem unpadded (meets : draft.Meets before behindBlank (token :: later))
    (kept : ¬ (token = .blank ∧ isPadding before later.head? = true)) :
    draft.phase.Unpadded token where
  blank := by
    rintro rfl
    rw [meets.padded, ← Bool.not_eq_true]
    intro pads
    exact kept ⟨rfl, by simp [isPadding, pads]⟩
  combinator := by
    rintro mark rfl is afterBlank
    have alone := meets.alone afterBlank
    simp only [List.head?_cons, Option.any_some, Token.isCombinator] at alone
    exact is (Option.isSome_eq_false_iff.mp alone |> Option.isNone_iff_eq_none.mp)

/-- A token that is kept leads to a draft that meets the row behind it. -/
theorem perform (meets : draft.Meets before behindBlank (token :: later))
    (kept : ¬ (token = .blank ∧ isPadding before later.head? = true)) (more : token ≠ .endOfInput)
    (moves : draft.phase.Transition token move) :
    (draft.perform move).Meets (some token) (decide (token = .blank)) later where
  fits := fits_perform meets.fits moves
  tested := by
    rw [perform_phase]
    exact moves.tested meets.tested
  live := by
    rw [perform_phase]
    exact moves.phase_ne_ended more
  padded := by
    rw [perform_phase]
    exact moves.padded_eq
  behind afterBlank := by
    rw [perform_phase] at afterBlank
    exact decide_eq_true (moves.eq_blank_of_afterBlank afterBlank)
  alone afterBlank := by
    rw [perform_phase] at afterBlank
    rw [← Bool.not_eq_true]
    intro combinator
    exact kept ⟨moves.eq_blank_of_afterBlank afterBlank, by simp [isPadding, combinator]⟩

end Meets

/-- **The normal form of a row is read like the row, and nothing of it is lost.** -/
theorem run_normal {tokens : List Token} {before : Option Token} {behindBlank : Bool}
    (meets : draft.Meets before behindBlank (tokens ++ [.endOfInput]))
    (squeezed : squeeze behindBlank tokens = tokens)
    (given : ∀ token ∈ tokens, ∃ mode : Mode, mode.Gives token)
    (ran : draft.run (tokens ++ [.endOfInput]) = .ok last) :
    draft.run (normalBehind before (tokens ++ [.endOfInput])) = .ok last ∧
      last.written = draft.written ++ normalBehind before (tokens ++ [.endOfInput]) := by
  induction tokens generalizing draft before behindBlank with
  | nil =>
      have ended : normalBehind before [Token.endOfInput] = [.endOfInput] := rfl
      obtain ⟨move, moves, rfl⟩ := run_singleton_eq_ok_iff.mp ran
      rw [List.nil_append, ended]
      exact ⟨ran, written_perform meets.fits meets.tested meets.live
        (meets.unpadded nofun) nofun moves⟩
  | cons token later ih =>
      obtain ⟨apart, rest⟩ := of_squeeze_cons_eq squeezed
      have givenLater : ∀ other ∈ later, ∃ mode : Mode, mode.Gives other :=
        fun other member => given other (List.mem_cons_of_mem token member)
      obtain ⟨mode, gives⟩ := given token List.mem_cons_self
      rw [List.cons_append] at meets ran ⊢
      by_cases padding :
          token = .blank ∧ isPadding before (later ++ [Token.endOfInput]).head? = true
      · have dropped : normalBehind before (token :: (later ++ [.endOfInput])) =
            normalBehind before (later ++ [.endOfInput]) := by
          rw [normalBehind, if_pos padding]
          exact normalBehind_eq_of_head?_ne_blank (head?_ne_blank_of_squeeze rest padding.1) _ _
        rw [dropped]
        obtain ⟨rfl, padding⟩ := padding
        have unblank : draft.phase ≠ .afterBlank := by
          intro afterBlank
          have behind := meets.behind afterBlank
          rw [apart rfl] at behind
          cases behind
        have meetsLater : draft.Meets before true (later ++ [.endOfInput]) :=
          { meets with
            behind := fun _ => rfl
            alone := fun afterBlank => absurd afterBlank unblank }
        refine ih meetsLater rest givenLater ?_
        have single := head?_ne_blank_of_squeeze rest rfl
        obtain ⟨next, more, whole⟩ : ∃ next more, later ++ [Token.endOfInput] = next :: more :=
          List.exists_cons_of_ne_nil (by simp)
        rw [whole] at padding single ran ⊢
        exact run_of_run_padding padding meets.padded unblank
          (fun same => single (congrArg some same)) ran
      · have named : token ≠ .identifier "*" := by
          rintro rfl
          have identifier := (Mode.gives_identifier_iff.mp gives).2
          exact absurd identifier (by decide +kernel)
        have more : token ≠ .endOfInput := by
          rintro rfl
          exact mode.not_gives_endOfInput gives
        obtain ⟨move, moves, ranLater⟩ := run_cons_eq_ok_iff.mp ran
        have kept : normalBehind before (token :: (later ++ [.endOfInput])) =
            token.bare :: normalBehind (some token) (later ++ [.endOfInput]) := by
          rw [normalBehind, if_neg padding]
        have wrote := written_perform meets.fits meets.tested meets.live (meets.unpadded padding)
          named moves
        obtain ⟨read, written⟩ := ih (meets.perform padding more moves) rest givenLater ranLater
        rw [kept]
        refine ⟨?_, ?_⟩
        · rw [run_cons_of_transition moves.bare]
          exact read
        · rw [written, wrote, List.append_assoc, List.singleton_append]

end Draft

/-! ## What a text is read as -/

/-- The tokens of a text that is read have a normal form, which is read as the same
selector and can be told from the selector. -/
theorem exists_normal_of_parse {text : String} {selector : Selector}
    (read : parse text = .ok selector) :
    ∃ tokens last, tokenize text = .ok tokens ∧ Draft.start.run (normal tokens) = .ok last ∧
      selector = ⟨last.chains.reverse⟩ ∧
        normal tokens = chainsRow last.chains ++ [.endOfInput] := by
  obtain ⟨tokens, last, whole, ran, same⟩ := parse_eq_ok_iff.mp read
  have spelled := tokenize_eq_ok_iff.mp whole
  obtain ⟨normalRan, written⟩ := Draft.run_normal (Draft.meets_start _) spelled.squeeze_eq.1
    (fun _ => spelled.exists_gives) ran
  have ended : last.phase = .ended := by
    obtain ⟨reached, ranBefore⟩ := Draft.exists_run_of_append ran
    rw [Draft.run_append_of_ok ranBefore, Draft.run_singleton_eq_ok_iff] at ran
    obtain ⟨move, moves, rfl⟩ := ran
    rw [Draft.perform_phase]
    exact moves.phase_eq_ended
  have nothing : Draft.start.written = [] := rfl
  have everything : last.written = chainsRow last.chains ++ [.endOfInput] := by
    rw [Draft.written, ended]
  rw [nothing, everything, List.nil_append] at written
  exact ⟨_, last, whole, normalRan, same, written.symm⟩

/-- **Two texts are read as the same selector exactly when their tokens have the same
normal form.** Padding and quotes make no difference, and everything else does. -/
theorem parse_eq_iff_normal_eq {text other : String} {selector otherSelector : Selector}
    (read : parse text = .ok selector) (otherRead : parse other = .ok otherSelector) :
    ∃ tokens others, tokenize text = .ok tokens ∧ tokenize other = .ok others ∧
      (parse text = parse other ↔ normal tokens = normal others) := by
  obtain ⟨tokens, last, whole, ran, same, form⟩ := exists_normal_of_parse read
  obtain ⟨others, otherLast, otherWhole, otherRan, otherSame, otherForm⟩ :=
    exists_normal_of_parse otherRead
  refine ⟨tokens, others, whole, otherWhole, ?_⟩
  rw [read, otherRead]
  constructor
  · intro equal
    have selectors : selector = otherSelector := Except.ok.inj equal
    rw [same, otherSame] at selectors
    have chains : last.chains = otherLast.chains :=
      List.reverse_inj.mp (congrArg Selector.alternatives selectors)
    rw [form, otherForm, chains]
  · intro equal
    rw [equal, otherRan] at ran
    rw [same, otherSame, Except.ok.inj ran]

/-- Padding around a combinator and behind a comma, and quotes around a value. -/
theorem parse_eq_iff_normal_eq_of_padding :
    parse "a > b, [c='d']" =
        .ok ⟨[.link (.single ⟨[.tag "a"]⟩) .child ⟨[.tag "b"]⟩,
          .single ⟨[.withAttribute ⟨"c", .equals, "d"⟩]⟩]⟩ ∧
      parse "a>b,[c=d]" =
        .ok ⟨[.link (.single ⟨[.tag "a"]⟩) .child ⟨[.tag "b"]⟩,
          .single ⟨[.withAttribute ⟨"c", .equals, "d"⟩]⟩]⟩ ∧
      ∃ tokens others, tokenize "a > b, [c='d']" = .ok tokens ∧ tokenize "a>b,[c=d]" = .ok others ∧
        (parse "a > b, [c='d']" = parse "a>b,[c=d]" ↔ normal tokens = normal others) := by
  have read : parse "a > b, [c='d']" =
      .ok ⟨[.link (.single ⟨[.tag "a"]⟩) .child ⟨[.tag "b"]⟩,
        .single ⟨[.withAttribute ⟨"c", .equals, "d"⟩]⟩]⟩ := by
    decide +kernel
  have otherRead : parse "a>b,[c=d]" =
      .ok ⟨[.link (.single ⟨[.tag "a"]⟩) .child ⟨[.tag "b"]⟩,
        .single ⟨[.withAttribute ⟨"c", .equals, "d"⟩]⟩]⟩ := by
    decide +kernel
  exact ⟨read, otherRead, parse_eq_iff_normal_eq read otherRead⟩

end TreeSelector
