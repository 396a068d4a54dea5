import TreeSelector.Selector.Reading

/-!
# The transitions of a phase

`Phase.step` computes what a token does in a phase. Here the same moves are
listed as a relation (`Phase.Transition`), one rule for each kind of move, and
the two are shown to agree (`step_eq_ok_iff`). A proof about all that a token can
do is then one case for each rule, whatever the phases are that share the rule:
a compound begins in several phases (`Phase.Opens`), and its predicates and its
end are read alike in all of them and behind a predicate (`Phase.AtCompound`).
-/

set_option autoImplicit false

namespace TreeSelector

/-- The combinator that a sign is, if it is one. -/
def Sign.combinator? : Sign → Option Combinator
  | .greater => some .child
  | .plus => some .adjacentSibling
  | .tilde => some .generalSibling
  | _ => none

/-- The test whose operator a sign begins, where it takes two signs. -/
def Sign.attributeTest? : Sign → Option AttributeTest
  | .caret => some .startsWith
  | .dollar => some .endsWith
  | .star => some .contains
  | _ => none

namespace Phase

/-- A compound with the joint begins here, and nothing of it has been read. -/
inductive Opens : Phase → Option Combinator → Prop where
  | front (joint : Option Combinator) : Opens (.within joint .front) joint
  | afterBlank : Opens .afterBlank (some .descendant)
  | afterCombinator (combinator : Combinator) :
      Opens (.afterCombinator combinator) (some combinator)
  | afterComma : Opens .afterComma none

/-- A predicate of a compound with the joint may follow, or the end of the
compound. -/
inductive AtCompound : Phase → Option Combinator → Prop where
  | opens {phase : Phase} {joint : Option Combinator} (opens : phase.Opens joint) :
      AtCompound phase joint
  | behind (joint : Option Combinator) : AtCompound (.within joint .behind) joint

/-- Whether a blank that follows is padding. -/
def padded : Phase → Bool
  | .afterCombinator _ | .afterComma => true
  | _ => false

/-- What an admitted token does, by rules. -/
inductive Transition : Phase → Token → Move → Prop where
  | tag {phase : Phase} {joint : Option Combinator} (name : String) (opens : phase.Opens joint) :
      Transition phase (.identifier name) ⟨.push (.tag name), .within joint .behind⟩
  | anyTag {phase : Phase} {joint : Option Combinator} (opens : phase.Opens joint) :
      Transition phase (.sign .star) ⟨.push (.tag "*"), .within joint .behind⟩
  | hash {phase : Phase} {joint : Option Combinator} (here : phase.AtCompound joint) :
      Transition phase (.sign .hash) ⟨.keep, .within joint .idName⟩
  | dot {phase : Phase} {joint : Option Combinator} (here : phase.AtCompound joint) :
      Transition phase (.sign .dot) ⟨.keep, .within joint .className⟩
  | leftBracket {phase : Phase} {joint : Option Combinator} (here : phase.AtCompound joint) :
      Transition phase (.sign .leftBracket) ⟨.keep, .within joint .attributeName⟩
  | id (joint : Option Combinator) (name : String) :
      Transition (.within joint .idName) (.identifier name)
        ⟨.push (.id name), .within joint .behind⟩
  | className (joint : Option Combinator) (name : String) :
      Transition (.within joint .className) (.identifier name)
        ⟨.push (.className name), .within joint .behind⟩
  | attributeName (joint : Option Combinator) (name : String) :
      Transition (.within joint .attributeName) (.identifier name)
        ⟨.keep, .within joint (.attributeOperator name)⟩
  | present (joint : Option Combinator) (name : String) :
      Transition (.within joint (.attributeOperator name)) (.sign .rightBracket)
        ⟨.push (.withAttribute ⟨name, .present, ""⟩), .within joint .behind⟩
  | equals (joint : Option Combinator) (name : String) :
      Transition (.within joint (.attributeOperator name)) (.sign .equals)
        ⟨.keep, .within joint (.attributeValue name .equals)⟩
  | operator (joint : Option Combinator) (name : String) {mark : Sign} {test : AttributeTest}
      (begins : mark.attributeTest? = some test) :
      Transition (.within joint (.attributeOperator name)) (.sign mark)
        ⟨.keep, .within joint (.attributeAssign name test)⟩
  | assign (joint : Option Combinator) (name : String) (test : AttributeTest) :
      Transition (.within joint (.attributeAssign name test)) (.sign .equals)
        ⟨.keep, .within joint (.attributeValue name test)⟩
  | quoted (joint : Option Combinator) (name : String) (test : AttributeTest) (text : String) :
      Transition (.within joint (.attributeValue name test)) (.quoted text)
        ⟨.keep, .within joint (.attributeEnd ⟨name, test, unquoted text⟩)⟩
  | literal (joint : Option Combinator) (name : String) (test : AttributeTest) (text : String) :
      Transition (.within joint (.attributeValue name test)) (.literal text)
        ⟨.keep, .within joint (.attributeEnd ⟨name, test, text⟩)⟩
  | rightBracket (joint : Option Combinator) (predicate : AttributePredicate) :
      Transition (.within joint (.attributeEnd predicate)) (.sign .rightBracket)
        ⟨.push (.withAttribute predicate), .within joint .behind⟩
  | padding {phase : Phase} {joint : Option Combinator} (opens : phase.Opens joint)
      (padded : phase.padded = true) :
      Transition phase .blank ⟨.keep, .within joint .front⟩
  | blank {phase : Phase} {joint : Option Combinator} (here : phase.AtCompound joint)
      (unpadded : phase.padded = false) :
      Transition phase .blank ⟨.close joint, .afterBlank⟩
  | combinator {phase : Phase} {joint : Option Combinator} {mark : Sign} {combinator : Combinator}
      (here : phase.AtCompound joint) (unblank : phase ≠ .afterBlank)
      (is : mark.combinator? = some combinator) :
      Transition phase (.sign mark) ⟨.close joint, .afterCombinator combinator⟩
  | combinatorAfterBlank {mark : Sign} {combinator : Combinator}
      (is : mark.combinator? = some combinator) :
      Transition .afterBlank (.sign mark) ⟨.keep, .afterCombinator combinator⟩
  | comma {phase : Phase} {joint : Option Combinator} (here : phase.AtCompound joint) :
      Transition phase (.sign .comma) ⟨.close joint, .afterComma⟩
  | endOfInput {phase : Phase} {joint : Option Combinator} (here : phase.AtCompound joint) :
      Transition phase .endOfInput ⟨.close joint, .ended⟩
  | ended : Transition .ended .endOfInput ⟨.keep, .ended⟩

/-- The token is no padding in the phase, and does not take the blank before it as
padding. -/
structure Unpadded (phase : Phase) (token : Token) : Prop where
  blank : token = .blank → phase.padded = false
  combinator : ∀ mark, token = .sign mark → mark.combinator? ≠ none → phase ≠ .afterBlank

namespace Unpadded

theorem within (joint : Option Combinator) (place : Place) (token : Token) :
    Unpadded (.within joint place) token :=
  ⟨fun _ => rfl, fun _ _ _ => nofun⟩

/-- Only the sign of a combinator takes a blank as padding. -/
theorem sign {mark : Sign} (other : mark.combinator? = none) (phase : Phase) :
    phase.Unpadded (.sign mark) where
  blank := nofun
  combinator := by
    rintro _ same is
    cases same
    exact absurd other is

end Unpadded

/-! ## Every move is a transition -/

/-- Tokens that are read behind a predicate, where they and the blank before them
are no padding. -/
theorem transition_of_stepBehind {phase : Phase} {joint : Option Combinator} {token : Token}
    {move : Move} (here : phase.AtCompound joint) (unpadded : phase.Unpadded token)
    (moves : stepBehind joint token = .ok move) : phase.Transition token move := by
  unfold stepBehind at moves
  split at moves
  · cases moves; exact .hash here
  · cases moves; exact .dot here
  · cases moves; exact .leftBracket here
  · cases moves; exact .blank here (unpadded.blank rfl)
  · cases moves; exact .combinator here (unpadded.combinator .greater rfl nofun) rfl
  · cases moves; exact .combinator here (unpadded.combinator .plus rfl nofun) rfl
  · cases moves; exact .combinator here (unpadded.combinator .tilde rfl nofun) rfl
  · cases moves; exact .comma here
  · cases moves; exact .endOfInput here
  · cases moves

theorem transition_of_stepFront {phase : Phase} {joint : Option Combinator} {token : Token}
    {move : Move} (opens : phase.Opens joint) (unpadded : phase.Unpadded token)
    (moves : stepFront joint token = .ok move) : phase.Transition token move := by
  unfold stepFront at moves
  split at moves
  · cases moves; exact .tag _ opens
  · cases moves; exact .anyTag opens
  · exact transition_of_stepBehind (.opens opens) unpadded moves

theorem transition_of_stepOperator {joint : Option Combinator} {name : String} {token : Token}
    {move : Move} (moves : stepOperator joint name token = .ok move) :
    Transition (.within joint (.attributeOperator name)) token move := by
  unfold stepOperator at moves
  split at moves
  · cases moves; exact .present joint name
  · cases moves; exact .equals joint name
  · cases moves; exact .operator joint name rfl
  · cases moves; exact .operator joint name rfl
  · cases moves; exact .operator joint name rfl
  · cases moves

theorem transition_of_stepWithin {joint : Option Combinator} {place : Place} {token : Token}
    {move : Move} (moves : stepWithin joint place token = .ok move) :
    Transition (.within joint place) token move := by
  unfold stepWithin at moves
  split at moves
  · exact transition_of_stepFront (.front joint) (.within joint _ token) moves
  · exact transition_of_stepBehind (.behind joint) (.within joint _ token) moves
  · cases moves; exact .id joint _
  · cases moves
  · cases moves; exact .className joint _
  · cases moves
  · cases moves; exact .attributeName joint _
  · cases moves
  · exact transition_of_stepOperator moves
  · cases moves; exact .assign joint _ _
  · cases moves
  · cases moves; exact .quoted joint _ _ _
  · cases moves; exact .literal joint _ _ _
  · cases moves
  · cases moves; exact .rightBracket joint _
  · cases moves

theorem transition_of_stepPadded {phase : Phase} {joint : Option Combinator} {token : Token}
    {move : Move} (opens : phase.Opens joint) (padded : phase.padded = true)
    (moves : stepPadded joint token = .ok move) : phase.Transition token move := by
  unfold stepPadded at moves
  split at moves
  · cases moves; exact .padding opens padded
  · rename_i other
    have unblank : phase ≠ .afterBlank := by
      rintro rfl
      cases padded
    exact transition_of_stepFront opens ⟨fun blank => absurd blank other, fun _ _ _ => unblank⟩
      moves

theorem transition_of_stepAfterBlank {token : Token} {move : Move}
    (moves : stepAfterBlank token = .ok move) : Transition .afterBlank token move := by
  unfold stepAfterBlank at moves
  split at moves
  · cases moves; exact .combinatorAfterBlank rfl
  · cases moves; exact .combinatorAfterBlank rfl
  · cases moves; exact .combinatorAfterBlank rfl
  · rename_i notGreater notPlus notTilde
    refine transition_of_stepFront .afterBlank ⟨fun _ => rfl, ?_⟩ moves
    rintro mark rfl combinator
    cases mark with
    | greater => exact absurd rfl notGreater
    | plus => exact absurd rfl notPlus
    | tilde => exact absurd rfl notTilde
    | _ => exact absurd rfl combinator

theorem transition_of_step {phase : Phase} {token : Token} {move : Move}
    (moves : phase.step token = .ok move) : phase.Transition token move := by
  cases phase with
  | within joint place => exact transition_of_stepWithin moves
  | afterBlank => exact transition_of_stepAfterBlank moves
  | afterCombinator combinator =>
      exact transition_of_stepPadded (.afterCombinator combinator) rfl moves
  | afterComma => exact transition_of_stepPadded .afterComma rfl moves
  | ended =>
      simp only [step, stepEnded] at moves
      split at moves
      · cases moves; exact .ended
      · cases moves

/-- A compound is closed only where one is read, and with its joint. -/
theorem Transition.atCompound_of_close {phase next : Phase} {joint : Option Combinator}
    {token : Token} (moves : phase.Transition token ⟨.close joint, next⟩) :
    phase.AtCompound joint := by
  cases moves with
  | blank here | combinator here | comma here | endOfInput here => exact here

/-! ## Every transition is a move -/

/-- What is read behind a predicate is read alike where a compound begins. -/
theorem step_of_opens {phase : Phase} {joint : Option Combinator} {token : Token} {move : Move}
    (opens : phase.Opens joint) (unpadded : phase.Unpadded token)
    (moves : stepFront joint token = .ok move) : phase.step token = .ok move := by
  cases opens with
  | front joint => exact moves
  | afterBlank =>
      simp only [step, stepAfterBlank]
      split
      · exact absurd rfl (unpadded.combinator .greater rfl nofun)
      · exact absurd rfl (unpadded.combinator .plus rfl nofun)
      · exact absurd rfl (unpadded.combinator .tilde rfl nofun)
      · exact moves
  | afterCombinator combinator =>
      simp only [step, stepPadded]
      split
      · cases unpadded.blank rfl
      · exact moves
  | afterComma =>
      simp only [step, stepPadded]
      split
      · cases unpadded.blank rfl
      · exact moves

theorem step_of_atCompound {phase : Phase} {joint : Option Combinator} {token : Token}
    {move : Move} (here : phase.AtCompound joint) (unpadded : phase.Unpadded token)
    (moves : stepBehind joint token = .ok move) : phase.step token = .ok move := by
  cases here with
  | behind joint => exact moves
  | opens opens =>
      refine step_of_opens opens unpadded ?_
      unfold stepFront
      split
      · cases moves
      · cases moves
      · exact moves

theorem step_of_transition {phase : Phase} {token : Token} {move : Move}
    (transition : phase.Transition token move) : phase.step token = .ok move := by
  cases transition with
  | tag name opens => exact step_of_opens opens ⟨nofun, nofun⟩ rfl
  | anyTag opens => exact step_of_opens opens (.sign rfl phase) rfl
  | hash here | dot here | leftBracket here | comma here =>
      exact step_of_atCompound here (.sign rfl phase) rfl
  | id | className | attributeName | present | equals | assign | quoted | literal | rightBracket
  | ended => rfl
  | @operator _ _ mark _ begins => cases mark <;> cases begins <;> rfl
  | padding opens padded =>
      cases opens with
      | front joint => cases padded
      | afterBlank => cases padded
      | afterCombinator combinator => rfl
      | afterComma => rfl
  | blank here unpadded => exact step_of_atCompound here ⟨fun _ => unpadded, nofun⟩ rfl
  | @combinator _ joint mark _ here unblank is =>
      refine step_of_atCompound here ⟨nofun, fun _ _ _ => unblank⟩ ?_
      cases mark <;> cases is <;> rfl
  | @combinatorAfterBlank mark _ is => cases mark <;> cases is <;> rfl
  | endOfInput here => exact step_of_atCompound here ⟨nofun, nofun⟩ rfl

/-- **The rules list exactly the moves.** -/
theorem step_eq_ok_iff {phase : Phase} {token : Token} {move : Move} :
    phase.step token = .ok move ↔ phase.Transition token move :=
  ⟨transition_of_step, step_of_transition⟩

end Phase

end TreeSelector
