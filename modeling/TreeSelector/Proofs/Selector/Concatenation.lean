import TreeSelector.Proofs.Reading.Normal
import TreeSelector.Proofs.Reading.Seam

/-!
# Selectors that are put together as texts

Where a comma stands between two texts, the alternatives of the first come before those of
the second (`parse_append_comma`). Behind the comma everything is read as at the beginning
of a text, with the closed chains below (`Draft.outcome_onto`), and white space there is
padding (`Draft.outcome_of_opens`). So an error is that of the second text, at a position
that counts from the beginning of the first (`parse_comma`).
-/

set_option autoImplicit false

namespace TreeSelector

/-! ## More chains below -/

namespace Draft

variable {draft next : Draft} {tokens : List Token} {token : Token}

/-- The draft with more closed chains below its own. -/
def onto (below : List Chain) (draft : Draft) : Draft :=
  ⟨draft.phase, draft.chains ++ below, draft.predicates⟩

/-- A compound is linked to the chain on top, if it is linked at all. -/
theorem close_append {joint : Option Combinator} {chains : List Chain}
    (linked : joint ≠ none → chains ≠ []) (compound : Compound) (below : List Chain) :
    close joint compound (chains ++ below) = close joint compound chains ++ below := by
  cases joint with
  | none => cases chains <;> cases below <;> rfl
  | some combinator =>
      obtain ⟨before, above, rfl⟩ := List.exists_cons_of_ne_nil (linked nofun)
      rfl

/-- A move does nothing to the chains below. -/
theorem perform_onto (fits : draft.Fits) {move : Move} (moves : draft.phase.Transition token move)
    (below : List Chain) : (draft.onto below).perform move = (draft.perform move).onto below := by
  obtain ⟨edit, phase⟩ := move
  cases edit with
  | keep => rfl
  | push predicate => rfl
  | close joint =>
      have linked : joint ≠ none → draft.chains ≠ [] := by
        rw [← moves.atCompound_of_close.joint?_eq]
        exact fits.linked
      simp only [perform, onto, close_append linked]

theorem step_onto (fits : draft.Fits) (below : List Chain) (token : Token) :
    (draft.onto below).step token = (draft.step token).map (onto below) := by
  rw [step, step, onto]
  cases moves : draft.phase.step token with
  | error expected => rfl
  | ok move => exact congrArg Except.ok (perform_onto fits (Phase.transition_of_step moves) below)

/-- **A run does nothing to the chains below**, and fails where it would fail without
them. -/
theorem run_onto (fits : draft.Fits) (below : List Chain) (tokens : List Token) :
    (draft.onto below).run tokens = (draft.run tokens).map (onto below) := by
  induction tokens generalizing draft with
  | nil => rfl
  | cons token tokens ih =>
      have framed := step_onto fits below token
      cases stepped : draft.step token with
      | error error =>
          rw [stepped] at framed
          rw [run_cons_of_step_error framed, run_cons_of_step_error stepped]
          rfl
      | ok next =>
          rw [stepped] at framed
          rw [run_cons_of_step_ok framed, run_cons_of_step_ok stepped]
          exact ih (fits_step fits stepped)

end Draft

/-- The selector with more alternatives before its own. -/
def Selector.prepend (alternatives : List Chain) (selector : Selector) : Selector :=
  ⟨alternatives ++ selector.alternatives⟩

theorem Draft.outcome_onto {draft : Draft} (fits : draft.Fits) (below : List Chain)
    (emission : Emission) :
    (draft.onto below).outcome emission =
      (draft.outcome emission).map (Selector.prepend below.reverse) := by
  rw [outcome, outcome, run_onto fits]
  cases draft.run emission.tokens with
  | error error => rfl
  | ok last =>
      cases emission.failure with
      | some error => rfl
      | none => exact congrArg (Except.ok ∘ Selector.mk) List.reverse_append

/-! ## Behind a comma -/

/-- The white space at the beginning of a text. -/
def leadingBlank (text : String) : String :=
  String.ofList (text.toList.takeWhile Unicode.isWhiteSpace)

/-- The text behind the white space at its beginning. -/
def behindBlank (text : String) : String :=
  String.ofList (text.toList.dropWhile Unicode.isWhiteSpace)

theorem leadingBlank_append_behindBlank (text : String) :
    leadingBlank text ++ behindBlank text = text := by
  rw [leadingBlank, behindBlank, ← String.ofList_append, List.takeWhile_append_dropWhile,
    String.ofList_toList]

/-- Behind a comma and its padding, a selector begins with the closed chains below. -/
theorem Draft.outcome_of_opens {phase : Phase} (opens : phase.Opens none) (chains : List Chain)
    {emission : Emission} (other : emission.tokens.head? ≠ some .blank) :
    (Draft.mk phase chains []).outcome emission = (start.onto chains).outcome emission := by
  obtain ⟨tokens, failure⟩ := emission
  cases opens with
  | front => rfl
  | afterComma =>
      cases tokens with
      | nil => cases failure <;> rfl
      | cons token later =>
          have notBlank : token ≠ .blank := fun same => other (congrArg some same)
          have same : (Draft.mk .afterComma chains []).step token =
              (start.onto chains).step token := by
            rw [step, step, Phase.step_eq_of_padded .afterComma rfl notBlank]
            rfl
          simp only [outcome, run, List.foldlM_cons, same]

/-- White space behind a comma is padding, or there is none. Either way an alternative
begins there, and only more white space goes on with what stands before it. -/
theorem exists_padding {blank : List Char}
    (white : ∀ c ∈ blank, Unicode.isWhiteSpace c = true) :
    ∃ padding phase, Spelled .plain padding blank ∧ Phase.Opens phase none ∧
      (∀ chains, (Draft.mk .afterComma chains []).run padding = .ok ⟨phase, chains, []⟩) ∧
      ∀ rest, Stops Unicode.isWhiteSpace rest →
        Stops (padding.getLast?.getD (.sign .comma)).continues rest := by
  cases blank with
  | nil =>
      exact ⟨[], _, .nil .plain, .afterComma, fun chains => rfl, fun rest _ _ _ => rfl⟩
  | cons c blank =>
      have spelled : Spelled .plain [.blank] ((c :: blank) ++ []) :=
        .cons ⟨trivial, ⟨List.cons_ne_nil c blank, white⟩, stops_nil _⟩ (.nil .plain)
      rw [List.append_nil] at spelled
      exact ⟨[.blank], _, spelled, .front none, fun chains => rfl, fun rest stops => stops⟩

namespace Accepted

variable {text : String} {tokens : List Token} {draft : Draft} {joint : Option Combinator}
  (accepted : Accepted text tokens draft joint)
include accepted

/-- Behind an accepted text a comma may be written, and padding behind it. -/
theorem spelled_comma {padding : List Token} {blank : String}
    (spelled : Spelled .plain padding blank.toList) :
    Spelled .plain (tokens ++ .sign .comma :: padding) (text ++ "," ++ blank).toList := by
  have front : (text ++ "," ++ blank).toList = text.toList ++ ([','] ++ blank.toList) := by simp
  have comma : Read .plain (.sign .comma) [','] blank.toList := ⟨trivial, rfl, fun _ _ => rfl⟩
  have behind : Spelled (tokens.foldl Mode.after .plain) (.sign .comma :: padding)
      ([','] ++ blank.toList) := by
    rw [accepted.plain]
    exact .cons comma spelled
  rw [front]
  exact accepted.spelled.append behind fun last => accepted.stops_sign .comma blank.toList

/-- The comma closes the last compound of an accepted text. -/
theorem run_comma (padding : List Token) :
    Draft.start.run (tokens ++ .sign .comma :: padding) =
      (Draft.mk .afterComma (Draft.close joint ⟨draft.predicates⟩ draft.chains) []).run
        padding := by
  rw [Draft.run_append_of_ok accepted.reached, Draft.run_cons_of_transition (.comma accepted.here)]
  rfl

end Accepted

/-- **A comma puts selectors together.** What stands behind it is read as on its own, but
for the white space in front and for the positions of errors. -/
theorem parse_comma {text : String} {first : Selector} (read : parse text = .ok first)
    (later : String) :
    parse (text ++ "," ++ later) =
      ((parse (behindBlank later)).map (Selector.prepend first.alternatives)).mapError
        (ParseError.shift (text ++ "," ++ leadingBlank later).length) := by
  obtain ⟨tokens, draft, joint, accepted, rfl⟩ := parse_eq_ok_iff_accepted.mp read
  have white : ∀ c ∈ (leadingBlank later).toList, Unicode.isWhiteSpace c = true := by
    intro c member
    rw [leadingBlank, String.toList_ofList] at member
    exact accept_of_mem_takeWhile member
  have rest : Stops Unicode.isWhiteSpace (behindBlank later).toList := by
    rw [behindBlank, String.toList_ofList]
    exact stops_dropWhile _ _
  obtain ⟨padding, phase, spelled, opens, ran, stops⟩ := exists_padding white
  have final : ∀ last ∈ (tokens ++ .sign .comma :: padding).getLast?,
      Stops last.continues (behindBlank later).toList := by
    intro last final
    rw [List.getLast?_append, List.getLast?_cons, Option.some_or] at final
    cases final
    exact stops _ rest
  have whole : text ++ "," ++ later = text ++ "," ++ leadingBlank later ++ behindBlank later :=
    (congrArg (text ++ "," ++ ·) (leadingBlank_append_behindBlank later)).symm.trans
      String.append_assoc.symm
  have reached := (accepted.run_comma padding).trans (ran _)
  have goesOn := parse_append (accepted.spelled_comma spelled) reached final
  have unblank := Scanner.head?_emission_ne_blank rest 0 .plain
  rw [(Phase.AtCompound.opens opens).mode_eq, Draft.outcome_of_opens opens _ unblank,
    Draft.outcome_onto Draft.fits_start] at goesOn
  rw [whole, goesOn, parse_eq_outcome]
  rfl

/-- **A comma between two texts puts their alternatives together.** Where what stands
behind the comma is no selector, the error is the same. A lexical error is further on by
the characters before. -/
theorem parse_append_comma {text : String} {first : Selector} (read : parse text = .ok first)
    (later : String) :
    (∀ second, parse (behindBlank later) = .ok second →
      parse (text ++ "," ++ later) = .ok ⟨first.alternatives ++ second.alternatives⟩) ∧
    (∀ expected found, parse (behindBlank later) = .error (.unexpected expected found) →
      parse (text ++ "," ++ later) = .error (.unexpected expected found)) ∧
    ∀ error, parse (behindBlank later) = .error (.lexical error) →
      parse (text ++ "," ++ later) =
        .error (.lexical (error.shift (text ++ "," ++ leadingBlank later).length)) := by
  rw [parse_comma read]
  refine ⟨fun second readLater => ?_, fun expected found refused => ?_, fun error failed => ?_⟩
  · rw [readLater]
    rfl
  · rw [refused]
    rfl
  · rw [failed]
    rfl

/-- A comma in a value and a blank at the end before the comma, and behind it a class, a
bracket that closes nothing, and a value that is cut off. -/
theorem parse_append_comma_of_comma_in_value :
    let first : Chain :=
      .link (.single ⟨[.tag "a", .withAttribute ⟨"b", .equals, ","⟩]⟩) .descendant .empty
    parse "a[b=','] " = .ok ⟨[first]⟩ ∧
      parse "a[b=','] ,\t.c" = .ok ⟨[first, .single ⟨[.className "c"]⟩]⟩ ∧
      parse "a[b=','] , ]" =
        .error (.unexpected [.sign .hash, .sign .dot, .sign .leftBracket] (.sign .rightBracket)) ∧
      parse "a[b=','] ,  x[y='" = .error (.lexical (.unterminatedString "'" 16)) := by
  intro first
  have read : parse "a[b=','] " = .ok ⟨[first]⟩ := by decide +kernel
  obtain ⟨puts, -, -⟩ := parse_append_comma read "\t.c"
  obtain ⟨-, refuses, -⟩ := parse_append_comma read " ]"
  obtain ⟨-, -, fails⟩ := parse_append_comma read "  x[y='"
  have position : ("a[b=','] " ++ "," ++ leadingBlank "  x[y='").length = 12 := by decide +kernel
  have failed := fails (.unterminatedString "'" 4) (by decide +kernel)
  rw [position] at failed
  exact ⟨read, puts ⟨[.single ⟨[.className "c"]⟩]⟩ (by decide +kernel),
    refuses _ _ (by decide +kernel), failed⟩

end TreeSelector
