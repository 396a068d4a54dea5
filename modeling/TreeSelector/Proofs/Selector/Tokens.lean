import TreeSelector.Proofs.Selector.WellFormed
import TreeSelector.Proofs.Token.Squeeze
import TreeSelector.Selector.Reading
import TreeSelector.Selector.Render

/-!
# The tokens of a selector

A selector is written token by token: the text that `Selector.render` makes is
the spelling of the tokens `Selector.tokens` (`toList_render`). Between compounds
there is a blank on either side of a combinator, so where a compound is empty,
blanks follow one another in the tokens.

The tokens of a well-formed selector begin and end in plain mode, and no two
identifiers stand side by side (`Neat`). So the text is read back as these
tokens, with their blanks drawn together (`tokenize_render`).
-/

set_option autoImplicit false

namespace TreeSelector

/-! ## Writing a selector as tokens -/

/-- The signs of the operator of a test. -/
def AttributeTest.tokens : AttributeTest → List Token
  | .present => []
  | .equals => [.sign .equals]
  | .startsWith => [.sign .caret, .sign .equals]
  | .endsWith => [.sign .dollar, .sign .equals]
  | .contains => [.sign .star, .sign .equals]

/-- An attribute value between quotes. -/
def quotedFor (text : String) : String :=
  quoteFor text ++ text ++ quoteFor text

/-- The tokens of an attribute test between its brackets, behind the name. -/
def AttributePredicate.testTokens (predicate : AttributePredicate) : List Token :=
  match predicate.test with
  | .present => []
  | test => test.tokens ++ [.quoted (quotedFor predicate.expected)]

/-- The tokens of a predicate. -/
def Predicate.tokens : Predicate → List Token
  | .tag name => if name = "*" then [.sign .star] else [.identifier name]
  | .id name => [.sign .hash, .identifier name]
  | .className name => [.sign .dot, .identifier name]
  | .withAttribute predicate =>
      .sign .leftBracket :: .identifier predicate.name ::
        (predicate.testTokens ++ [.sign .rightBracket])

/-- The tokens of a compound. -/
def Compound.tokens (compound : Compound) : List Token :=
  compound.predicates.flatMap Predicate.tokens

/-- The sign of a combinator, and the blanks beside it. -/
def Combinator.tokens : Combinator → List Token
  | .descendant => [.blank]
  | .child => [.blank, .sign .greater, .blank]
  | .adjacentSibling => [.blank, .sign .plus, .blank]
  | .generalSibling => [.blank, .sign .tilde, .blank]

/-- The tokens of a chain. -/
def Chain.tokens : Chain → List Token
  | .single compound => compound.tokens
  | .link before combinator last => before.tokens ++ (combinator.tokens ++ last.tokens)

/-- The tokens of a selector. -/
def Selector.tokens (selector : Selector) : List Token :=
  [.sign .comma, .blank].intercalate (selector.alternatives.map Chain.tokens)

/-! ## What is written is the spelling of the tokens -/

theorem spell_append (tokens later : List Token) :
    spell (tokens ++ later) = spell tokens ++ spell later :=
  List.flatMap_append

theorem spell_intercalate (separator : List Token) (rows : List (List Token)) :
    spell (separator.intercalate rows) = (spell separator).intercalate (rows.map spell) := by
  induction rows with
  | nil => rfl
  | cons row rows ih =>
      cases rows with
      | nil => simp
      | cons next rows =>
          rw [List.intercalate_cons_cons, List.map_cons, List.map_cons, List.intercalate_cons_cons,
            spell_append, spell_append, ih, List.map_cons]

theorem AttributePredicate.toList_render (predicate : AttributePredicate) :
    predicate.render.toList = spell (Predicate.withAttribute predicate).tokens := by
  obtain ⟨name, test, expected⟩ := predicate
  cases test <;>
    simp [AttributePredicate.render, Predicate.tokens, AttributePredicate.testTokens, quotedFor,
      AttributeTest.tokens, AttributeTest.operator, spell, Token.spelling, Sign.char]

theorem Predicate.toList_render (predicate : Predicate) :
    predicate.render.toList = spell predicate.tokens := by
  cases predicate with
  | tag name =>
      by_cases any : name = "*"
      · subst any
        decide
      · simp [Predicate.render, Predicate.tokens, any, spell, Token.spelling]
  | id name => simp [Predicate.render, Predicate.tokens, spell, Token.spelling, Sign.char]
  | className name => simp [Predicate.render, Predicate.tokens, spell, Token.spelling, Sign.char]
  | withAttribute predicate => exact predicate.toList_render

theorem Compound.toList_render (compound : Compound) :
    compound.render.toList = spell compound.tokens := by
  obtain ⟨predicates⟩ := compound
  simp only [Compound.render, Compound.tokens, String.toList_join, List.flatMap_map,
    Predicate.toList_render]
  exact List.flatMap_assoc.symm

theorem Combinator.toList_spaced (combinator : Combinator) :
    combinator.spaced.toList = spell combinator.tokens := by
  cases combinator <;> decide

theorem Chain.toList_render (chain : Chain) : chain.render.toList = spell chain.tokens := by
  induction chain with
  | single compound => exact compound.toList_render
  | link before combinator last ih =>
      simp [Chain.render, Chain.tokens, spell_append, ih, Combinator.toList_spaced,
        Compound.toList_render]

/-- **A selector is written as the spelling of its tokens.** -/
theorem Selector.toList_render (selector : Selector) :
    selector.render.toList = spell selector.tokens := by
  have separator : ", ".toList = spell [.sign .comma, .blank] := by decide
  have rows : selector.alternatives.map (spell ∘ Chain.tokens) =
      selector.alternatives.map (String.toList ∘ Chain.render) :=
    List.map_congr_left fun chain _ => chain.toList_render.symm
  rw [Selector.render, String.toList_intercalate, Selector.tokens, spell_intercalate, separator,
    List.map_map, List.map_map, rows]

/-! ## Reading the tokens back -/

/-- The tokens are legible in plain mode, which is also the mode behind them. -/
structure Neat (tokens : List Token) : Prop where
  legible : Legible .plain tokens
  plain : tokens.foldl Mode.after .plain = .plain

/-- The last token of a legible row is one of the mode before it. -/
theorem Legible.exists_gives_getLast {mode : Mode} {tokens : List Token}
    (legible : Legible mode tokens) {last : Token} (final : last ∈ tokens.getLast?) :
    ∃ before : Mode, before.Gives last ∧ before.after last = tokens.foldl Mode.after mode := by
  induction tokens generalizing mode with
  | nil => cases final
  | cons token tokens ih =>
      obtain ⟨gives, -, later⟩ := legible
      cases tokens with
      | nil =>
          cases final
          exact ⟨mode, gives, rfl⟩
      | cons next rest =>
          rw [List.getLast?_cons_cons] at final
          exact ih later final

namespace Neat

theorem nil : Neat [] :=
  ⟨trivial, rfl⟩

/-- A neat row does not end in a bare value. -/
theorem getLast_ne_literal {tokens : List Token} (neat : Neat tokens) {last : Token}
    (final : last ∈ tokens.getLast?) (text : String) : last ≠ .literal text := by
  rintro rfl
  obtain ⟨before, gives, after⟩ := neat.legible.exists_gives_getLast final
  rw [neat.plain] at after
  obtain ⟨rfl, -⟩ := Mode.gives_literal_iff.mp gives
  cases after

/-- Neat rows may stand side by side unless two identifiers meet. -/
theorem append {tokens later : List Token} (front : Neat tokens) (back : Neat later)
    (apart : (∀ last ∈ tokens.getLast?, last.kind ≠ .identifier) ∨
      ∀ next ∈ later.head?, next.kind ≠ .identifier) : Neat (tokens ++ later) where
  legible := by
    refine front.legible.append (by rw [front.plain]; exact back.legible) ?_
    intro last final next first clash
    have notLiteral := front.getLast_ne_literal final
    cases last with
    | literal text => exact notLiteral text rfl
    | identifier name =>
        cases next with
        | identifier other => exact apart.elim (· _ final rfl) (· _ first rfl)
        | _ => exact clash
    | _ => exact clash
  plain := by rw [List.foldl_append, front.plain, back.plain]

/-- The rows of the alternatives, with a comma and a blank between them. -/
theorem intercalate {rows : List (List Token)} (neat : ∀ row ∈ rows, Neat row) :
    Neat ([.sign .comma, .blank].intercalate rows) := by
  induction rows with
  | nil => exact nil
  | cons row rows ih =>
      have front : Neat row := neat row List.mem_cons_self
      cases rows with
      | nil =>
          rw [List.intercalate_singleton]
          exact front
      | cons next rows =>
          have back := ih fun other member => neat other (List.mem_cons_of_mem row member)
          have between : Neat [.sign .comma, .blank] :=
            ⟨.sign trivial (.blank trivial), rfl⟩
          rw [List.intercalate_cons_cons, List.append_assoc]
          exact front.append (between.append back (.inl (by simp [Token.kind])))
            (.inr (by simp [Token.kind]))

end Neat

/-! ### Quoted values -/

/-- A value that does not contain both quotes is quoted by the one chosen for it. -/
theorem isQuoted_quotedFor {text : String} (quotable : ¬ ('\'' ∈ text.toList ∧ '"' ∈ text.toList)) :
    IsQuoted (quotedFor text) := by
  by_cases single : '\'' ∈ text.toList
  · exact ⟨'"', text.toList, rfl, fun double => quotable ⟨single, double⟩,
      by simp [quotedFor, quoteFor, single]⟩
  · exact ⟨'\'', text.toList, rfl, single, by simp [quotedFor, quoteFor, single]⟩

/-- The quotes are taken off again. -/
theorem unquoted_quotedFor (text : String) : unquoted (quotedFor text) = text := by
  by_cases single : '\'' ∈ text.toList <;> simp [unquoted, quotedFor, quoteFor, single]

/-! ### Neat selectors -/

section Neat

theorem AttributePredicate.WellFormed.neat_tokens {predicate : AttributePredicate}
    (wellFormed : predicate.WellFormed) : Neat (Predicate.withAttribute predicate).tokens := by
  obtain ⟨name, test, expected⟩ := predicate
  obtain ⟨named, -, quotable⟩ := wellFormed
  simp only at named quotable
  cases test with
  | present => exact ⟨.sign trivial (.identifier named (.sign trivial trivial)), rfl⟩
  | equals =>
      have quoted : IsQuoted (quotedFor expected) := isQuoted_quotedFor (quotable nofun)
      exact ⟨.sign trivial (.identifier named (.sign trivial (.quoted quoted
        (.sign rfl trivial)))), rfl⟩
  | startsWith | endsWith | contains =>
      have quoted : IsQuoted (quotedFor expected) := isQuoted_quotedFor (quotable nofun)
      exact ⟨.sign trivial (.identifier named (.sign trivial (.sign trivial (.quoted quoted
        (.sign rfl trivial))))), rfl⟩

theorem Predicate.WellFormed.neat_tokens {predicate : Predicate}
    (wellFormed : predicate.WellFormed) : Neat predicate.tokens := by
  cases predicate with
  | tag name =>
      by_cases any : name = "*"
      · simp only [Predicate.tokens, any, if_true]
        exact ⟨.sign trivial trivial, rfl⟩
      · have named : isIdentifier name = true := wellFormed.resolve_left any
        simp only [Predicate.tokens, any, if_false]
        exact ⟨.identifier_nil named, rfl⟩
  | id name | className name =>
      have named : isIdentifier name = true := wellFormed
      exact ⟨.sign trivial (.identifier_nil named), rfl⟩
  | withAttribute predicate => exact AttributePredicate.WellFormed.neat_tokens wellFormed

theorem Predicate.tokens_ne_nil (predicate : Predicate) : predicate.tokens ≠ [] := by
  cases predicate with
  | tag name => by_cases any : name = "*" <;> simp [Predicate.tokens, any]
  | id | className | withAttribute => simp [Predicate.tokens]

/-- Only a tag begins with an identifier. -/
theorem Predicate.head_tokens_ne_identifier {predicate : Predicate}
    (other : ∀ name, predicate ≠ .tag name) {next : Token}
    (first : next ∈ predicate.tokens.head?) : next.kind ≠ .identifier := by
  cases predicate with
  | tag name => exact absurd rfl (other name)
  | id | className | withAttribute =>
      cases first
      exact nofun

theorem head_flatMap_tokens_ne_identifier {predicates : List Predicate}
    (untagged : ∀ predicate ∈ predicates, ∀ name, predicate ≠ .tag name) {next : Token}
    (first : next ∈ (predicates.flatMap Predicate.tokens).head?) : next.kind ≠ .identifier := by
  cases predicates with
  | nil => cases first
  | cons predicate later =>
      obtain ⟨token, more, whole⟩ := List.exists_cons_of_ne_nil predicate.tokens_ne_nil
      have same : ((predicate :: later).flatMap Predicate.tokens).head? =
          predicate.tokens.head? := by simp [whole]
      rw [same] at first
      exact Predicate.head_tokens_ne_identifier (untagged predicate List.mem_cons_self) first

theorem neat_flatMap_tokens {predicates : List Predicate}
    (wellFormed : ∀ predicate ∈ predicates, predicate.WellFormed)
    (untagged : ∀ predicate ∈ predicates.tail, ∀ name, predicate ≠ .tag name) :
    Neat (predicates.flatMap Predicate.tokens) := by
  induction predicates with
  | nil => exact .nil
  | cons predicate later ih =>
      have front : Neat predicate.tokens := (wellFormed predicate List.mem_cons_self).neat_tokens
      have back := ih (fun other member => wellFormed other (List.mem_cons_of_mem predicate member))
        fun other member => untagged other (List.mem_of_mem_tail member)
      exact front.append back (.inr fun next => head_flatMap_tokens_ne_identifier untagged)

theorem Compound.WellFormed.neat_tokens {compound : Compound} (wellFormed : compound.WellFormed) :
    Neat compound.tokens :=
  neat_flatMap_tokens wellFormed.predicates fun _ => wellFormed.ne_tag_of_mem_tail

theorem Combinator.neat_tokens (combinator : Combinator) : Neat combinator.tokens := by
  cases combinator with
  | descendant => exact ⟨.blank trivial, rfl⟩
  | child | adjacentSibling | generalSibling =>
      exact ⟨.blank (.sign trivial (.blank trivial)), rfl⟩

theorem Chain.neat_tokens {chain : Chain}
    (wellFormed : ∀ compound ∈ chain.compounds, compound.WellFormed) : Neat chain.tokens := by
  induction chain with
  | single compound => exact (wellFormed compound List.mem_cons_self).neat_tokens
  | link before combinator last ih =>
      have front := ih fun compound member => wellFormed compound (List.mem_append_left _ member)
      have back : Neat last.tokens :=
        (wellFormed last (List.mem_append_right _ List.mem_cons_self)).neat_tokens
      -- A blank stands on either side, so no identifier meets another.
      have between := combinator.neat_tokens.append back
        (.inl (by cases combinator <;> simp [Combinator.tokens, Token.kind]))
      exact front.append between
        (.inr (by cases combinator <;> simp [Combinator.tokens, Token.kind]))

theorem Selector.WellFormed.neat_tokens {selector : Selector} (wellFormed : selector.WellFormed) :
    Neat selector.tokens := by
  refine Neat.intercalate fun row member => ?_
  obtain ⟨chain, listed, rfl⟩ := List.mem_map.mp member
  obtain ⟨index, found⟩ := List.getElem?_of_mem listed
  exact Chain.neat_tokens (wellFormed.alternatives index chain found).compounds

end Neat

/-- **The tokens of a well-formed selector are read back from its text**, with
their blanks drawn together. -/
theorem tokenize_render {selector : Selector} (wellFormed : selector.WellFormed) :
    tokenize selector.render = .ok (squeeze false selector.tokens ++ [.endOfInput]) := by
  rw [tokenize_eq_ok_iff, selector.toList_render]
  exact (spelled_squeeze wellFormed.neat_tokens.legible).1

end TreeSelector
