import Mathlib.Logic.Relation
import TreeSelector.Proofs.Reading.Transition
import TreeSelector.Proofs.Token.Emission
import TreeSelector.Selector.Parse

/-!
# Reading with one token of lookahead

A selector can also be read by recursive descent. There is one production for each rule of the
grammar, and the token ahead decides how it goes on. Three of the productions are loops: over the
predicates of a compound, over the links of a chain, and over the alternatives of a selector.

A `LookaheadParser` has scanned one token ahead. To take that token is to scan the next one in its
place. The first error is kept. From then on nothing is scanned and nothing is built, and the
productions only return. What an error is to leave alone makes up a moment of the parser
(`LookaheadParser.Moment`). The parser keeps the moments that it has been through and the tokens
that it has taken, and a moment keeps the actions that have been run on the construction stack
(`LookaheadParser.Reduction`), so that one can tell from it what it did.

All that the productions do is done in two ways (`Acts`): a token other than the end token is
taken, or a parser without an error changes its stack or records one. Each production is a row of
such actions (`Leads`), and every turn of a loop that is followed by another one takes a token
(`Takes`). There are only so many tokens to be taken (`size`), so the loops end. The productions
within a compound do even less (`Gathers`): they take no comma and run no action on the stack, but
only put predicates on it.
-/

set_option autoImplicit false

namespace TreeSelector

/-! ## Parsers that look ahead -/

/-- An action that has been run on the construction stack: what the calls of the scanner had come
to until then, and the stack that the action found. -/
structure LookaheadParser.Reduction where
  action : Construction.Action
  calls : List (Except LexicalError Token)
  found : Construction

/-- What a parser has at one moment: the scanner, what the calls of it have come to, the
construction stack, the actions that have been run on it, and the first error. -/
structure LookaheadParser.Moment where
  scanner : Scanner
  calls : List (Except LexicalError Token)
  construction : Construction
  reductions : List LookaheadParser.Reduction
  error : Option ParseError

/-- The moment when the action has been called, and has done nothing yet. -/
def LookaheadParser.Moment.calling (moment : LookaheadParser.Moment)
    (action : Construction.Action) : LookaheadParser.Moment :=
  { moment with
    reductions := moment.reductions ++ [⟨action, moment.calls, moment.construction⟩] }

/-- A parser with the token ahead. It keeps the moments before the present one, the last of them
first, and the tokens that it has taken, in their order. -/
structure LookaheadParser where
  now : LookaheadParser.Moment
  past : List LookaheadParser.Moment
  lookahead : Token
  taken : List Token

namespace LookaheadParser

/-- Whether there is an error. -/
def failed (parser : LookaheadParser) : Bool :=
  parser.now.error.isSome

/-- The parser at its next moment. -/
def turnTo (parser : LookaheadParser) (moment : Moment) : LookaheadParser :=
  { parser with now := moment, past := parser.now :: parser.past }

/-- The first error is kept. -/
def fail (parser : LookaheadParser) (error : ParseError) : LookaheadParser :=
  if parser.failed then parser else parser.turnTo { parser.now with error := some error }

/-- A call of the scanner. -/
def ask (parser : LookaheadParser) : LookaheadParser :=
  parser.turnTo { parser.now with
    scanner := parser.now.scanner.next.2
    calls := parser.now.calls ++ [parser.now.scanner.next.1] }

/-- Scans the next token, unless there is an error. -/
def advance (parser : LookaheadParser) : LookaheadParser :=
  if parser.failed then parser
  else
    match parser.now.scanner.next.1 with
    | .ok token => { parser.ask with lookahead := token }
    | .error error => parser.ask.fail (.lexical error)

/-- The token ahead has been taken, and in its place is the end token. -/
def clear (parser : LookaheadParser) : LookaheadParser :=
  { parser with lookahead := .endOfInput, taken := parser.taken ++ [parser.lookahead] }

/-- Takes the token ahead, and scans the next one in its place. -/
def take (parser : LookaheadParser) : LookaheadParser :=
  parser.clear.advance

/-- Puts a predicate on the stack, unless there is an error. -/
def build (parser : LookaheadParser) (predicate : Predicate) : LookaheadParser :=
  if parser.failed then parser
  else parser.turnTo { parser.now with construction := parser.now.construction.push predicate }

/-- An action is run on the stack, unless there is an error. A fault is the error. -/
def reduce (parser : LookaheadParser) (action : Construction.Action)
    (run : Construction → Except Construction.Fault Construction) : LookaheadParser :=
  if parser.failed then parser
  else
    match run parser.now.construction with
    | .ok construction => parser.turnTo { parser.now.calling action with construction }
    | .error fault =>
        parser.turnTo { parser.now.calling action with error := some (.malformed fault) }

/-- The token ahead is none of the expected ones. -/
def unexpected (parser : LookaheadParser) (expected : List Kind) : LookaheadParser :=
  parser.fail (.unexpected expected parser.lookahead)

/-- Takes the token ahead if it has the kind. -/
def expect (parser : LookaheadParser) (kind : Kind) : Option Token × LookaheadParser :=
  if parser.failed then (none, parser)
  else if parser.lookahead.kind = kind then (some parser.lookahead, parser.take)
  else (none, parser.unexpected [kind])

/-- What a token that is expected comes to. -/
inductive Expects (parser : LookaheadParser) (kind : Kind) :
    Option Token × LookaheadParser → Prop where
  | failed (failed : parser.failed = true) : Expects parser kind (none, parser)
  | found (is : parser.lookahead.kind = kind) :
      Expects parser kind (some parser.lookahead, parser.take)
  | other (other : parser.lookahead.kind ≠ kind) :
      Expects parser kind (none, parser.unexpected [kind])

theorem expects (parser : LookaheadParser) (kind : Kind) :
    parser.Expects kind (parser.expect kind) := by
  unfold expect
  split
  · rename_i failed
    exact .failed failed
  · split
    · rename_i is
      exact .found is
    · rename_i other
      exact .other other

/-- What has been found is handed on, and without it nothing follows. -/
def andThen {Found : Type} (read : Option Found × LookaheadParser)
    (production : Found → LookaheadParser → LookaheadParser) : LookaheadParser :=
  match read with
  | (some found, next) => production found next
  | (none, next) => next

/-! ## Productions -/

/-- The text of an identifier. -/
def identifier (parser : LookaheadParser) : Option String × LookaheadParser :=
  match parser.expect .identifier with
  | (some (.identifier name), next) => (some name, next)
  | (_, next) => (none, next)

/-- A blank, if there is one. -/
def blank (parser : LookaheadParser) : LookaheadParser :=
  if parser.lookahead = .blank then parser.take else parser

/-- The value of an attribute test, without its quotes. -/
def attributeValue (parser : LookaheadParser) : Option String × LookaheadParser :=
  match parser.lookahead with
  | .quoted text => (some (unquoted text), parser.take)
  | .literal text => (some text, parser.take)
  | _ => (none, parser.unexpected [.quoted, .literal])

/-- An attribute test from its `=` on. -/
def attributeTest (name : String) (test : AttributeTest) (parser : LookaheadParser) :
    LookaheadParser :=
  andThen (parser.expect (.sign .equals)) fun _ assigned =>
    andThen assigned.attributeValue fun value valued =>
      andThen (valued.expect (.sign .rightBracket)) fun _ closed =>
        closed.build (.withAttribute ⟨name, test, value⟩)

/-- An attribute test behind the name. -/
def attributeOperator (name : String) (parser : LookaheadParser) : LookaheadParser :=
  match parser.lookahead with
  | .sign .rightBracket => parser.take.build (.withAttribute ⟨name, .present, ""⟩)
  | .sign .equals => attributeTest name .equals parser
  | .sign .caret => attributeTest name .startsWith parser.take
  | .sign .dollar => attributeTest name .endsWith parser.take
  | .sign .star => attributeTest name .contains parser.take
  | _ => parser.unexpected
      [.sign .rightBracket, .sign .equals, .sign .caret, .sign .dollar, .sign .star]

/-- A production that begins with a sign and goes on with a name. -/
def named (production : String → LookaheadParser → LookaheadParser) (parser : LookaheadParser) :
    LookaheadParser :=
  andThen parser.take.identifier production

/-! ## Actions -/

/-- What a production does at once. -/
inductive Acts : LookaheadParser → LookaheadParser → Prop where
  /-- A token other than the end token is taken. -/
  | take {parser : LookaheadParser} (more : parser.lookahead ≠ .endOfInput) :
      Acts parser parser.take
  /-- A parser without an error changes its stack or records an error. -/
  | change {parser : LookaheadParser} (unfailed : parser.failed = false)
      (construction : Construction) (reductions : List Reduction) (error : Option ParseError) :
      Acts parser (parser.turnTo
        { parser.now with
          construction := construction, reductions := reductions, error := error })

/-- One parser leads to another one by a row of actions. -/
abbrev Leads : LookaheadParser → LookaheadParser → Prop :=
  Relation.ReflTransGen Acts

/-- A token other than the end token is taken on the way. -/
def Takes (parser next : LookaheadParser) : Prop :=
  ∃ before, parser.Leads before ∧ before.lookahead ≠ .endOfInput ∧ before.take.Leads next

/-- What a production within a compound does at once. -/
inductive Gathers : LookaheadParser → LookaheadParser → Prop where
  /-- A token is taken that is neither the end token nor a comma. -/
  | take {parser : LookaheadParser} (more : parser.lookahead ≠ .endOfInput)
      (within : parser.lookahead ≠ .sign .comma) : Gathers parser parser.take
  | build {parser : LookaheadParser} (predicate : Predicate) :
      Gathers parser (parser.build predicate)
  | fail {parser : LookaheadParser} (error : ParseError) : Gathers parser (parser.fail error)

/-- One parser comes to another one within a compound. -/
abbrev Collects : LookaheadParser → LookaheadParser → Prop :=
  Relation.ReflTransGen Gathers

section

variable {parser : LookaheadParser}

theorem leads_fail (parser : LookaheadParser) (error : ParseError) :
    parser.Leads (parser.fail error) := by
  unfold fail
  split
  · exact .refl
  · rename_i unfailed
    exact .single (.change (Bool.eq_false_iff.mpr unfailed) parser.now.construction
      parser.now.reductions (some error))

theorem leads_build (parser : LookaheadParser) (predicate : Predicate) :
    parser.Leads (parser.build predicate) := by
  unfold build
  split
  · exact .refl
  · rename_i unfailed
    exact .single (.change (Bool.eq_false_iff.mpr unfailed) _ parser.now.reductions
      parser.now.error)

theorem leads_reduce (parser : LookaheadParser) (action : Construction.Action)
    (run : Construction → Except Construction.Fault Construction) :
    parser.Leads (parser.reduce action run) := by
  unfold reduce
  split
  · exact .refl
  · rename_i unfailed
    split
    · exact .single (.change (Bool.eq_false_iff.mpr unfailed) _ _ parser.now.error)
    · exact .single (.change (Bool.eq_false_iff.mpr unfailed) parser.now.construction _ _)

theorem leads_take {token : Token} (ahead : parser.lookahead = token)
    (other : token ≠ .endOfInput) : parser.Leads parser.take :=
  .single (.take (ahead ▸ other))

theorem Takes.of_take {token : Token} (ahead : parser.lookahead = token)
    (other : token ≠ .endOfInput) {next : LookaheadParser} (leads : parser.take.Leads next) :
    parser.Takes next :=
  ⟨parser, .refl, ahead ▸ other, leads⟩

theorem Takes.leads {next : LookaheadParser} (takes : parser.Takes next) : parser.Leads next := by
  obtain ⟨before, first, more, later⟩ := takes
  exact (first.trans (leads_take rfl more)).trans later

/-- What is done within a compound is done by actions. -/
theorem Collects.leads {next : LookaheadParser} (collects : parser.Collects next) :
    parser.Leads next := by
  induction collects with
  | refl => exact .refl
  | @tail middle last _ gathers ih =>
      refine ih.trans ?_
      cases gathers with
      | take more => exact leads_take rfl more
      | build predicate => exact middle.leads_build predicate
      | fail error => exact middle.leads_fail error

theorem collects_take {token : Token} (ahead : parser.lookahead = token)
    (more : token ≠ .endOfInput) (within : token ≠ .sign .comma) :
    parser.Collects parser.take :=
  .single (.take (ahead ▸ more) (ahead ▸ within))

theorem collects_build (parser : LookaheadParser) (predicate : Predicate) :
    parser.Collects (parser.build predicate) :=
  .single (.build predicate)

theorem collects_fail (parser : LookaheadParser) (error : ParseError) :
    parser.Collects (parser.fail error) :=
  .single (.fail error)

/-- A production behind another one. -/
theorem collects_andThen {Found : Type} {production : Found → LookaheadParser → LookaheadParser}
    {read : Option Found × LookaheadParser} (collects : parser.Collects read.2)
    (later : ∀ found next, Collects next (production found next)) :
    parser.Collects (andThen read production) := by
  obtain ⟨found, next⟩ := read
  cases found with
  | none => exact collects
  | some found => exact collects.trans (later found next)

theorem Expects.collects {kind : Kind} {read : Option Token × LookaheadParser}
    (expects : parser.Expects kind read) (more : kind ≠ .endOfInput)
    (within : kind ≠ .sign .comma) : parser.Collects read.2 := by
  cases expects with
  | failed => exact .refl
  | found is =>
      refine collects_take rfl (fun ended => more ?_) (fun comma => within ?_)
      · rw [← is, ended]
        rfl
      · rw [← is, comma]
        rfl
  | other => exact parser.collects_fail _

theorem collects_identifier (parser : LookaheadParser) :
    parser.Collects parser.identifier.2 := by
  have collects := (parser.expects .identifier).collects nofun nofun
  unfold identifier
  split
  · rename_i expected
    rwa [expected] at collects
  · rename_i expected
    rwa [expected] at collects

theorem collects_blank (parser : LookaheadParser) : parser.Collects parser.blank := by
  unfold blank
  split
  · rename_i ahead
    exact collects_take ahead nofun nofun
  · exact .refl

theorem collects_attributeValue (parser : LookaheadParser) :
    parser.Collects parser.attributeValue.2 := by
  unfold attributeValue
  split
  · rename_i ahead
    exact collects_take ahead nofun nofun
  · rename_i ahead
    exact collects_take ahead nofun nofun
  · exact parser.collects_fail _

theorem collects_attributeTest (name : String) (test : AttributeTest) (parser : LookaheadParser) :
    parser.Collects (attributeTest name test parser) :=
  collects_andThen ((parser.expects (.sign .equals)).collects nofun nofun) fun _ assigned =>
    collects_andThen assigned.collects_attributeValue fun _ valued =>
      collects_andThen ((valued.expects (.sign .rightBracket)).collects nofun nofun)
        fun _ closed => closed.collects_build _

theorem collects_attributeOperator (name : String) (parser : LookaheadParser) :
    parser.Collects (attributeOperator name parser) := by
  unfold attributeOperator
  split
  · rename_i ahead
    exact (collects_take ahead nofun nofun).trans (collects_build _ _)
  · exact collects_attributeTest name .equals parser
  · rename_i ahead
    exact (collects_take ahead nofun nofun).trans (collects_attributeTest name .startsWith _)
  · rename_i ahead
    exact (collects_take ahead nofun nofun).trans (collects_attributeTest name .endsWith _)
  · rename_i ahead
    exact (collects_take ahead nofun nofun).trans (collects_attributeTest name .contains _)
  · exact parser.collects_fail _

end

/-- What the call of the scanner comes to. -/
inductive Advances (parser : LookaheadParser) : LookaheadParser → Prop where
  /-- There is no call. -/
  | failed (failed : parser.failed = true) : Advances parser parser
  | read {token : Token} (unfailed : parser.failed = false)
      (read : parser.now.scanner.lexeme.outcome = .ok token) :
      Advances parser { parser.ask with lookahead := token }
  | error {error : LexicalError} (unfailed : parser.failed = false)
      (read : parser.now.scanner.lexeme.outcome = .error error) :
      Advances parser (parser.ask.turnTo { parser.ask.now with error := some (.lexical error) })

theorem advances (parser : LookaheadParser) : parser.Advances parser.advance := by
  unfold advance
  split
  · rename_i failed
    exact .failed failed
  · rename_i unfailed
    have unfailed := Bool.eq_false_iff.mpr unfailed
    split
    · rename_i read
      exact .read unfailed read
    · rename_i error read
      have kept : parser.ask.fail (.lexical error) =
          parser.ask.turnTo { parser.ask.now with error := some (.lexical error) } :=
        if_neg (Bool.eq_false_iff.mp unfailed)
      rw [kept]
      exact .error unfailed read

theorem Acts.now_eq {parser next : LookaheadParser} (acts : parser.Acts next)
    (failed : parser.failed = true) : next.now = parser.now := by
  cases acts with
  | take =>
      have cleared : parser.clear.failed = true := failed
      rw [LookaheadParser.take, advance, if_pos cleared]
      rfl
  | change unfailed => simp [failed] at unfailed

/-- **Behind an error, nothing changes.** -/
theorem now_eq_of_leads {parser next : LookaheadParser} (failed : parser.failed = true)
    (leads : parser.Leads next) : next.now = parser.now := by
  induction leads with
  | refl => rfl
  | @tail middle last _ acts ih =>
      have still : middle.failed = true := by rw [LookaheadParser.failed, ih]; exact failed
      rw [acts.now_eq still, ih]

/-! ## Loops -/

/-- How many tokens there may be to be taken. -/
def size (parser : LookaheadParser) : Nat :=
  parser.now.scanner.rest.length + if parser.lookahead = .endOfInput then 0 else 1

/-- What is scanned in the place of the end token comes from the rest of the text. -/
theorem Advances.size_le {parser next : LookaheadParser} (advances : parser.Advances next)
    (ended : parser.lookahead = .endOfInput) :
    next.size ≤ parser.now.scanner.rest.length := by
  have shorter : parser.ask.now.scanner.rest.length ≤ parser.now.scanner.rest.length := by
    change (parser.now.scanner.rest.drop _).length ≤ _
    rw [List.length_drop]
    omega
  cases advances with
  | failed => simp [size, ended]
  | @read token unfailed read =>
      -- A token before the end of the text has covered a character, which pays for its place.
      by_cases last : token = .endOfInput
      · simpa [size, last] using shorter
      · have more : parser.now.scanner.rest ≠ [] := by
          intro none
          have outcome : Except.ok token = .ok .endOfInput :=
            read.symm.trans (Scanner.outcome_of_rest_nil none)
          cases outcome
          exact last rfl
        have less := Scanner.advance_rest_length_lt more
        simp only [size, last, if_false]
        exact less
  | error =>
      have same : parser.ask.lookahead = .endOfInput := ended
      simpa [size, turnTo, same] using shorter

theorem size_take_lt {parser : LookaheadParser} (more : parser.lookahead ≠ .endOfInput) :
    parser.take.size < parser.size := by
  have bound := parser.clear.advances.size_le rfl
  have whole : parser.size = parser.now.scanner.rest.length + 1 := by simp [size, more]
  rw [whole]
  exact Nat.lt_succ_of_le bound

theorem Acts.size_le {parser next : LookaheadParser} (acts : parser.Acts next) :
    next.size ≤ parser.size := by
  cases acts with
  | take more => exact Nat.le_of_lt (size_take_lt more)
  | change => exact Nat.le_refl _

theorem size_le_of_leads {parser next : LookaheadParser} (leads : parser.Leads next) :
    next.size ≤ parser.size := by
  induction leads with
  | refl => exact Nat.le_refl _
  | tail _ acts ih => exact Nat.le_trans acts.size_le ih

/-- **Whoever takes a token has fewer of them before it.** -/
theorem Takes.size_lt {parser next : LookaheadParser} (takes : parser.Takes next) :
    next.size < parser.size := by
  obtain ⟨before, first, more, later⟩ := takes
  calc next.size ≤ before.take.size := size_le_of_leads later
    _ < before.size := size_take_lt more
    _ ≤ parser.size := size_le_of_leads first

/-- What a turn of a loop comes to. -/
inductive Turn where
  | again (parser : LookaheadParser)
  | leave (parser : LookaheadParser)

/-- A turn that another one follows takes a token. The last one need not. -/
def Turn.From (parser : LookaheadParser) : Turn → Prop
  | .again next => parser.Takes next
  | .leave next => parser.Leads next

/-- A loop, by what each of its turns comes to. -/
structure Loop where
  turn : LookaheadParser → Turn
  from_turn (parser : LookaheadParser) : (turn parser).From parser

namespace Loop

theorem takes_of_again (loop : Loop) {parser next : LookaheadParser}
    (turned : loop.turn parser = .again next) : parser.Takes next := by
  have reached := loop.from_turn parser
  rwa [turned] at reached

theorem leads_of_leave (loop : Loop) {parser next : LookaheadParser}
    (turned : loop.turn parser = .leave next) : parser.Leads next := by
  have reached := loop.from_turn parser
  rwa [turned] at reached

/-- Turns until the loop is left. -/
def run (loop : Loop) (parser : LookaheadParser) : LookaheadParser :=
  match _turned : loop.turn parser with
  | .again next => loop.run next
  | .leave next => next
  termination_by parser.size
  decreasing_by exact (loop.takes_of_again _turned).size_lt

/-- What holds of the last turn, and is handed back from turn to turn, holds of the loop. -/
theorem run_induction (loop : Loop) {motive : LookaheadParser → LookaheadParser → Prop}
    (leave : ∀ parser next, loop.turn parser = .leave next → motive parser next)
    (again : ∀ parser next last, loop.turn parser = .again next → motive next last →
      motive parser last)
    (parser : LookaheadParser) : motive parser (loop.run parser) := by
  induction parser using run.induct loop with
  | case1 parser next turned ih =>
      rw [run]
      split
      · rename_i other found
        rw [turned] at found
        cases found
        exact again parser next _ turned ih
      · rename_i found
        rw [turned] at found
        cases found
  | case2 parser next turned =>
      rw [run]
      split
      · rename_i found
        rw [turned] at found
        cases found
      · rename_i other found
        exact leave parser other found

theorem leads_run (loop : Loop) (parser : LookaheadParser) : parser.Leads (loop.run parser) := by
  refine loop.run_induction (fun _ _ turned => loop.leads_of_leave turned) ?_ parser
  intro parser next last turned later
  exact (loop.takes_of_again turned).leads.trans later

end Loop

/-! ## Compounds -/

/-- One more predicate of a compound, or its end. -/
def predicatesTurn (parser : LookaheadParser) : Turn :=
  if parser.failed then .leave parser
  else
    match parser.lookahead with
    | .sign .hash => .again (parser.named fun name next => next.build (.id name))
    | .sign .dot => .again (parser.named fun name next => next.build (.className name))
    | .sign .leftBracket => .again (parser.named attributeOperator)
    | .blank | .sign .greater | .sign .plus | .sign .tilde | .sign .comma | .endOfInput =>
        .leave parser
    | _ => .leave (parser.unexpected [.sign .hash, .sign .dot, .sign .leftBracket])

/-- A turn that another one follows takes a token first, and all that is done is done within a
compound. -/
def Turn.Within (parser : LookaheadParser) : Turn → Prop
  | .again next => parser.lookahead ≠ .endOfInput ∧ parser.lookahead ≠ .sign .comma ∧
      parser.take.Collects next
  | .leave next => parser.Collects next

theorem predicatesTurn_within (parser : LookaheadParser) :
    parser.predicatesTurn.Within parser := by
  have named {token : Token} {production : String → LookaheadParser → LookaheadParser}
      (ahead : parser.lookahead = token) (more : token ≠ .endOfInput)
      (within : token ≠ .sign .comma)
      (later : ∀ name next, Collects next (production name next)) :
      (Turn.again (parser.named production)).Within parser :=
    ⟨ahead ▸ more, ahead ▸ within, collects_andThen (collects_identifier _) later⟩
  unfold predicatesTurn
  split
  · exact .refl
  · split
    · rename_i ahead
      exact named ahead nofun nofun fun _ next => next.collects_build _
    · rename_i ahead
      exact named ahead nofun nofun fun _ next => next.collects_build _
    · rename_i ahead
      exact named ahead nofun nofun collects_attributeOperator
    all_goals first | exact .refl | exact parser.collects_fail _

/-- The predicates of a compound. -/
def predicates : Loop where
  turn := predicatesTurn
  from_turn parser := by
    have within := parser.predicatesTurn_within
    cases turned : parser.predicatesTurn with
    | again next =>
        rw [turned] at within
        obtain ⟨more, -, later⟩ := within
        exact .of_take rfl more later.leads
    | leave next =>
        rw [turned] at within
        exact Collects.leads within

theorem collects_predicates (parser : LookaheadParser) :
    parser.Collects (predicates.run parser) := by
  refine predicates.run_induction (fun parser next turned => ?_)
    (fun parser next last turned later => ?_) parser
  · have within := parser.predicatesTurn_within
    rwa [show parser.predicatesTurn = .leave next from turned] at within
  · have within := parser.predicatesTurn_within
    rw [show parser.predicatesTurn = .again next from turned] at within
    obtain ⟨more, inside, first⟩ := within
    exact ((collects_take rfl more inside).trans first).trans later

/-- The tag of a compound, if there is one. -/
def tag (parser : LookaheadParser) : LookaheadParser :=
  match parser.lookahead with
  | .identifier name => parser.take.build (.tag name)
  | .sign .star => parser.take.build (.tag "*")
  | _ => parser

theorem collects_tag (parser : LookaheadParser) : parser.Collects parser.tag := by
  unfold tag
  split
  · rename_i ahead
    exact (collects_take ahead nofun nofun).trans (collects_build _ _)
  · rename_i ahead
    exact (collects_take ahead nofun nofun).trans (collects_build _ _)
  · exact .refl

/-- A compound, which becomes a chain of its own. -/
def compound (parser : LookaheadParser) : LookaheadParser :=
  (predicates.run parser.tag).reduce .compound Construction.compound

/-- Up to its end, a compound is gathered. -/
theorem collects_compound (parser : LookaheadParser) :
    parser.Collects (predicates.run parser.tag) :=
  parser.collects_tag.trans (collects_predicates _)

theorem leads_compound (parser : LookaheadParser) : parser.Leads parser.compound :=
  parser.collects_compound.leads.trans (leads_reduce _ _ _)

/-! ## Chains -/

/-- A `>`, `+` or `~` and the blank behind it, if there is one. -/
def combinator (parser : LookaheadParser) : Option Combinator × LookaheadParser :=
  match parser.lookahead with
  | .sign mark =>
      match mark.combinator? with
      | some combinator => (some combinator, parser.take.blank)
      | none => (none, parser)
  | _ => (none, parser)

theorem collects_combinator (parser : LookaheadParser) :
    parser.Collects parser.combinator.2 := by
  unfold combinator
  split
  · rename_i mark ahead
    split
    · rename_i combinator is
      have within : Token.sign mark ≠ .sign .comma := by
        rintro same
        cases same
        cases is
      exact (collects_take ahead nofun within).trans (collects_blank _)
    · exact .refl
  · exact .refl

theorem takes_of_combinator {parser next : LookaheadParser} {combinator : Combinator}
    (read : parser.combinator = (some combinator, next)) : parser.Takes next := by
  unfold LookaheadParser.combinator at read
  split at read
  · rename_i ahead
    split at read
    · cases read
      exact .of_take ahead nofun (collects_blank _).leads
    · cases read
  · cases read

/-- A compound that is linked to the chain before it. -/
def link (combinator : Combinator) (parser : LookaheadParser) : LookaheadParser :=
  parser.compound.reduce .link (Construction.link · combinator)

theorem leads_link (combinator : Combinator) (parser : LookaheadParser) :
    parser.Leads (parser.link combinator) :=
  parser.leads_compound.trans (leads_reduce _ _ _)

/-- Whether a chain ends here. -/
def chainEnds (parser : LookaheadParser) : Bool :=
  parser.lookahead = .sign .comma || parser.lookahead = .endOfInput

/-- One more compound of a chain, or its end. Behind a blank, another combinator takes the blank
as padding, and without one the compound is a descendant. -/
def linksTurn (parser : LookaheadParser) : Turn :=
  if parser.failed then .leave parser
  else if parser.lookahead = .blank then
    .again (parser.take.combinator.2.link (parser.take.combinator.1.getD .descendant))
  else
    match parser.combinator with
    | (some combinator, next) => .again (next.link combinator)
    | (none, _) =>
        if parser.chainEnds then .leave parser
        else .leave (parser.unexpected [.blank, .sign .greater, .sign .plus, .sign .tilde])

/-- The compounds of a chain behind the first one. -/
def links : Loop where
  turn := linksTurn
  from_turn parser := by
    unfold linksTurn
    split
    · exact .refl
    · split
      · rename_i ahead
        exact .of_take ahead nofun ((collects_combinator _).leads.trans (leads_link _ _))
      · split
        · rename_i read
          obtain ⟨before, first, more, later⟩ := takes_of_combinator read
          exact ⟨before, first, more, later.trans (leads_link _ _)⟩
        · split
          · exact .refl
          · exact parser.leads_fail _

/-- A chain. -/
def chain (parser : LookaheadParser) : LookaheadParser :=
  links.run parser.compound

theorem leads_chain (parser : LookaheadParser) : parser.Leads parser.chain :=
  parser.leads_compound.trans (links.leads_run _)

/-! ## Selectors -/

/-- One more chain of a selector, which is the last one unless a comma follows. -/
def alternativesTurn (parser : LookaheadParser) : Turn :=
  if parser.chain.failed then .leave parser.chain
  else
    match parser.chain.lookahead with
    | .sign .comma => .again parser.chain.take.blank
    | .endOfInput => .leave parser.chain
    | _ => .leave (parser.chain.unexpected [.sign .comma, .endOfInput])

/-- The chains of a selector. -/
def alternatives : Loop where
  turn := alternativesTurn
  from_turn parser := by
    unfold alternativesTurn
    split
    · exact parser.leads_chain
    · split
      · rename_i ahead
        exact ⟨parser.chain, parser.leads_chain, ahead ▸ nofun, (collects_blank _).leads⟩
      · exact parser.leads_chain
      · exact parser.leads_chain.trans (leads_fail _ _)

/-- A selector. -/
def selector (parser : LookaheadParser) : LookaheadParser :=
  (alternatives.run parser).reduce .selector Construction.selector

theorem leads_selector (parser : LookaheadParser) : parser.Leads parser.selector :=
  (alternatives.leads_run parser).trans (leads_reduce _ _ _)

/-! ## Texts -/

/-- A parser that has scanned nothing. The end token stands for the token ahead. -/
def empty (text : String) : LookaheadParser :=
  ⟨⟨Scanner.ofString text, [], Construction.empty, [], none⟩, [], .endOfInput, []⟩

/-- A parser that has scanned the first token of a text. -/
def start (text : String) : LookaheadParser :=
  (empty text).advance

/-- The first error, or the selector that the stack holds. -/
def result (parser : LookaheadParser) : Except ParseError Selector :=
  match parser.now.error with
  | some error => .error error
  | none =>
      match parser.now.construction.finish with
      | .ok selector => .ok selector
      | .error fault => .error (.malformed fault)

/-- The parser that has read a text. -/
def ofString (text : String) : LookaheadParser :=
  (start text).selector

end LookaheadParser

end TreeSelector
