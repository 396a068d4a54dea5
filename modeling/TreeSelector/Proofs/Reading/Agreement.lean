import TreeSelector.Proofs.Reading.Lookahead
import TreeSelector.Proofs.Reading.Outcome

/-!
# Recursive descent agrees with the phases

The productions of a `LookaheadParser` and the phases of a `Parser` are two accounts of one
grammar, and they come to the same. A text has the same result either way, and the scanner is
called for the same tokens (`LookaheadParser.course_ofString`).

The two are compared where a token is ahead. There the phase says what the token does, and what
reading on comes to is the course of the parser (`LookaheadParser.course`). Each production keeps
the course and goes from one phase to another, which is a lemma for each of them. A compound has
two more steps between its last predicate and the phase behind it, for the productions close it
before they look at what follows (`Phase.stepClosed`, `Phase.stepChained`).

A parser with an error has the course that it has come to, whatever the phase is. So no production
has to be followed behind an error.
-/

set_option autoImplicit false

namespace TreeSelector

namespace Parser

/-- What the calls of the scanner come to, up to the result. -/
def asked (parser : Parser) : List (Except LexicalError Token) :=
  match _running : parser.result with
  | some _ => []
  | none => parser.scanner.lexeme.outcome :: parser.step.asked
  termination_by parser.remaining
  decreasing_by exact remaining_step_lt _running

theorem asked_of_result {parser : Parser} {result : Except ParseError Selector}
    (known : parser.result = some result) : parser.asked = [] := by
  rw [asked]
  split
  · rfl
  · rename_i running
    rw [known] at running
    cases running

theorem asked_of_running {parser : Parser} (running : parser.result = none) :
    parser.asked = parser.scanner.lexeme.outcome ::
      (parser.receive parser.scanner.advance parser.scanner.lexeme.outcome).asked := by
  rw [asked]
  split
  · rename_i found
    rw [running] at found
    cases found
  · rw [step, running]

end Parser

namespace Phase

/-- What a token does behind a compound that has been closed already. -/
def stepClosed : Token → Except (List Kind) Move
  | .blank => moveTo .afterBlank
  | .sign .greater => moveTo (.afterCombinator .child)
  | .sign .plus => moveTo (.afterCombinator .adjacentSibling)
  | .sign .tilde => moveTo (.afterCombinator .generalSibling)
  | .sign .comma => moveTo .afterComma
  | .endOfInput => moveTo .ended
  | _ => .error [.blank, .sign .greater, .sign .plus, .sign .tilde]

/-- What a token does behind the last compound of a chain. -/
def stepChained : Token → Except (List Kind) Move
  | .sign .comma => moveTo .afterComma
  | .endOfInput => moveTo .ended
  | _ => .error [.sign .comma, .endOfInput]

end Phase

namespace LookaheadParser

/-! ## Courses -/

/-- What a parser comes to when the answer is what the token ahead does: what all the calls of the
scanner come to, and the result. -/
def course (parser : LookaheadParser) (answer : Except (List Kind) Move) :
    List (Except LexicalError Token) × Except ParseError Selector :=
  match parser.now.error with
  | some error => (parser.now.calls, .error error)
  | none =>
      match answer with
      | .error expected => (parser.now.calls, .error (.unexpected expected parser.lookahead))
      | .ok move =>
          match move.edit.apply parser.now.construction with
          | .error fault => (parser.now.calls, .error (.malformed fault))
          | .ok construction =>
              if parser.lookahead.isEnd then
                (parser.now.calls, Reading.finish ⟨move.phase, construction⟩)
              else
                let behind : Parser := ⟨parser.now.scanner, ⟨move.phase, construction⟩, none⟩
                (parser.now.calls ++ behind.asked, behind.run)

/-- The course of a parser by what tokens do. -/
def reads (parser : LookaheadParser) (step : Token → Except (List Kind) Move) :
    List (Except LexicalError Token) × Except ParseError Selector :=
  parser.course (step parser.lookahead)

theorem course_of_error {parser : LookaheadParser} {error : ParseError}
    (known : parser.now.error = some error) (answer : Except (List Kind) Move) :
    parser.course answer = (parser.now.calls, .error error) := by
  simp only [course, known]

theorem course_of_failed {parser : LookaheadParser} (failed : parser.failed = true)
    (first second : Except (List Kind) Move) : parser.course first = parser.course second := by
  obtain ⟨error, known⟩ := Option.isSome_iff_exists.mp failed
  rw [course_of_error known, course_of_error known]

theorem error_of_unfailed {parser : LookaheadParser} (unfailed : parser.failed = false) :
    parser.now.error = none :=
  Option.not_isSome_iff_eq_none.mp (Bool.eq_false_iff.mp unfailed)

/-- A refusal is the error. -/
theorem course_unexpected (parser : LookaheadParser) (expected : List Kind)
    (answer : Except (List Kind) Move) :
    parser.course (.error expected) = (parser.unexpected expected).course answer := by
  unfold unexpected fail
  split
  · rename_i failed
    exact course_of_failed failed _ _
  · rename_i unfailed
    simp only [course, error_of_unfailed (Bool.eq_false_iff.mpr unfailed), turnTo]

/-- Behind an error, no production changes the course. -/
theorem course_eq_of_leads {parser next : LookaheadParser} (failed : parser.failed = true)
    (leads : parser.Leads next) (first second : Except (List Kind) Move) :
    parser.course first = next.course second := by
  obtain ⟨error, known⟩ := Option.isSome_iff_exists.mp failed
  have same := now_eq_of_leads failed leads
  rw [course_of_error known, course_of_error (same ▸ known), same]

theorem failed_unexpected (parser : LookaheadParser) (expected : List Kind) :
    (parser.unexpected expected).failed = true := by
  unfold unexpected fail
  split
  · rename_i failed
    exact failed
  · rfl

/-- A refusal is the error, and it stays. -/
theorem reads_of_refused {parser next : LookaheadParser} {expected : List Kind}
    {step : Token → Except (List Kind) Move} (refused : step parser.lookahead = .error expected)
    (leads : (parser.unexpected expected).Leads next) (later : Token → Except (List Kind) Move) :
    parser.reads step = next.reads later := by
  rw [reads, refused, course_unexpected parser expected (.error expected)]
  exact course_eq_of_leads (failed_unexpected parser expected) leads _ _

/-! ## Tokens that are taken -/

/-- The parser with another stack. -/
def put (parser : LookaheadParser) (construction : Construction) : LookaheadParser :=
  { parser with now := { parser.now with construction := construction } }

/-- The token that is scanned is the one that the running parser is given. -/
theorem reads_put_of_advances {parser next : LookaheadParser} (advances : parser.Advances next)
    (unfailed : parser.failed = false) (construction : Construction) (phase : Phase) :
    (next.put construction).reads phase.step =
      (parser.now.calls ++
        (⟨parser.now.scanner, ⟨phase, construction⟩, none⟩ : Parser).asked,
        (⟨parser.now.scanner, ⟨phase, construction⟩, none⟩ : Parser).run) := by
  rw [Parser.asked_of_running rfl, Parser.run_of_running rfl]
  cases advances with
  | failed failed => simp [unfailed] at failed
  | @error error _ read =>
      -- Both parsers have their result, and the stack plays no part in it.
      rw [reads, course_of_error rfl]
      simp only [read, Parser.receive]
      rw [Parser.asked_of_result rfl, Parser.run_of_result rfl]
      simp [put, turnTo, ask, Scanner.next, read]
  | @read token _ read =>
      have unfailed : parser.now.error = none := error_of_unfailed unfailed
      simp only [read, Parser.receive, Reading.step, reads, course, put, ask, turnTo,
        Scanner.next, unfailed]
      cases phase.step token with
      | error expected =>
          rw [Parser.asked_of_result rfl, Parser.run_of_result rfl]
      | ok move =>
          cases applied : move.edit.apply construction with
          | error fault =>
              simp only [applied]
              rw [Parser.asked_of_result rfl, Parser.run_of_result rfl]
          | ok construction =>
              simp only [applied]
              by_cases last : token.isEnd = true
              · simp only [last, if_true]
                rw [Parser.asked_of_result rfl, Parser.run_of_result rfl]
              · simp [last]

/-- A token that leaves the stack as it is, or puts a predicate on it, is taken. -/
theorem course_take_put {parser : LookaheadParser} {edit : Edit} {construction : Construction}
    (unfailed : parser.failed = false) (more : parser.lookahead.isEnd = false)
    (applied : edit.apply parser.now.construction = .ok construction) (phase : Phase) :
    parser.course (.ok ⟨edit, phase⟩) = (parser.take.put construction).reads phase.step := by
  rw [take, reads_put_of_advances parser.clear.advances unfailed]
  simp only [course, error_of_unfailed unfailed, applied, more]
  rfl

theorem Advances.put_eq {parser next : LookaheadParser} (advances : parser.Advances next) :
    next.put parser.now.construction = next := by
  cases advances <;> rfl

theorem Advances.reads_build {parser next : LookaheadParser} (advances : parser.Advances next)
    (unfailed : parser.failed = false) (predicate : Predicate)
    (step : Token → Except (List Kind) Move) :
    (next.build predicate).reads step =
      (next.put (parser.now.construction.push predicate)).reads step := by
  cases advances with
  | failed failed => simp [unfailed] at failed
  | read =>
      have building : ∀ token, build { parser.ask with lookahead := token } predicate =
          turnTo { parser.ask with lookahead := token }
            { parser.ask.now with construction := parser.now.construction.push predicate } :=
        fun _ => if_neg (Bool.eq_false_iff.mp unfailed)
      rw [building]
      rfl
  | error =>
      rw [reads, reads, course_of_error rfl, course_of_error rfl]
      rfl

theorem ne_endOfInput_of_isEnd {token : Token} (more : token.isEnd = false) :
    token ≠ .endOfInput := by
  rintro rfl
  cases more

/-- A token is taken. -/
theorem course_take {parser : LookaheadParser} (more : parser.lookahead.isEnd = false)
    (phase : Phase) :
    parser.course (.ok ⟨.keep, phase⟩) = parser.take.reads phase.step := by
  cases failed : parser.failed with
  | true => exact course_eq_of_leads failed (leads_take rfl (ne_endOfInput_of_isEnd more)) _ _
  | false =>
      have kept : parser.take.put parser.now.construction = parser.take :=
        parser.clear.advances.put_eq
      rw [course_take_put failed more rfl phase, kept]

/-- A token is taken, and it is the last one of a predicate. -/
theorem course_take_build {parser : LookaheadParser} (more : parser.lookahead.isEnd = false)
    (predicate : Predicate) (phase : Phase) :
    parser.course (.ok ⟨.push predicate, phase⟩) =
      (parser.take.build predicate).reads phase.step := by
  cases failed : parser.failed with
  | true =>
      exact course_eq_of_leads failed
        ((leads_take rfl (ne_endOfInput_of_isEnd more)).trans (leads_build _ _)) _ _
  | false =>
      rw [course_take_put failed more rfl phase]
      exact (parser.clear.advances.reads_build failed predicate phase.step).symm

/-! ## Predicates -/

/-- The name behind a sign. -/
theorem reads_identifier {parser : LookaheadParser} {step later : Token → Except (List Kind) Move}
    {production : String → LookaheadParser → LookaheadParser}
    (refuses : ∀ token, token.kind ≠ .identifier → step token = .error [.identifier])
    (admits : ∀ name, parser.lookahead = .identifier name →
      parser.course (step (.identifier name)) = (production name parser.take).reads later) :
    parser.reads step = (andThen parser.identifier production).reads later := by
  have expects := parser.expects .identifier
  unfold identifier
  generalize parser.expect .identifier = read at expects ⊢
  cases expects with
  | failed failed => exact course_of_failed failed _ _
  | found is =>
      cases ahead : parser.lookahead with
      | identifier name =>
          rw [reads, ahead]
          exact admits name ahead
      | _ => simp [ahead, Token.kind] at is
  | other other => exact reads_of_refused (refuses _ other) .refl later

/-- A sign that is expected. -/
theorem reads_expect {parser : LookaheadParser} {step later : Token → Except (List Kind) Move}
    {sign : Sign} {production : Token → LookaheadParser → LookaheadParser}
    (refuses : ∀ token, token.kind ≠ .sign sign → step token = .error [.sign sign])
    (admits : ∀ token, parser.lookahead = .sign sign →
      parser.course (step (.sign sign)) = (production token parser.take).reads later) :
    parser.reads step = (andThen (parser.expect (.sign sign)) production).reads later := by
  have expects := parser.expects (.sign sign)
  generalize parser.expect (.sign sign) = read at expects ⊢
  cases expects with
  | failed failed => exact course_of_failed failed _ _
  | found is =>
      cases ahead : parser.lookahead with
      | sign mark =>
          obtain rfl : mark = sign := by simpa [ahead, Token.kind] using is
          rw [reads, ahead]
          exact admits _ ahead
      | _ => simp [ahead, Token.kind] at is
  | other other => exact reads_of_refused (refuses _ other) .refl later

theorem reads_attributeEnd (joint : Option Combinator) (predicate : AttributePredicate)
    (parser : LookaheadParser) :
    parser.reads (Phase.stepWithin joint (.attributeEnd predicate)) =
      (andThen (parser.expect (.sign .rightBracket)) fun _ closed =>
        closed.build (.withAttribute predicate)).reads (Phase.stepBehind joint) := by
  refine reads_expect ?_ fun _ ahead => ?_
  · intro token other
    unfold Phase.stepWithin
    split <;> simp_all [Token.kind]
  · exact course_take_build (ahead ▸ rfl) _ (.within joint .behind)

theorem reads_attributeValue (joint : Option Combinator) (name : String) (test : AttributeTest)
    (parser : LookaheadParser) :
    parser.reads (Phase.stepWithin joint (.attributeValue name test)) =
      (andThen parser.attributeValue fun value valued =>
        andThen (valued.expect (.sign .rightBracket)) fun _ closed =>
          closed.build (.withAttribute ⟨name, test, value⟩)).reads (Phase.stepBehind joint) := by
  unfold attributeValue
  split
  · rename_i text ahead
    rw [reads, ahead]
    exact (course_take (ahead ▸ rfl) _).trans (reads_attributeEnd joint ⟨name, test, _⟩ _)
  · rename_i text ahead
    rw [reads, ahead]
    exact (course_take (ahead ▸ rfl) _).trans (reads_attributeEnd joint ⟨name, test, _⟩ _)
  · rename_i notQuoted notLiteral
    have refused : Phase.stepWithin joint (.attributeValue name test) parser.lookahead =
        .error [.quoted, .literal] := by
      cases ahead : parser.lookahead with
      | quoted text => exact absurd ahead (notQuoted text)
      | literal text => exact absurd ahead (notLiteral text)
      | _ => rfl
    exact reads_of_refused refused .refl _

theorem reads_attributeTest (joint : Option Combinator) (name : String) (test : AttributeTest)
    (parser : LookaheadParser) :
    parser.reads (Phase.stepWithin joint (.attributeAssign name test)) =
      (attributeTest name test parser).reads (Phase.stepBehind joint) := by
  refine reads_expect ?_ fun _ ahead => ?_
  · intro token other
    unfold Phase.stepWithin
    split <;> simp_all [Token.kind]
  · exact (course_take (ahead ▸ rfl) _).trans (reads_attributeValue joint name test _)

theorem reads_attributeOperator (joint : Option Combinator) (name : String)
    (parser : LookaheadParser) :
    parser.reads (Phase.stepWithin joint (.attributeOperator name)) =
      (attributeOperator name parser).reads (Phase.stepBehind joint) := by
  unfold attributeOperator
  split
  · rename_i ahead
    rw [reads, ahead]
    exact course_take_build (ahead ▸ rfl) _ (.within joint .behind)
  · rename_i ahead
    rw [← reads_attributeTest, reads, reads, ahead]
    rfl
  · rename_i ahead
    rw [← reads_attributeTest, reads, ahead]
    exact course_take (ahead ▸ rfl) (.within joint (.attributeAssign name .startsWith))
  · rename_i ahead
    rw [← reads_attributeTest, reads, ahead]
    exact course_take (ahead ▸ rfl) (.within joint (.attributeAssign name .endsWith))
  · rename_i ahead
    rw [← reads_attributeTest, reads, ahead]
    exact course_take (ahead ▸ rfl) (.within joint (.attributeAssign name .contains))
  · rename_i notBracket notEquals notCaret notDollar notStar
    have refused : Phase.stepWithin joint (.attributeOperator name) parser.lookahead = .error
        [.sign .rightBracket, .sign .equals, .sign .caret, .sign .dollar, .sign .star] := by
      simp only [Phase.stepWithin]
      unfold Phase.stepOperator
      split <;> simp_all
    exact reads_of_refused refused .refl _

/-! ## Compounds -/

/-- The compound is taken off the stack and linked to its chain. -/
def close (joint : Option Combinator) (parser : LookaheadParser) : LookaheadParser :=
  match joint with
  | none => parser.reduce .compound Construction.compound
  | some combinator =>
      (parser.reduce .compound Construction.compound).reduce .link (Construction.link · combinator)

theorem leads_close (joint : Option Combinator) (parser : LookaheadParser) :
    parser.Leads (parser.close joint) := by
  cases joint with
  | none => exact leads_reduce parser _ _
  | some combinator =>
      exact (leads_reduce parser .compound Construction.compound).trans
        (leads_reduce _ .link (Construction.link · combinator))

theorem lookahead_reduce (parser : LookaheadParser) (action : Construction.Action)
    (run : Construction → Except Construction.Fault Construction) :
    (parser.reduce action run).lookahead = parser.lookahead := by
  unfold reduce
  repeat' split
  all_goals rfl

theorem lookahead_close (joint : Option Combinator) (parser : LookaheadParser) :
    (parser.close joint).lookahead = parser.lookahead := by
  cases joint with
  | none => exact lookahead_reduce _ _ _
  | some combinator => exact (lookahead_reduce _ _ _).trans (lookahead_reduce _ _ _)

section

variable {parser : LookaheadParser} {action : Construction.Action}
  {run : Construction → Except Construction.Fault Construction}

theorem reduce_of_ok {construction : Construction} (unfailed : parser.failed = false)
    (done : run parser.now.construction = .ok construction) :
    parser.reduce action run = parser.turnTo { parser.now.calling action with construction } := by
  rw [reduce, if_neg (Bool.eq_false_iff.mp unfailed), done]

theorem reduce_of_error {fault : Construction.Fault} (unfailed : parser.failed = false)
    (broken : run parser.now.construction = .error fault) :
    parser.reduce action run =
      parser.turnTo { parser.now.calling action with error := some (.malformed fault) } := by
  rw [reduce, if_neg (Bool.eq_false_iff.mp unfailed), broken]

theorem reduce_of_failed (failed : parser.failed = true) : parser.reduce action run = parser :=
  if_pos failed

theorem course_ok_of_apply_ok {edit : Edit} {construction : Construction}
    (applied : edit.apply parser.now.construction = .ok construction)
    (reductions : List Reduction) (phase : Phase) :
    parser.course (.ok ⟨edit, phase⟩) =
      (parser.turnTo { parser.now with construction, reductions }).course (.ok ⟨.keep, phase⟩) := by
  simp only [course, applied]
  rfl

theorem course_ok_of_apply_error {edit : Edit} {fault : Construction.Fault}
    (unfailed : parser.failed = false)
    (broken : edit.apply parser.now.construction = .error fault) (construction : Construction)
    (reductions : List Reduction) (phase : Phase) (answer : Except (List Kind) Move) :
    parser.course (.ok ⟨edit, phase⟩) =
      (parser.turnTo { parser.now with
        construction, reductions, error := some (.malformed fault) }).course answer := by
  simp only [course, error_of_unfailed unfailed, broken, turnTo]

end

/-- A compound may be closed before the token behind it is looked at. -/
theorem course_close (joint : Option Combinator) (parser : LookaheadParser) (phase : Phase) :
    parser.course (.ok ⟨.close joint, phase⟩) =
      (parser.close joint).course (.ok ⟨.keep, phase⟩) := by
  -- A fault of either action is the error of both parsers. Without one the stacks agree.
  cases failed : parser.failed with
  | true => exact course_eq_of_leads failed (leads_close joint parser) _ _
  | false =>
      cases joint with
      | none =>
          have applies : Edit.apply parser.now.construction (.close none) =
            parser.now.construction.compound := rfl
          cases compound : parser.now.construction.compound with
          | error fault =>
              rw [close, reduce_of_error failed compound]
              exact course_ok_of_apply_error failed (applies.trans compound) _ _ phase _
          | ok closed =>
              rw [close, reduce_of_ok failed compound]
              exact course_ok_of_apply_ok (applies.trans compound) _ phase
      | some combinator =>
          have applies : Edit.apply parser.now.construction (.close (some combinator)) =
            parser.now.construction.compound >>= (Construction.link · combinator) := rfl
          cases compound : parser.now.construction.compound with
          | error fault =>
              rw [compound] at applies
              rw [close, reduce_of_error failed compound, reduce_of_failed rfl]
              exact course_ok_of_apply_error failed applies _ _ phase _
          | ok closed =>
              rw [compound] at applies
              have still : (parser.turnTo
                  { parser.now.calling .compound with construction := closed }).failed = false :=
                failed
              rw [close, reduce_of_ok failed compound]
              cases link : closed.link combinator with
              | error fault =>
                  rw [reduce_of_error still link]
                  exact course_ok_of_apply_error failed (applies.trans link) closed _ phase
                    (.ok ⟨.keep, phase⟩)
              | ok linked =>
                  rw [reduce_of_ok still link]
                  exact course_ok_of_apply_ok (applies.trans link) _ phase

/-- A token that ends a compound. -/
theorem reads_of_ends {joint : Option Combinator} {parser : LookaheadParser} {token : Token}
    {phase : Phase} (ahead : parser.lookahead = token)
    (ends : Phase.stepBehind joint token = .ok ⟨.close joint, phase⟩)
    (closed : Phase.stepClosed token = .ok ⟨.keep, phase⟩) :
    parser.reads (Phase.stepBehind joint) = (parser.close joint).reads Phase.stepClosed := by
  rw [reads, reads, lookahead_close, ahead, ends, closed, course_close]

theorem reads_close_of_failed {parser : LookaheadParser} (failed : parser.failed = true)
    (joint : Option Combinator) (first second : Token → Except (List Kind) Move) :
    parser.reads first = (parser.close joint).reads second :=
  course_eq_of_leads failed (leads_close joint parser) _ _

/-- The turn is the last one: the compound ends here, or there is an error. -/
theorem reads_of_predicatesTurn_leave {parser next : LookaheadParser}
    (turned : parser.predicatesTurn = .leave next) (joint : Option Combinator) :
    parser.reads (Phase.stepBehind joint) = (next.close joint).reads Phase.stepClosed := by
  unfold predicatesTurn at turned
  split at turned
  · rename_i failed
    cases turned
    exact reads_close_of_failed failed joint _ _
  · split at turned
    all_goals cases turned
    all_goals rename_i ahead
    · exact reads_of_ends ahead rfl rfl
    · exact reads_of_ends ahead rfl rfl
    · exact reads_of_ends ahead rfl rfl
    · exact reads_of_ends ahead rfl rfl
    · exact reads_of_ends ahead rfl rfl
    · exact reads_of_ends ahead rfl rfl
    · have refused : Phase.stepBehind joint parser.lookahead =
          .error [.sign .hash, .sign .dot, .sign .leftBracket] := by
        unfold Phase.stepBehind
        split <;> simp_all
      exact reads_of_refused refused (leads_close joint _) _

/-- A sign that begins a predicate, and the name behind it. -/
theorem reads_named {parser : LookaheadParser} {joint : Option Combinator} {sign : Sign}
    {production : String → LookaheadParser → LookaheadParser} (place : Place)
    (ahead : parser.lookahead = .sign sign)
    (begins : Phase.stepBehind joint (.sign sign) = .ok ⟨.keep, .within joint place⟩)
    (refuses : ∀ token, token.kind ≠ .identifier →
      Phase.stepWithin joint place token = .error [.identifier])
    (admits : ∀ name, ∀ next : LookaheadParser, next.lookahead = .identifier name →
      next.course (Phase.stepWithin joint place (.identifier name)) =
        (production name next.take).reads (Phase.stepBehind joint)) :
    parser.reads (Phase.stepBehind joint) =
      (parser.named production).reads (Phase.stepBehind joint) := by
  rw [reads, ahead, begins, course_take (ahead ▸ rfl)]
  exact reads_identifier refuses fun name => admits name parser.take

/-- The turn is followed by another one: it reads one predicate. -/
theorem reads_of_predicatesTurn_again {parser next : LookaheadParser}
    (turned : parser.predicatesTurn = .again next) (joint : Option Combinator) :
    parser.reads (Phase.stepBehind joint) = next.reads (Phase.stepBehind joint) := by
  unfold predicatesTurn at turned
  split at turned
  · cases turned
  · split at turned
    all_goals cases turned
    all_goals rename_i ahead
    · refine reads_named .idName ahead rfl ?_ fun name next named => ?_
      · intro token other
        cases token <;> first | rfl | exact absurd rfl other
      · exact course_take_build (named ▸ rfl) (.id name) (.within joint .behind)
    · refine reads_named .className ahead rfl ?_ fun name next named => ?_
      · intro token other
        cases token <;> first | rfl | exact absurd rfl other
      · exact course_take_build (named ▸ rfl) (.className name) (.within joint .behind)
    · refine reads_named .attributeName ahead rfl ?_ fun name next named => ?_
      · intro token other
        cases token <;> first | rfl | exact absurd rfl other
      · exact (course_take (named ▸ rfl) (.within joint (.attributeOperator name))).trans
          (reads_attributeOperator joint name _)

/-- The predicates of a compound are read behind its tag, and then it is closed. -/
theorem reads_predicates (joint : Option Combinator) (parser : LookaheadParser) :
    parser.reads (Phase.stepBehind joint) =
      ((predicates.run parser).close joint).reads Phase.stepClosed :=
  predicates.run_induction
    (motive := fun parser last =>
      parser.reads (Phase.stepBehind joint) = (last.close joint).reads Phase.stepClosed)
    (fun _ _ turned => reads_of_predicatesTurn_leave turned joint)
    (fun _ _ _ turned later => (reads_of_predicatesTurn_again turned joint).trans later) parser

theorem reads_tag (joint : Option Combinator) (parser : LookaheadParser) :
    parser.reads (Phase.stepFront joint) = parser.tag.reads (Phase.stepBehind joint) := by
  unfold tag
  split
  · rename_i name ahead
    rw [reads, ahead]
    exact course_take_build (ahead ▸ rfl) (.tag name) (.within joint .behind)
  · rename_i ahead
    rw [reads, ahead]
    exact course_take_build (ahead ▸ rfl) (.tag "*") (.within joint .behind)
  · rename_i notName notStar
    have same : Phase.stepFront joint parser.lookahead = Phase.stepBehind joint parser.lookahead := by
      unfold Phase.stepFront
      split <;> simp_all
    rw [reads, same]
    rfl

theorem reads_compound (joint : Option Combinator) (parser : LookaheadParser) :
    parser.reads (Phase.stepFront joint) =
      ((predicates.run parser.tag).close joint).reads Phase.stepClosed :=
  (reads_tag joint parser).trans (reads_predicates joint parser.tag)

/-! ## Chains -/

/-- A blank that is padding. -/
theorem reads_blank (phase : Phase) {joint : Option Combinator}
    (padded : ∀ token, phase.step token = Phase.stepPadded joint token)
    (parser : LookaheadParser) :
    parser.reads phase.step = parser.blank.reads (Phase.stepFront joint) := by
  unfold blank
  split
  · rename_i ahead
    rw [reads, padded, ahead]
    exact course_take (ahead ▸ rfl) (.within joint .front)
  · rename_i other
    have same : Phase.stepPadded joint parser.lookahead =
        Phase.stepFront joint parser.lookahead := by
      unfold Phase.stepPadded
      split
      · rename_i ahead
        exact absurd ahead other
      · rfl
    rw [reads, padded, same]
    rfl

/-- Tokens that do the same have the same course. -/
theorem reads_congr {parser : LookaheadParser} {first second : Token → Except (List Kind) Move}
    (same : first parser.lookahead = second parser.lookahead) :
    parser.reads first = parser.reads second :=
  congrArg parser.course same

/-- Behind a blank, a combinator may be read, and then the front of a compound. -/
theorem reads_combinator (parser : LookaheadParser) :
    parser.reads Phase.stepAfterBlank =
      parser.combinator.2.reads
        (Phase.stepFront (some (parser.combinator.1.getD .descendant))) := by
  unfold combinator
  split
  · rename_i mark ahead
    split
    · rename_i combinator is
      have moves : Phase.stepAfterBlank (.sign mark) =
          .ok ⟨.keep, .afterCombinator combinator⟩ := by
        cases mark <;> cases is <;> rfl
      rw [reads, ahead, moves, course_take (ahead ▸ rfl)]
      exact reads_blank (.afterCombinator combinator) (fun _ => rfl) _
    · rename_i other
      refine reads_congr ?_
      rw [ahead]
      cases mark <;> first | rfl | cases other
  · rename_i other
    refine reads_congr ?_
    cases ahead : parser.lookahead with
    | sign mark => exact absurd ahead (other mark)
    | _ => rfl

theorem reads_of_combinator_eq_some {parser next : LookaheadParser} {combinator : Combinator}
    (read : parser.combinator = (some combinator, next)) :
    parser.reads Phase.stepClosed = next.reads (Phase.stepFront (some combinator)) := by
  unfold LookaheadParser.combinator at read
  split at read
  · rename_i mark ahead
    split at read
    · rename_i is
      cases read
      have moves : Phase.stepClosed (.sign mark) = .ok ⟨.keep, .afterCombinator combinator⟩ := by
        cases mark <;> cases is <;> rfl
      rw [reads, ahead, moves, course_take (ahead ▸ rfl)]
      exact reads_blank (.afterCombinator combinator) (fun _ => rfl) _
    · cases read
  · cases read

theorem combinator?_eq_none_of_combinator {parser next : LookaheadParser}
    (read : parser.combinator = (none, next)) {mark : Sign}
    (ahead : parser.lookahead = .sign mark) : mark.combinator? = none := by
  cases is : mark.combinator? with
  | none => rfl
  | some combinator =>
      simp only [LookaheadParser.combinator, ahead, is] at read
      cases read

theorem reads_link (combinator : Combinator) (parser : LookaheadParser) :
    parser.reads (Phase.stepFront (some combinator)) =
      (parser.link combinator).reads Phase.stepClosed :=
  reads_compound (some combinator) parser

/-- The turn is the last one: the chain ends here, or there is an error. -/
theorem reads_of_linksTurn_leave {parser next : LookaheadParser}
    (turned : parser.linksTurn = .leave next) :
    parser.reads Phase.stepClosed = next.reads Phase.stepChained := by
  unfold linksTurn at turned
  split at turned
  · rename_i failed
    cases turned
    exact course_of_failed failed _ _
  · split at turned
    · cases turned
    · rename_i notBlank
      split at turned
      · cases turned
      · rename_i read
        have other : ∀ mark, parser.lookahead = .sign mark → mark.combinator? = none :=
          fun _ ahead => combinator?_eq_none_of_combinator read ahead
        split at turned
        · rename_i ends
          cases turned
          refine reads_congr ?_
          simp only [chainEnds, Bool.or_eq_true, decide_eq_true_eq] at ends
          rcases ends with comma | ended
          · rw [comma]
            rfl
          · rw [ended]
            rfl
        · rename_i goesOn
          cases turned
          refine reads_of_refused ?_ .refl _
          simp only [chainEnds, Bool.or_eq_true, decide_eq_true_eq, not_or] at goesOn
          unfold Phase.stepClosed
          split
          · rename_i ahead
            exact absurd ahead notBlank
          · rename_i ahead
            cases other _ ahead
          · rename_i ahead
            cases other _ ahead
          · rename_i ahead
            cases other _ ahead
          · rename_i ahead
            exact absurd ahead goesOn.1
          · rename_i ahead
            exact absurd ahead goesOn.2
          · rfl

/-- The turn is followed by another one: it links one compound. -/
theorem reads_of_linksTurn_again {parser next : LookaheadParser}
    (turned : parser.linksTurn = .again next) :
    parser.reads Phase.stepClosed = next.reads Phase.stepClosed := by
  unfold linksTurn at turned
  split at turned
  · cases turned
  · split at turned
    · rename_i ahead
      cases turned
      rw [reads, ahead]
      calc parser.course (Phase.stepClosed .blank)
          = parser.take.reads Phase.stepAfterBlank := course_take (ahead ▸ rfl) .afterBlank
        _ = _ := reads_combinator parser.take
        _ = _ := reads_link _ _
    · split at turned
      · rename_i read
        cases turned
        exact (reads_of_combinator_eq_some read).trans (reads_link _ _)
      · split at turned
        all_goals cases turned

theorem reads_links (parser : LookaheadParser) :
    parser.reads Phase.stepClosed = (links.run parser).reads Phase.stepChained :=
  links.run_induction
    (motive := fun parser last => parser.reads Phase.stepClosed = last.reads Phase.stepChained)
    (fun _ _ turned => reads_of_linksTurn_leave turned)
    (fun _ _ _ turned later => (reads_of_linksTurn_again turned).trans later) parser

theorem reads_chain (parser : LookaheadParser) :
    parser.reads (Phase.stepFront none) = parser.chain.reads Phase.stepChained :=
  (reads_compound none parser).trans (reads_links parser.compound)

/-! ## Selectors -/

/-- What a parser comes to behind the last chain. -/
def ends (parser : LookaheadParser) :
    List (Except LexicalError Token) × Except ParseError Selector :=
  ((parser.reduce .selector Construction.selector).now.calls,
    (parser.reduce .selector Construction.selector).result)

theorem course_eq_ends_of_failed {parser : LookaheadParser} (failed : parser.failed = true)
    (answer : Except (List Kind) Move) : parser.course answer = parser.ends := by
  obtain ⟨error, known⟩ := Option.isSome_iff_exists.mp failed
  rw [course_of_error known, ends, reduce_of_failed failed, result, known]

/-- The end of a text is the end of its selector. -/
theorem course_eq_ends {parser : LookaheadParser} (ahead : parser.lookahead = .endOfInput) :
    parser.course (.ok ⟨.keep, .ended⟩) = parser.ends := by
  cases failed : parser.failed with
  | true => exact course_eq_ends_of_failed failed _
  | false =>
      have unfailed := error_of_unfailed failed
      have last : parser.lookahead.isEnd = true := Token.isEnd_iff.mpr ahead
      simp only [course, unfailed, Edit.apply, last, if_true, Reading.finish, ends]
      cases gathered : parser.now.construction.selector with
      | error fault =>
          rw [reduce_of_error failed gathered]
          rfl
      | ok construction =>
          rw [reduce_of_ok failed gathered]
          simp only [result, turnTo, Moment.calling, unfailed]
          rfl

/-- The turn is the last one: the selector ends here, or there is an error. -/
theorem reads_of_alternativesTurn_leave {parser next : LookaheadParser}
    (turned : parser.alternativesTurn = .leave next) :
    parser.reads (Phase.stepFront none) = next.ends := by
  rw [reads_chain]
  unfold alternativesTurn at turned
  split at turned
  · rename_i failed
    cases turned
    exact course_eq_ends_of_failed failed _
  · split at turned
    · cases turned
    · rename_i ahead
      cases turned
      rw [reads, ahead]
      exact course_eq_ends ahead
    · rename_i notComma notEnd
      cases turned
      have refused : Phase.stepChained parser.chain.lookahead =
          .error [.sign .comma, .endOfInput] := by
        unfold Phase.stepChained
        split
        · rename_i ahead
          exact absurd ahead notComma
        · rename_i ahead
          exact absurd ahead notEnd
        · rfl
      rw [reads_of_refused refused .refl Phase.stepChained]
      exact course_eq_ends_of_failed (failed_unexpected _ _) _

/-- The turn is followed by another one: it reads one chain and a comma. -/
theorem reads_of_alternativesTurn_again {parser next : LookaheadParser}
    (turned : parser.alternativesTurn = .again next) :
    parser.reads (Phase.stepFront none) = next.reads (Phase.stepFront none) := by
  rw [reads_chain]
  unfold alternativesTurn at turned
  split at turned
  · cases turned
  · split at turned
    all_goals cases turned
    rename_i ahead
    rw [reads, ahead]
    exact (course_take (ahead ▸ rfl) .afterComma).trans
      (reads_blank .afterComma (fun _ => rfl) _)

theorem reads_alternatives (parser : LookaheadParser) :
    parser.reads (Phase.stepFront none) = (alternatives.run parser).ends :=
  alternatives.run_induction
    (motive := fun parser last => parser.reads (Phase.stepFront none) = last.ends)
    (fun _ _ turned => reads_of_alternativesTurn_leave turned)
    (fun _ _ _ turned later => (reads_of_alternativesTurn_again turned).trans later) parser

/-- **Recursive descent calls the scanner for the same tokens as the phases, and comes to the
same result.** -/
theorem course_ofString (text : String) :
    ((ofString text).now.calls, (ofString text).result) =
      ((Parser.ofString text).asked, parse text) := by
  have began : (start text).reads Phase.start.step =
      ((Parser.ofString text).asked, (Parser.ofString text).run) := by
    have kept : (start text).put Construction.empty = start text := (empty text).advances.put_eq
    rw [← kept]
    exact reads_put_of_advances (empty text).advances rfl Construction.empty Phase.start
  exact (reads_alternatives (start text)).symm.trans began

end LookaheadParser

end TreeSelector
