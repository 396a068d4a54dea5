import Mathlib.Data.List.Basic
import TreeSelector.Proofs.Reading.Agreement

/-!
# Recursive descent stops

Reading a text by recursive descent ends, for whoever takes a token has fewer of them before it.
How it ends is shown here (`parse_stops`). A text of `n` characters takes at most `n + 1` calls of
the scanner. All but the last of them come to a token before the end of the text, so that the end
token, or an error of the scanner, is the last thing that it is asked for. With the first error of
any kind nothing changes any more, and no turn of a loop goes on without a token.

What an action keeps is shown once (`Orderly.acts`). The call for the token ahead is the last one
as long as there is no error, and the calls that have been made, with the tokens that there may be
to be taken, are no more than a text of that length allows.
-/

set_option autoImplicit false

namespace TreeSelector

namespace LookaheadParser

/-- No moment with an error has been followed by another one. -/
def Settled (parser : LookaheadParser) : Prop :=
  ∀ moment ∈ parser.past, moment.error = none

theorem Settled.turnTo {parser : LookaheadParser} (settled : parser.Settled)
    (unfailed : parser.failed = false) (moment : Moment) : (parser.turnTo moment).Settled := by
  intro earlier member
  rcases List.mem_cons.mp member with rfl | before
  · exact error_of_unfailed unfailed
  · exact settled earlier before

/-- All calls but the last one have come to a token before the end of the text. -/
def Attentive (calls : List (Except LexicalError Token)) : Prop :=
  ∃ before last, calls = before ++ [last] ∧
    ∀ call ∈ before, ∃ token, call = .ok token ∧ token ≠ .endOfInput

/-- What holds of a parser on a text of the length, from the first token on. -/
structure Orderly (length : Nat) (parser : LookaheadParser) : Prop where
  settled : parser.Settled
  attentive : Attentive parser.now.calls
  /-- As long as there is no error, the last call is the one for the token ahead. -/
  ahead : parser.failed = false → parser.now.calls.getLast? = some (.ok parser.lookahead)
  bounded : parser.now.calls.length + parser.size ≤ length + 1

/-- Behind a token before the end of the text there may be another call. -/
theorem Attentive.concat {calls : List (Except LexicalError Token)} (attentive : Attentive calls)
    {token : Token} (last : calls.getLast? = some (.ok token)) (more : token ≠ .endOfInput)
    (call : Except LexicalError Token) : Attentive (calls ++ [call]) := by
  obtain ⟨before, final, rfl, goOn⟩ := attentive
  rw [List.getLast?_concat, Option.some.injEq] at last
  refine ⟨before ++ [final], call, rfl, fun other member => ?_⟩
  rcases List.mem_append.mp member with earlier | here
  · exact goOn other earlier
  · rw [List.mem_singleton] at here
    exact ⟨token, here.trans last, more⟩

/-! ## Actions -/

section

variable {length : Nat} {parser next : LookaheadParser}

/-- A call that may be made. -/
theorem orderly_of_advances (advances : parser.Advances next) (unfailed : parser.failed = false)
    (settled : parser.Settled)
    (attentive : ∀ call, Attentive (parser.now.calls ++ [call]))
    (bounded : parser.now.calls.length + 1 + next.size ≤ length + 1) : Orderly length next := by
  have asked : parser.ask.Settled := settled.turnTo unfailed _
  have counted : ∀ call : Except LexicalError Token,
      (parser.now.calls ++ [call]).length = parser.now.calls.length + 1 := by simp
  cases advances with
  | failed failed => simp [unfailed] at failed
  | @read token _ read =>
      have calls : parser.ask.now.calls = parser.now.calls ++ [.ok token] := by
        rw [← read]
        rfl
      refine ⟨asked, ?_, fun _ => ?_, ?_⟩
      · rw [calls]
        exact attentive _
      · rw [calls, List.getLast?_concat]
      · rw [calls, counted]
        exact bounded
  | @error error _ read =>
      have calls : parser.ask.now.calls = parser.now.calls ++ [.error error] := by
        rw [← read]
        rfl
      refine ⟨asked.turnTo unfailed _, ?_, nofun, ?_⟩
      · change Attentive parser.ask.now.calls
        rw [calls]
        exact attentive _
      · change parser.ask.now.calls.length + _ ≤ _
        rw [calls, counted]
        exact bounded

/-- **What an action keeps.** -/
theorem Orderly.acts (orderly : Orderly length parser) (acts : parser.Acts next) :
    Orderly length next := by
  cases acts with
  | change unfailed construction reductions error =>
      refine ⟨orderly.settled.turnTo unfailed _, orderly.attentive, fun _ => ?_, orderly.bounded⟩
      exact orderly.ahead unfailed
  | take more =>
      have less := size_take_lt more
      have bounded := orderly.bounded
      cases failed : parser.failed with
      | true =>
          -- There is no call, and the end token has come in the place of the token ahead.
          have same : parser.take = parser.clear := if_pos failed
          rw [same] at less ⊢
          refine ⟨orderly.settled, orderly.attentive, fun unfailed => ?_, ?_⟩
          · rw [show parser.clear.failed = parser.failed from rfl, failed] at unfailed
            cases unfailed
          · change parser.now.calls.length + _ ≤ _
            omega
      | false =>
          refine orderly_of_advances parser.clear.advances failed orderly.settled ?_ ?_
          · exact orderly.attentive.concat (orderly.ahead failed) more
          · change parser.now.calls.length + 1 + parser.take.size ≤ _
            omega

theorem Orderly.leads (orderly : Orderly length parser) (leads : parser.Leads next) :
    Orderly length next := by
  induction leads with
  | refl => exact orderly
  | tail _ acts ih => exact ih.acts acts

end

theorem orderly_start (text : String) : Orderly text.length (start text) := by
  have first := (empty text).advances
  refine orderly_of_advances first rfl (fun _ member => absurd member List.not_mem_nil) ?_ ?_
  · exact fun call => ⟨[], call, rfl, fun _ member => absurd member List.not_mem_nil⟩
  · have bound : (start text).size ≤ text.toList.length := first.size_le rfl
    rw [String.length_toList] at bound
    change 0 + 1 + (start text).size ≤ _
    omega

theorem orderly_ofString (text : String) : Orderly text.length (ofString text) :=
  (orderly_start text).leads (leads_selector _)

/-! ## Tokens that are taken -/

theorem Advances.taken_eq {parser next : LookaheadParser} (advances : parser.Advances next) :
    next.taken = parser.taken := by
  cases advances <;> rfl

/-- One parser has taken more tokens than the other, and none of them is the end token. -/
def TakesMore (parser next : LookaheadParser) (more : List Token) : Prop :=
  .endOfInput ∉ more ∧ next.taken = parser.taken ++ more

theorem TakesMore.trans {first second third : LookaheadParser} {more later : List Token}
    (takes : first.TakesMore second more) (goesOn : second.TakesMore third later) :
    first.TakesMore third (more ++ later) := by
  refine ⟨fun member => ?_, ?_⟩
  · rcases List.mem_append.mp member with here | there
    · exact takes.1 here
    · exact goesOn.1 there
  · rw [goesOn.2, takes.2, List.append_assoc]

theorem takesMore_take {parser : LookaheadParser} (more : parser.lookahead ≠ .endOfInput) :
    parser.TakesMore parser.take [parser.lookahead] :=
  ⟨fun member => more (List.mem_singleton.mp member).symm, parser.clear.advances.taken_eq⟩

theorem exists_takesMore_of_leads {parser next : LookaheadParser} (leads : parser.Leads next) :
    ∃ more, parser.TakesMore next more := by
  induction leads with
  | refl => exact ⟨[], List.not_mem_nil, (List.append_nil _).symm⟩
  | @tail middle last _ acts ih =>
      obtain ⟨more, takes⟩ := ih
      cases acts with
      | change => exact ⟨more, takes⟩
      | take ahead => exact ⟨_, takes.trans (takesMore_take ahead)⟩

/-- Whoever takes a token has taken more than before. -/
theorem Takes.exists_takesMore {parser next : LookaheadParser} (takes : parser.Takes next) :
    ∃ more, more ≠ [] ∧ parser.TakesMore next more := by
  obtain ⟨middle, first, ahead, later⟩ := takes
  obtain ⟨before, reaches⟩ := exists_takesMore_of_leads first
  obtain ⟨behind, goesOn⟩ := exists_takesMore_of_leads later
  refine ⟨_, ?_, (reaches.trans (takesMore_take ahead)).trans goesOn⟩
  simp

end LookaheadParser

/-! ## Texts -/

/-- **Reading a text stops, and changes nothing behind an error.** Recursive descent comes to the
result of the text by the calls of the scanner that the phases make. These are at most one more
than the text has characters, and all but the last of them have come to a token before the end of
the text. No moment with an error has been followed by another one. A loop that begins with an
error changes nothing, and no turn of it is followed by another one unless it takes tokens, none
of which is the end token. -/
theorem parse_stops (text : String) :
    let parser := LookaheadParser.ofString text
    parser.result = parse text ∧ parser.now.calls = (Parser.ofString text).asked ∧
      parser.now.calls.length ≤ text.length + 1 ∧
      (∃ before last, parser.now.calls = before ++ [last] ∧
        ∀ call ∈ before, ∃ token, call = .ok token ∧ token ≠ .endOfInput) ∧
      (∀ moment ∈ parser.past, moment.error = none) ∧
      ∀ loop ∈ [LookaheadParser.predicates, LookaheadParser.links, LookaheadParser.alternatives],
        (∀ parser, parser.failed = true → (loop.run parser).now = parser.now) ∧
          ∀ parser next, loop.turn parser = .again next →
            ∃ more, more ≠ [] ∧ .endOfInput ∉ more ∧ next.taken = parser.taken ++ more := by
  have agrees := LookaheadParser.course_ofString text
  have orderly := LookaheadParser.orderly_ofString text
  have bounded := orderly.bounded
  refine ⟨congrArg Prod.snd agrees, congrArg Prod.fst agrees, by omega, orderly.attentive,
    orderly.settled, fun loop _ => ⟨fun parser failed => ?_, fun parser next turned => ?_⟩⟩
  · exact LookaheadParser.now_eq_of_leads failed (loop.leads_run parser)
  · exact (loop.takes_of_again turned).exists_takesMore

/-- A name is missing behind the first character, and the scanner is never asked for the last one,
which begins no token. -/
theorem parse_stops_of_missing_name :
    let parser := LookaheadParser.ofString ".>!"
    parse ".>!" = .error (.unexpected [.identifier] (.sign .greater)) ∧
      (Parser.ofString ".>!").asked = [.ok (.sign .dot), .ok (.sign .greater)] ∧
      parser.now.calls.length ≤ 4 ∧
      (∃ before last, parser.now.calls = before ++ [last] ∧ .ok (.sign .dot) ∈ before ∧
        Token.sign .dot ≠ .endOfInput) ∧
      (∃ moment ∈ parser.past, moment.calls.length = 2 ∧ moment.error = none) ∧
      (parser.failed = true ∧ (LookaheadParser.links.run parser).now = parser.now) ∧
      ∃ next, LookaheadParser.predicates.turn (LookaheadParser.start ".>!") = .again next ∧
        ∃ more, more ≠ [] ∧ .endOfInput ∉ more ∧ next.taken = more := by
  obtain ⟨result, calls, few, ⟨before, last, whole, goOn⟩, settled, loops⟩ := parse_stops ".>!"
  have two : (LookaheadParser.ofString ".>!").now.calls =
      [.ok (.sign .dot), .ok (.sign .greater)] := by decide +kernel
  have dots : before = [.ok (.sign .dot)] := by
    have ends := congrArg List.dropLast (two.symm.trans whole)
    rw [List.dropLast_concat] at ends
    exact ends.symm
  have dot : .ok (.sign .dot) ∈ before := by rw [dots]; exact List.mem_singleton_self _
  obtain ⟨token, same, other⟩ := goOn _ dot
  cases same
  have begun : ∃ moment ∈ (LookaheadParser.ofString ".>!").past, moment.calls.length = 2 := by
    decide +kernel
  obtain ⟨moment, member, length⟩ := begun
  have failed : (LookaheadParser.ofString ".>!").failed = true := by decide +kernel
  have turned : LookaheadParser.predicates.turn (LookaheadParser.start ".>!") =
      .again ((LookaheadParser.start ".>!").named fun name next => next.build (.className name)) :=
    rfl
  refine ⟨result.symm.trans (by decide +kernel), calls.symm.trans two, few,
    ⟨before, last, whole, dot, other⟩, ⟨moment, member, length, settled moment member⟩,
    ⟨failed, ?_⟩, _, turned, ?_⟩
  · exact (loops LookaheadParser.links (by simp)).1 _ failed
  · exact (loops LookaheadParser.predicates (by simp)).2 _ _ turned

end TreeSelector
