import TreeSelector.Proofs.Selector.WellFormed
import TreeSelector.Query.Trace

/-!
# The trace of an evaluation

A traced evaluation of a chain lists what the plain one lists, leaves the depth as it was, and
writes one line for each chain that ends before a combinator and one for the whole
(`Document.run_evaluateTraced`). The depth is raised once for each combinator on the way in, and
the lines are written on the way out. So the lines begin with the first compound alone, deepest
of all, and each line is for a chain with one combinator more and one level less
(`Document.getElem?_report`). Since the depth is restored, the alternatives of a selector are
evaluated from the same depth, each as if it stood alone
(`Document.evaluateTraced_mirrors_evaluate`).
-/

set_option autoImplicit false

namespace TreeSelector

namespace Document

variable {document : Document} {starts : List NodeId}

/-- The line about a chain that is evaluated at a depth. -/
def reportLine (document : Document) (starts : List NodeId) (depth : Nat) (chain : Chain) :
    TraceLine :=
  ⟨depth, chain, starts.length, (document.evaluate starts chain).length⟩

/-- The lines about a chain that is evaluated at a depth, and about the chains before its
combinators. -/
def report (document : Document) (starts : List NodeId) (depth : Nat) : Chain → List TraceLine
  | .single compound => [document.reportLine starts depth (.single compound)]
  | .link before combinator last =>
      document.report starts (depth + 1) before ++
        [document.reportLine starts depth (.link before combinator last)]

theorem length_report (depth : Nat) (chain : Chain) :
    (document.report starts depth chain).length = chain.combinators.length + 1 := by
  induction chain generalizing depth with
  | single compound => rfl
  | link before combinator last ih => simp [report, Chain.combinators, ih]

/-- The last line is about the whole chain. -/
theorem getLast?_report (depth : Nat) (chain : Chain) :
    (document.report starts depth chain).getLast? =
      some (document.reportLine starts depth chain) := by
  cases chain with
  | single compound => rfl
  | link before combinator last => exact List.getLast?_concat

/-- **The line at an index is about the front of the chain with so many combinators**, and each
combinator that is left out is one level of depth. -/
theorem getElem?_report (depth : Nat) (chain : Chain) {count : Nat}
    (inside : count ≤ chain.combinators.length) :
    ∃ front : Chain, front.combinators = chain.combinators.take count ∧
      front.compounds = chain.compounds.take (count + 1) ∧
      (document.report starts depth chain)[count]? =
        some (document.reportLine starts (depth + chain.combinators.length - count) front) := by
  induction chain generalizing depth with
  | single compound =>
      obtain rfl : count = 0 := Nat.le_zero.mp inside
      exact ⟨.single compound, rfl, rfl, rfl⟩
  | link before combinator last ih =>
      have length : (Chain.link before combinator last).combinators.length =
          before.combinators.length + 1 := by simp [Chain.combinators]
      have compounds := before.length_compounds
      have lines := @length_report document starts (depth + 1) before
      rw [length] at inside ⊢
      rcases Nat.lt_or_eq_of_le inside with shorter | rfl
      · obtain ⟨front, combinators, rest, line⟩ := ih (depth + 1) (Nat.le_of_lt_succ shorter)
        refine ⟨front, ?_, ?_, ?_⟩
        · rw [combinators, Chain.combinators, List.take_append_of_le_length (by omega)]
        · rw [rest, Chain.compounds, List.take_append_of_le_length (by omega)]
        · rw [report, List.getElem?_append_left (by omega), line]
          congr 2
          omega
      · refine ⟨.link before combinator last, ?_, ?_, ?_⟩
        · rw [List.take_of_length_le (by omega)]
        · rw [List.take_of_length_le (by rw [Chain.length_compounds]; omega)]
        · rw [report, ← lines, List.getElem?_concat_length, lines, Nat.add_sub_cancel]

/-! ## Runs of the traced evaluation -/

theorem run_bind_of_run {α β : Type} {first : StateM Tracer α} {next : α → StateM Tracer β}
    {found : α} {tracer after : Tracer} (ran : first.run tracer = (found, after)) :
    (first >>= next).run tracer = (next found).run after := by
  rw [StateT.run_bind, ran]
  rfl

/-- A report ends at the depth at which it began, whatever depth the evaluation within ends at. -/
theorem run_reported {chain : Chain} {evaluation : StateM Tracer (List NodeId)}
    {results : List NodeId} {depth deeper : Nat} {lines written : List TraceLine}
    (within : evaluation.run ⟨depth + 1, lines⟩ = (results, ⟨deeper, written⟩)) :
    (reported starts chain evaluation).run ⟨depth, lines⟩ =
      (results, ⟨depth, written ++ [⟨depth, chain, starts.length, results.length⟩]⟩) := by
  have asked : (get : StateM Tracer Tracer).run ⟨depth, lines⟩ =
      (⟨depth, lines⟩, ⟨depth, lines⟩) := rfl
  have raised : (modify fun tracer => { tracer with depth := depth + 1 } :
      StateM Tracer Unit).run ⟨depth, lines⟩ = ((), ⟨depth + 1, lines⟩) := rfl
  rw [reported, run_bind_of_run asked, run_bind_of_run raised, run_bind_of_run within]
  rfl

/-- **A traced evaluation lists what the plain one lists, and writes its report behind the lines
that are there.** The depth varies in the induction, for the chain before a combinator is evaluated
one level deeper. -/
theorem run_evaluateTraced (chain : Chain) (tracer : Tracer) :
    (document.evaluateTraced starts chain).run tracer =
      (document.evaluate starts chain,
        ⟨tracer.depth, tracer.lines ++ document.report starts tracer.depth chain⟩) := by
  induction chain generalizing tracer with
  | single compound => exact run_reported rfl
  | link before combinator last ih =>
      have found := ih { tracer with depth := tracer.depth + 1 }
      have within : (document.evaluateTraced starts before >>= fun found =>
            pure (document.applyEach combinator.axis found last)).run
              ⟨tracer.depth + 1, tracer.lines⟩ =
          (document.evaluate starts (.link before combinator last),
            ⟨tracer.depth + 1, tracer.lines ++ document.report starts (tracer.depth + 1) before⟩) :=
        run_bind_of_run found
      rw [evaluateTraced, run_reported within, report, ← List.append_assoc]
      rfl

theorem run_mapM_evaluateTraced (chains : List Chain) (tracer : Tracer) :
    (chains.mapM (document.evaluateTraced starts)).run tracer =
      (chains.map (document.evaluate starts),
        ⟨tracer.depth, tracer.lines ++ chains.flatMap (document.report starts tracer.depth)⟩) := by
  induction chains generalizing tracer with
  | nil =>
      rw [List.flatMap_nil, List.append_nil]
      rfl
  | cons chain rest ih =>
      rw [List.mapM_cons, run_bind_of_run (run_evaluateTraced chain tracer),
        run_bind_of_run (ih _), List.append_assoc]
      rfl

/-- **The trace mirrors the evaluation.** From any depth, a chain with `n` combinators lists the
same nodes with and without a trace, ends at the depth at which it began, and writes `n + 1` lines.
The line at an index is about the front of the chain with so many combinators. It is indented by
one level less for each of them, and counts the starting nodes and the nodes that this front leads
to; so the last line counts the nodes listed. The alternatives of a selector follow one another at
the same depth, each with the lines that it writes by itself. -/
theorem evaluateTraced_mirrors_evaluate (document : Document) (starts : List NodeId) :
    (∀ (chain : Chain) (tracer : Tracer), ∃ lines : List TraceLine,
      (document.evaluateTraced starts chain).run tracer =
        (document.evaluate starts chain, ⟨tracer.depth, tracer.lines ++ lines⟩) ∧
      lines.length = chain.combinators.length + 1 ∧
      (∀ count, count ≤ chain.combinators.length → ∃ (front : Chain) (line : TraceLine),
        front.combinators = chain.combinators.take count ∧
        front.compounds = chain.compounds.take (count + 1) ∧
        lines[count]? = some line ∧
        line = ⟨tracer.depth + chain.combinators.length - count, front, starts.length,
          (document.evaluate starts front).length⟩ ∧
        line.render =
          "[MATCH] " ++ Text.spaces (2 * (tracer.depth + chain.combinators.length - count)) ++
            front.render ++ " in=" ++ toString starts.length ++
            " out=" ++ toString (document.evaluate starts front).length) ∧
      lines.getLast?.map TraceLine.results = some (document.evaluate starts chain).length) ∧
    ∀ (selector : Selector) (tracer : Tracer),
      (document.selectTraced starts selector).run tracer =
        (document.select starts selector, ⟨tracer.depth, tracer.lines ++
          selector.alternatives.flatMap fun chain =>
            ((document.evaluateTraced starts chain).run ⟨tracer.depth, []⟩).2.lines⟩) := by
  refine ⟨fun chain tracer => ?_, fun selector tracer => ?_⟩
  · refine ⟨document.report starts tracer.depth chain, run_evaluateTraced chain tracer,
      length_report tracer.depth chain, fun count inside => ?_, ?_⟩
    · obtain ⟨front, combinators, compounds, found⟩ :=
        @getElem?_report document starts tracer.depth chain count inside
      exact ⟨front, _, combinators, compounds, found, rfl, rfl⟩
    · rw [getLast?_report]
      rfl
  · have alone : ∀ chain : Chain,
        ((document.evaluateTraced starts chain).run ⟨tracer.depth, []⟩).2.lines =
          document.report starts tracer.depth chain := by
      intro chain
      rw [run_evaluateTraced, List.nil_append]
    simp only [alone]
    rw [selectTraced, run_bind_of_run (run_mapM_evaluateTraced selector.alternatives tracer),
      select, List.flatMap_def]
    rfl

/-- Three levels deep within other evaluations, the chain `a > b c` leads to one node, and the
second of its lines is about `a > b`. -/
theorem evaluateTraced_mirrors_evaluate_of_two_combinators :
    ∃ (document : Document) (chain : Chain) (lines : List TraceLine) (line : TraceLine),
      (do (← (← new.appendElement root ⟨"a", []⟩).appendElement ⟨1⟩ ⟨"b", []⟩).appendElement
            ⟨2⟩ ⟨"c", []⟩) = .ok document ∧
      chain = .link (.link (.single ⟨[.tag "a"]⟩) .child ⟨[.tag "b"]⟩) .descendant ⟨[.tag "c"]⟩ ∧
      (document.evaluateTraced [root] chain).run ⟨3, []⟩ = ([⟨3⟩], ⟨3, lines⟩) ∧
      lines.length = 3 ∧ 1 ≤ chain.combinators.length ∧ lines[1]? = some line ∧
      line.chain = .link (.single ⟨[.tag "a"]⟩) .child ⟨[.tag "b"]⟩ ∧
      line.render = "[MATCH]         a > b in=1 out=1" := by
  let front : Chain := .link (.single ⟨[.tag "a"]⟩) .child ⟨[.tag "b"]⟩
  let chain : Chain := .link front .descendant ⟨[.tag "c"]⟩
  obtain ⟨document, built⟩ : ∃ document,
      (do (← (← new.appendElement root ⟨"a", []⟩).appendElement ⟨1⟩ ⟨"b", []⟩).appendElement
            ⟨2⟩ ⟨"c", []⟩) = Except.ok document := ⟨_, rfl⟩
  cases built
  obtain ⟨lines, ran, length, line_at, -⟩ :=
    (evaluateTraced_mirrors_evaluate _ [root]).1 chain ⟨3, []⟩
  obtain ⟨other, line, combinators, compounds, found, line_eq, text⟩ := line_at 1 (by decide)
  obtain rfl : other = front := Chain.eq_of_parts combinators compounds
  refine ⟨_, chain, lines, line, rfl, rfl, ran.trans rfl, length, by decide, found, ?_, ?_⟩
  · rw [line_eq]
  · exact text.trans (by decide)

end Document

end TreeSelector
