import TreeSelector.Proofs.Document.Growth
import TreeSelector.Proofs.Query.Contribution
import TreeSelector.Proofs.Text.ByteOrder
import Mathlib.Data.List.DropRight

/-!
# What a registry of warnings holds

Warnings are given by a program itself and by its queries, and now and then all of them are
forgotten. Whatever a program does, it comes down to events of two kinds: a warning is submitted,
or the registry is cleared (`WarningLog.Call.events`). A query submits one warning for each
alternative that has no effect on its axis, in the order of the alternatives.

What has been submitted since the last clearing (`WarningLog.sinceClear`) decides on everything.
The registry remembers the lines of these warnings and no other (`mem_remembered_replay`), and a
warning is printed when its line is not among them (`printed_warnOnce`). The nodes that a query
finds do not depend on any of this: they are those of the alternatives that have an effect
(`WarningLog.run_session`).
-/

set_option autoImplicit false

namespace TreeSelector

/-! ## Alternatives with and without effect -/

/-- Whether a chain is a plain condition. -/
def Chain.isPlain : Chain → Bool
  | .single _ => true
  | .link _ _ _ => false

namespace Selector

/-- The selector less the alternatives that have no effect on an axis. On the axis `find` all
have one. -/
def heeded (selector : Selector) (axis : Axis) : Selector :=
  if axis = .find then selector else ⟨selector.alternatives.filter Chain.isPlain⟩

/-- The alternatives that have no effect on an axis. -/
def unheeded (selector : Selector) (axis : Axis) : List Chain :=
  if axis = .find then [] else selector.alternatives.filter (!·.isPlain)

theorem warnings_eq_map_unheeded (selector : Selector) (axis : Axis) :
    selector.warnings axis = (selector.unheeded axis).map (·.noEffectWarning axis) := by
  by_cases find : axis = .find
  · subst find
    rfl
  · have each (chain : Chain) : chain.warningOn axis =
        if chain.isPlain then [] else [chain.noEffectWarning axis] := by
      cases chain <;> rfl
    rw [warnings_eq_flatMap find, unheeded, if_neg find]
    induction selector.alternatives with
    | nil => rfl
    | cons chain later ih =>
        rw [List.flatMap_cons, each, ih]
        cases plain : chain.isPlain <;> simp [plain]

end Selector

/-- **A query heeds the alternatives that have an effect, and nothing else.** -/
theorem Document.related_heeded (document : Document) (starts : List NodeId)
    (selector : Selector) (axis : Axis) :
    document.related starts (selector.heeded axis) axis =
      document.related starts selector axis := by
  by_cases find : axis = .find
  · rw [Selector.heeded, if_pos find]
  · have nothing (chain : Chain) (link : chain.isPlain = false) :
        document.contribution starts axis chain = [] := by
      cases chain with
      | single compound => cases link
      | link before combinator last => exact contribution_link find before combinator last
    rw [Selector.heeded, if_neg find, related_eq_flatMap, related_eq_flatMap]
    induction selector.alternatives with
    | nil => rfl
    | cons chain later ih =>
        cases plain : chain.isPlain with
        | true => rw [List.filter_cons_of_pos plain, List.flatMap_cons, List.flatMap_cons, ih]
        | false =>
            rw [List.filter_cons_of_neg (by simp [plain]), List.flatMap_cons, nothing chain plain,
              List.nil_append, ih]

namespace WarningLog

/-! ## Events -/

/-- What can happen to a registry. -/
inductive Event where
  | submit (warning : Warning)
  | clear
  deriving DecidableEq, Repr

/-- The warning that is submitted, if one is. -/
def Event.warning? : Event → Option Warning
  | .submit warning => some warning
  | .clear => none

/-- What an event makes of a registry. -/
def after (log : WarningLog) : Event → WarningLog
  | .submit warning => log.warnOnce warning
  | .clear => log.clear

/-- The registry after events from its beginning. -/
def replay (events : List Event) : WarningLog :=
  events.foldl after empty

/-- The warnings submitted since the last clearing, the latest last. -/
def sinceClear (events : List Event) : List Warning :=
  (events.rtakeWhile (· ≠ .clear)).filterMap Event.warning?

theorem replay_concat (events : List Event) (event : Event) :
    replay (events ++ [event]) = (replay events).after event := by
  rw [replay, List.foldl_append]
  rfl

theorem sinceClear_submit (events : List Event) (warning : Warning) :
    sinceClear (events ++ [.submit warning]) = sinceClear events ++ [warning] := by
  rw [sinceClear, List.rtakeWhile_concat, if_pos (by simp), List.filterMap_append]
  rfl

theorem sinceClear_clear (events : List Event) : sinceClear (events ++ [.clear]) = [] := by
  rw [sinceClear, List.rtakeWhile_concat, if_neg (by decide)]
  rfl

/-! ## One warning -/

theorem mem_remembered_warnOnce {log : WarningLog} {warning : Warning} {line : String} :
    line ∈ (log.warnOnce warning).remembered ↔ line = warning.key ∨ line ∈ log.remembered := by
  rw [warnOnce]
  split
  · rename_i known
    rw [List.contains_iff_mem] at known
    refine ⟨.inr, ?_⟩
    rintro (rfl | member)
    · exact known
    · exact member
  · exact mem_insertLine

theorem pairwise_remembered_warnOnce {log : WarningLog}
    (ascending : log.remembered.Pairwise (· < ·)) (warning : Warning) :
    (log.warnOnce warning).remembered.Pairwise (· < ·) := by
  rw [warnOnce]
  split
  · exact ascending
  · exact insertLine_pairwise ascending

/-- A warning is printed when its line is new. -/
theorem printed_warnOnce (log : WarningLog) (warning : Warning) :
    (log.warnOnce warning).printed =
      log.printed ++ if warning.key ∈ log.remembered then [] else [warning] := by
  rw [warnOnce]
  by_cases known : warning.key ∈ log.remembered
  · rw [if_pos known, if_pos (List.contains_iff_mem.mpr known), List.append_nil]
  · rw [if_neg known, if_neg (mt List.contains_iff_mem.mp known)]

/-! ## All that has happened -/

/-- **The registry remembers what has been submitted since the last clearing.** -/
theorem mem_remembered_replay {events : List Event} {line : String} :
    line ∈ (replay events).remembered ↔ line ∈ (sinceClear events).map Warning.key := by
  induction events using List.reverseRecOn with
  | nil => exact Iff.rfl
  | append_singleton events event ih =>
      rw [replay_concat]
      cases event with
      | submit warning =>
          rw [after, mem_remembered_warnOnce, ih, sinceClear_submit, List.map_append,
            List.mem_append, or_comm, List.map_singleton, List.mem_singleton]
      | clear =>
          rw [sinceClear_clear]
          exact Iff.rfl

theorem pairwise_remembered_replay (events : List Event) :
    (replay events).remembered.Pairwise (· < ·) := by
  induction events using List.reverseRecOn with
  | nil => exact .nil
  | append_singleton events event ih =>
      rw [replay_concat]
      cases event with
      | submit warning => exact pairwise_remembered_warnOnce ih warning
      | clear => exact .nil

/-! ## What a program does -/

/-- The calls by which a program comes to its registry of warnings. -/
inductive Call where
  | warn (warning : Warning)
  | clear
  | relative (document : Document) (starts : List NodeId) (selector : Selector) (axis : Axis)

namespace Call

/-- Carries out a call, with the nodes that it finds. Only a query finds any. -/
def perform : Call → Warned (List NodeId)
  | .warn warning => do
      modify (·.warnOnce warning)
      return []
  | .clear => do
      modify WarningLog.clear
      return []
  | .relative document starts selector axis => document.relative starts selector axis

/-- What a call does to the registry. A query submits a warning for each alternative that has no
effect on its axis. -/
def events : Call → List Event
  | .warn warning => [.submit warning]
  | .clear => [.clear]
  | .relative _ _ selector axis =>
      (selector.unheeded axis).map fun chain => .submit (chain.noEffectWarning axis)

/-- The nodes that a call finds: those of the query under the alternatives that have an effect,
in a program that has done nothing before. -/
def found : Call → List NodeId
  | .warn _ => []
  | .clear => []
  | .relative document starts selector axis =>
      ((document.relative starts (selector.heeded axis) axis).run .empty).1

/-- Each call leaves its events in the registry, and finds what it finds by itself. -/
theorem run_perform (call : Call) (log : WarningLog) :
    call.perform.run log = (call.found, call.events.foldl after log) := by
  cases call with
  | warn warning => rfl
  | clear => rfl
  | relative document starts selector axis =>
      rw [perform, Document.run_relative, found, Document.run_relative, Document.related_heeded,
        events, Selector.warnings_eq_map_unheeded, warnAll, List.foldl_map, List.foldl_map]
      rfl

end Call

/-- Carries out calls one after the other, with the nodes that each of them finds. -/
def session (calls : List Call) : Warned (List (List NodeId)) :=
  calls.mapM Call.perform

/-- **A program leaves the events of its calls in the registry**, one after the other, and its
queries find what they find by themselves. -/
theorem run_session (calls : List Call) (log : WarningLog) :
    (session calls).run log =
      (calls.map Call.found, (calls.flatMap Call.events).foldl after log) := by
  induction calls generalizing log with
  | nil => rfl
  | cons call later ih =>
      have rest : (later.mapM Call.perform).run (call.events.foldl after log) =
          (later.map Call.found, (later.flatMap Call.events).foldl after
            (call.events.foldl after log)) := ih _
      rw [session, List.mapM_cons, StateT.run_bind, Call.run_perform, List.map_cons,
        List.flatMap_cons, List.foldl_append]
      show ((later.mapM Call.perform >>= fun found => pure (call.found :: found)).run _) = _
      rw [StateT.run_bind, rest]
      rfl

/-- **What a program can tell of its warnings is decided by what it has submitted since it has
cleared the registry.** After any calls the registry holds the lines of these warnings, each
once and in ascending order of their bytes, and a warning is printed when its line is not among
those before. What a query finds is decided by its alternatives that have an effect. -/
theorem session_registry (calls : List Call) :
    ((session calls).run empty).2 = replay (calls.flatMap Call.events) ∧
    ((replay (calls.flatMap Call.events)).remembered.Pairwise fun first second =>
      Text.bytes first < Text.bytes second) ∧
    (∀ line, line ∈ (replay (calls.flatMap Call.events)).remembered ↔
      line ∈ (sinceClear (calls.flatMap Call.events)).map Warning.key) ∧
    (∀ before warning, before ++ [.submit warning] <+: calls.flatMap Call.events →
      (replay (before ++ [.submit warning])).printed = (replay before).printed ++
        if warning.key ∈ (sinceClear before).map Warning.key then [] else [warning]) ∧
    (∀ before, before ++ [.clear] <+: calls.flatMap Call.events →
      (replay (before ++ [.clear])).printed = (replay before).printed) ∧
    ∀ log, ((session calls).run log).1 = calls.map Call.found := by
  refine ⟨?_, ?_, fun line => mem_remembered_replay, ?_, ?_, ?_⟩
  · rw [run_session]
    rfl
  · exact (pairwise_remembered_replay _).imp Text.bytes_lt_iff.mpr
  · intro before warning _
    rw [replay_concat, after, printed_warnOnce]
    simp only [mem_remembered_replay]
  · intro before _
    rw [replay_concat]
    rfl
  · intro log
    rw [run_session]

/-- A query with the same alternative twice submits the same warning twice, which is printed
once. After the registry has been cleared it is printed once more, and the query on the axis
`find` submits nothing. -/
theorem session_registry_of_repeated_alternative :
    ∃ calls : List Call, ∃ warning : Warning,
      calls.flatMap Call.events = [.submit warning, .submit warning, .clear, .submit warning] ∧
      (replay ([.submit warning] ++ [.submit warning])).printed = [warning] ∧
      (replay ([.submit warning, .submit warning] ++ [.clear])).printed = [warning] ∧
      ((session calls).run empty).2.remembered =
        ["[Selector] combinator alternative `a > b` has no effect on `child`"] ∧
      ((session calls).run empty).2.printed = [warning, warning] ∧
      ((session calls).run empty).1 = [[⟨1⟩], [], [], [⟨1⟩]] := by
  let document := Document.new.withLeaf Document.root (.element ⟨"a", []⟩)
  let chain : Chain := .link (.single ⟨[.tag "a"]⟩) .child ⟨[.tag "b"]⟩
  let plain : Chain := .single ⟨[.tag "a"]⟩
  let warning := chain.noEffectWarning .child
  let calls : List Call := [.relative document [Document.root] ⟨[chain, plain, chain]⟩ .child,
    .clear, .warn warning, .relative document [Document.root] ⟨[chain, plain]⟩ .find]
  obtain ⟨registry, -, -, prints, silent, found⟩ := session_registry calls
  have again := prints [.submit warning] warning ⟨[.clear, .submit warning], rfl⟩
  have cleared := silent [.submit warning, .submit warning] ⟨[.submit warning], rfl⟩
  refine ⟨calls, warning, rfl, ?_, ?_, ?_, ?_, (found empty).trans (by decide +kernel)⟩
  · rw [again]
    decide +kernel
  · rw [cleared]
    decide +kernel
  · rw [registry]
    decide +kernel
  · rw [registry]
    decide +kernel

end WarningLog

end TreeSelector
