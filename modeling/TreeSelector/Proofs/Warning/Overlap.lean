import TreeSelector.Proofs.Warning.Registry
import Mathlib.Data.Finset.Card

/-!
# Different warnings under one line

A registry knows a warning by its line, which has the component and the message side by side.
The line does not tell where the one ends and the other begins. If the component of a second
warning goes on behind that of a first, along the message of the first, both have the same line
(`Warning.key_eq_iff`). So the second of them is taken for the first one given again, and it is
not printed (`WarningLog.exists_overlaps_and_not_printed`).

This is the only way in which two warnings are mistaken for each other. A registry that is never
cleared prints each warning once, and remembers as many lines as there are different warnings,
exactly when no two of them overlap (`WarningLog.oncePerWarning_iff_apart`). Two warnings of one
component never do, and the queries warn under a single one.
-/

set_option autoImplicit false

namespace TreeSelector

namespace Warning

/-- The component of the second warning goes on behind that of the first, along the message of
the first. -/
def Overlaps (first second : Warning) : Prop :=
  ∃ between, second.component = first.component ++ "] " ++ between ∧
    first.message = between ++ "] " ++ second.message

/-- No two of the warnings overlap. -/
def Apart (warnings : List Warning) : Prop :=
  ∀ first ∈ warnings, ∀ second ∈ warnings, ¬ first.Overlaps second

theorem Overlaps.key_eq {first second : Warning} (overlaps : first.Overlaps second) :
    first.key = second.key := by
  obtain ⟨between, component, message⟩ := overlaps
  rw [key, key, component, message]
  simp only [String.append_assoc]

theorem Overlaps.component_ne {first second : Warning} (overlaps : first.Overlaps second) :
    first.component ≠ second.component := by
  obtain ⟨between, component, -⟩ := overlaps
  intro same
  have lengths := congrArg String.length (same.trans component)
  rw [String.length_append, String.length_append] at lengths
  have separator : "] ".length = 2 := rfl
  omega

/-- Of two equal lines, one has its separator first. From there on the other one is in its
component still, and ends it by a separator of its own. -/
theorem eq_or_overlaps_of_append {first second : Warning} {ahead : List Char}
    (component : second.component.toList = first.component.toList ++ ahead)
    (rest : "] ".toList ++ first.message.toList = ahead ++ ("] ".toList ++ second.message.toList)) :
    first = second ∨ first.Overlaps second := by
  match ahead with
  | [] =>
      left
      have sameComponent : first.component = second.component := by
        rw [← String.toList_inj, component, List.append_nil]
      have sameMessage : first.message = second.message := by
        rw [← String.toList_inj]
        exact List.append_cancel_left rest
      obtain ⟨firstComponent, firstMessage⟩ := first
      cases sameComponent
      cases sameMessage
      rfl
  | [character] =>
      have characters := congrArg (·[1]?) rest
      cases characters
  | character :: space :: between =>
      right
      have lines : "] ".toList ++ first.message.toList =
          [character, space] ++ (between ++ ("] ".toList ++ second.message.toList)) := rest
      obtain ⟨separator, message⟩ := List.append_inj lines rfl
      refine ⟨String.ofList between, ?_, ?_⟩
      · rw [← String.toList_inj, component, String.toList_append, String.toList_append, separator,
          String.toList_ofList]
        simp
      · rw [← String.toList_inj, message]
        simp only [String.toList_append, String.toList_ofList, List.append_assoc]

/-- **Different warnings have the same line exactly when one overlaps the other.** -/
theorem key_eq_iff {first second : Warning} :
    first.key = second.key ↔
      first = second ∨ first.Overlaps second ∨ second.Overlaps first := by
  constructor
  · intro same
    have lines := congrArg String.toList same
    simp only [key, String.toList_append, List.append_assoc, List.append_cancel_left_eq] at lines
    rcases List.append_eq_append_iff.mp lines with ⟨ahead, component, rest⟩ | ⟨ahead, component, rest⟩
    · rcases eq_or_overlaps_of_append component rest with equal | overlaps
      · exact .inl equal
      · exact .inr (.inl overlaps)
    · rcases eq_or_overlaps_of_append component rest with equal | overlaps
      · exact .inl equal.symm
      · exact .inr (.inr overlaps)
  · rintro (rfl | overlaps | overlaps)
    · rfl
    · exact overlaps.key_eq
    · exact overlaps.key_eq.symm

theorem apart_iff_injOn {warnings : List Warning} :
    Apart warnings ↔ ∀ first ∈ warnings, ∀ second ∈ warnings, first.key = second.key →
      first = second := by
  constructor
  · intro apart first isFirst second isSecond same
    rcases key_eq_iff.mp same with equal | overlaps | overlaps
    · exact equal
    · exact absurd overlaps (apart first isFirst second isSecond)
    · exact absurd overlaps (apart second isSecond first isFirst)
  · intro injective first isFirst second isSecond overlaps
    have equal := injective first isFirst second isSecond overlaps.key_eq
    exact overlaps.component_ne (congrArg component equal)

end Warning

namespace WarningLog

open Warning

/-! ## A registry that is never cleared -/

theorem warnAll_eq_replay (warnings : List Warning) :
    warnAll empty warnings = replay (warnings.map .submit) := by
  rw [warnAll, replay, List.foldl_map]
  rfl

theorem sinceClear_map_submit (warnings : List Warning) :
    sinceClear (warnings.map .submit) = warnings := by
  induction warnings using List.reverseRecOn with
  | nil => rfl
  | append_singleton warnings warning ih =>
      rw [List.map_append, List.map_singleton, sinceClear_submit, ih]

theorem mem_remembered_warnAll {warnings : List Warning} {line : String} :
    line ∈ (warnAll empty warnings).remembered ↔ line ∈ warnings.map key := by
  rw [warnAll_eq_replay, mem_remembered_replay, sinceClear_map_submit]

theorem printed_warnAll_concat (before : List Warning) (warning : Warning) :
    (warnAll empty (before ++ [warning])).printed = (warnAll empty before).printed ++
      if warning.key ∈ before.map key then [] else [warning] := by
  have step : warnAll empty (before ++ [warning]) = (warnAll empty before).warnOnce warning :=
    List.foldl_append
  rw [step, printed_warnOnce]
  simp only [mem_remembered_warnAll]

theorem length_remembered_warnAll (warnings : List Warning) :
    (warnAll empty warnings).remembered.length = (warnings.toFinset.image key).card := by
  have nodup : (warnAll empty warnings).remembered.Nodup := by
    rw [warnAll_eq_replay]
    exact (pairwise_remembered_replay _).imp String.ne_of_lt
  have same : (warnAll empty warnings).remembered.toFinset = warnings.toFinset.image key := by
    ext line
    rw [List.mem_toFinset, mem_remembered_warnAll, Finset.mem_image, List.mem_map]
    simp only [List.mem_toFinset]
  rw [← same, List.toFinset_card_of_nodup nodup]

/-- Each warning is printed when it comes for the first time, and not again. -/
def OncePerWarning (warnings : List Warning) : Prop :=
  ∀ before warning, before ++ [warning] <+: warnings →
    (warnAll empty (before ++ [warning])).printed =
      (warnAll empty before).printed ++ if warning ∈ before then [] else [warning]

/-- One warning more is printed as it should when it is not mistaken for another. -/
theorem oncePerWarning_concat_iff {warnings : List Warning} {warning : Warning} :
    OncePerWarning (warnings ++ [warning]) ↔
      OncePerWarning warnings ∧ (warning.key ∈ warnings.map key → warning ∈ warnings) := by
  have last : (warnAll empty (warnings ++ [warning])).printed =
      (warnAll empty warnings).printed ++ (if warning ∈ warnings then [] else [warning]) ↔
        (warning.key ∈ warnings.map key → warning ∈ warnings) := by
    rw [printed_warnAll_concat, List.append_cancel_left_eq]
    by_cases known : warning ∈ warnings
    · simp [known, List.mem_map_of_mem known]
    · by_cases mistaken : warning.key ∈ warnings.map key
      · simp [known, mistaken]
      · simp [known, mistaken]
  rw [← last]
  constructor
  · intro once
    refine ⟨fun before other early => once before other ?_, once warnings warning (List.prefix_refl _)⟩
    exact early.trans (List.prefix_append _ _)
  · rintro ⟨once, printed⟩ before other early
    rcases List.prefix_concat_iff.mp early with whole | earlier
    · obtain ⟨rfl, same⟩ := List.append_inj' whole rfl
      cases same
      exact printed
    · exact once before other earlier

theorem oncePerWarning_iff_injOn {warnings : List Warning} :
    OncePerWarning warnings ↔ ∀ first ∈ warnings, ∀ second ∈ warnings,
      first.key = second.key → first = second := by
  induction warnings using List.reverseRecOn with
  | nil =>
      refine ⟨fun _ first member => absurd member List.not_mem_nil, fun _ before other early => ?_⟩
      exact absurd (List.prefix_nil.mp early) (by simp)
  | append_singleton warnings warning ih =>
      rw [oncePerWarning_concat_iff, ih]
      constructor
      · rintro ⟨injective, fresh⟩
        have mistaken {other : Warning} (member : other ∈ warnings)
            (same : other.key = warning.key) : other = warning :=
          injective other member warning (fresh (same ▸ List.mem_map_of_mem member)) same
        simp only [List.mem_append, List.mem_singleton]
        rintro first (isFirst | rfl) second (isSecond | rfl) same
        · exact injective first isFirst second isSecond same
        · exact mistaken isFirst same
        · exact (mistaken isSecond same.symm).symm
        · rfl
      · intro injective
        refine ⟨fun first isFirst second isSecond => ?_, fun known => ?_⟩
        · exact injective first (List.mem_append_left _ isFirst) second
            (List.mem_append_left _ isSecond)
        · obtain ⟨other, member, same⟩ := List.mem_map.mp known
          have equal := injective other (List.mem_append_left _ member) warning
            List.mem_concat_self same
          rwa [← equal]

/-- **Each warning is printed once and remembered by a line of its own exactly when no two of
them overlap.** A warning is printed when no warning before has its line, which is that of the
same warning and of those that overlap it. Warnings of one component do not overlap. -/
theorem oncePerWarning_iff_apart (warnings : List Warning) :
    (OncePerWarning warnings ↔ Apart warnings) ∧
    ((warnAll empty warnings).remembered.length = warnings.toFinset.card ↔ Apart warnings) ∧
    (∀ warning, (warnAll empty (warnings ++ [warning])).printed =
      (warnAll empty warnings).printed ++
        if warning.key ∈ warnings.map key then [] else [warning]) ∧
    (∀ first second : Warning, first.key = second.key ↔
      first = second ∨ first.Overlaps second ∨ second.Overlaps first) ∧
    ((∀ first ∈ warnings, ∀ second ∈ warnings, first.component = second.component) →
      Apart warnings) := by
  refine ⟨?_, ?_, printed_warnAll_concat warnings, fun first second => key_eq_iff, ?_⟩
  · rw [oncePerWarning_iff_injOn, apart_iff_injOn]
  · rw [length_remembered_warnAll, Finset.card_image_iff, apart_iff_injOn]
    simp only [Set.InjOn, Finset.mem_coe, List.mem_toFinset]
  · intro same first isFirst second isSecond overlaps
    exact overlaps.component_ne (same first isFirst second isSecond)

/-- The message of the first warning looks like the end of a component and a message. Under one
component this misleads nobody. -/
theorem oncePerWarning_iff_apart_of_one_component :
    ∃ warnings : List Warning,
      warnings = [⟨"Selector", "a] b"⟩, ⟨"Selector", "b"⟩, ⟨"Selector", "a] b"⟩] ∧
      (∀ first ∈ warnings, ∀ second ∈ warnings, first.component = second.component) ∧
      Apart warnings ∧ OncePerWarning warnings ∧
      (warnAll empty warnings).remembered.length = 2 := by
  let warnings : List Warning := [⟨"Selector", "a] b"⟩, ⟨"Selector", "b"⟩, ⟨"Selector", "a] b"⟩]
  obtain ⟨once, count, -, -, apart⟩ := oncePerWarning_iff_apart warnings
  have same : ∀ first ∈ warnings, ∀ second ∈ warnings, first.component = second.component := by
    decide
  exact ⟨warnings, rfl, same, apart same, once.mpr (apart same), count.mpr (apart same)⟩

/-- A warning of the component `a] b` overlaps one of the component `a`. It is not printed, and
the two are remembered by one line. -/
theorem exists_overlaps_and_not_printed :
    ∃ first second : Warning, first.component = "a" ∧ second.component = "a] b" ∧
      first ≠ second ∧ first.Overlaps second ∧ ¬ OncePerWarning [first, second] ∧
      warnAll empty [first, second] = warnAll empty [first] ∧
      (warnAll empty [first, second]).remembered = ["[a] b] c"] ∧
      [first, second].toFinset.card = 2 := by
  let first : Warning := ⟨"a", "b] c"⟩
  let second : Warning := ⟨"a] b", "c"⟩
  have different : first ≠ second := by decide
  refine ⟨first, second, rfl, rfl, different, ⟨"b", rfl, rfl⟩, ?_, by decide, by decide, by decide⟩
  intro once
  have printed := once [first] second (List.prefix_refl _)
  rw [if_neg (by simpa using different.symm)] at printed
  exact absurd printed (by decide)

end WarningLog

end TreeSelector
