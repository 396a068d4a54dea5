import TreeSelector.Proofs.Query.Axes

/-!
# What a compound asks of an element

A predicate asks about the tag of an element or about the value of an attribute, and the value of
an attribute is that of its first occurrence (`ElementData.HasValue`). What it asks is said here in
terms of texts put together (`Predicate.HoldsOf`): a text begins with another one when it is that
text and something behind it, and a class list names a class when it is that class with other text
around it, each side cut off by a space (`Names`).

These are the conditions that the nodes of a document are tested for
(`Compound.holdsAt_iff_holdsOf`). An element satisfies a compound exactly when all of its
predicates hold of it, and no other node satisfies any.
-/

set_option autoImplicit false

namespace TreeSelector

/-! ## Attributes -/

/-- There is an attribute with the name, and the first one has the value. -/
def ElementData.HasValue (element : ElementData) (name value : String) : Prop :=
  ∃ before behind, element.attributes = before ++ ⟨name, value⟩ :: behind ∧
    ∀ entry ∈ before, entry.name ≠ name

theorem ElementData.attribute?_eq_some_iff {element : ElementData} {name value : String} :
    element.attribute? name = some value ↔ element.HasValue name value := by
  rw [attribute?, Option.map_eq_some_iff]
  constructor
  · rintro ⟨found, first, rfl⟩
    obtain ⟨named, before, behind, whole, other⟩ := List.find?_eq_some_iff_append.mp first
    obtain rfl : found.name = name := beq_iff_eq.mp named
    exact ⟨before, behind, whole, fun entry member => by simpa using other entry member⟩
  · rintro ⟨before, behind, whole, other⟩
    refine ⟨⟨name, value⟩, List.find?_eq_some_iff_append.mpr ?_, rfl⟩
    exact ⟨beq_self_eq_true name, before, behind, whole,
      fun entry member => by simpa using other entry member⟩

/-! ## Class lists -/

/-- The list names the class: the class has no space, and to both of its sides the list is at its
end or has a space. -/
def Names (list name : String) : Prop :=
  ∃ before behind, list = before ++ name ++ behind ∧ ' ' ∉ name.toList ∧
    (before = "" ∨ ∃ front, before = front ++ " ") ∧
    (behind = "" ∨ ∃ back, behind = " " ++ back)

/-- A part of a row that is split at the spaces has none, and to both of its sides the row is at
its end or has a space. -/
def PartOf (row part : List Char) : Prop :=
  ∃ before behind, row = before ++ part ++ behind ∧ ' ' ∉ part ∧
    (before = [] ∨ ∃ front, before = front ++ [' ']) ∧
    (behind = [] ∨ ∃ back, behind = ' ' :: back)

theorem PartOf.mem_splitOn {row part : List Char} (partOf : PartOf row part) :
    part ∈ row.splitOn ' ' := by
  obtain ⟨before, behind, rfl, solid, start, stop⟩ := partOf
  have split : part ∈ (part ++ behind).splitOn ' ' := by
    rcases stop with rfl | ⟨back, rfl⟩
    · rw [List.append_nil, List.splitOn_eq_singleton solid]
      exact List.mem_singleton_self part
    · rw [List.splitOn_append_cons_self_of_not_mem solid]
      exact List.mem_cons_self
  rcases start with rfl | ⟨front, rfl⟩
  · exact split
  · rw [List.append_assoc, List.append_assoc, List.singleton_append,
      List.splitOn_append_cons_self]
    exact List.mem_append_right _ split

/-- A part behind the first space of a row is a part of the row. -/
theorem PartOf.append_cons {row part : List Char} (partOf : PartOf row part)
    (first : List Char) : PartOf (first ++ ' ' :: row) part := by
  obtain ⟨before, behind, rfl, solid, start, stop⟩ := partOf
  refine ⟨first ++ ' ' :: before, behind, by simp, solid, .inr ?_, stop⟩
  rcases start with rfl | ⟨front, rfl⟩
  · exact ⟨first, rfl⟩
  · exact ⟨first ++ ' ' :: front, by simp⟩

theorem partOf_of_mem_splitOn {row part : List Char} (member : part ∈ row.splitOn ' ') :
    PartOf row part := by
  -- The induction cuts off what stands before the first space.
  induction length : row.length using Nat.strongRecOn generalizing row with
  | ind _ ih =>
      by_cases solid : ' ' ∈ row
      · obtain ⟨first, rest, rfl, firstSolid⟩ := List.eq_append_cons_of_mem solid
        rw [List.splitOn_append_cons_self_of_not_mem firstSolid] at member
        rcases List.mem_cons.mp member with rfl | later
        · exact ⟨[], ' ' :: rest, rfl, firstSolid, .inl rfl, .inr ⟨rest, rfl⟩⟩
        · have shorter : rest.length < (first ++ ' ' :: rest).length := by
            simp only [List.length_append, List.length_cons]
            omega
          exact (ih rest.length (length ▸ shorter) later rfl).append_cons first
      · rw [List.splitOn_eq_singleton solid] at member
        obtain rfl := List.mem_singleton.mp member
        exact ⟨[], [], by simp, solid, .inl rfl, .inl rfl⟩

/-- **The names of a class list are the classes that it names.** -/
theorem mem_classNames_iff {list name : String} :
    name ∈ ElementData.classNames list ↔ Names list name := by
  rw [ElementData.classNames, List.mem_map]
  constructor
  · rintro ⟨part, member, rfl⟩
    obtain ⟨before, behind, whole, solid, start, stop⟩ := partOf_of_mem_splitOn member
    refine ⟨.ofList before, .ofList behind, ?_, by rwa [String.toList_ofList], ?_, ?_⟩
    · rw [← String.ofList_append, ← String.ofList_append, ← whole, String.ofList_toList]
    · refine start.imp (congrArg String.ofList) ?_
      rintro ⟨front, rfl⟩
      exact ⟨.ofList front, String.ofList_append⟩
    · refine stop.imp (congrArg String.ofList) ?_
      rintro ⟨back, rfl⟩
      have split : String.ofList ([' '] ++ back) = " " ++ String.ofList back := String.ofList_append
      exact ⟨.ofList back, split⟩
  · rintro ⟨before, behind, rfl, solid, start, stop⟩
    refine ⟨name.toList, PartOf.mem_splitOn ?_, String.ofList_toList⟩
    refine ⟨before.toList, behind.toList, by simp, solid, ?_, ?_⟩
    · refine start.imp (congrArg String.toList) ?_
      rintro ⟨front, rfl⟩
      exact ⟨front.toList, by simp⟩
    · refine stop.imp (congrArg String.toList) ?_
      rintro ⟨back, rfl⟩
      exact ⟨back.toList, by simp⟩

/-! ## Predicates -/

/-- What a test asks of the value of an attribute. -/
def AttributeTest.Passes (test : AttributeTest) (actual expected : String) : Prop :=
  match test with
  | .present => True
  | .equals => actual = expected
  | .startsWith => ∃ behind, actual = expected ++ behind
  | .endsWith => ∃ before, actual = before ++ expected
  | .contains => ∃ before behind, actual = before ++ expected ++ behind

theorem AttributeTest.holds_iff_passes {test : AttributeTest} {actual expected : String} :
    test.holds actual expected = true ↔ test.Passes actual expected := by
  cases test with
  | present => exact iff_true_intro rfl
  | equals => exact beq_iff_eq
  | startsWith =>
      rw [holds, List.isPrefixOf_iff_prefix]
      constructor
      · rintro ⟨behind, whole⟩
        exact ⟨.ofList behind, by simp [String.ext_iff, whole]⟩
      · rintro ⟨behind, rfl⟩
        exact ⟨behind.toList, by simp⟩
  | endsWith =>
      rw [holds, List.isSuffixOf_iff_suffix]
      constructor
      · rintro ⟨before, whole⟩
        exact ⟨.ofList before, by simp [String.ext_iff, whole]⟩
      · rintro ⟨before, rfl⟩
        exact ⟨before.toList, by simp⟩
  | contains =>
      rw [holds, String.contains_string_iff]
      constructor
      · rintro ⟨before, behind, whole⟩
        exact ⟨.ofList before, .ofList behind, by simp [String.ext_iff, ← whole]⟩
      · rintro ⟨before, behind, rfl⟩
        exact ⟨before.toList, behind.toList, by simp⟩

/-- What a predicate asks of an element. -/
def Predicate.HoldsOf (element : ElementData) : Predicate → Prop
  | .tag name => name = "*" ∨ name = element.tag
  | .id name => element.HasValue "id" name
  | .className name => ∃ list, element.HasValue "class" list ∧ Names list name
  | .withAttribute predicate => ∃ actual, element.HasValue predicate.name actual ∧
      predicate.test.Passes actual predicate.expected

section

variable {document : Document} {id : NodeId} {element : ElementData}

/-- The attributes of an element node are those of its element. -/
theorem Document.attribute?_of_element? (found : document.element? id = some element)
    (name : String) : document.attribute? id name = element.attribute? name := by
  rw [attribute?, found]
  rfl

theorem Predicate.holdsAt_iff (found : document.element? id = some element)
    (predicate : Predicate) :
    predicate.holdsAt document id = true ↔ predicate.HoldsOf element := by
  cases predicate with
  | tag name =>
      rw [holdsAt, found, Option.map_some, Bool.or_eq_true, beq_iff_eq, beq_iff_eq,
        Option.some.injEq, eq_comm (a := element.tag)]
      rfl
  | id name =>
      rw [holdsAt, Document.attribute?_of_element? found, beq_iff_eq]
      exact ElementData.attribute?_eq_some_iff
  | className name =>
      rw [holdsAt, Document.attribute?_of_element? found, Option.any_map, Option.any_eq_true]
      simp only [List.contains_iff_mem, mem_classNames_iff,
        ElementData.attribute?_eq_some_iff]
      rfl
  | withAttribute predicate =>
      rw [holdsAt, Document.attribute?_of_element? found, Option.any_eq_true]
      simp only [AttributeTest.holds_iff_passes, ElementData.attribute?_eq_some_iff]
      rfl

/-- The classes of an element are the ones that its class list names. -/
theorem ElementData.mem_classes_iff {name : String} :
    name ∈ element.classes ↔ (Predicate.className name).HoldsOf element := by
  simp only [Predicate.HoldsOf, ← attribute?_eq_some_iff, ← mem_classNames_iff, classes]
  cases element.attribute? "class" <;> simp

end

/-- **An element satisfies a compound when all of its predicates hold of it.** A class is asked
for exactly when it is one of the classes of the element. A node that is no element satisfies no
compound. -/
theorem Compound.holdsAt_iff_holdsOf (document : Document) (id : NodeId) :
    (∀ element, document.element? id = some element →
      (∀ compound : Compound, compound.holdsAt document id = true ↔
        ∀ predicate ∈ compound.predicates, predicate.HoldsOf element) ∧
      ∀ name, (Predicate.className name).holdsAt document id = true ↔ name ∈ element.classes) ∧
    (document.isElement id = false →
      ∀ compound : Compound, compound.holdsAt document id = false) := by
  refine ⟨fun element found => ⟨fun compound => ?_, fun name => ?_⟩, fun other compound => ?_⟩
  · have isElement : document.isElement id = true := by rw [Document.isElement, found]; rfl
    rw [holdsAt, isElement, Bool.true_and, List.all_eq_true]
    exact forall₂_congr fun predicate _ => Predicate.holdsAt_iff found predicate
  · rw [Predicate.holdsAt_iff found, ElementData.mem_classes_iff]
  · rw [holdsAt, other, Bool.false_and]

/-- An element with two class lists, the first with an empty name between its spaces, and a text
below it. -/
theorem Compound.holdsAt_iff_holdsOf_of_spaced_class_list :
    ∃ document : Document,
      document.element? ⟨1⟩ = some ⟨"li", [⟨"class", "nav  on"⟩, ⟨"class", "off"⟩]⟩ ∧
      (⟨[.tag "*", .className "on", .withAttribute ⟨"class", .contains, "v  o"⟩]⟩ :
        Compound).holdsAt document ⟨1⟩ = true ∧
      (Predicate.className "").holdsAt document ⟨1⟩ = true ∧
      (Predicate.className "off").holdsAt document ⟨1⟩ ≠ true ∧
      document.isElement ⟨2⟩ = false ∧
      (⟨[.tag "*"]⟩ : Compound).holdsAt document ⟨2⟩ = false := by
  let element : ElementData := ⟨"li", [⟨"class", "nav  on"⟩, ⟨"class", "off"⟩]⟩
  let document : Document := ⟨#[.detached .document, .detached (.element element),
    .detached (.text "item")]⟩
  have value : element.HasValue "class" "nav  on" := ⟨[], _, rfl, nofun⟩
  obtain ⟨onElement, -⟩ := Compound.holdsAt_iff_holdsOf document ⟨1⟩
  obtain ⟨compounds, classes⟩ := onElement element rfl
  obtain ⟨-, onText⟩ := Compound.holdsAt_iff_holdsOf document ⟨2⟩
  refine ⟨document, rfl, (compounds _).mpr ?_, (classes "").mpr (by decide), ?_, rfl,
    onText rfl _⟩
  · simp only [List.forall_mem_cons, List.not_mem_nil, false_imp_iff, implies_true, and_true]
    refine ⟨.inl rfl, ⟨_, value, "nav  ", "", by decide, by decide, .inr ⟨"nav ", by decide⟩,
      .inl rfl⟩, ⟨_, value, "na", "n", by decide⟩⟩
  · exact fun listed => absurd ((classes "off").mp listed) (by decide)

end TreeSelector
