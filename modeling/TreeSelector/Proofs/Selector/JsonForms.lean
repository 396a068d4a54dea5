import Mathlib.Data.List.Forall2
import Mathlib.Data.List.Nodup
import TreeSelector.Selector.Json

/-!
# Forms of a selector in JSON

A selector is written as JSON in one form. It may be read from more: a record may be the array
of its fields, or an object with unknown fields beside its own, and a variant without content may
be an object with null under the name (`Json.Record`, `Json.Named`). Each record and each
variant in a selector is free to take any of its forms, at every depth (`Selector.HasForm`).

All forms are read as the selector that they are forms of, and the form that is written is one of
them (`Selector.ofJson?_toJson_and_forms`). This is so for every selector, also for one that no
text is read as. The proof goes by the parts: a record gives its fields whatever form it has
(`Json.Record.fields?_eq`), a variant its name (`Json.Named.name?_eq`), and each part of a selector
is put together from what the forms of its parts are read as.
-/

set_option autoImplicit false

namespace TreeSelector

/-! ## Forms of records and variants -/

namespace Json

/-- The value is a form of the record with the fields: an object that has them, in any order, and
perhaps others with other names, or the array of their contents. -/
inductive Record (fields : List (String × Json)) : Json → Prop where
  | object {entries others : List (String × Json)} (same : entries.Perm (fields ++ others))
      (unknown : ∀ entry ∈ others, entry.1 ∉ fields.map Prod.fst) :
      Record fields (.object entries)
  | array : Record fields (.array (fields.map Prod.snd))

/-- The value is a form of the variant with the name and without content. -/
inductive Named (name : String) : Json → Prop where
  | bare : Named name (.string name)
  | empty : Named name (.object [(name, .null)])

theorem Named.name?_eq {name : String} {json : Json} (named : Named name json) :
    json.name? = some name := by
  cases named <;> rfl

/-- The object with nothing but the fields is a form of the record. -/
theorem Record.of_fields (fields : List (String × Json)) : Record fields (.object fields) :=
  @Record.object fields fields [] (by rw [List.append_nil])
    fun _ member => absurd member List.not_mem_nil

/-- Items that are read one by one are read together. -/
theorem mapM_eq_some_of_forall₂ {α β : Type} {read : α → Option β} {items : List α}
    {results : List β}
    (each : List.Forall₂ (fun item result => read item = some result) items results) :
    items.mapM read = some results := by
  induction each with
  | nil => rfl
  | cons first _ ih => rw [List.mapM_cons, first, ih]; rfl

/-- A field is found in an object that has no other field of this name. -/
theorem lookup_eq_some_of_mem {entries : List (String × Json)} {name : String} {value : Json}
    (member : (name, value) ∈ entries) (only : ∀ other, (name, other) ∈ entries → other = value) :
    entries.lookup name = some value := by
  induction entries with
  | nil => cases member
  | cons entry later ih =>
      obtain ⟨key, content⟩ := entry
      rw [List.lookup_cons]
      by_cases here : name = key
      · subst here
        rw [beq_self_eq_true, only content List.mem_cons_self]
      · rw [beq_false_of_ne here]
        refine ih ?_ fun other inLater => only other (List.mem_cons_of_mem _ inLater)
        rcases List.mem_cons.mp member with same | inLater
        · exact absurd (congrArg Prod.fst same) here
        · exact inLater

/-- **A record gives its fields, whatever form it has.** -/
theorem Record.fields?_eq {fields : List (String × Json)} {json : Json}
    (record : Record fields json) (nodup : (fields.map Prod.fst).Nodup) :
    json.fields? (fields.map Prod.fst) = some (fields.map Prod.snd) := by
  cases record with
  | array => simp [fields?]
  | @object entries others same unknown =>
      refine mapM_eq_some_of_forall₂ ?_
      rw [List.forall₂_map_left_iff, List.forall₂_map_right_iff, List.forall₂_same]
      rintro ⟨name, value⟩ member
      refine lookup_eq_some_of_mem (same.mem_iff.mpr (List.mem_append_left others member)) ?_
      intro other listed
      rcases List.mem_append.mp (same.mem_iff.mp listed) with known | added
      · exact congrArg Prod.snd (List.inj_on_of_nodup_map nodup known member rfl)
      · exact absurd (List.mem_map_of_mem member) (unknown (name, other) added)

end Json

/-! ## Forms of selectors -/

/-- The value is a form of an attribute test. -/
inductive AttributePredicate.HasForm (predicate : AttributePredicate) : Json → Prop where
  | record {test json : Json} (named : Json.Named predicate.test.name test)
      (record : Json.Record [("name", .string predicate.name), ("kind", test),
        ("value", .string predicate.expected)] json) : HasForm predicate json

/-- The value is a form of a predicate. -/
inductive Predicate.HasForm : Predicate → Json → Prop where
  | tag (name : String) : HasForm (.tag name) (.object [("Tag", .string name)])
  | id (name : String) : HasForm (.id name) (.object [("Id", .string name)])
  | className (name : String) : HasForm (.className name) (.object [("Class", .string name)])
  | withAttribute {predicate : AttributePredicate} {json : Json} (form : predicate.HasForm json) :
      HasForm (.withAttribute predicate) (.object [("Attr", json)])

/-- The value is a form of a compound. -/
inductive Compound.HasForm (compound : Compound) : Json → Prop where
  | record {items : List Json} {json : Json}
      (forms : List.Forall₂ Predicate.HasForm compound.predicates items)
      (record : Json.Record [("predicates", .array items)] json) : HasForm compound json

/-- The value is a form of a chain. -/
inductive Chain.HasForm : Chain → Json → Prop where
  | single {compound : Compound} {json : Json} (form : compound.HasForm json) :
      HasForm (.single compound) (.object [("Element", json)])
  | link {before : Chain} {combinator : Combinator} {last : Compound}
      {beforeJson combinatorJson lastJson json : Json} (front : HasForm before beforeJson)
      (named : Json.Named combinator.name combinatorJson) (form : last.HasForm lastJson)
      (record : Json.Record [("left", beforeJson), ("combinator", combinatorJson),
        ("right", lastJson)] json) :
      HasForm (.link before combinator last) (.object [("Exp", json)])

/-- The value is a form of a selector. -/
inductive Selector.HasForm (selector : Selector) : Json → Prop where
  | record {items : List Json} {json : Json}
      (forms : List.Forall₂ Chain.HasForm selector.alternatives items)
      (record : Json.Record [("alternatives", .array items)] json) : HasForm selector json

/-! ## The form that is written -/

theorem AttributePredicate.hasForm_toJson (predicate : AttributePredicate) :
    predicate.HasForm predicate.toJson :=
  .record .bare (.of_fields _)

theorem Predicate.hasForm_toJson (predicate : Predicate) : predicate.HasForm predicate.toJson := by
  cases predicate with
  | tag name => exact .tag name
  | id name => exact .id name
  | className name => exact .className name
  | withAttribute predicate => exact .withAttribute predicate.hasForm_toJson

theorem Compound.hasForm_toJson (compound : Compound) : compound.HasForm compound.toJson := by
  refine .record ?_ (.of_fields _)
  rw [List.forall₂_map_right_iff, List.forall₂_same]
  exact fun predicate _ => predicate.hasForm_toJson

theorem Chain.hasForm_toJson (chain : Chain) : chain.HasForm chain.toJson := by
  induction chain with
  | single compound => exact .single compound.hasForm_toJson
  | link before combinator last ih => exact .link ih .bare last.hasForm_toJson (.of_fields _)

/-- **What is written is a form of the selector.** -/
theorem Selector.hasForm_toJson (selector : Selector) : selector.HasForm selector.toJson := by
  refine .record ?_ (.of_fields _)
  rw [List.forall₂_map_right_iff, List.forall₂_same]
  exact fun chain _ => chain.hasForm_toJson

/-! ## What the forms are read as -/

theorem Combinator.ofName?_name (combinator : Combinator) :
    ofName? combinator.name = some combinator := by
  cases combinator <;> decide

theorem AttributeTest.ofName?_name (test : AttributeTest) : ofName? test.name = some test := by
  cases test <;> decide

theorem AttributePredicate.HasForm.ofJson?_eq {predicate : AttributePredicate} {json : Json}
    (form : predicate.HasForm json) : ofJson? json = some predicate := by
  obtain ⟨named, record⟩ := form
  have fields := record.fields?_eq (by simp)
  simp only [List.map_cons, List.map_nil] at fields
  rw [ofJson?, fieldNames, fields]
  simp [Json.text?, named.name?_eq, AttributeTest.ofName?_name]

theorem Predicate.HasForm.ofJson?_eq {predicate : Predicate} {json : Json}
    (form : predicate.HasForm json) : ofJson? json = some predicate := by
  cases form with
  | tag name => rfl
  | id name => rfl
  | className name => rfl
  | withAttribute form => exact congrArg (Option.map Predicate.withAttribute) form.ofJson?_eq

theorem Compound.HasForm.ofJson?_eq {compound : Compound} {json : Json}
    (form : compound.HasForm json) : ofJson? json = some compound := by
  obtain ⟨forms, record⟩ := form
  have fields := record.fields?_eq (by simp)
  have read := Json.mapM_eq_some_of_forall₂ (forms.flip.imp fun _ _ form => form.ofJson?_eq)
  simp only [List.map_cons, List.map_nil] at fields
  rw [ofJson?, fields]
  simp [Json.items?, read]

/-- A link is read from its fields. -/
theorem Chain.ofJson?_link {record before combinator last : Json}
    (fields : record.fields? fieldNames = some [before, combinator, last]) :
    ofJson? (.object [("Exp", record)]) = do
      let before ← ofJson? before
      let combinator ← combinator.name? >>= Combinator.ofName?
      let last ← Compound.ofJson? last
      return .link before combinator last := by
  rw [ofJson?]
  simp only [Json.variant?]
  split
  · rename_i found
    rw [fields] at found
    cases found
    rfl
  · rename_i others
    exact absurd fields (others before combinator last)

theorem Chain.HasForm.ofJson?_eq {chain : Chain} {json : Json} (form : chain.HasForm json) :
    ofJson? json = some chain := by
  induction form with
  | single form =>
      rw [ofJson?]
      exact congrArg (Option.map Chain.single) form.ofJson?_eq
  | link front named form record ih =>
      rw [ofJson?_link (record.fields?_eq (by simp)), ih, named.name?_eq, form.ofJson?_eq]
      simp [Combinator.ofName?_name]

theorem Selector.HasForm.ofJson?_eq {selector : Selector} {json : Json}
    (form : selector.HasForm json) : ofJson? json = some selector := by
  obtain ⟨forms, record⟩ := form
  have fields := record.fields?_eq (by simp)
  have read := Json.mapM_eq_some_of_forall₂ (forms.flip.imp fun _ _ form => form.ofJson?_eq)
  simp only [List.map_cons, List.map_nil] at fields
  rw [ofJson?, fields]
  simp [Json.items?, read]

/-- **Every form of a selector in JSON is read as this selector**, and what is written is one of its
forms. So a selector that is written and read again is the same, whatever its names and texts are
and however long its chains. -/
theorem Selector.ofJson?_toJson_and_forms (selector : Selector) :
    Selector.ofJson? selector.toJson = some selector ∧
    selector.HasForm selector.toJson ∧
    ∀ json, selector.HasForm json → Selector.ofJson? json = some selector :=
  ⟨selector.hasForm_toJson.ofJson?_eq, selector.hasForm_toJson, fun _ form => form.ofJson?_eq⟩

/-- The selector `a > [b=c]` with arrays for most records, an unknown field in front of the
predicates of the first compound, and null under the names of the combinator and of the test. -/
theorem Selector.ofJson?_toJson_and_forms_of_arrays :
    ∃ selector : Selector, ∃ json : Json,
      selector = ⟨[.link (.single ⟨[.tag "a"]⟩) .child ⟨[.withAttribute ⟨"b", .equals, "c"⟩]⟩]⟩ ∧
      json = .array [.array [.object [("Exp", .array [
        .object [("Element", .object [("note", .bool true),
          ("predicates", .array [.object [("Tag", .string "a")]])])],
        .object [("Child", .null)],
        .array [.array [.object [("Attr", .array [.string "b", .object [("Equals", .null)],
          .string "c"])]]]])]]] ∧
      selector.HasForm json ∧ Selector.ofJson? json = some selector := by
  have first : Compound.HasForm ⟨[.tag "a"]⟩ (.object [("note", .bool true),
      ("predicates", .array [.object [("Tag", .string "a")]])]) :=
    .record (.cons (.tag "a") .nil)
      (@Json.Record.object _ _ [("note", .bool true)] (.swap _ _ _) (by simp))
  have test : AttributePredicate.HasForm ⟨"b", .equals, "c"⟩
      (.array [.string "b", .object [("Equals", .null)], .string "c"]) := .record .empty .array
  have last : Compound.HasForm ⟨[.withAttribute ⟨"b", .equals, "c"⟩]⟩ _ :=
    .record (.cons (.withAttribute test) .nil) .array
  have named : Json.Named Combinator.child.name (.object [("Child", .null)]) := .empty
  have form : Selector.HasForm ⟨_⟩ _ :=
    .record (.cons (.link (.single first) named last .array) .nil) .array
  exact ⟨_, _, rfl, rfl, form, (Selector.ofJson?_toJson_and_forms _).2.2 _ form⟩

end TreeSelector
