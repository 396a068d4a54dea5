import TreeSelector.Text.Quoted
import TreeSelector.Text.Padded

/-!
# JSON values

A value of the JSON data model, with the fields of an object in their order,
the shapes in which records and variants are read from it, and its printed form.

A record is an object with its fields by name, or an array of exactly its fields
in order (`Json.fields?`). A variant with a content is an object with the name
of the variant as its only field (`Json.variant?`). A variant without one is the
name alone, or an object with null as content (`Json.name?`).

The printed form (`Json.pretty`) goes over several lines: two spaces for each
level, a field or an item on each line, and an empty list or object on the line
where it begins. Of the characters of a string only the double quote, the
backslash and the control characters are escaped.
-/

set_option autoImplicit false

namespace TreeSelector

/-- A JSON value. A number is kept as the numeral that it was written as. -/
inductive Json where
  | null
  | bool (value : Bool)
  | number (numeral : String)
  | string (text : String)
  | array (items : List Json)
  | object (fields : List (String × Json))
  deriving Inhabited

namespace Json

/-! ## Shapes -/

/-- The text of a string. -/
def text? : Json → Option String
  | .string text => some text
  | _ => none

/-- The items of an array. -/
def items? : Json → Option (List Json)
  | .array items => some items
  | _ => none

/-- The fields of a record, in the order of the names given. An object may hold
others besides; an array must hold as many items as there are names. -/
def fields? (names : List String) : Json → Option (List Json)
  | .object fields => names.mapM (List.lookup · fields)
  | .array items => if items.length = names.length then some items else none
  | _ => none

/-- The name and the content of a variant. -/
def variant? : Json → Option (String × Json)
  | .object [(name, content)] => some (name, content)
  | _ => none

/-- The name of a variant without content. -/
def name? : Json → Option String
  | .string name => some name
  | .object [(name, .null)] => some name
  | _ => none

theorem sizeOf_lt_of_lookup {name : String} {fields : List (String × Json)} {value : Json}
    (found : List.lookup name fields = some value) : sizeOf value < sizeOf fields := by
  induction fields with
  | nil => simp at found
  | cons field later ih =>
      obtain ⟨other, content⟩ := field
      rw [List.lookup_cons] at found
      simp only [List.cons.sizeOf_spec, Prod.mk.sizeOf_spec]
      split at found
      · cases found
        omega
      · have := ih found
        omega

/-- The fields of a record are smaller than the record. -/
theorem sizeOf_lt_of_mem_fields? {names : List String} {record : Json} {values : List Json}
    (read : record.fields? names = some values) {value : Json} (member : value ∈ values) :
    sizeOf value < sizeOf record := by
  cases record with
  | object fields =>
      obtain ⟨name, _, found⟩ : ∃ name ∈ names, List.lookup name fields = some value := by
        simp only [fields?] at read
        induction names generalizing values with
        | nil =>
            simp only [List.mapM_nil, Option.pure_def, Option.some.injEq] at read
            simp [← read] at member
        | cons first later ih =>
            simp only [List.mapM_cons, Option.bind_eq_bind, Option.bind_eq_some_iff,
              Option.pure_def, Option.some.injEq] at read
            obtain ⟨head, headFound, tail, tailFound, rfl⟩ := read
            rcases List.mem_cons.mp member with rfl | inTail
            · exact ⟨first, by simp, headFound⟩
            · obtain ⟨name, inLater, found⟩ := ih inTail tailFound
              exact ⟨name, by simp [inLater], found⟩
      have := sizeOf_lt_of_lookup found
      simp only [Json.object.sizeOf_spec]
      omega
  | array items =>
      simp only [fields?] at read
      split at read
      · cases read
        have := List.sizeOf_lt_of_mem member
        simp only [Json.array.sizeOf_spec]
        omega
      · cases read
  | _ => simp [fields?] at read

/-- The content of a variant is smaller than the variant. -/
theorem sizeOf_lt_of_variant? {value content : Json} {name : String}
    (read : value.variant? = some (name, content)) : sizeOf content < sizeOf value := by
  unfold variant? at read
  split at read
  · cases read
    simp only [Json.object.sizeOf_spec, List.cons.sizeOf_spec, Prod.mk.sizeOf_spec]
    omega
  · cases read

/-! ## The printed form -/

/-- A character as it stands in a JSON string. -/
def escaped (c : Char) : String :=
  if c = '"' then "\\\""
  else if c = '\\' then "\\\\"
  else if c = '\x08' then "\\b"
  else if c = '\t' then "\\t"
  else if c = '\n' then "\\n"
  else if c = '\x0c' then "\\f"
  else if c = '\r' then "\\r"
  else if c.toNat < 0x20 then
    "\\u" ++ String.ofList (List.replicate (4 - (Text.hexadecimal c.toNat).length) '0') ++
      Text.hexadecimal c.toNat
  else String.singleton c

/-- A text as a JSON string. -/
def quoted (text : String) : String :=
  "\"" ++ String.join (text.toList.map escaped) ++ "\""

/-- The beginning of a line at a level. -/
def indentation (level : Nat) : String :=
  Text.spaces (2 * level)

mutual

/-- The printed form of a value that begins on a line of the given level. -/
def prettyAt (level : Nat) : Json → String
  | .null => "null"
  | .bool true => "true"
  | .bool false => "false"
  | .number numeral => numeral
  | .string text => quoted text
  | .array [] => "[]"
  | .array (item :: items) =>
      "[\n" ++ indentation (level + 1) ++ prettyAt (level + 1) item ++
        prettyItems (level + 1) items ++ "\n" ++ indentation level ++ "]"
  | .object [] => "\x7b\x7d"
  | .object ((name, value) :: fields) =>
      "\x7b\n" ++ indentation (level + 1) ++ quoted name ++ ": " ++ prettyAt (level + 1) value ++
        prettyFields (level + 1) fields ++ "\n" ++ indentation level ++ "\x7d"

/-- The items after the first, each on a line of its own. -/
def prettyItems (level : Nat) : List Json → String
  | [] => ""
  | item :: items =>
      ",\n" ++ indentation level ++ prettyAt level item ++ prettyItems level items

/-- The fields after the first, each on a line of its own. -/
def prettyFields (level : Nat) : List (String × Json) → String
  | [] => ""
  | (name, value) :: fields =>
      ",\n" ++ indentation level ++ quoted name ++ ": " ++ prettyAt level value ++
        prettyFields level fields

end

/-- The printed form of a value. -/
def pretty (value : Json) : String :=
  prettyAt 0 value

end Json

end TreeSelector
