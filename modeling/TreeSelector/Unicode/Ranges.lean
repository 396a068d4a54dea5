/-!
# Character classes as ascending ranges

A character class is held as a list of closed ranges of code points. The list
is searched from the front and the search stops at the first range that begins
above the code point, so the ranges must be listed in ascending order
(`Ascending`), and a table comes with the proof that they are (`Table`). So the
search decides membership in the union of the ranges (`Table.holds_iff`), and
two tables without a range in common hold no character in common
(`Table.holds_eq_false_of_apart`).
-/

set_option autoImplicit false

namespace TreeSelector.Unicode

/-- Closed ranges: the first and the last code point of each. -/
abbrev Ranges := List (Nat × Nat)

/-- Whether some range holds the code point. The search ends at the first range
that begins above it. -/
def covers (code : Nat) : Ranges → Bool
  | [] => false
  | (first, last) :: later => decide (first ≤ code) && (decide (code ≤ last) || covers code later)

/-- Every range is in order, and ends below the beginning of all later ones. -/
def Ascending : Ranges → Prop
  | [] => True
  | (first, last) :: later =>
      first ≤ last ∧ (∀ range ∈ later, last < range.1) ∧ Ascending later

/-- Whether the ranges begin at the bound or above it, each above the end of the
one before. This looks at neighbours only. -/
def ascendingFrom (bound : Nat) : Ranges → Bool
  | [] => true
  | (first, last) :: later =>
      decide (bound ≤ first) && decide (first ≤ last) && ascendingFrom (last + 1) later

theorem le_first_of_ascendingFrom {bound : Nat} {ranges : Ranges}
    (ascending : ascendingFrom bound ranges = true) : ∀ range ∈ ranges, bound ≤ range.1 := by
  induction ranges generalizing bound with
  | nil => simp
  | cons head later ih =>
      obtain ⟨first, last⟩ := head
      simp only [ascendingFrom, Bool.and_eq_true, decide_eq_true_eq] at ascending
      obtain ⟨⟨low, order⟩, rest⟩ := ascending
      intro range member
      rcases List.mem_cons.mp member with rfl | tail
      · exact low
      · have := ih rest range tail
        omega

/-- A check between neighbours is enough for all ranges. -/
theorem ascending_of_ascendingFrom {bound : Nat} {ranges : Ranges}
    (ascending : ascendingFrom bound ranges = true) : Ascending ranges := by
  induction ranges generalizing bound with
  | nil => trivial
  | cons head later ih =>
      obtain ⟨first, last⟩ := head
      simp only [ascendingFrom, Bool.and_eq_true, decide_eq_true_eq] at ascending
      obtain ⟨⟨_, order⟩, rest⟩ := ascending
      exact ⟨order, fun range member => le_first_of_ascendingFrom rest range member, ih rest⟩

/-- **The early end of the search loses nothing.** Among ascending ranges the
search succeeds exactly when some range holds the code point. -/
theorem covers_iff {ranges : Ranges} (ascending : Ascending ranges) (code : Nat) :
    covers code ranges = true ↔ ∃ range ∈ ranges, range.1 ≤ code ∧ code ≤ range.2 := by
  induction ranges with
  | nil => simp [covers]
  | cons head later ih =>
      obtain ⟨first, last⟩ := head
      obtain ⟨order, above, rest⟩ := ascending
      simp only [covers, Bool.and_eq_true, Bool.or_eq_true, decide_eq_true_eq, ih rest,
        List.mem_cons, or_and_right, exists_or, exists_eq_left]
      constructor
      · rintro ⟨low, high | later⟩
        · exact .inl ⟨low, high⟩
        · exact .inr later
      · rintro (⟨low, high⟩ | ⟨range, member, low, high⟩)
        · exact ⟨low, .inl high⟩
        · have := above range member
          exact ⟨by omega, .inr ⟨range, member, low, high⟩⟩

/-! ## Tables -/

/-- The table of a character class: ranges in ascending order. -/
structure Table where
  ranges : Ranges
  ascending : Ascending ranges

namespace Table

/-- A table whose neighbours have been checked. -/
def ofRanges (ranges : Ranges) (ascending : ascendingFrom 0 ranges = true) : Table :=
  ⟨ranges, ascending_of_ascendingFrom ascending⟩

/-- Whether the character belongs to the class. -/
def holds (table : Table) (c : Char) : Bool :=
  covers c.toNat table.ranges

/-- **A class is the union of the ranges of its table.** -/
theorem holds_iff {table : Table} {c : Char} :
    table.holds c = true ↔ ∃ range ∈ table.ranges, range.1 ≤ c.toNat ∧ c.toNat ≤ range.2 :=
  covers_iff table.ascending c.toNat

/-- Whether every range of the one table lies below or above every range of the
other. -/
def apart (one other : Table) : Bool :=
  one.ranges.all fun range => other.ranges.all fun against =>
    decide (range.2 < against.1) || decide (against.2 < range.1)

/-- What one of two such tables holds, the other does not. -/
theorem holds_eq_false_of_apart {one other : Table} {c : Char}
    (separate : one.apart other = true) (held : one.holds c = true) : other.holds c = false := by
  rw [← Bool.not_eq_true]
  intro also
  obtain ⟨range, member, low, high⟩ := holds_iff.mp held
  obtain ⟨against, among, below, above⟩ := holds_iff.mp also
  have pair := List.all_eq_true.mp (List.all_eq_true.mp separate range member) against among
  simp only [Bool.or_eq_true, decide_eq_true_eq] at pair
  omega

end Table

end TreeSelector.Unicode
