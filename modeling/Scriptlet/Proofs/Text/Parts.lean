import Scriptlet.Text.Split
import Mathlib.Data.List.Infix

/-!
# Parts of texts

A text is cut at the leftmost occurrences of a mark that do not overlap.  The parts, joined by the
mark, are the text again; the mark stands in none of them; and there is one part more than there
are such occurrences.
-/

namespace Scriptlet.Text

variable {mark text part held : List Char} {skip start : Nat}

theorem partsFrom_ne_nil (mark : List Char) (skip : Nat) (held text : List Char) :
    partsFrom mark skip held text ≠ [] := by
  induction skip, held, text using partsFrom.induct mark with
  | case1 skip held => simp [partsFrom]
  | case2 skip held c rest ih => simpa [partsFrom] using ih
  | case3 held c rest found ih => simp [partsFrom, found]
  | case4 held c rest other ih => simpa [partsFrom, other] using ih

/-! ## Joining -/

theorem join_cons {parts : List (List Char)} (more : parts ≠ []) :
    join mark (part :: parts) = part ++ (mark ++ join mark parts) := by
  obtain ⟨next, others, rfl⟩ := List.exists_cons_of_ne_nil more
  simp [join]

/-- What stands behind an occurrence of the mark, in terms of the scan. -/
theorem mark_append_drop {c : Char} {rest : List Char} (marks : mark ≠ [])
    (found : mark <+: c :: rest) : mark ++ rest.drop (mark.length - 1) = c :: rest := by
  obtain ⟨behind, split⟩ := found
  obtain ⟨first, others, rfl⟩ := List.exists_cons_of_ne_nil marks
  obtain ⟨rfl, rfl⟩ := List.cons.inj split
  simp

theorem join_partsFrom (marks : mark ≠ []) (skip : Nat) (held text : List Char) :
    join mark (partsFrom mark skip held text) = held.reverse ++ text.drop skip := by
  induction skip, held, text using partsFrom.induct mark with
  | case1 skip held => simp [partsFrom, join]
  | case2 skip held c rest ih => simpa [partsFrom] using ih
  | case3 held c rest found ih =>
      have behind := mark_append_drop marks (List.isPrefixOf_iff_prefix.mp found)
      rw [partsFrom, if_pos found, join_cons (partsFrom_ne_nil _ _ _ _), ih, List.reverse_nil,
        List.nil_append, behind, List.drop_zero]
  | case4 held c rest other ih => simpa [partsFrom, other] using ih

/-- The parts of a text, joined by the mark, are the text. -/
theorem join_parts (marks : mark ≠ []) (text : List Char) : join mark (parts mark text) = text :=
  join_partsFrom marks 0 [] text

/-! ## Marks inside of parts -/

/-- An infix is a prefix of what is left behind some place. -/
theorem exists_place_of_infix (marks : mark ≠ []) (inside : mark <:+: part) :
    ∃ i < part.length, mark <+: part.drop i := by
  obtain ⟨before, behind, rfl⟩ := inside
  have positive := List.length_pos_of_ne_nil marks
  refine ⟨before.length, ?_, behind, ?_⟩
  · simp only [List.length_append]
    omega
  · rw [List.append_assoc, List.drop_left]

/-- The mark stands in no part, if it does not begin inside of what is held. -/
theorem not_infix_of_mem_partsFrom (marks : mark ≠ []) (skip : Nat) (held text : List Char)
    (clean : ∀ i < held.length, ¬ mark <+: (held.reverse ++ text.drop skip).drop i) :
    ∀ part ∈ partsFrom mark skip held text, ¬ mark <:+: part := by
  have whole (held rest : List Char)
      (clean : ∀ i < held.length, ¬ mark <+: (held.reverse ++ rest).drop i) :
      ¬ mark <:+: held.reverse := by
    intro inside
    obtain ⟨i, within, begins⟩ := exists_place_of_infix marks inside
    refine clean i (by simpa using within) ?_
    rw [List.drop_append_of_le_length (Nat.le_of_lt within)]
    exact begins.trans (List.prefix_append _ _)
  induction skip, held, text using partsFrom.induct mark with
  | case1 skip held => simpa [partsFrom] using whole held _ clean
  | case2 skip held c rest ih => simpa [partsFrom] using ih (by simpa using clean)
  | case3 held c rest found ih =>
      rw [partsFrom, if_pos found]
      refine List.forall_mem_cons.mpr ⟨whole held _ clean, ih ?_⟩
      exact fun i within => absurd within (Nat.not_lt_zero i)
  | case4 held c rest other ih =>
      rw [partsFrom, if_neg other]
      refine ih fun i within => ?_
      rw [List.reverse_cons, List.append_assoc]
      rcases Nat.lt_or_eq_of_le (Nat.lt_succ_iff.mp within) with before | rfl
      · exact clean i before
      · rw [← List.length_reverse, List.drop_left]
        exact fun begins => other (List.isPrefixOf_iff_prefix.mpr begins)

/-- The mark stands in none of the parts. -/
theorem not_infix_of_mem_parts (marks : mark ≠ []) (member : part ∈ parts mark text) :
    ¬ mark <:+: part :=
  not_infix_of_mem_partsFrom marks 0 [] text (fun i within => absurd within (Nat.not_lt_zero i))
    part member

/-! ## Leftmost occurrences -/

/-- The places of the leftmost occurrences of a mark that do not overlap, from a place of the text
on: the first one is the first occurrence at all, and the others come behind its end. -/
inductive Leftmost (mark text : List Char) : (start : Nat) → (places : List Nat) → Prop
  | none {start : Nat} (absent : ∀ i, start ≤ i → ¬ mark <+: text.drop i) :
      Leftmost mark text start []
  | next {start place : Nat} {places : List Nat} (behind : start ≤ place)
      (here : mark <+: text.drop place)
      (first : ∀ i, start ≤ i → i < place → ¬ mark <+: text.drop i)
      (others : Leftmost mark text (place + mark.length) places) :
      Leftmost mark text start (place :: places)

namespace Leftmost

/-- A place at which the mark does not begin makes no difference. -/
theorem earlier {places : List Nat} (other : ¬ mark <+: text.drop start)
    (leftmost : Leftmost mark text (start + 1) places) : Leftmost mark text start places := by
  cases leftmost with
  | none absent =>
      refine .none fun i behind => ?_
      rcases Nat.eq_or_lt_of_le behind with rfl | later
      · exact other
      · exact absent i later
  | next behind here first others =>
      refine .next (Nat.le_of_succ_le behind) here (fun i behind before => ?_) others
      rcases Nat.eq_or_lt_of_le behind with rfl | later
      · exact other
      · exact first i later before

/-- There is only one way to take the leftmost occurrences. -/
theorem unique {places others : List Nat} (left : Leftmost mark text start places)
    (right : Leftmost mark text start others) : places = others := by
  induction left generalizing others with
  | none absent =>
      cases right with
      | none => rfl
      | next behind here => exact absurd here (absent _ behind)
  | next behind here first _ ih =>
      cases right with
      | none absent => exact absurd here (absent _ behind)
      | next behind' here' first' others' =>
          obtain rfl := Nat.le_antisymm
            (Nat.le_of_not_lt fun before => first _ behind' before here')
            (Nat.le_of_not_lt fun before => first' _ behind before here)
          rw [ih others']

end Leftmost

/-- The scan finds the leftmost occurrences. -/
theorem exists_leftmost_from (marks : mark ≠ []) (skip : Nat) (held rest : List Char) :
    ∀ place, text.drop place = rest → ∃ places, Leftmost mark text (place + skip) places ∧
      (partsFrom mark skip held rest).length = places.length + 1 := by
  have next {place : Nat} {c : Char} {rest : List Char} (stands : text.drop place = c :: rest) :
      text.drop (place + 1) = rest := by
    rw [← List.drop_drop, stands, List.drop_one, List.tail_cons]
  have positive := List.length_pos_of_ne_nil marks
  induction skip, held, rest using partsFrom.induct mark with
  | case1 skip held =>
      intro place stands
      refine ⟨[], .none fun i behind begins => marks ?_, by simp [partsFrom]⟩
      have ended := List.drop_eq_nil_iff.mp stands
      rwa [List.drop_eq_nil_iff.mpr (by omega), List.prefix_nil] at begins
  | case2 skip held c rest ih =>
      intro place stands
      obtain ⟨places, leftmost, count⟩ := ih (place + 1) (next stands)
      refine ⟨places, ?_, by simpa [partsFrom] using count⟩
      rwa [Nat.add_assoc, Nat.add_comm 1] at leftmost
  | case3 held c rest found ih =>
      intro place stands
      obtain ⟨places, leftmost, count⟩ := ih (place + 1) (next stands)
      rw [Nat.add_assoc, Nat.add_sub_of_le positive] at leftmost
      refine ⟨place :: places, .next (Nat.le_refl _) ?_ ?_ leftmost, ?_⟩
      · rw [stands]
        exact List.isPrefixOf_iff_prefix.mp found
      · exact fun i behind before => absurd before (Nat.not_lt_of_le behind)
      · rw [partsFrom, if_pos found, List.length_cons, List.length_cons, count]
  | case4 held c rest other ih =>
      intro place stands
      obtain ⟨places, leftmost, count⟩ := ih (place + 1) (next stands)
      refine ⟨places, leftmost.earlier fun begins => other ?_,
        by simpa [partsFrom, other] using count⟩
      rw [Nat.add_zero, stands] at begins
      exact List.isPrefixOf_iff_prefix.mpr begins

/-- There is one part more than there are leftmost occurrences of the mark. -/
theorem exists_leftmost (marks : mark ≠ []) (text : List Char) :
    ∃ places, Leftmost mark text 0 places ∧ (parts mark text).length = places.length + 1 :=
  exists_leftmost_from marks 0 [] text 0 rfl

theorem length_parts (marks : mark ≠ []) {places : List Nat}
    (leftmost : Leftmost mark text 0 places) :
    (parts mark text).length = places.length + 1 := by
  obtain ⟨others, found, count⟩ := exists_leftmost marks text
  rw [count, found.unique leftmost]

end Scriptlet.Text
