import Scriptlet.Proofs.Parser.Borders
import Scriptlet.Proofs.Parser.Position
import Scriptlet.Proofs.Token.Order

/-!
# Trees between positions

The trees that a parser reads between two positions stand on the tokens between them: they nest,
they follow each other, they start at the first position or behind it and stop before the second.
There is one lemma for each way in which the span of a node is put together.

`Moves` says so of a run, and that it has taken a token.  Trees stand on tokens in order only, but a
parser moves on over any tokens.
-/

namespace Scriptlet

/-! ## Places of tokens in order -/

namespace Token.InOrder

open Scriptlet.Parser (front back)

variable {tokens : List Token} (inOrder : Token.InOrder tokens) {position later : Fin tokens.length}
include inOrder

theorem front_lt_back (less : position < later) :
    (front tokens position).offset < (back tokens later).offset := by
  have here : (front tokens position).offset < tokens[position.val].span.stop.offset := by
    apply inOrder.nonempty
    rw [List.mem_iff_getElem]
    exact ⟨position, by rw [List.length_dropLast]; omega, by simp⟩
  rcases Nat.lt_or_eq_of_le (show position.val ≤ later.val - 1 by omega) with before | same
  · have increase : tokens[position.val].span.Precedes tokens[later.val - 1].span :=
      List.pairwise_iff_getElem.mp inOrder.increase _ _ _ _ before
    have there : tokens[later.val - 1].span.start.offset < (back tokens later).offset := by
      apply inOrder.nonempty
      rw [List.mem_iff_getElem]
      exact ⟨later.val - 1, by rw [List.length_dropLast]; omega, by simp⟩
    unfold Span.Precedes at increase
    omega
  · simpa [back, same] using here

theorem back_le_front (positive : 0 < position.val) :
    (back tokens position).offset ≤ (front tokens position).offset :=
  List.pairwise_iff_getElem.mp inOrder.increase _ _ _ _ (by omega)

theorem front_le_front (le : position ≤ later) :
    (front tokens position).offset ≤ (front tokens later).offset := by
  rcases Fin.lt_or_eq_of_le le with less | rfl
  · have before := inOrder.front_lt_back less
    have after := inOrder.back_le_front (show 0 < later.val by omega)
    omega
  · exact Nat.le_refl _

theorem back_le_back (positive : 0 < position.val) (le : position ≤ later) :
    (back tokens position).offset ≤ (back tokens later).offset := by
  rcases Fin.lt_or_eq_of_le le with less | rfl
  · have before := inOrder.back_le_front positive
    have after := inOrder.front_lt_back less
    omega
  · exact Nat.le_refl _

end Token.InOrder

namespace Parser

variable {tokens : List Token} {position inner reached later : Fin tokens.length}

/-! ## Trees on tokens -/

/-- Trees nest and stand on the tokens from one position up to another. -/
structure Stands (tokens : List Token) (position later : Fin tokens.length)
    (trees : List SpanTree) : Prop where
  nests : ∀ tree ∈ trees, tree.Nests tokens
  increase : trees.Pairwise fun first second => first.span.Precedes second.span
  front_le : ∀ tree ∈ trees, (front tokens position).offset ≤ tree.span.start.offset
  le_back : ∀ tree ∈ trees, tree.span.stop.offset ≤ (back tokens later).offset
  stops : ∀ tree ∈ trees, ∃ token ∈ tokens, tree.span.stop = token.span.stop

namespace Stands

variable {trees more : List SpanTree}

theorem nil : Stands tokens position later [] :=
  ⟨by simp, .nil, by simp, by simp, by simp⟩

theorem widen (inOrder : Token.InOrder tokens) (stands : Stands tokens inner reached trees)
    (le : position ≤ inner) (less : inner < reached) (le' : reached ≤ later) :
    Stands tokens position later trees where
  nests := stands.nests
  increase := stands.increase
  front_le := fun tree found =>
    Nat.le_trans (inOrder.front_le_front le) (stands.front_le tree found)
  le_back := fun tree found =>
    Nat.le_trans (stands.le_back tree found) (inOrder.back_le_back (by omega) le')
  stops := stands.stops

theorem append (inOrder : Token.InOrder tokens) (first : Stands tokens position reached trees)
    (second : Stands tokens inner later more) (less : position < reached) (le : reached ≤ inner)
    (less' : inner < later) : Stands tokens position later (trees ++ more) := by
  have wide := first.widen inOrder (Nat.le_refl _) less (show reached ≤ later by omega)
  have ends := inOrder.back_le_front (show 0 < reached.val by omega)
  have starts := inOrder.front_le_front le
  have opens := inOrder.front_le_front (show position ≤ inner by omega)
  refine ⟨?_, ?_, ?_, ?_, ?_⟩
  · exact fun tree found => (List.mem_append.mp found).elim (first.nests tree) (second.nests tree)
  · refine List.pairwise_append.mpr ⟨first.increase, second.increase, ?_⟩
    intro before beforeFound after afterFound
    have stop_le := first.le_back before beforeFound
    have le_start := second.front_le after afterFound
    unfold Span.Precedes
    omega
  · intro tree found
    rcases List.mem_append.mp found with before | after
    · exact wide.front_le tree before
    · exact Nat.le_trans opens (second.front_le tree after)
  · intro tree found
    rcases List.mem_append.mp found with before | after
    · exact wide.le_back tree before
    · exact second.le_back tree after
  · exact fun tree found => (List.mem_append.mp found).elim (first.stops tree) (second.stops tree)

/-- A node around trees that start with it or behind it, and stop with it or before it. -/
theorem enclose {span : Span} (stands : Stands tokens position later trees)
    (starts : ∃ token ∈ tokens, span.start = token.span.start)
    (stops : ∃ token ∈ tokens, span.stop = token.span.stop)
    (front_le : (front tokens position).offset ≤ span.start.offset)
    (le_back : span.stop.offset ≤ (back tokens later).offset)
    (nonempty : span.start.offset < span.stop.offset)
    (inside : ∀ tree ∈ trees, span.Contains tree.span) :
    Stands tokens position later [.node span trees] := by
  obtain ⟨first, firstFound, start_eq⟩ := starts
  have standsOn : span.StandsOn tokens := ⟨first, firstFound, start_eq, Or.inl stops⟩
  refine ⟨?_, List.pairwise_singleton _ _, ?_, ?_, ?_⟩
  all_goals
    intro tree found
    obtain rfl := List.mem_singleton.mp found
  · exact .node standsOn nonempty inside stands.increase stands.nests
  · exact front_le
  · exact le_back
  · exact stops

end Stands

/-! ## Moving on -/

/-- A run has taken tokens from one position up to another, and if the tokens are in order, the
trees that it has read stand on them. -/
def Moves (tokens : List Token) (position later : Fin tokens.length)
    (trees : List SpanTree) : Prop :=
  position < later ∧ (Token.InOrder tokens → Stands tokens position later trees)

namespace Moves

variable {trees more : List SpanTree}

theorem nil (less : position < later) : Moves tokens position later [] :=
  ⟨less, fun _ => .nil⟩

theorem widen (moves : Moves tokens inner reached trees) (le : position ≤ inner)
    (le' : reached ≤ later) : Moves tokens position later trees :=
  ⟨by have := moves.1; omega, fun inOrder => (moves.2 inOrder).widen inOrder le moves.1 le'⟩

theorem append (first : Moves tokens position reached trees)
    (second : Moves tokens inner later more) (le : reached ≤ inner) :
    Moves tokens position later (trees ++ more) :=
  ⟨by have := first.1; have := second.1; omega, fun inOrder =>
    (first.2 inOrder).append inOrder (second.2 inOrder) first.1 le second.1⟩

/-- A node starts where its first token or its first part does, and stops where its last token or
its last part does. -/
theorem node {span : Span} (moves : Moves tokens position later trees)
    (starts : span.start = front tokens position ∨
      ∃ tree rest, trees = tree :: rest ∧ span.start = tree.span.start)
    (stops : span.stop = back tokens later ∨
      ∃ rest tree, trees = rest ++ [tree] ∧ span.stop = tree.span.stop) :
    Moves tokens position later [.node span trees] := by
  refine ⟨moves.1, fun inOrder => ?_⟩
  have stands := moves.2 inOrder
  have inside : ∀ tree ∈ trees, span.Contains tree.span := by
    intro tree found
    constructor
    · rcases starts with start_eq | ⟨first, rest, rfl, start_eq⟩
      · rw [start_eq]
        exact stands.front_le tree found
      · rw [start_eq]
        rcases List.mem_cons.mp found with rfl | later
        · exact Nat.le_refl _
        · have before := (List.pairwise_cons.mp stands.increase).1 tree later
          have nonempty := (stands.nests first List.mem_cons_self).nonempty
          unfold Span.Precedes at before
          omega
    · rcases stops with stop_eq | ⟨rest, last, rfl, stop_eq⟩
      · rw [stop_eq]
        exact stands.le_back tree found
      · rw [stop_eq]
        rcases List.mem_append.mp found with earlier | same
        · have before := (List.pairwise_append.mp stands.increase).2.2 tree earlier last (by simp)
          have nonempty := (stands.nests last (by simp)).nonempty
          unfold Span.Precedes at before
          omega
        · rw [List.mem_singleton.mp same]
  -- a node with a part is at least as wide as the part
  have nonempty_of_mem {tree : SpanTree} (found : tree ∈ trees) :
      span.start.offset < span.stop.offset := by
    have nonempty := (stands.nests tree found).nonempty
    have contained := inside tree found
    unfold Span.Contains at contained
    omega
  refine stands.enclose ?_ ?_ ?_ ?_ ?_ inside
  · rcases starts with start_eq | ⟨first, rest, rfl, start_eq⟩
    · exact ⟨_, List.getElem_mem _, start_eq⟩
    · obtain ⟨token, found, same, -⟩ := (stands.nests first List.mem_cons_self).standsOn
      exact ⟨token, found, start_eq.trans same⟩
  · rcases stops with stop_eq | ⟨rest, last, rfl, stop_eq⟩
    · exact ⟨_, List.getElem_mem _, stop_eq⟩
    · obtain ⟨token, found, same⟩ := stands.stops last (by simp)
      exact ⟨token, found, stop_eq.trans same⟩
  · rcases starts with start_eq | ⟨first, rest, rfl, start_eq⟩
    · rw [start_eq]
    · rw [start_eq]
      exact stands.front_le first List.mem_cons_self
  · rcases stops with stop_eq | ⟨rest, last, rfl, stop_eq⟩
    · rw [stop_eq]
    · rw [stop_eq]
      exact stands.le_back last (by simp)
  · rcases starts with start_eq | ⟨first, rest, rfl, -⟩
    · rcases stops with stop_eq | ⟨rest, last, rfl, -⟩
      · rw [start_eq, stop_eq]
        exact inOrder.front_lt_back moves.1
      · exact nonempty_of_mem (show last ∈ _ by simp)
    · exact nonempty_of_mem (List.mem_cons_self (a := first))

/-- A node from its first token to its last one. -/
theorem spanned (moves : Moves tokens position later trees) :
    Moves tokens position later [.node ⟨front tokens position, back tokens later⟩ trees] :=
  moves.node (Or.inl rfl) (Or.inl rfl)

end Moves

/-- What a loop has gathered since a position: nothing yet, or trees. -/
def Gathers (tokens : List Token) (position here : Fin tokens.length)
    (trees : List SpanTree) : Prop :=
  trees = [] ∧ here = position ∨ Moves tokens position here trees

namespace Gathers

variable {trees more : List SpanTree}

theorem nil : Gathers tokens position position [] :=
  Or.inl ⟨rfl, rfl⟩

theorem le (gathers : Gathers tokens position reached trees) : position ≤ reached := by
  rcases gathers with ⟨-, rfl⟩ | moves
  · exact Nat.le_refl _
  · exact Nat.le_of_lt moves.1

theorem append (gathers : Gathers tokens position reached trees)
    (moves : Moves tokens reached later more) : Moves tokens position later (trees ++ more) := by
  rcases gathers with ⟨rfl, rfl⟩ | first
  · exact moves
  · exact first.append moves (Nat.le_refl _)

/-- A closing token. -/
theorem close (gathers : Gathers tokens position reached trees) (less : reached < later) :
    Moves tokens position later trees := by
  rcases gathers with ⟨rfl, rfl⟩ | moves
  · exact .nil less
  · exact moves.widen (Nat.le_refl _) (Nat.le_of_lt less)

end Gathers

/-! ## Paths -/

/-- A path that has been built up to a dot goes on to the end of the name; the part so far nests as
soon as it stands on the name. -/
theorem foldl_extendPath_nests {token : Token} (found : token ∈ tokens) {path : String}
    (name : token.lexical = .name path)
    (stop_eq : token.span.stop = token.span.start.shift path.length) (rest : List (List Char))
    (built : Expr × Nat) {done : List Char} (wide : 0 < built.2)
    (span_eq : built.1.span = ⟨token.span.start, token.span.start.shift built.2⟩)
    (nests : built.1.span.StandsOn tokens → built.1.spanTree.Nests tokens)
    (path_eq : path.toList = done ++ rest.flatMap ('.' :: ·)) (width_eq : done.length = built.2) :
    (rest.foldl (extendPath token.span.start) built).1.spanTree.Nests tokens ∧
      (rest.foldl (extendPath token.span.start) built).1.span = token.span := by
  induction rest generalizing built done with
  | nil =>
      have ends : built.1.span = token.span := by
        rw [span_eq, ← width_eq, ← List.append_nil done, ← List.flatMap_nil, ← path_eq,
          String.length_toList, ← stop_eq]
      refine ⟨nests ⟨token, found, ?_, Or.inl ⟨token, found, ?_⟩⟩, ends⟩ <;> simp [ends]
  | cons segment rest ih =>
      have dotted : path.toList[built.2]? = some '.' := by
        simp [path_eq, ← width_eq]
      have standsOn : built.1.span.StandsOn tokens :=
        ⟨token, found, by rw [span_eq], Or.inr ⟨path, built.2, name, dotted, by rw [span_eq]⟩⟩
      have path_eq : path.toList = (done ++ '.' :: segment) ++ rest.flatMap ('.' :: ·) := by
        simp [path_eq]
      refine ih (extendPath token.span.start built segment) ?_ rfl ?_ path_eq ?_
      · simp only [extendPath]
        omega
      · intro longer
        refine .node longer ?_ ?_ (List.pairwise_singleton _ _) ?_
        · simp only [Location.shift]
          omega
        · intro part same
          rw [List.mem_singleton.mp same, Expr.spanTree_span, span_eq]
          simp [Span.Contains, Location.shift]
          omega
        · intro part same
          rw [List.mem_singleton.mp same]
          exact nests standsOn
      · simp only [extendPath, List.length_append, List.length_cons]
        omega

/-- The members of a dotted name nest and stand on the name. -/
theorem expandPath_moves {path : String} (name : (tokens.get position).lexical = .name path)
    (next : later.val = position + 1) :
    Moves tokens position later [(expandPath path (front tokens position)).spanTree] := by
  refine ⟨by omega, fun inOrder => ?_⟩
  have found : tokens[position] ∈ tokens := List.getElem_mem _
  obtain ⟨stop_eq, c, text, path_eq, other⟩ := inOrder.names _ found path name
  have expanded : (expandPath path (front tokens position)).spanTree.Nests tokens ∧
      (expandPath path (front tokens position)).span = tokens[position].span := by
    cases parts : Text.cutAt '.' path.toList with
    | nil => exact absurd parts (Text.cutAt_ne_nil _ _)
    | cons first rest =>
        have whole := cutAt_flatMap '.' _ parts
        have wide : 0 < first.length := by
          refine List.length_pos_iff.mpr fun empty => ?_
          rw [empty, path_eq, List.nil_append] at whole
          cases rest with
          | nil => simp at whole
          | cons segment rest => exact other (by simpa using (List.cons.inj whole).1)
        rw [expandPath_of_cutAt _ parts]
        refine foldl_extendPath_nests found name stop_eq rest _ wide rfl ?_ whole rfl
        intro standsOn
        refine .node standsOn ?_ (by simp) .nil (by simp)
        simpa [Location.shift] using wide
  have back_eq : back tokens later = tokens[position].span.stop := by simp [back, next]
  refine ⟨?_, List.pairwise_singleton _ _, ?_, ?_, ?_⟩
  all_goals
    intro tree same
    obtain rfl := List.mem_singleton.mp same
  · exact expanded.1
  · rw [Expr.spanTree_span, expanded.2]
    exact Nat.le_refl _
  · rw [Expr.spanTree_span, expanded.2, back_eq]
  · rw [Expr.spanTree_span, expanded.2]
    exact ⟨_, found, rfl⟩

end Parser
end Scriptlet
