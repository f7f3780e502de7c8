import Scriptlet.Proofs.Token.Places

/-!
# Quoted lines

A location counts a new line after every line feed, but the line that it names is looked up among
the pieces that the text is cut into at line breaks of every kind.  Where all line breaks are line
feeds, both mean the same line.
-/

namespace Scriptlet

namespace Text

/-- The part of a text between the line feeds around an offset. -/
def lineAt (text : List Char) (offset : Nat) : List Char :=
  lastLine (text.take offset) ++ (text.drop offset).takeWhile (· != '\n')

/-- All line breaks of a text are line feeds, up to the end of the line around an offset. -/
def FeedsThrough (text : List Char) (offset : Nat) : Prop :=
  ∀ c ∈ text.take offset ++ (text.drop offset).takeWhile (· != '\n'),
    isLineBreak c = true → c = '\n'

/-- A text is one line, or its last line comes after a line feed. -/
theorem lastLine_cases (text : List Char) :
    (lastLine text = text ∧ '\n' ∉ text) ∨ ∃ front, text = front ++ '\n' :: lastLine text := by
  induction text using List.reverseRecOn with
  | nil => exact .inl ⟨rfl, by simp⟩
  | append_singleton text c ih =>
      by_cases feed : c = '\n'
      · subst feed
        exact .inr ⟨text, by rw [lastLine_snoc_feed]⟩
      · rw [lastLine_snoc text feed]
        rcases ih with ⟨whole, flat⟩ | ⟨front, text_eq⟩
        · exact .inl ⟨by rw [whole], by simp [flat, Ne.symm feed]⟩
        · refine .inr ⟨front, ?_⟩
          rw [← List.cons_append, ← List.append_assoc, ← text_eq]

theorem not_mem_lastLine (text : List Char) : '\n' ∉ lastLine text := by
  intro found
  simpa using List.mem_rtakeWhile_imp found

theorem linesAfter_feed (held rest : List Char) :
    linesAfter held ('\n' :: rest) = held.reverse :: linesAfter [] rest :=
  rfl

theorem linesAfter_visible {c : Char} (visible : isLineBreak c = false) (held rest : List Char) :
    linesAfter held (c :: rest) = linesAfter (c :: held) rest := by
  have other : c ≠ '\r' := by
    rintro rfl
    cases visible
  -- By the definition as a whole: its single equations are slow to come by.
  rw [linesAfter.eq_def]
  split
  · rename_i same
    cases same
  · rename_i same
    cases same
    exact absurd rfl other
  · rename_i same
    cases same
    exact if_neg (by simp [visible])

/-- The first of the lines goes up to the first line feed. -/
theorem head?_linesAfter {held text : List Char} (nonempty : held ≠ [] ∨ text ≠ [])
    (breaks : ∀ c ∈ text.takeWhile (· != '\n'), isLineBreak c = true → c = '\n') :
    (linesAfter held text)[0]? = some (held.reverse ++ text.takeWhile (· != '\n')) := by
  induction text generalizing held with
  | nil =>
      have held_ne : held ≠ [] := nonempty.resolve_right fun none => none rfl
      rw [linesAfter.eq_def]
      simp [held_ne]
  | cons c rest ih =>
      by_cases feed : c = '\n'
      · subst feed
        simp [linesAfter_feed]
      · have taken : (c :: rest).takeWhile (· != '\n') = c :: rest.takeWhile (· != '\n') := by
          simp [feed]
        rw [taken] at breaks ⊢
        have visible : isLineBreak c = false :=
          Bool.eq_false_iff.mpr fun isBreak => feed (breaks c List.mem_cons_self isBreak)
        rw [linesAfter_visible visible, ih (.inl (by simp))
          fun d found => breaks d (List.mem_cons_of_mem _ found)]
        simp

/-- As many lines come before the text behind a line feed as there are line feeds in front of it. -/
theorem linesAfter_append_feed (held : List Char) {front : List Char}
    (breaks : ∀ c ∈ front, isLineBreak c = true → c = '\n') (rest : List Char) :
    ∃ before, before.length = front.count '\n' + 1 ∧
      linesAfter held (front ++ '\n' :: rest) = before ++ linesAfter [] rest := by
  induction front generalizing held with
  | nil => exact ⟨[held.reverse], rfl, linesAfter_feed held rest⟩
  | cons c front ih =>
      have later : ∀ d ∈ front, isLineBreak d = true → d = '\n' :=
        fun d found => breaks d (List.mem_cons_of_mem _ found)
      by_cases feed : c = '\n'
      · subst feed
        obtain ⟨before, length, lines_eq⟩ := ih [] later
        refine ⟨held.reverse :: before, by simp [length], ?_⟩
        rw [List.cons_append, linesAfter_feed, lines_eq, List.cons_append]
      · have visible : isLineBreak c = false :=
          Bool.eq_false_iff.mpr fun isBreak => feed (breaks c List.mem_cons_self isBreak)
        obtain ⟨before, length, lines_eq⟩ := ih (c :: held) later
        refine ⟨before, by simp [length, feed], ?_⟩
        rw [List.cons_append, linesAfter_visible visible, lines_eq]

/-- The line that is counted by line feeds is found among the pieces of the text. -/
theorem getElem?_linesAfter {front : List Char} {c : Char} {back : List Char}
    (breaks : ∀ d ∈ front ++ (c :: back).takeWhile (· != '\n'), isLineBreak d = true → d = '\n') :
    (linesAfter [] (front ++ c :: back))[front.count '\n']? =
      some (lastLine front ++ (c :: back).takeWhile (· != '\n')) := by
  have flat := not_mem_lastLine front
  -- Up to the first line feed behind the last line of the front.
  have taken : (lastLine front ++ c :: back).takeWhile (· != '\n') =
      lastLine front ++ (c :: back).takeWhile (· != '\n') :=
    List.takeWhile_append_of_pos fun d found => by
      simpa using ne_of_mem_of_not_mem found flat
  have head : (linesAfter [] (lastLine front ++ c :: back))[0]? =
      some (lastLine front ++ (c :: back).takeWhile (· != '\n')) := by
    rw [head?_linesAfter (.inr (by simp)), taken]
    · rfl
    · rw [taken]
      intro d found
      refine breaks d ?_
      rcases List.mem_append.mp found with inFront | inBack
      · exact List.mem_append_left _ ((List.rtakeWhile_suffix ..).subset inFront)
      · exact List.mem_append_right _ inBack
  rcases lastLine_cases front with ⟨whole, noFeed⟩ | ⟨before, front_eq⟩
  · rw [whole] at head
    rw [List.count_eq_zero_of_not_mem noFeed, head, whole]
  · obtain ⟨lines, length, lines_eq⟩ := linesAfter_append_feed []
      (fun d found => breaks d (List.mem_append_left _ (by
        rw [front_eq]
        exact List.mem_append_left _ found))) (lastLine front ++ c :: back)
    have count : front.count '\n' = lines.length := by
      have feeds := congrArg (List.count '\n') front_eq
      rw [List.count_append, List.count_cons_self, List.count_eq_zero_of_not_mem flat] at feeds
      omega
    have whole : front ++ c :: back = before ++ '\n' :: (lastLine front ++ c :: back) := by
      rw [← List.cons_append, ← List.append_assoc, ← front_eq]
    rw [whole, lines_eq, count, List.getElem?_append_right (Nat.le_refl _), Nat.sub_self, head]

end Text

namespace Location

open Text

/-- A line is the one around a location: it is the part of the text between the line feeds around
the offset, and it has at the column the character that the text has at the offset. -/
structure ShownIn (source : List Char) (place : Location) (line : String) : Prop where
  line_eq : line.toList = lineAt source place.offset
  column_pos : 0 < place.column
  character : ∃ c, source[place.offset]? = some c ∧ line.toList[place.column - 1]? = some c

/-- The line that is quoted for a location is the one around it, if no line break other than a line
feed comes before the end of this line. -/
theorem OpensIn.shownIn {source : String} {file : Option String} {place : Location}
    (opens : place.OpensIn source.toList file)
    (feeds : FeedsThrough source.toList place.offset) :
    ∃ line, line? source place.line = some line ∧ place.ShownIn source.toList line := by
  obtain ⟨front, c, back, source_eq, other, rfl⟩ := opens
  rw [start_after] at feeds ⊢
  unfold FeedsThrough at feeds
  rw [source_eq] at feeds
  simp only [List.take_left, List.drop_left] at feeds
  have found := getElem?_linesAfter feeds
  refine ⟨String.ofList (lastLine front ++ (c :: back).takeWhile (· != '\n')),
    ?_, ?_, ?_, c, ?_, ?_⟩
  · unfold line? lines
    rw [if_neg (by simp), source_eq, List.getElem?_map]
    simp [found]
  · simp [lineAt, source_eq]
  · exact Nat.add_pos_left Nat.one_pos _
  · simp [source_eq]
  · simp [other]

end Location

end Scriptlet
