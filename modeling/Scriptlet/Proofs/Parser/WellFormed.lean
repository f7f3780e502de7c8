import Scriptlet.Proofs.Parser.Outcome
import Scriptlet.Proofs.Tree.WellFormed
import Scriptlet.Tree.Source

/-!
# Parsers yield well-formed trees

Whatever tokens a parser is given, the trees that it yields are well-formed.  The recursion of the
grammar goes through the allowance, so one strong induction on it serves all levels; its loops have
one lemma each.
-/

namespace Scriptlet

namespace Text

theorem not_mem_of_mem_cutAt {mark : Char} {text part : List Char}
    (found : part ∈ cutAt mark text) : mark ∉ part := by
  induction text generalizing part with
  | nil =>
      obtain rfl := List.mem_singleton.mp found
      simp
  | cons c rest ih =>
      unfold cutAt at found
      split at found
      · rcases List.mem_cons.mp found with rfl | later
        · simp
        · exact ih later
      · rename_i different
        split at found
        · rename_i first parts rest_eq
          rw [rest_eq] at ih
          rcases List.mem_cons.mp found with rfl | later
          · have inside := ih (List.mem_cons_self ..)
            simpa [inside] using Ne.symm different
          · exact ih (List.mem_cons_of_mem _ later)
        · obtain rfl := List.mem_singleton.mp found
          simpa using Ne.symm different

theorem cutAt_ne_nil (mark : Char) (text : List Char) : cutAt mark text ≠ [] := by
  cases text with
  | nil => simp [cutAt]
  | cons c rest =>
      unfold cutAt
      split
      · simp
      · split <;> simp

end Text

namespace Parser

theorem isDotted_ofList {part : List Char} (plain : '.' ∉ part) :
    isDotted (String.ofList part) = false := by
  simpa [isDotted] using plain

/-! ## Paths -/

/-- One more segment at the end of a path; the number is the width of the path. -/
def extendPath (start : Location) (built : Expr × Nat) (segment : List Char) : Expr × Nat :=
  (.member ⟨start, start.shift (built.2 + 1 + segment.length)⟩ built.1 (String.ofList segment),
    built.2 + 1 + segment.length)

theorem expandPath_of_cutAt {path : String} {first : List Char} {rest : List (List Char)}
    (start : Location) (parts : Text.cutAt '.' path.toList = first :: rest) :
    expandPath path start =
      (rest.foldl (extendPath start)
        (.name ⟨start, start.shift first.length⟩ (String.ofList first), first.length)).1 := by
  unfold expandPath
  rw [parts]
  rfl

theorem foldl_extendPath_wellFormed (start : Location) (rest : List (List Char))
    (built : Expr × Nat) (plain : ∀ part ∈ rest, '.' ∉ part) (formed : built.1.WellFormed)
    (path : built.1.isPath = true) :
    (rest.foldl (extendPath start) built).1.WellFormed ∧
      (rest.foldl (extendPath start) built).1.isPath = true := by
  induction rest generalizing built with
  | nil => exact ⟨formed, path⟩
  | cons segment rest ih =>
      have segment_plain := isDotted_ofList (plain segment (List.mem_cons_self ..))
      exact ih (extendPath start built segment)
        (fun part found => plain part (List.mem_cons_of_mem _ found))
        (.member _ path formed segment_plain) path

/-- The expression of a path is a well-formed path. -/
theorem expandPath_wellFormed (path : String) (start : Location) :
    (expandPath path start).WellFormed ∧ (expandPath path start).isPath = true := by
  cases parts : Text.cutAt '.' path.toList with
  | nil => exact absurd parts (Text.cutAt_ne_nil _ _)
  | cons first rest =>
      have plain : ∀ part ∈ first :: rest, '.' ∉ part := by
        intro part found
        exact Text.not_mem_of_mem_cutAt (parts ▸ found)
      rw [expandPath_of_cutAt start parts]
      exact foldl_extendPath_wellFormed start rest _
        (fun part found => plain part (List.mem_cons_of_mem _ found))
        (.name _ (isDotted_ofList (plain first (List.mem_cons_self ..)))) rfl

theorem target?_wellFormed {expression : Expr} {target : Target}
    (formed : expression.WellFormed) (denoted : expression.target? = some target) :
    target.WellFormed := by
  cases formed with
  | name span plain =>
      obtain rfl := Option.some.inj denoted
      exact .name span plain
  | member span path objectFormed plain =>
      obtain rfl := Option.some.inj denoted
      exact .member span path objectFormed plain
  | _ => simp [Expr.target?] at denoted

/-! ## Loops of the grammar -/

section Loops

variable {stream : Stream} {item : Parse Expr} {statement : Parse Stmt}

/-- Every expression that a parser yields is well-formed. -/
def YieldsFormed (parser : Parse Expr) : Prop :=
  ∀ stream, Yields parser stream fun expression _ => expression.WellFormed

/-- Every statement that a parser yields is well-formed, and no `else` is left that it could have
taken. -/
def YieldsClosed (inLoop : Bool) (parser : Parse Stmt) : Prop :=
  ∀ stream, Yields parser stream fun statement rest =>
    statement.WellFormed inLoop ∧
      (statement.isOpen = true → rest.current.isKeyword .elseWord = false)

theorem climb_wellFormed {operand : Nat → Parse Expr}
    (formed : ∀ least, YieldsFormed (operand least)) (least bound : Nat) (left : Expr)
    (leftFormed : left.WellFormed) :
    Yields (climb operand least bound left) stream fun expression _ => expression.WellFormed := by
  induction bound generalizing left stream with
  | zero => exact .pure leftFormed
  | succ bound ih =>
      refine .step (current_run stream) ?_
      split
      · exact .pure leftFormed
      · rename_i operator found
        split
        · exact .pure leftFormed
        · refine .skip fun _ _ => ?_
          refine .bind (formed _ _) fun right _ rightFormed => ?_
          exact ih _ (.binary _ operator leftFormed rightFormed)

theorem itemsUpTo_wellFormed (formed : YieldsFormed item) (closing : Symbol) (bound : Nat)
    (read : List Expr) (readFormed : ∀ expression ∈ read, expression.WellFormed) :
    Yields (itemsUpTo closing item bound read) stream
      fun items _ => ∀ expression ∈ items, expression.WellFormed := by
  induction bound generalizing read stream with
  | zero => exact .skip fun _ _ => .pure (by simpa using readFormed)
  | succ bound ih =>
      refine .step (atSymbol_run closing stream) ?_
      split
      · exact .skip fun _ _ => .pure (by simpa using readFormed)
      · refine .bind (formed _) fun next _ nextFormed => ?_
        have longerFormed : ∀ expression ∈ next :: read, expression.WellFormed := by
          simpa [nextFormed] using readFormed
        refine .skip fun more rest => ?_
        split
        · exact ih _ longerFormed
        · exact .skip fun _ _ => .pure (by simpa [or_comm] using longerFormed)

theorem items_wellFormed (formed : YieldsFormed item) (closing : Symbol) :
    Yields (items closing item) stream
      fun items _ => ∀ expression ∈ items, expression.WellFormed :=
  .step (get_run stream) (itemsUpTo_wellFormed formed closing _ [] (by simp))

theorem applications_wellFormed (formed : YieldsFormed item) (bound : Nat) (callee : Expr)
    (calleeFormed : callee.WellFormed) :
    Yields (applications item bound callee) stream fun expression _ => expression.WellFormed := by
  induction bound generalizing callee stream with
  | zero => exact .pure calleeFormed
  | succ bound ih =>
      refine .skip fun called rest => ?_
      split
      · refine .bind (items_wellFormed formed _) fun arguments _ argumentsFormed => ?_
        exact .skip fun _ _ => ih _ (.call _ calleeFormed argumentsFormed)
      · refine .skip fun indexed rest => ?_
        split
        · refine .bind (formed _) fun index _ indexFormed => ?_
          refine .skip fun _ _ => .skip fun _ _ => ?_
          exact ih _ (.index _ calleeFormed indexFormed)
        · exact .pure calleeFormed

theorem paramsUpTo_plain (bound : Nat) (read : List String)
    (readPlain : ∀ param ∈ read, isDotted param = false) :
    Yields (paramsUpTo bound read) stream
      fun params _ => ∀ param ∈ params, isDotted param = false := by
  induction bound generalizing read stream with
  | zero => exact .skip fun _ _ => .pure (by simpa using readPlain)
  | succ bound ih =>
      refine .step (atSymbol_run .closeParen stream) ?_
      split
      · exact .skip fun _ _ => .pure (by simpa using readPlain)
      · refine .step (current_run stream) ?_
        split
        · rename_i path found
          split
          · exact .unexpected
          · rename_i plain
            have longerPlain : ∀ param ∈ path :: read, isDotted param = false := by
              simpa [plain] using readPlain
            refine .skip fun _ _ => .skip fun more rest => ?_
            split
            · exact ih _ longerPlain
            · exact .skip fun _ _ => .pure (by simpa [or_comm] using longerPlain)
        · exact .unexpected

theorem params_plain :
    Yields params stream fun params _ => ∀ param ∈ params, isDotted param = false :=
  .skip fun _ rest => .step (get_run rest) (paramsUpTo_plain _ [] (by simp))

theorem statementsUpTo_wellFormed {inLoop : Bool} (formed : YieldsClosed inLoop statement)
    (bound : Nat) (read : List Stmt) (readFormed : ∀ first ∈ read, first.WellFormed inLoop) :
    Yields (statementsUpTo statement bound read) stream
      fun statements _ => ∀ first ∈ statements, first.WellFormed inLoop := by
  induction bound generalizing read stream with
  | zero => exact .skip fun _ _ => .pure (by simpa using readFormed)
  | succ bound ih =>
      refine .skip fun closed rest => ?_
      split
      · exact .pure (by simpa using readFormed)
      · refine .step (current_run rest) ?_
        split
        · exact .throw
        · refine .bind (formed _) fun next _ nextFormed => ?_
          exact ih _ (by simpa [nextFormed.1] using readFormed)

theorem statementsToEnd_wellFormed {inLoop : Bool} (formed : YieldsClosed inLoop statement)
    (bound : Nat) (read : List Stmt) (readFormed : ∀ first ∈ read, first.WellFormed inLoop) :
    Yields (statementsToEnd statement bound read) stream
      fun statements _ => ∀ first ∈ statements, first.WellFormed inLoop := by
  induction bound generalizing read stream with
  | zero => exact .pure (by simpa using readFormed)
  | succ bound ih =>
      refine .step (current_run stream) ?_
      split
      · exact .pure (by simpa using readFormed)
      · refine .bind (formed _) fun next _ nextFormed => ?_
        exact ih _ (by simpa [nextFormed.1] using readFormed)

theorem blockOf_wellFormed {inLoop : Bool} (formed : YieldsClosed inLoop statement) :
    Yields (blockOf statement) stream
      fun block _ => ∀ first ∈ block.1, first.WellFormed inLoop := by
  refine .skip fun start rest => .step (get_run rest) ?_
  refine .bind (statementsUpTo_wellFormed formed _ [] (by simp)) fun statements _ bodyFormed => ?_
  exact .skip fun _ _ => .pure bodyFormed

theorem constructRest_wellFormed (formed : YieldsFormed item) :
    Yields (constructRest item) stream
      fun parts _ => ∀ expression ∈ parts.2, expression.WellFormed := by
  refine .skip fun named rest => ?_
  refine .skip fun _ _ => .bind (items_wellFormed formed _) fun arguments _ argumentsFormed => ?_
  exact .pure argumentsFormed

theorem parenthesized_wellFormed (formed : YieldsFormed item) :
    Yields (parenthesized item) stream fun expression _ => expression.WellFormed := by
  refine .skip fun _ _ => .bind (formed _) fun inner _ innerFormed => ?_
  exact .skip fun _ _ => .pure innerFormed

end Loops

/-! ## Levels of the grammar -/

/-- What all levels of the grammar yield within an allowance. -/
structure GrammarFormed (allowance : Nat) : Prop where
  expression : YieldsFormed (expression allowance)
  binary : ∀ least, YieldsFormed (binary allowance least)
  unary : YieldsFormed (unary allowance)
  primary : YieldsFormed (primary allowance)
  statement : ∀ inLoop, YieldsClosed inLoop (statement allowance inLoop)

theorem refuseDepth_yields {α : Type} {stream : Stream} {post : α → Stream → Prop} :
    Yields refuseDepth stream post :=
  .throw

theorem expression_wellFormed {allowance : Nat}
    (lower : ∀ less < allowance, GrammarFormed less) : YieldsFormed (expression allowance) := by
  intro stream
  rcases allowance with _ | _ | allowance
  · exact refuseDepth_yields
  · exact refuseDepth_yields
  have deeper := lower allowance (by omega)
  refine .bind (deeper.binary 1 stream) fun target _ targetFormed => ?_
  refine .skip fun assigned rest => ?_
  split
  · refine .bind (deeper.expression rest) fun value _ valueFormed => ?_
    split
    · rename_i place denoted
      exact .pure (.assign _ (target?_wellFormed targetFormed denoted) valueFormed)
    · exact .throw
  · exact .pure targetFormed

theorem binary_wellFormed {allowance : Nat} (lower : ∀ less < allowance, GrammarFormed less)
    (least : Nat) : YieldsFormed (binary allowance least) := by
  intro stream
  rcases allowance with _ | allowance
  · exact refuseDepth_yields
  have deeper := lower allowance (by omega)
  refine .bind (deeper.unary stream) fun left rest leftFormed => ?_
  exact .step (get_run rest) (climb_wellFormed deeper.binary least _ left leftFormed)

theorem unary_wellFormed {allowance : Nat} (lower : ∀ less < allowance, GrammarFormed less) :
    YieldsFormed (unary allowance) := by
  intro stream
  rcases allowance with _ | allowance
  · exact refuseDepth_yields
  have deeper := lower allowance (by omega)
  refine .step (current_run stream) ?_
  split
  · rename_i operator found
    refine .skip fun start rest => .bind (deeper.unary rest) fun operand _ operandFormed => ?_
    exact .pure (.unary _ operator operandFormed)
  · refine .bind (deeper.primary stream) fun callee rest calleeFormed => ?_
    exact .step (get_run rest) (applications_wellFormed deeper.expression _ callee calleeFormed)

theorem primary_wellFormed {allowance : Nat} (lower : ∀ less < allowance, GrammarFormed less) :
    YieldsFormed (primary allowance) := by
  intro stream
  rcases allowance with _ | _ | allowance
  · exact refuseDepth_yields
  · exact refuseDepth_yields
  have deeper := lower allowance (by omega)
  refine .step (current_run stream) ?_
  split
  · exact .skip fun _ _ => .pure (.number _ _)
  · exact .skip fun _ _ => .pure (.text _ _)
  · exact .skip fun _ _ => .pure (.bool _ _)
  · exact .skip fun _ _ => .pure (.bool _ _)
  · exact .skip fun _ _ => .pure (expandPath_wellFormed _ _).1
  · exact parenthesized_wellFormed deeper.expression
  · refine .skip fun _ _ => .bind (items_wellFormed deeper.expression _) ?_
    intro elements _ elementsFormed
    exact .skip fun span _ => .pure (.array span elementsFormed)
  · refine .skip fun _ _ => .bind params_plain fun params _ plain => ?_
    refine .bind (blockOf_wellFormed (deeper.statement false)) fun block _ bodyFormed => ?_
    exact .skip fun span _ => .pure (.function span plain bodyFormed)
  · refine .skip fun _ _ => .bind (parenthesized_wellFormed deeper.expression) ?_
    intro path _ pathFormed
    exact .skip fun span _ => .pure (.load span pathFormed)
  · refine .skip fun _ _ => .bind (constructRest_wellFormed deeper.expression) ?_
    intro parts _ argumentsFormed
    exact .skip fun span _ => .pure (.construct span parts.1 argumentsFormed)
  · exact .unexpected

/-- What ends a statement that no `else` can go on. -/
theorem closed_yields {inLoop : Bool} {start : Token} {build : Span → Stmt} {stream : Stream}
    (formed : ∀ span, (build span).WellFormed inLoop)
    (closed : ∀ span, (build span).isOpen = false) :
    Yields (spanFrom start >>= fun span => pure (build span)) stream fun statement rest =>
      statement.WellFormed inLoop ∧
        (statement.isOpen = true → rest.current.isKeyword .elseWord = false) :=
  .skip fun span _ => .pure ⟨formed span, by simp [closed]⟩

theorem statement_wellFormed {allowance : Nat} (lower : ∀ less < allowance, GrammarFormed less)
    (inLoop : Bool) : YieldsClosed inLoop (statement allowance inLoop) := by
  intro stream
  rcases allowance with _ | _ | allowance
  · exact refuseDepth_yields
  · exact refuseDepth_yields
  have deeper := lower allowance (by omega)
  refine .step (current_run stream) ?_
  split
  · -- a declaration
    refine .skip fun _ _ => .skip fun ⟨name, token⟩ _ => ?_
    refine .bind .refuseDotted fun _ _ plain => .skip fun assigned rest => ?_
    split
    · refine .bindMap (deeper.expression rest) fun initial _ initialFormed => .skip fun _ _ => ?_
      refine closed_yields (fun span => ?_) fun _ => rfl
      exact .declare inLoop span plain (by simpa using initialFormed)
    · refine .step rfl (.skip fun _ _ => closed_yields (fun span => ?_) fun _ => rfl)
      exact .declare inLoop span plain (by simp)
  · -- a conditional: its alternative is taken if and only if an `else` follows
    refine .skip fun _ _ => .bind (parenthesized_wellFormed deeper.expression) ?_
    intro condition rest conditionFormed
    refine .bind (deeper.statement inLoop rest) fun consequent rest consequentFormed => ?_
    refine .step (current_run rest) ?_
    dsimp only
    split
    · rename_i follows
      refine .skip fun _ later => .bindMap (deeper.statement inLoop later) ?_
      intro alternate rest alternateFormed
      refine .step (spanFrom_run _ rest) (.pure ⟨?_, alternateFormed.2⟩)
      refine .conditional _ conditionFormed consequentFormed.1 (by simpa using alternateFormed.1) ?_
      intro _
      cases isOpen : consequent.isOpen with
      | false => rfl
      | true =>
          rw [consequentFormed.2 isOpen] at follows
          contradiction
    · rename_i ends
      refine .step rfl (.step (spanFrom_run _ rest) (.pure ⟨?_, ?_⟩))
      · exact .conditional _ conditionFormed consequentFormed.1 (by simp) (by simp)
      · intro _
        simpa using ends
  · -- a loop
    refine .skip fun _ _ => .bind (parenthesized_wellFormed deeper.expression) ?_
    intro condition rest conditionFormed
    refine .bind (deeper.statement true rest) fun body rest bodyFormed => ?_
    exact .step (spanFrom_run _ rest)
      (.pure ⟨.loop inLoop _ conditionFormed bodyFormed.1, bodyFormed.2⟩)
  · -- a function
    have rest_yields (name : Option String) (plainName : ∀ id ∈ name, isDotted id = false)
        (rest : Stream) : Yields (params >>= fun params =>
          blockOf (statement allowance false) >>= fun block =>
            spanFrom stream.current >>= fun span =>
              pure (Stmt.function span name params block.1)) rest fun statement rest =>
          statement.WellFormed inLoop ∧
            (statement.isOpen = true → rest.current.isKeyword .elseWord = false) := by
      refine .bind params_plain fun params _ plain => ?_
      refine .bind (blockOf_wellFormed (deeper.statement false)) fun block _ bodyFormed => ?_
      exact closed_yields (fun span => .function inLoop span plainName plain bodyFormed)
        fun _ => rfl
    refine .skip fun _ rest => .step (current_run rest) ?_
    dsimp only
    split
    · refine .skip fun token _ => .bind .refuseDotted fun _ rest plainName => .step rfl ?_
      exact rest_yields _ (by simpa using plainName) rest
    · exact .step rfl (rest_yields none (by simp) rest)
  · -- a result
    refine .skip fun _ rest => .step (current_run rest) ?_
    dsimp only
    split
    · refine .step rfl (.skip fun _ _ => closed_yields (fun span => ?_) fun _ => rfl)
      exact .result inLoop span (by simp)
    · refine .bindMap (deeper.expression rest) fun value _ valueFormed => .skip fun _ _ => ?_
      refine closed_yields (fun span => ?_) fun _ => rfl
      exact .result inLoop span (by simpa using valueFormed)
  · -- leaving a loop
    refine .skip fun _ _ => ?_
    split
    · rename_i inside
      exact .skip fun _ _ => .pure ⟨inside ▸ .leave _, by simp [Stmt.isOpen]⟩
    · exact .throw
  · -- going on with a loop
    refine .skip fun _ _ => ?_
    split
    · rename_i inside
      exact .skip fun _ _ => .pure ⟨inside ▸ .proceed _, by simp [Stmt.isOpen]⟩
    · exact .throw
  · -- a construction
    refine .skip fun _ _ => .bind (constructRest_wellFormed deeper.expression) ?_
    intro parts _ argumentsFormed
    refine .skip fun _ _ => closed_yields (fun span => ?_) fun _ => rfl
    exact .construct inLoop span parts.1 argumentsFormed
  · -- a module
    refine .skip fun _ _ => .bind (parenthesized_wellFormed deeper.expression) ?_
    intro path _ pathFormed
    exact .skip fun _ _ => closed_yields (fun span => .load inLoop span pathFormed) fun _ => rfl
  · -- a block
    refine .bind (blockOf_wellFormed (deeper.statement inLoop)) fun block _ blockFormed => ?_
    exact .pure ⟨.block block.2 blockFormed, by simp [Stmt.isOpen]⟩
  · -- an expression
    refine .bind (deeper.expression stream) fun value _ valueFormed => ?_
    exact .skip fun _ _ => .pure ⟨.expression inLoop value.span valueFormed, by simp [Stmt.isOpen]⟩

theorem grammarFormed (allowance : Nat) : GrammarFormed allowance := by
  induction allowance using Nat.strongRecOn with
  | ind allowance lower =>
      exact
        { expression := expression_wellFormed lower
          binary := binary_wellFormed lower
          unary := unary_wellFormed lower
          primary := primary_wellFormed lower
          statement := statement_wellFormed lower }

theorem program_wellFormed (allowance : Nat) (file : Option String) (stream : Stream) :
    Yields (program allowance file) stream fun program _ => program.WellFormed := by
  refine .step (current_run stream) (.step (get_run stream) ?_)
  have formed := (grammarFormed allowance).statement false
  refine .bind (statementsToEnd_wellFormed formed _ [] (by simp)) fun body _ bodyFormed => ?_
  dsimp only
  split
  · exact .step rfl (.pure bodyFormed)
  · exact .skip fun _ _ => .pure bodyFormed

theorem parse_wellFormed {allowance : Nat} {stream : Stream} {file source : Option String}
    {program : Program} (parsed : parse allowance stream file source = .ok program) :
    program.WellFormed := by
  unfold parse at parsed
  split at parsed
  · rename_i result rest run
    obtain rfl := Except.ok.inj parsed
    exact program_wellFormed allowance file stream result rest run
  · cases parsed
  · cases parsed

end Parser

/-- Every program that is read from a text is well-formed. -/
theorem Program.ofSource_wellFormed {room : Nat} {source : String} {file : Option String}
    {program : Program} (read : Program.ofSource room source file = .ok program) :
    program.WellFormed := by
  unfold ofSource at read
  split at read
  · cases read
  · split at read
    · exact Parser.parse_wellFormed read
    · cases read

end Scriptlet
