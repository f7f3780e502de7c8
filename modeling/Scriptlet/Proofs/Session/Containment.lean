import Scriptlet.Proofs.Session.Standard

/-!
# Containment of failures

A run on the builtins that loads no modules ends with a value or with a script error.  One failure
of the host gets past this: an integer that is too large for a number is kept as it is in a record
that was read from a text, and reading, showing or describing it is no call of a host function, so
nothing turns its failure into a script error.
-/

namespace Scriptlet

/-! ## Code that loads nothing -/

mutual

/-- Whether nothing in an expression loads a module, however deep. -/
def Expr.isLoadFree : Expr → Bool
  | .number _ _ | .text _ _ | .bool _ _ | .name _ _ => true
  | .binary _ left _ right => left.isLoadFree && right.isLoadFree
  | .unary _ _ operand => operand.isLoadFree
  | .assign _ target value => target.isLoadFree && value.isLoadFree
  | .call _ callee arguments => callee.isLoadFree && areLoadFree arguments
  | .member _ object _ => object.isLoadFree
  | .index _ object place => object.isLoadFree && place.isLoadFree
  | .array _ elements => areLoadFree elements
  | .function _ _ body => isLoadFree body
  | .load _ _ => false
  | .construct _ _ arguments => areLoadFree arguments

/-- Whether nothing in a target loads a module. -/
def Target.isLoadFree : Target → Bool
  | .name _ _ => true
  | .member _ object _ => object.isLoadFree

/-- Whether nothing in several expressions loads a module. -/
def areLoadFree : List Expr → Bool
  | [] => true
  | expression :: rest => expression.isLoadFree && areLoadFree rest

/-- Whether nothing in a statement loads a module, however deep. -/
def Stmt.isLoadFree : Stmt → Bool
  | .declare _ _ none | .result _ none | .leave _ | .proceed _ => true
  | .declare _ _ (some value) | .result _ (some value) | .expression _ value => value.isLoadFree
  | .block _ statements => isLoadFree statements
  | .conditional _ condition consequent none => condition.isLoadFree && consequent.isLoadFree
  | .conditional _ condition consequent (some alternate) =>
      condition.isLoadFree && consequent.isLoadFree && alternate.isLoadFree
  | .loop _ condition body => condition.isLoadFree && body.isLoadFree
  | .function _ _ _ body => isLoadFree body
  | .construct _ _ arguments => areLoadFree arguments
  | .load _ _ => false

/-- Whether nothing in a body loads a module. -/
def isLoadFree : List Stmt → Bool
  | [] => true
  | statement :: rest => statement.isLoadFree && isLoadFree rest

end

theorem areLoadFree_iff {expressions : List Expr} :
    areLoadFree expressions = true ↔ ∀ part ∈ expressions, part.isLoadFree = true := by
  induction expressions with
  | nil => simp [areLoadFree]
  | cons expression rest ih => simp [areLoadFree, ih]

theorem isLoadFree_iff {statements : List Stmt} :
    isLoadFree statements = true ↔ ∀ part ∈ statements, part.isLoadFree = true := by
  induction statements with
  | nil => simp [isLoadFree]
  | cons statement rest ih => simp [isLoadFree, ih]

theorem Expr.isLoadFree_part {whole part : Expr} (free : whole.isLoadFree = true)
    (found : part ∈ whole.parts) : part.isLoadFree = true := by
  cases whole with
  | assign span target value =>
      cases target <;> simp_all [Expr.isLoadFree, Target.isLoadFree, Expr.parts]
      rcases found with rfl | rfl
      · exact free.1
      · exact free.2
  | binary | index =>
      simp only [Expr.isLoadFree, Bool.and_eq_true] at free
      simp only [Expr.parts, List.mem_cons, List.not_mem_nil, or_false] at found
      rcases found with rfl | rfl
      · exact free.1
      · exact free.2
  | call span callee arguments =>
      simp only [Expr.isLoadFree, Bool.and_eq_true] at free
      rcases List.mem_cons.mp found with rfl | found
      · exact free.1
      · exact areLoadFree_iff.mp free.2 part found
  | array | construct => exact areLoadFree_iff.mp free part found
  | unary | member =>
      obtain rfl := List.mem_singleton.mp found
      exact free
  | load => cases free
  | _ => cases found

theorem Stmt.isLoadFree_expression {whole : Stmt} {part : Expr} (free : whole.isLoadFree = true)
    (found : part ∈ whole.expressions) : part.isLoadFree = true := by
  cases whole with
  | declare span name value | result span value =>
      cases value with
      | none => cases found
      | some value =>
          obtain rfl := List.mem_singleton.mp found
          exact free
  | conditional span condition consequent alternate =>
      obtain rfl := List.mem_singleton.mp found
      cases alternate <;> simp_all [Stmt.isLoadFree]
  | loop span condition body =>
      obtain rfl := List.mem_singleton.mp found
      simp_all [Stmt.isLoadFree]
  | expression =>
      obtain rfl := List.mem_singleton.mp found
      exact free
  | construct => exact areLoadFree_iff.mp free part found
  | load => cases free
  | _ => cases found

theorem Stmt.isLoadFree_part {whole part : Stmt} (free : whole.isLoadFree = true)
    (found : part ∈ whole.parts) : part.isLoadFree = true := by
  cases whole with
  | block => exact isLoadFree_iff.mp free part found
  | conditional span condition consequent alternate =>
      cases alternate <;> simp_all [Stmt.isLoadFree, Stmt.parts]
      rcases found with rfl | rfl
      · exact free.1.2
      · exact free.2
  | loop span condition body =>
      obtain rfl := List.mem_singleton.mp found
      simp_all [Stmt.isLoadFree]
  | _ => cases found

/-! ## Contained failures -/

/-- The failures that can end code: script errors, a stack or a loop that is used up, and an integer
that is too large for a number. -/
inductive Fault.Contained : Fault → Prop
  | script (error : ScriptError) : Contained (.script error)
  | exhausted : Contained .exhausted
  | unfinished : Contained .unfinished
  | tooLarge : Contained .tooLarge

/-- The failures of host functions that are reported to the script. -/
def Outcomes.contained : Outcomes where
  fault := Fault.Contained
  failure := fun fault => ∀ message, fault ≠ .host .missingKey message
  recorded := fun fault => ∀ message, fault ≠ .host .missingKey message
  cause := fun _ => .script _
  exhausted := .exhausted
  unfinished := .unfinished
  tooLarge := .tooLarge
  weaken := by
    rintro _ ⟨⟩ <;> exact nofun
  reported := by
    rintro kind message reported other ⟨⟩
    cases reported

instance Outcomes.contained_open : Outcomes.contained.Open where
  script := .script
  report := by
    intro cause function allowed
    cases cause with
    | script error => exact .script error
    | host kind message =>
        unfold reportFailure
        cases kind with
        | missingKey => exact absurd rfl (allowed message)
        | _ => exact .script _
    | exhausted => exact .exhausted
    | unfinished => exact .unfinished
  record := by
    intro cause number allowed
    cases cause with
    | script error => exact nofun
    | _ => exact allowed
  relocate := fun _ => nofun
  rejoin := id

/-- Code that loads nothing is allowed in standard runs. -/
def loadFreeCode : (Discipline.standard .contained (isLoadFree · = true)).Code where
  expression := (Expr.isLoadFree · = true)
  statement := (Stmt.isLoadFree · = true)
  loads := False
  opens := Outcomes.contained_open
  part := Expr.isLoadFree_part
  function := id
  operand := Stmt.isLoadFree_expression
  inner := Stmt.isLoadFree_part
  named := id
  member := fun free found => isLoadFree_iff.mp free _ found
  loaded := nofun
  ran := nofun
  program := False.elim
  missing := False.elim
  invalidPath := False.elim

/-- The ends of contained runs: a value, a script error, a loop that does not end, or an integer too
large for a number. -/
inductive ContainedEnd : EStateM.Result Fault Machine Value → Prop
  | value (value : Value) (last : Machine) : ContainedEnd (.ok value last)
  | script (error : ScriptError) (last : Machine) : ContainedEnd (.error (.script error) last)
  | unfinished (last : Machine) : ContainedEnd (.error .unfinished last)
  | tooLarge (last : Machine) : ContainedEnd (.error .tooLarge last)

/-- A run on any choice of builtins, of a text in which nothing loads a module, gives a value, a
script error or an unfinished loop; the only other failure is that of an integer too large for a
number. -/
theorem runFresh_contained (settings : Settings) (entropy : Int) (source : String)
    (file : Option String) (disk : Disk) (depthLimit : Nat) (clock : Float)
    (free : ∀ program, Program.ofSource (stackRoom depthLimit) source file = .ok program →
      isLoadFree program.body = true) :
    ContainedEnd (runFresh settings entropy source file (.unused disk depthLimit clock)) := by
  have keeps := runFresh_keeps loadFreeCode settings entropy (.unused disk depthLimit clock) free
  have obeys := unused_obeys (.standard .contained (isLoadFree · = true)) disk depthLimit clock
  cases outcome : runFresh settings entropy source file (.unused disk depthLimit clock) with
  | ok value last => exact .value value last
  | error fault last =>
      obtain ⟨-, contained, notExhausted⟩ := keeps.of_error obeys outcome
      cases contained with
      | script error => exact .script error last
      | exhausted => exact absurd rfl notExhausted
      | unfinished => exact .unfinished last
      | tooLarge => exact .tooLarge last

/-- A text that reads data and shows it loads nothing. -/
theorem runFresh_contained_print :
    (Program.ofSource (stackRoom 0) "print(JSON.parse('[1]'))" none).toBool = true ∧
      ContainedEnd (runFresh {} 0 "print(JSON.parse('[1]'))" none
        (.unused ((FileTree.directory []).disk "/") 0 0.0)) := by
  refine ⟨by decide +kernel, runFresh_contained {} 0 _ none _ 0 0.0 fun program read => ?_⟩
  have free : ((Program.ofSource (stackRoom 0) "print(JSON.parse('[1]'))" none).toOption.all
      fun program => isLoadFree program.body) = true := by
    decide +kernel
  rw [read] at free
  exact free

end Scriptlet
