import Mathlib.Data.List.TakeWhile
import Scriptlet.Proofs.Parser.Locality

/-!
# Precedence

A chain of operators stands for the tree whose root is the last of its loosest operators, with the
chains before and after it on both sides.  The parser never looks for that operator.  It keeps the
tree of the links that it has passed and hands the tighter links after an operator to its right
operand.  The invariant of its loop is that no operator passed so far is looser than the next one,
so that the next one becomes the root.
-/

namespace Scriptlet
namespace Parser

/-! ## Chains and their trees -/

/-- An operand: tokens that are read as an expression when they stand alone, and an allowance that
this takes. -/
structure Operand where
  tokens : List Token
  value : Expr
  allowance : Nat
  reads : ∃ stream rest, stream.rest = tokens ∧ stream.finish.isFinish = true ∧
    tokens.length ≤ stream.total ∧ unary allowance stream = .ok (value, rest) ∧ rest.rest = []

/-- An operator with the operand after it. -/
structure Link where
  mark : Token
  operator : BinaryOperator
  stands : operatorOf? mark = some operator
  operand : Operand

namespace Link

/-- The tokens of an operator and its operand. -/
def tokens (link : Link) : List Token :=
  link.mark :: link.operand.tokens

/-- Whether an operator binds at least as tightly as a level. -/
def binds (least : Nat) (link : Link) : Bool :=
  least ≤ link.operator.precedence

theorem binds_iff {least : Nat} {link : Link} :
    link.binds least = true ↔ least ≤ link.operator.precedence := by
  simp [binds]

theorem not_binds_iff {least : Nat} {link : Link} :
    link.binds least = false ↔ link.operator.precedence < least := by
  simp [binds]

end Link

/-- Cuts a chain at the last of its loosest operators: the links before it, it, and the links
after it. -/
def cutLoosest : List Link → Option (List Link × Link × List Link)
  | [] => none
  | link :: rest =>
      match cutLoosest rest with
      | some (before, root, after) =>
          if root.operator.precedence ≤ link.operator.precedence then
            some (link :: before, root, after)
          else some ([], link, rest)
      | none => some ([], link, rest)

theorem cutLoosest_spec {links before after : List Link} {root : Link}
    (cut : cutLoosest links = some (before, root, after)) :
    links = before ++ root :: after ∧
      (∀ link ∈ before, root.operator.precedence ≤ link.operator.precedence) ∧
      ∀ link ∈ after, root.operator.precedence < link.operator.precedence := by
  induction links generalizing before root after with
  | nil => cases cut
  | cons link rest ih =>
      unfold cutLoosest at cut
      split at cut
      · rename_i inner loosest outer later
        obtain ⟨rest_eq, inner_le, outer_lt⟩ := ih later
        split at cut
        · rename_i looser
          cases cut
          refine ⟨by rw [rest_eq]; rfl, ?_, outer_lt⟩
          simpa [looser] using inner_le
        · rename_i tighter
          cases cut
          refine ⟨rfl, by simp, ?_⟩
          intro other found
          rw [rest_eq] at found
          rcases List.mem_append.mp found with early | late
          · have tight := inner_le other early
            omega
          · rcases List.mem_cons.mp late with rfl | later
            · omega
            · have tight := outer_lt other later
              omega
      · rename_i none_left
        cases cut
        cases rest with
        | nil => simp
        | cons other rest =>
            unfold cutLoosest at none_left
            split at none_left
            · split at none_left <;> cases none_left
            · cases none_left

/-- A chain is cut at an operator that is as loose as all before it and looser than all after it. -/
theorem cutLoosest_append {before after : List Link} {root : Link}
    (before_le : ∀ link ∈ before, root.operator.precedence ≤ link.operator.precedence)
    (after_lt : ∀ link ∈ after, root.operator.precedence < link.operator.precedence) :
    cutLoosest (before ++ root :: after) = some (before, root, after) := by
  induction before with
  | nil =>
      rw [List.nil_append, cutLoosest]
      split
      · rename_i inner loosest outer later
        obtain ⟨after_eq, -, -⟩ := cutLoosest_spec later
        have tight := after_lt loosest (by simp [after_eq])
        exact if_neg (by omega)
      · rfl
  | cons link before ih =>
      rw [List.cons_append, cutLoosest, ih fun other found => before_le other (by simp [found])]
      exact if_pos (before_le link (List.mem_cons_self ..))

/-- The tree of an operator between two trees. -/
def joinTrees (operator : BinaryOperator) (left right : Expr) : Expr :=
  .binary (left.span.through right.span) left operator right

/-- The tree of a chain: its root is the last of the loosest operators, and the chains before and
after it are trees of their own. -/
def chainTree (first : Operand) (links : List Link) : Expr :=
  match _found : cutLoosest links with
  | none => first.value
  | some (before, root, after) =>
      joinTrees root.operator (chainTree first before) (chainTree root.operand after)
termination_by links.length
decreasing_by
  all_goals
    have lengths := congrArg List.length (cutLoosest_spec _found).1
    simp only [List.length_append, List.length_cons] at lengths
    omega

@[simp]
theorem chainTree_nil (first : Operand) : chainTree first [] = first.value := by
  rw [chainTree]
  rfl

theorem chainTree_append (first : Operand) {before after : List Link} {root : Link}
    (before_le : ∀ link ∈ before, root.operator.precedence ≤ link.operator.precedence)
    (after_lt : ∀ link ∈ after, root.operator.precedence < link.operator.precedence) :
    chainTree first (before ++ root :: after) =
      joinTrees root.operator (chainTree first before) (chainTree root.operand after) := by
  have cut := cutLoosest_append before_le after_lt
  rw [chainTree]
  split
  · rename_i none_found
    rw [cut] at none_found
    cases none_found
  · rename_i some_found
    rw [cut] at some_found
    cases some_found
    rfl

/-! ## Reading a chain -/

/-- The tokens of the links of a chain. -/
def linkTokens (links : List Link) : List Token :=
  links.flatMap Link.tokens

theorem linkTokens_cons (link : Link) (rest : List Link) :
    linkTokens (link :: rest) = link.mark :: (link.operand.tokens ++ linkTokens rest) := by
  simp [linkTokens, Link.tokens]

/-- A stream holds the given tokens in front of others that extend no chain: the next token is no
operator, and it opens neither a call nor an index. -/
structure Stream.Offers (stream : Stream) (tokens tail : List Token) : Prop where
  rest_eq : stream.rest = tokens ++ tail
  isFinish : stream.finish.isFinish = true
  length_le : stream.rest.length ≤ stream.total
  noOperator : operatorOf? (tail.headD stream.finish) = none
  noCall : (tail.headD stream.finish).isSymbol .openParen = false
  noIndex : (tail.headD stream.finish).isSymbol .openBracket = false

/-- A part of a chain is read: the result is known, and a part of the chain is left. -/
def ReadsChain (parser : Parse Expr) (stream : Stream) (tail : List Token) (value : Expr)
    (left : List Link) : Prop :=
  Reads parser stream fun result rest =>
    result = value ∧ rest.Offers (linkTokens left) tail ∧ rest.finish = stream.finish

variable {stream : Stream} {links : List Link} {tail : List Token}

theorem not_isSymbol_of_operatorOf? {token : Token} {operator : BinaryOperator} {symbol : Symbol}
    (stands : operatorOf? token = some operator)
    (bracket : symbol = .openParen ∨ symbol = .openBracket) : token.isSymbol symbol = false := by
  unfold Token.isSymbol
  split
  · rename_i found lexical_eq
    rcases bracket with rfl | rfl <;> cases found <;> simp_all [operatorOf?]
  · rfl

/-- Neither an operator nor what ends a chain opens a call or an index. -/
theorem Stream.Offers.not_isSymbol {tokens : List Token} (offers : stream.Offers tokens tail)
    {symbol : Symbol} (bracket : symbol = .openParen ∨ symbol = .openBracket)
    (links : List Link) :
    ((linkTokens links ++ tail).headD stream.finish).isSymbol symbol = false := by
  cases links with
  | nil =>
      rcases bracket with rfl | rfl
      · exact offers.noCall
      · exact offers.noIndex
  | cons link rest =>
      rw [linkTokens_cons]
      exact not_isSymbol_of_operatorOf? link.stands bracket

/-- What is left of a stream offers what is left of its tokens. -/
theorem Stream.Offers.later {tokens left : List Token} {rest : Stream}
    (offers : stream.Offers tokens tail) (rest_eq : rest.rest = left ++ tail)
    (length_le : left.length ≤ tokens.length) (finish_eq : rest.finish = stream.finish)
    (total_eq : rest.total = stream.total) : rest.Offers left tail where
  rest_eq := rest_eq
  isFinish := by
    rw [finish_eq]
    exact offers.isFinish
  length_le := by
    have lengths := offers.length_le
    rw [offers.rest_eq, List.length_append] at lengths
    rw [rest_eq, total_eq, List.length_append]
    omega
  noOperator := by
    rw [finish_eq]
    exact offers.noOperator
  noCall := by
    rw [finish_eq]
    exact offers.noCall
  noIndex := by
    rw [finish_eq]
    exact offers.noIndex

/-- What can be read alone is read in a chain. -/
theorem unary_reads_operand {allowance : Nat} (operand : Operand)
    (le : operand.allowance ≤ allowance)
    (offers : stream.Offers (operand.tokens ++ linkTokens links) tail) :
    ReadsChain (unary allowance) stream tail operand.value links := by
  obtain ⟨alone, ended, alone_rest, alone_finish, alone_le, run, ends⟩ := operand.reads
  let behind : Tail :=
    ⟨linkTokens links ++ tail, stream.finish, stream.total, offers.isFinish,
      offers.not_isSymbol (Or.inl rfl) links, offers.not_isSymbol (Or.inr rfl) links⟩
  have rest_eq : stream.rest = alone.rest ++ behind.tokens := by
    rw [offers.rest_eq, alone_rest, List.append_assoc]
  have fits : behind.Fits alone := by
    refine ⟨alone_finish, by rwa [alone_rest], ?_⟩
    rw [← List.length_append, ← rest_eq]
    exact offers.length_le
  have reads : Reads (unary allowance) stream _ := unary_behind run ends fits le rest_eq rfl rfl
  refine reads.mono ?_
  rintro value rest ⟨value_eq, rest_eq, finish_eq, total_eq⟩
  exact ⟨value_eq, offers.later rest_eq (by simp) finish_eq total_eq, finish_eq⟩

/-- Every operand of a chain can be read within an allowance, by a parser of a level; each tighter
level takes one off the allowance. -/
def Ample (allowance least : Nat) (operands : List Operand) : Prop :=
  ∀ operand ∈ operands, operand.allowance + 8 ≤ allowance + least

theorem precedence_le (operator : BinaryOperator) : operator.precedence ≤ 6 := by
  cases operator <;> simp [BinaryOperator.precedence]

theorem precedence_pos (operator : BinaryOperator) : 1 ≤ operator.precedence := by
  cases operator <;> simp [BinaryOperator.precedence]

/-- The current token in front of a chain. -/
theorem Stream.Offers.current (offers : stream.Offers (linkTokens links) tail) :
    operatorOf? stream.current = links.head?.map Link.operator := by
  cases links with
  | nil => simpa [Stream.current, offers.rest_eq, linkTokens] using offers.noOperator
  | cons link rest =>
      have current_eq : stream.current = link.mark := by
        simp [Stream.current, offers.rest_eq, linkTokens_cons]
      simp [current_eq, link.stands]

/-- The stream after an operator. -/
theorem Stream.Offers.advance {link : Link} {rest : List Link}
    (offers : stream.Offers (linkTokens (link :: rest)) tail) :
    stream.advance.Offers (link.operand.tokens ++ linkTokens rest) tail ∧
      stream.advance.finish = stream.finish := by
  have unfinished := isFinish_of_operatorOf? link.stands
  have rest_eq : stream.rest = link.mark :: (link.operand.tokens ++ linkTokens rest ++ tail) := by
    rw [offers.rest_eq, linkTokens_cons]
    rfl
  have advance_eq : stream.advance =
      { stream with
        rest := link.operand.tokens ++ linkTokens rest ++ tail, last := link.mark.span.stop } := by
    simp [Stream.advance, rest_eq, unfinished]
  rw [advance_eq]
  refine ⟨offers.later rfl ?_ rfl rfl, rfl⟩
  rw [linkTokens_cons, List.length_cons]
  exact Nat.le_succ _

theorem Link.binds_of_le {least more : Nat} (le : least ≤ more) {link : Link}
    (binds : link.binds more = true) : link.binds least = true :=
  binds_iff.mpr (Nat.le_trans le (binds_iff.mp binds))

/-- The links of a level are the leading links of a tighter level, and the links of the level after
these. -/
theorem takeWhile_binds {least more : Nat} (le : least ≤ more) (links : List Link) :
    links.takeWhile (Link.binds least) =
      links.takeWhile (Link.binds more) ++
        (links.dropWhile (Link.binds more)).takeWhile (Link.binds least) := by
  induction links with
  | nil => rfl
  | cons link rest ih =>
      cases binds : link.binds more with
      | true => simp [binds, Link.binds_of_le le binds, ih]
      | false => simp [binds]

theorem dropWhile_binds {least more : Nat} (le : least ≤ more) (links : List Link) :
    links.dropWhile (Link.binds least) =
      (links.dropWhile (Link.binds more)).dropWhile (Link.binds least) := by
  induction links with
  | nil => rfl
  | cons link rest ih =>
      cases binds : link.binds more with
      | true => simp [binds, Link.binds_of_le le binds, ih]
      | false => simp [binds]

/-- No operator that has been passed is looser than the next one. -/
def NoneLooser (before links : List Link) : Prop :=
  ∀ passed ∈ before, ∀ next ∈ links.head?,
    next.operator.precedence ≤ passed.operator.precedence

/-- After an operator and the tighter links after it, the next operator is no tighter. -/
theorem NoneLooser.pass {before rest : List Link} {link : Link}
    (noneLooser : NoneLooser before (link :: rest)) :
    let tighter := Link.binds (link.operator.precedence + 1)
    NoneLooser (before ++ link :: rest.takeWhile tighter) (rest.dropWhile tighter) := by
  intro tighter passed found next next_eq
  have next_le : next.operator.precedence ≤ link.operator.precedence := by
    have stops := List.head?_dropWhile_not tighter rest
    rw [next_eq] at stops
    exact Nat.le_of_lt_succ (Link.not_binds_iff.mp stops)
  rcases List.mem_append.mp found with early | late
  · exact Nat.le_trans next_le (noneLooser passed early link rfl)
  · rcases List.mem_cons.mp late with rfl | inner
    · exact next_le
    · have tight := Link.binds_iff.mp (List.mem_takeWhile_imp inner)
      omega

/-- An operator that none before it is looser than becomes the root of all that has been passed,
with the tighter links after it on its right. -/
theorem NoneLooser.root (first : Operand) {before rest : List Link} {link : Link}
    (noneLooser : NoneLooser before (link :: rest)) :
    let taken := rest.takeWhile (Link.binds (link.operator.precedence + 1))
    joinTrees link.operator (chainTree first before) (chainTree link.operand taken) =
      chainTree first (before ++ link :: taken) := by
  refine (chainTree_append first ?_ ?_).symm
  · exact fun passed found => noneLooser passed found link rfl
  · exact fun inner found => Link.binds_iff.mp (List.mem_takeWhile_imp found)

/-- The loop keeps the tree of the links that it has passed, as long as none of them is looser than
the next one.  The right operand of an operator takes the tighter links after it. -/
theorem climb_reads {allowance least : Nat} (first : Operand) (bound : Nat) {before : List Link}
    (deeper : ∀ link rest, link :: rest <:+ links → least ≤ link.operator.precedence →
      ∀ stream : Stream, stream.Offers (link.operand.tokens ++ linkTokens rest) tail →
        let tighter := Link.binds (link.operator.precedence + 1)
        ReadsChain (binary allowance (link.operator.precedence + 1)) stream tail
          (chainTree link.operand (rest.takeWhile tighter)) (rest.dropWhile tighter))
    (inside : links.length < bound) (noneLooser : NoneLooser before links)
    (offers : stream.Offers (linkTokens links) tail) :
    ReadsChain (climb (binary allowance) least bound (chainTree first before)) stream tail
      (chainTree first (before ++ links.takeWhile (Link.binds least)))
      (links.dropWhile (Link.binds least)) := by
  induction bound generalizing before links stream with
  | zero => omega
  | succ bound ih =>
      refine .step (current_run stream) ?_
      rw [offers.current]
      cases links with
      | nil => exact .pure ⟨by simp, offers, rfl⟩
      | cons link rest =>
          dsimp only [List.head?_cons, Option.map_some]
          split
          · rename_i looser
            have stops := Link.not_binds_iff.mpr looser
            exact .pure ⟨by simp [stops], by simpa [stops] using offers, rfl⟩
          · rename_i tight
            have binds : link.binds least = true := Link.binds_iff.mpr (by omega)
            have least_le : least ≤ link.operator.precedence + 1 := by omega
            obtain ⟨laterOffers, laterFinish⟩ := offers.advance
            refine .step (advance_run stream) ?_
            have right := deeper link rest List.suffix_rfl (by omega) stream.advance laterOffers
            refine right.bind ?_
            rintro _ after ⟨rfl, afterOffers, afterFinish⟩
            have left_suffix := List.dropWhile_suffix (Link.binds (link.operator.precedence + 1))
              (l := rest)
            have continued := ih
              (fun other later suffix =>
                deeper other later (suffix.trans (left_suffix.trans (List.suffix_cons ..))))
              (by
                have shorter := left_suffix.length_le
                rw [List.length_cons] at inside
                omega)
              noneLooser.pass afterOffers
            rw [← noneLooser.root] at continued
            rw [List.takeWhile_cons_of_pos binds, List.dropWhile_cons_of_pos binds,
              takeWhile_binds least_le, dropWhile_binds least_le]
            refine continued.mono ?_
            rintro value final ⟨value_eq, finalOffers, finalFinish⟩
            refine ⟨by simpa using value_eq, finalOffers, ?_⟩
            rw [finalFinish, afterFinish, laterFinish]

theorem length_le_linkTokens (links : List Link) : links.length ≤ (linkTokens links).length := by
  induction links with
  | nil => exact Nat.le_refl _
  | cons link rest ih =>
      rw [linkTokens_cons, List.length_cons, List.length_cons, List.length_append]
      omega

/-- A level reads an operand and the links of its level after it. -/
theorem binary_reads {allowance least : Nat} (first : Operand) (least_le : least ≤ 7)
    (ample : Ample allowance least (first :: links.map Link.operand))
    (offers : stream.Offers (first.tokens ++ linkTokens links) tail) :
    ReadsChain (binary allowance least) stream tail
      (chainTree first (links.takeWhile (Link.binds least)))
      (links.dropWhile (Link.binds least)) := by
  induction allowance generalizing least first links stream with
  | zero =>
      have room := ample first (List.mem_cons_self ..)
      omega
  | succ allowance ih =>
      have room := ample first (List.mem_cons_self ..)
      refine (unary_reads_operand first (by omega) offers).bind ?_
      rintro _ rest ⟨rfl, restOffers, restFinish⟩
      refine .step (get_run rest) ?_
      have inside : links.length < rest.total + 1 := by
        have lengths := restOffers.length_le
        have links_le := length_le_linkTokens links
        rw [restOffers.rest_eq, List.length_append] at lengths
        omega
      have passedNone : NoneLooser [] links := by simp [NoneLooser]
      rw [← chainTree_nil first]
      refine (climb_reads first _ ?_ inside passedNone restOffers).mono ?_
      · intro link later suffix tight stream offers
        refine ih link.operand ?_ ?_ offers
        · have tightest := precedence_le link.operator
          omega
        · intro operand found
          have member : operand ∈ first :: links.map Link.operand := by
            rw [← List.map_cons] at found
            exact List.mem_cons_of_mem _ ((suffix.sublist.map Link.operand).subset found)
          have room := ample operand member
          omega
      · rintro value final ⟨value_eq, finalOffers, finalFinish⟩
        exact ⟨value_eq, finalOffers, finalFinish.trans restFinish⟩

/-- Reading the operators of all levels from a stream that starts with a chain takes exactly the
chain and gives its tree: the root is the last of the loosest operators, and the chains before and
after it are its operands.  The chain may be of any length; what follows it is no operator and opens
neither a call nor an index. -/
theorem binary_reads_chainTree {allowance : Nat} (first : Operand)
    (ample : ∀ operand ∈ first :: links.map Link.operand, operand.allowance + 7 ≤ allowance)
    (offers : stream.Offers (first.tokens ++ linkTokens links) tail) :
    ∃ rest, binary allowance 1 stream = .ok (chainTree first links, rest) ∧ rest.rest = tail ∧
      rest.finish = stream.finish := by
  have ample' : Ample allowance 1 (first :: links.map Link.operand) := by
    intro operand found
    have room := ample operand found
    omega
  have all : ∀ link ∈ links, link.binds 1 = true :=
    fun link _ => Link.binds_iff.mpr (precedence_pos link.operator)
  obtain ⟨value, rest, run, value_eq, restOffers, finish_eq⟩ :=
    binary_reads first (by omega) ample' offers
  rw [List.takeWhile_eq_self_iff.mpr all] at value_eq
  rw [List.dropWhile_eq_nil_iff.mpr all] at restOffers
  exact ⟨rest, by rw [run, value_eq], restOffers.rest_eq, finish_eq⟩

/-- A reserved word as a token. -/
def wordToken (word : Keyword) : Token :=
  ⟨.keyword word, word.text, default⟩

/-- The end of the input as a token. -/
def finishToken : Token :=
  ⟨.finish, "", default⟩

/-- A truth value as an operand. -/
def truthOperand (value : Bool) : Operand where
  tokens := [wordToken (if value then .trueWord else .falseWord)]
  value := .bool default value
  allowance := 3
  reads := by
    refine ⟨⟨_, finishToken, default, 1⟩, ⟨[], finishToken, default, 1⟩, rfl, rfl, by simp, ?_, rfl⟩
    cases value <;> rfl

/-- The links `or false`, `isnt true` and `and false`. -/
def wordLinks : List Link :=
  [⟨wordToken .orWord, .either, rfl, truthOperand false⟩,
    ⟨wordToken .isntWord, .notEqual, rfl, truthOperand true⟩,
    ⟨wordToken .andWord, .both, rfl, truthOperand false⟩]

/-- The chain `true or false isnt true and false`, in front of a closing parenthesis. -/
theorem binary_reads_chainTree_words :
    let closing : Token := ⟨.symbol .closeParen, ")", default⟩
    ∃ rest, binary 10 1 ⟨(truthOperand true).tokens ++ linkTokens wordLinks ++ [closing],
        finishToken, default, 8⟩ =
      .ok (joinTrees .either (.bool default true)
        (joinTrees .both
          (joinTrees .notEqual (.bool default false) (.bool default true))
          (.bool default false)), rest) ∧ rest.rest = [closing] ∧ rest.finish = finishToken := by
  intro closing
  have tree_eq : chainTree (truthOperand true) wordLinks =
      joinTrees .either (.bool default true)
        (joinTrees .both
          (joinTrees .notEqual (.bool default false) (.bool default true))
          (.bool default false)) := by
    simp [wordLinks, chainTree, cutLoosest, BinaryOperator.precedence, truthOperand]
  rw [← tree_eq]
  apply binary_reads_chainTree
  · decide
  · exact ⟨rfl, rfl, by decide, rfl, rfl, rfl⟩

end Parser
end Scriptlet
