import Scriptlet.Proofs.Parser.Items
import Scriptlet.Proofs.Scope.Paths

/-!
# Items of arrays

The items of arrays are read when a name with indices in brackets is looked up, and when the
expression is evaluated that the text of the name is read as.  The indices are numbers read by two
readers, which agree on digits.  On arrays both apply them alike, so by induction on the indices the
names of items denote what the expressions do.
-/

namespace Scriptlet

open Text
open Scriptlet.Parser (expandPath)

/-! ## Names of items -/

/-- An index as it is written in the name of an item. -/
def indexText (index : Nat) : String :=
  String.ofList (Nat.toDigits 10 index)

theorem length_le_length_bracketed (indices : List Nat) :
    indices.length ≤ (bracketed indices).length := by
  induction indices with
  | nil => exact Nat.le_refl 0
  | cons index rest ih =>
      simp only [bracketed, List.length_cons, List.length_append]
      omega

theorem bracketedIndices_bracketed {fuel : Nat} {indices : List Nat} (nonempty : indices ≠ [])
    (enough : indices.length ≤ fuel) :
    bracketedIndices fuel (bracketed indices) = some (indices.map (Nat.toDigits 10)) := by
  induction indices generalizing fuel with
  | nil => exact absurd rfl nonempty
  | cons index rest ih =>
      obtain ⟨fuel, rfl⟩ : ∃ less, fuel = less + 1 :=
        ⟨fuel - 1, by simp only [List.length_cons] at enough; omega⟩
      have inside : ∀ c ∈ Nat.toDigits 10 index, (c != '[' && c != ']') = true := by
        intro c found
        have digit := Number.isDigit_of_mem_toDigits found
        have notOpen := Number.ne_of_isDigit digit (show isDigit '[' = false by decide)
        have notClose := Number.ne_of_isDigit digit (show isDigit ']' = false by decide)
        simp [notOpen, notClose]
      have run : (Nat.toDigits 10 index ++ ']' :: bracketed rest).takeWhile
          (fun c => c != '[' && c != ']') = Nat.toDigits 10 index := by
        rw [List.takeWhile_append_of_pos inside]
        simp
      rw [bracketed, bracketedIndices]
      simp only [run, List.drop_left]
      cases rest with
      | nil => rfl
      | cons next more =>
          have later := @ih fuel (by simp) (by simpa using enough)
          change Option.map (Nat.toDigits 10 index :: ·)
            (bracketedIndices fuel (bracketed (next :: more))) = _
          rw [later]
          rfl

/-- The name of an item is taken apart into the path and the indices. -/
theorem itemName?_itemName {base : String} (isPath : Lexer.IsPath base.toList)
    (starts : ∀ c ∈ base.toList.head?, startsItemName c = true) {indices : List Nat}
    (nonempty : indices ≠ []) :
    itemName? (itemName base indices) = some (base, indices.map indexText) := by
  obtain ⟨⟨c, tail, base_eq, -⟩, plain⟩ := isPath
  have name_eq : (itemName base indices).toList = c :: (tail ++ bracketed indices) := by
    simp [itemName, base_eq]
  have opens : startsItemName c = true := starts c (by simp [base_eq])
  have inside : ∀ d ∈ tail, (isNamePart d || d == '.') = true := fun d found => by
    simpa using plain d (by simp [base_eq, found])
  have noPart : isNamePart '[' = false := by decide +kernel
  have run : (tail ++ bracketed indices).takeWhile (fun c => isNamePart c || c == '.') = tail := by
    rw [List.takeWhile_append_of_pos inside]
    cases indices with
    | nil => simp [bracketed]
    | cons index rest => simp [bracketed, noPart]
  have bounded : indices.length ≤ (itemName base indices).length := by
    have shorter := length_le_length_bracketed indices
    rw [← String.length_toList, name_eq]
    simp only [List.length_cons, List.length_append]
    omega
  unfold itemName?
  rw [name_eq]
  simp only [opens, if_true, run, List.drop_left, bracketedIndices_bracketed nonempty bounded,
    Option.map_some, List.map_map]
  rw [← base_eq, String.ofList_toList]
  rfl

/-! ## One index -/

theorem indexNumber_eq (index : Nat) : indexNumber index = (Number.Numeral.ofInt index).value := by
  have digits : ∀ c ∈ Nat.toDigits 10 index, isDigit c = true := fun _ =>
    Number.isDigit_of_mem_toDigits
  have whole : (Nat.toDigits 10 index).takeWhile isDigit = Nat.toDigits 10 index :=
    List.takeWhile_eq_self_iff.mpr digits
  have fraction : (Nat.toDigits 10 index).dropWhile isDigit = [] :=
    List.dropWhile_eq_nil_iff.mpr digits
  simp [indexNumber, Number.ofLexeme, whole, fraction, Number.Numeral.value,
    Number.Numeral.magnitude, Number.Numeral.shift, Number.Numeral.ofInt]

/-- The digits of an index are read as the same number in a name and in an expression. -/
theorem read?_indexText (index : Nat) :
    Number.read? (indexText index).toList = some (indexNumber index) := by
  have read := Number.Numeral.read?_text (Number.Numeral.ofInt_valid index)
  rw [Number.Numeral.text_ofInt, ← indexNumber_eq] at read
  rw [← read, indexText, String.toList_ofList]
  exact congrArg Number.read? Nat.toList_repr.symm

theorem askStore_bind {α β : Type} (first : Store → Except Fault α)
    (next : Store → α → Except Fault β) :
    Machine.askStore (fun store => first store >>= next store) =
      Machine.askStore first >>= fun value => Machine.askStore fun store => next store value := by
  funext machine
  cases answer : first machine.store with
  | ok value =>
      rw [bind_of_ok (askStore_of_ok first answer)]
      simp only [Machine.askStore, answer]
      rfl
  | error fault =>
      rw [bind_of_error (askStore_of_error first answer)]
      refine askStore_of_error (fun store => first store >>= next store) ?_
      rw [answer]
      rfl

section Position

variable {store : Store} {id : ArrayId} {index i : Nat}

theorem itemAt_of_toIndex? (name : String)
    (position : Number.toIndex? (indexNumber index) (store.items id).size = some i) :
    itemAt store name (.array id) (indexText index) = .ok ((store.items id).getD i .absent) := by
  simp only [itemAt, read?_indexText, position]

theorem readIndex_of_toIndex? (room : Nat)
    (position : Number.toIndex? (indexNumber index) (store.items id).size = some i) :
    Store.readIndex room (.array id) (.number (indexNumber index)) store =
      .ok ((store.items id).getD i .absent) store := by
  rw [Store.readIndex, bind_of_ok (rfl : (get : StoreM Store) store = .ok store store)]
  simp only [Store.length?, position]
  rfl

end Position

/-- An index of an array reads the same in a lookup and in an evaluation. -/
theorem itemAt_sameReading (spare room : Nat) (name : String) (id : ArrayId) (index : Nat)
    (machine : Machine) :
    SameReading spare
      (Machine.askStore (fun store => itemAt store name (.array id) (indexText index)) machine)
      (Machine.onStore
        (Store.readIndex room (.array id) (.number (indexNumber index))) machine) := by
  let question (store : Store) := itemAt store name (.array id) (indexText index)
  change SameReading spare (Machine.askStore question machine) _
  cases position : Number.toIndex? (indexNumber index) (machine.store.items id).size with
  | some i =>
      rw [askStore_of_ok question (itemAt_of_toIndex? name position),
        onStore_of_ok (readIndex_of_toIndex? room position)]
      exact .found _ machine
  | none =>
      obtain ⟨fault, refused, first⟩ : ∃ fault : Fault,
          question machine.store = .error fault ∧ fault.IsUnbound := by
        simp only [question, itemAt, read?_indexText, position]
        exact ⟨_, rfl, Fault.isUnbound_undefinedName ..⟩
      have shown : machine.store.display room false (.number (indexNumber index)) =
          .ok (Number.display (indexNumber index)) := by
        rw [Store.display]
      obtain ⟨fault', refused', second⟩ : ∃ fault' : Fault,
          Store.readIndex room (.array id) (.number (indexNumber index)) machine.store =
            .error fault' machine.store ∧ fault'.IsUnbound := by
        rw [Store.readIndex,
          bind_of_ok (rfl : (get : StoreM Store) machine.store = .ok machine.store machine.store)]
        simp only [Store.length?, position, shown]
        exact ⟨_, rfl, Fault.isUnbound_undefinedName ..⟩
      rw [askStore_of_error question refused, onStore_of_error refused']
      exact .unbound machine first second

/-! ## Items -/

/-- The lookup of a path and of the items that indices denote after it. -/
def followItems (room : Nat) (scope : ScopeId) (levels : Nat) (name base : String)
    (indices : List Nat) : MachineM Value := do
  let value ← lookupName room scope levels base
  Machine.askStore fun store => (indices.map indexText).foldlM (itemAt store name) value

theorem followItems_nil (room : Nat) (scope : ScopeId) (levels : Nat) (name base : String) :
    followItems room scope levels name base [] = lookupName room scope levels base :=
  bind_pure _

theorem followItems_snoc (room : Nat) (scope : ScopeId) (levels : Nat) (name base : String)
    (indices : List Nat) (index : Nat) :
    followItems room scope levels name base (indices ++ [index]) =
      followItems room scope levels name base indices >>= fun value =>
        Machine.askStore fun store => itemAt store name value (indexText index) := by
  unfold followItems
  simp only [List.map_append, List.map_cons, List.map_nil, List.foldlM_append, List.foldlM_cons,
    List.foldlM_nil, bind_pure, askStore_bind, bind_assoc]

/-- The name of an item that no scope binds is followed from its path. -/
theorem lookupName_item (room : Nat) {scope : ScopeId} (levels : Nat) {base : String}
    (isPath : Lexer.IsPath base.toList)
    (starts : ∀ c ∈ base.toList.head?, startsItemName c = true) {indices : List Nat}
    (nonempty : indices ≠ []) {machine : Machine}
    (unbound : machine.scopes.lookup? (itemName base indices) scope = none) :
    lookupName room scope (levels + 1) (itemName base indices) machine =
      followItems room scope levels (itemName base indices) base indices machine := by
  rw [lookupName, bind_of_ok (rfl : (get : MachineM Machine) machine = .ok machine machine),
    unbound, itemName?_itemName isPath starts nonempty]
  rfl

theorem evaluate_number (context : Context) (room : Nat) (span : Span) (x : Float)
    (machine : Machine) :
    evaluate context (room + 5) (.number span x) machine = .ok (.number x) machine :=
  rfl

/-- Whatever an expression takes items of is an array. -/
def Expr.IndexesArrays (context : Context) (machine : Machine) : Expr → Prop
  | .index _ object _ => object.IndexesArrays context machine ∧
      ∀ room value after, evaluate context room object machine = .ok value after →
        ∃ id, value = .array id
  | _ => True

variable {spare less more : Nat}

/-- Items of arrays are followed as they are evaluated, from the inside to the outside. -/
theorem items_sameReading {context : Context} {base : String} (name : String)
    (isPath : Lexer.IsPath base.toList) (levels : Nat) {machine : Machine}
    (free : Parser.isDotted base = true → machine.scopes.lookup? base context.scope = none)
    {indices : List Nat} {expression : Expr} (isItem : expression.IsItem base indices)
    (arrays : expression.IndexesArrays context machine)
    (enough : 2 * (cutAt '.' base.toList).length + 3 + 3 * indices.length + spare ≤ less)
    (le : less ≤ more) :
    SameReading spare (followItems more context.scope (levels + 2) name base indices machine)
      (evaluate context less expression machine) := by
  induction isItem generalizing less with
  | path start =>
      rw [followItems_nil]
      exact lookupName_sameReading isPath levels start free (by simpa using enough) le
  | @item front object index span place before ih =>
      rw [List.length_append, List.length_singleton] at enough
      have segments := List.length_pos_iff.mpr (cutAt_ne_nil '.' base.toList)
      obtain ⟨less, rfl⟩ : ∃ other, less = other + 8 := ⟨less - 8, by omega⟩
      rw [followItems_snoc]
      have inside := @ih (less + 5) arrays.1 (by omega) (by omega)
      refine .locating (.bind inside fun receiver middle evaluated => ?_)
      obtain ⟨id, rfl⟩ := arrays.2 _ _ _ evaluated
      rw [bind_of_ok (evaluate_number context less place (indexNumber index) middle)]
      exact itemAt_sameReading spare (less + 5) name id index middle

/-- The name of an item that no scope binds, nor its path if that is dotted, denotes what the
expression denotes that the parser makes of it, as long as items are only taken of arrays: the
value, and how it fails to exist.  For any number of indices of any size the text of the name is
such an expression. -/
theorem resolve_itemName {context : Context} {base : String} {file : Option String}
    {token finish : Token} (lexed : Lexer.lex base file = .ok [token, finish])
    (named : token.lexical = .name base)
    (starts : ∀ c ∈ base.toList.head?, startsItemName c = true) {indices : List Nat}
    (nonempty : indices ≠ []) {machine : Machine}
    (unbound : machine.scopes.lookup? (itemName base indices) context.scope = none)
    (free : Parser.isDotted base = true → machine.scopes.lookup? base context.scope = none)
    {allowance : Nat} (allowed : 14 ≤ allowance) :
    ∃ program span expression,
      Program.ofSource allowance (itemName base indices) file = .ok program ∧
      program.body = [.expression span expression] ∧ expression.IsItem base indices ∧
      (expression.IndexesArrays context machine →
        ∀ spare less more,
          2 * (cutAt '.' base.toList).length + 3 + 3 * indices.length + spare ≤ less →
            less ≤ more →
            SameReading spare (resolve more context.scope (itemName base indices) machine)
              (evaluate context less expression machine)) := by
  have isPath := Lexer.isPath_of_lex lexed List.mem_cons_self named
  have alone := Lexer.readsAlone_of_lex lexed List.mem_cons_self named
  obtain ⟨program, span, expression, parsed, body_eq, isItem⟩ :=
    Program.ofSource_itemName alone indices allowed file
  refine ⟨program, span, expression, parsed, body_eq, isItem, ?_⟩
  intro arrays spare less more enough le
  unfold resolve
  rw [lookupName_item more 2 isPath starts nonempty unbound]
  exact items_sameReading _ isPath 0 free isItem arrays enough le

/-- A machine with two arrays of one text each.  The first one is bound to a plain name and to the
dotted name of a field that holds the second one. -/
def arraysMachine : Machine where
  scopes := #[{ name := "global", parent := none, bindings :=
    [("list", .array 0), ("record", .host 0), ("record.list", .array 0)] }]
  disk := (FileTree.directory []).disk "/"
  store :=
    { arrays := #[#[.text "bound"], #[.text "field"]]
      objects := #[.record "object" [("list", .value (.array 1))]] }

theorem evaluate_list {room : Nat} {start : Location} {value : Value} {after : Machine}
    (evaluated :
      evaluate ⟨0, 0, 0⟩ room (expandPath "list" start) arraysMachine = .ok value after) :
    value = .array 0 := by
  match room with
  | 0 | 1 | 2 | 3 | 4 => cases evaluated
  | room + 5 =>
      have found : evaluate ⟨0, 0, 0⟩ (room + 5) (expandPath "list" start) arraysMachine =
          .ok (.array 0) arraysMachine := rfl
      cases found.symm.trans evaluated
      rfl

theorem resolve_itemName_of_list :
    ∃ token finish, Lexer.lex "list" none = .ok [token, finish] ∧ token.lexical = .name "list" ∧
      arraysMachine.scopes.lookup? (itemName "list" [0]) 0 = none ∧
      ∃ program span expression, Program.ofSource 14 (itemName "list" [0]) none = .ok program ∧
        program.body = [.expression span expression] ∧ expression.IsItem "list" [0] ∧
        expression.IndexesArrays ⟨0, 0, 0⟩ arraysMachine ∧
        SameReading 0 (resolve 8 0 (itemName "list" [0]) arraysMachine)
          (evaluate ⟨0, 0, 0⟩ 8 expression arraysMachine) := by
  have unbound : arraysMachine.scopes.lookup? (itemName "list" [0]) 0 = none := by decide
  have lexed : Lexer.lex "list" none = .ok [_, _] := rfl
  have starts : ∀ c ∈ "list".toList.head?, startsItemName c = true := by simp [startsItemName]
  refine ⟨_, _, lexed, rfl, unbound, ?_⟩
  obtain ⟨program, span, expression, parsed, body_eq, isItem, same⟩ :=
    @resolve_itemName ⟨0, 0, 0⟩ _ _ _ _ lexed rfl starts [0] (by decide) _ unbound (by decide)
      14 (Nat.le_refl 14)
  have arrays : expression.IndexesArrays ⟨0, 0, 0⟩ arraysMachine := by
    obtain ⟨start, span, place, rfl⟩ := isItem.of_singleton
    exact ⟨trivial, fun room value after evaluated => ⟨0, evaluate_list evaluated⟩⟩
  exact ⟨program, span, expression, parsed, body_eq, isItem, arrays,
    same arrays 0 8 8 (by decide) (Nat.le_refl 8)⟩

theorem evaluate_record_list {room : Nat} {start : Location} {value : Value} {after : Machine}
    (evaluated : evaluate ⟨0, 0, 0⟩ room (expandPath "record.list" start) arraysMachine =
      .ok value after) : value = .array 1 := by
  match room with
  | 0 | 1 | 2 | 3 | 4 | 5 | 6 => cases evaluated
  | room + 7 =>
      have found : evaluate ⟨0, 0, 0⟩ (room + 7) (expandPath "record.list" start) arraysMachine =
          .ok (.array 1) arraysMachine := rfl
      cases found.symm.trans evaluated
      rfl

/-- A dotted name that is bound as a whole is found in its place, but the expression
reads the field. -/
theorem resolve_itemName_of_bound_path :
    ∃ token finish, Lexer.lex "record.list" none = .ok [token, finish] ∧
      token.lexical = .name "record.list" ∧
      arraysMachine.scopes.lookup? (itemName "record.list" [0]) 0 = none ∧
      ∃ program span expression,
        Program.ofSource 14 (itemName "record.list" [0]) none = .ok program ∧
        program.body = [.expression span expression] ∧
        expression.IndexesArrays ⟨0, 0, 0⟩ arraysMachine ∧
        resolve 20 0 (itemName "record.list" [0]) arraysMachine =
          .ok (.text "bound") arraysMachine ∧
        evaluate ⟨0, 0, 0⟩ 20 expression arraysMachine = .ok (.text "field") arraysMachine := by
  have lexed : Lexer.lex "record.list" none = .ok [_, _] := rfl
  have isPath : Lexer.IsPath "record.list".toList :=
    Lexer.isPath_of_lex lexed List.mem_cons_self rfl
  have alone : Lexer.ReadsAlone "record.list" :=
    Lexer.readsAlone_of_lex lexed List.mem_cons_self rfl
  have starts : ∀ c ∈ "record.list".toList.head?, startsItemName c = true := by
    simp [startsItemName]
  have unbound : arraysMachine.scopes.lookup? (itemName "record.list" [0]) 0 = none := by decide
  have bound : Number.toIndex? (indexNumber 0) (arraysMachine.store.items 0).size = some 0 := by
    decide +kernel
  have field : Number.toIndex? (indexNumber 0) (arraysMachine.store.items 1).size = some 0 := by
    decide +kernel
  refine ⟨_, _, lexed, rfl, unbound, ?_⟩
  obtain ⟨program, span, expression, parsed, body_eq, isItem⟩ :=
    Program.ofSource_itemName alone [0] (Nat.le_refl 14) none
  refine ⟨program, span, expression, parsed, body_eq, ?_⟩
  obtain ⟨start, span, place, rfl⟩ := isItem.of_singleton
  refine ⟨⟨trivial, fun room value after evaluated => ⟨1, evaluate_record_list evaluated⟩⟩, ?_, ?_⟩
  · have path : lookupName 20 0 2 "record.list" arraysMachine = .ok (.array 0) arraysMachine := rfl
    let question (store : Store) :=
      [indexText 0].foldlM (itemAt store (itemName "record.list" [0])) (.array 0)
    have answer : question arraysMachine.store = .ok (.text "bound") := by
      simp only [question, List.foldlM_cons, List.foldlM_nil, bind_pure]
      exact itemAt_of_toIndex? _ bound
    have followed : followItems 20 0 2 _ "record.list" [0] arraysMachine =
        Machine.askStore question arraysMachine := bind_of_ok path
    exact (lookupName_item 20 2 isPath starts (by decide) unbound).trans
      (followed.trans (askStore_of_ok question answer))
  · have path : evaluate ⟨0, 0, 0⟩ 17 (expandPath "record.list" start) arraysMachine =
        .ok (.array 1) arraysMachine := rfl
    have number := evaluate_number ⟨0, 0, 0⟩ 12 place (indexNumber 0) arraysMachine
    have read : Machine.onStore (Store.readIndex 17 (.array 1) (.number (indexNumber 0)))
        arraysMachine = .ok (.text "field") arraysMachine :=
      onStore_of_ok (readIndex_of_toIndex? 17 field)
    rw [evaluate, locating, mapFault_ok_iff, bind_of_ok path, bind_of_ok number]
    exact read

end Scriptlet
