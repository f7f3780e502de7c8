import Scriptlet.Proofs.Parser.Spelling
import Scriptlet.Proofs.Parser.Standing
import Scriptlet.Proofs.Scope.Reading

/-!
# Paths of names

The members on a dotted name are read when the name is looked up, segment by segment, and when the
expression that the parser makes of the name is evaluated, from the inside to the outside.  One
segment reads the same in both ways, so by induction on the segments the whole path does.
-/

namespace Scriptlet

open Text
open Scriptlet.Parser (cutAt_flatMap expandPath expandPath_of_cutAt extendPath)

/-! ## Names -/

/-- A name without brackets is not the name of an item. -/
theorem itemName?_of_path {name : String}
    (plain : ∀ c ∈ name.toList, isNamePart c = true ∨ c = '.') : itemName? name = none := by
  unfold itemName?
  split
  · rfl
  · rename_i c rest name_eq
    split
    · have whole : rest.takeWhile (fun c => isNamePart c || c == '.') = rest := by
        refine List.takeWhile_eq_self_iff.mpr fun d found => ?_
        simpa using plain d (by simp [name_eq, found])
      dsimp only
      rw [whole, List.drop_length]
      cases name.length <;> rfl
    · rfl

/-- A name of a single segment is looked up in the scopes only. -/
theorem lookupName_plain (room : Nat) (scope : ScopeId) (levels : Nat) {name : String}
    (noItem : itemName? name = none) (plain : cutAt '.' name.toList = [name.toList])
    (machine : Machine) :
    lookupName room scope (levels + 1) name machine =
      match machine.scopes.lookup? name scope with
      | some value => .ok value machine
      | none => .error (.ofCause (.undefinedName name .unbound)) machine := by
  rw [lookupName, bind_of_ok (rfl : (get : MachineM Machine) machine = .ok machine machine)]
  cases machine.scopes.lookup? name scope with
  | some value => rfl
  | none =>
      rw [noItem, plain]
      rfl

/-- The lookup of a first name and of the segments after it. -/
def followPath (room : Nat) (scope : ScopeId) (levels : Nat) (path first : String)
    (segments : List String) : MachineM Value := do
  let value ← lookupName room scope levels first
  Machine.onStore (segments.foldlM (segmentOf room path) value)

theorem onStore_bind {α β : Type} (first : StoreM α) (next : α → StoreM β) :
    Machine.onStore (first >>= next) =
      Machine.onStore first >>= fun value => Machine.onStore (next value) := by
  funext machine
  cases run : first machine.store with
  | ok value store =>
      rw [bind_of_ok (onStore_of_ok run)]
      simp only [Machine.onStore, bind_of_ok run]
  | error fault store =>
      rw [bind_of_error (onStore_of_error run), onStore_of_error (bind_of_error run)]

theorem onStore_eq {α : Type} {first second : StoreM α} {machine : Machine} {after : Store}
    (same : first machine.store = second after) :
    Machine.onStore first machine = Machine.onStore second { machine with store := after } := by
  simp only [Machine.onStore, same]

theorem followPath_nil (room : Nat) (scope : ScopeId) (levels : Nat) (path first : String) :
    followPath room scope levels path first [] = lookupName room scope levels first :=
  bind_pure _

theorem followPath_snoc (room : Nat) (scope : ScopeId) (levels : Nat) (path first : String)
    (segments : List String) (segment : String) :
    followPath room scope levels path first (segments ++ [segment]) =
      followPath room scope levels path first segments >>= fun value =>
        Machine.onStore (segmentOf room path value segment) := by
  unfold followPath
  simp only [List.foldlM_append, List.foldlM_cons, List.foldlM_nil, bind_pure, onStore_bind,
    bind_assoc]

/-- A path that no scope binds is followed from its first name. -/
theorem lookupName_path (room : Nat) {scope : ScopeId} (levels : Nat) {path : String}
    (noItem : itemName? path = none) {first second : List Char} {rest : List (List Char)}
    (parts : cutAt '.' path.toList = first :: second :: rest) {machine : Machine}
    (unbound : machine.scopes.lookup? path scope = none) :
    lookupName room scope (levels + 1) path machine =
      followPath room scope levels path (String.ofList first)
        ((second :: rest).map String.ofList) machine := by
  rw [lookupName, bind_of_ok (rfl : (get : MachineM Machine) machine = .ok machine machine),
    unbound, noItem, parts]
  rfl

/-! ## One segment -/

variable {spare less more : Nat}

theorem segmentOf_of_ne_absent (room : Nat) (path segment : String) {receiver : Value}
    (present : receiver ≠ .absent) :
    segmentOf room path receiver segment = (do
      match ← Store.member? receiver segment with
      | some member => Store.memberValue room receiver member
      | none => throw (.ofCause (.undefinedName path (.noSegment segment)))) := by
  cases receiver <;> first | rfl | exact absurd rfl present

theorem readMember_of_ne_absent (room : Nat) (segment : String) {receiver : Value}
    (present : receiver ≠ .absent) :
    Store.readMember room receiver segment = (do
      match ← Store.member? receiver segment with
      | some member => return member
      | none =>
          let owner ← ofExcept ((← get).describe room receiver)
          throw (.ofCause (.undefinedName segment (.noMember owner segment)))) := by
  cases receiver <;> first | rfl | exact absurd rfl present

/-- A member is the same value however much room there is, unless its receiver cannot be copied. -/
theorem memberValue_sameReading (fits : spare ≤ less) (le : less ≤ more) (receiver : Value)
    (member : Member) (machine : Machine) :
    SameReading spare (Machine.onStore (Store.memberValue more receiver member) machine)
      (Machine.onStore (Store.memberValue less receiver member) machine) := by
  have steady := memberValue_steady (D := .bare) (A := .lax) more receiver
    (Discipline.bare_member member)
  have same : SameReading spare _ _ := .of_steady steady machine
  cases member with
  | value value => exact same
  | method method =>
      cases method with
      | standard method => exact same
      | hosted method =>
          let copying (room : Nat) (store : Store) := store.unwrap room receiver
          let making (data : Data) : StoreM Value := do
            return .host (← Store.addNative method.name (.boundCopy method data))
          let bound (room : Nat) : StoreM Value :=
            get >>= fun store => ofExcept (copying room store) >>= making
          change SameReading spare (Machine.onStore (bound more) machine)
            (Machine.onStore (bound less) machine)
          cases copied : machine.store.unwrap less receiver with
          | error fault =>
              obtain rfl := Store.unwrap_fails_exhausted less receiver fault copied
              rw [onStore_of_error (asking_of_error (copying less) making copied)]
              exact .uncopied fits copied
          | ok data =>
              -- both make the function of the same copy
              have first := asking_of_ok (copying more) making (Store.unwrap_mono copied le)
              have second := asking_of_ok (copying less) making copied
              have looked : Machine.onStore (bound more) machine =
                  Machine.onStore (making data) machine := onStore_eq first
              have evaluated : Machine.onStore (bound less) machine =
                  Machine.onStore (making data) machine := onStore_eq second
              rw [looked, evaluated]
              exact .found _ _

/-- One segment of a path reads the same in a lookup and in an evaluation. -/
theorem segment_sameReading (fits : spare ≤ less) (le : less ≤ more) (path : String)
    (receiver : Value) (segment : String) (machine : Machine) :
    SameReading spare (Machine.onStore (segmentOf more path receiver segment) machine)
      (Machine.onStore (do
        let member ← Store.readMember less receiver segment
        Store.memberValue less receiver member) machine) := by
  by_cases present : receiver = .absent
  · subst present
    exact .undefined ..
  rw [segmentOf_of_ne_absent more path segment present,
    readMember_of_ne_absent less segment present, bind_assoc, onStore_bind, onStore_bind]
  have steady := member?_steady (D := .bare) (A := .lax) receiver segment
  refine .bind (.of_steady steady.any machine) fun found middle _ => ?_
  cases found with
  | some member =>
      simp only [pure_bind]
      exact memberValue_sameReading fits le receiver member middle
  | none =>
      let fault := Fault.ofCause (.undefinedName path (.noSegment segment))
      let describing (store : Store) := store.describe less receiver
      let wording (owner : String) : StoreM Member :=
        throw (.ofCause (.undefinedName segment (.noMember owner segment)))
      let failing : StoreM Member := get >>= fun store => ofExcept (describing store) >>= wording
      have looked : Machine.onStore (throw fault : StoreM Value) middle = .error fault middle :=
        onStore_of_error rfl
      have evaluated {fault : Fault} (fails : failing middle.store = .error fault middle.store) :
          Machine.onStore (failing >>= Store.memberValue less receiver) middle =
            .error fault middle := onStore_of_error (bind_of_error fails)
      cases described : describing middle.store with
      | ok owner =>
          have fails := evaluated (asking_of_ok describing wording described)
          exact looked ▸ fails ▸ .undefined ..
      | error cause =>
          have fails := evaluated (asking_of_error describing wording described)
          exact looked ▸ fails ▸
            .undescribed fits (Fault.isUnbound_undefinedName ..) described .kept

/-- The member that a call reads is the one that a lookup makes a value of. -/
theorem segmentOf_of_readMember {receiver : Value} {segment : String} {member : Member}
    {store after : Store} (read : Store.readMember less receiver segment store = .ok member after)
    (path : String) :
    segmentOf more path receiver segment store = Store.memberValue more receiver member after := by
  have present : receiver ≠ .absent := by
    rintro rfl
    cases read
  rw [readMember_of_ne_absent less segment present] at read
  rw [segmentOf_of_ne_absent more path segment present]
  obtain ⟨found, middle, run, read⟩ := bind_ok read
  rw [bind_of_ok run]
  cases found with
  | some found =>
      cases read
      rfl
  | none =>
      obtain ⟨store, _, -, read⟩ := bind_ok read
      obtain ⟨owner, _, -, read⟩ := bind_ok read
      cases read

/-! ## Whole paths -/

/-- A path is followed as its members are evaluated, from the inside to the outside. -/
theorem members_sameReading {context : Context} (path : String) {first : List Char}
    (noItem : itemName? (String.ofList first) = none) (plain : '.' ∉ first) (levels : Nat)
    (start : Location) (rootSpan : Span) (width : Nat) (machine : Machine)
    (segments : List (List Char)) (enough : 2 * segments.length + 5 + spare ≤ less)
    (le : less ≤ more) :
    SameReading spare
      (followPath more context.scope (levels + 1) path (String.ofList first)
        (segments.map String.ofList) machine)
      (evaluate context less
        (segments.foldl (extendPath start) (.name rootSpan (String.ofList first), width)).1
        machine) := by
  have alone : cutAt '.' (String.ofList first).toList = [(String.ofList first).toList] :=
    cutAt_of_not_mem (by simpa using plain)
  induction segments using List.reverseRecOn generalizing less with
  | nil =>
      obtain ⟨less, rfl⟩ : ∃ other, less = other + 5 := ⟨less - 5, by simp at enough; omega⟩
      rw [List.map_nil, followPath_nil, lookupName_plain more _ levels noItem alone]
      have same : SameReading spare
          (match machine.scopes.lookup? (String.ofList first) context.scope with
            | some value => .ok value machine
            | none => .error (.ofCause (.undefinedName (String.ofList first) .unbound)) machine)
          (resolve (less + 3) context.scope (String.ofList first) machine) := by
        unfold resolve
        rw [lookupName_plain (less + 3) context.scope 2 noItem alone machine]
        split
        · exact .found _ machine
        · exact .undefined ..
      exact same.locating
  | append_singleton front segment ih =>
      rw [List.length_append, List.length_singleton] at enough
      obtain ⟨less, rfl⟩ : ∃ other, less = other + 5 := ⟨less - 5, by omega⟩
      rw [List.map_append, List.map_singleton, followPath_snoc, List.foldl_append]
      have before := @ih (less + 3) (by omega) (by omega)
      refine .locating (.bind before fun receiver middle _ => ?_)
      exact segment_sameReading (by omega) (by omega) path receiver _ middle

/-- The first segment of a path is a plain name. -/
theorem first_of_isPath {path : String} (isPath : Lexer.IsPath path.toList) {first : List Char}
    {rest : List (List Char)} (parts : cutAt '.' path.toList = first :: rest) :
    itemName? (String.ofList first) = none ∧ '.' ∉ first := by
  have plain : '.' ∉ first := not_mem_of_mem_cutAt (parts ▸ List.mem_cons_self)
  refine ⟨itemName?_of_path fun c found => ?_, plain⟩
  rw [String.toList_ofList] at found
  refine isPath.2 c ?_
  rw [cutAt_flatMap '.' _ parts]
  exact List.mem_append_left _ found

/-- A path that is not a dotted name bound as a whole is looked up as its members are evaluated. -/
theorem lookupName_sameReading {context : Context} {path : String}
    (isPath : Lexer.IsPath path.toList) (levels : Nat) (start : Location) {machine : Machine}
    (free : Parser.isDotted path = true → machine.scopes.lookup? path context.scope = none)
    (enough : 2 * (cutAt '.' path.toList).length + 3 + spare ≤ less) (le : less ≤ more) :
    SameReading spare (lookupName more context.scope (levels + 2) path machine)
      (evaluate context less (expandPath path start) machine) := by
  cases parts : cutAt '.' path.toList with
  | nil => exact absurd parts (cutAt_ne_nil _ _)
  | cons first rest =>
      obtain ⟨noItem, plain⟩ := first_of_isPath isPath parts
      rw [parts, List.length_cons] at enough
      rw [expandPath_of_cutAt start parts]
      have whole := cutAt_flatMap '.' _ parts
      cases rest with
      | nil =>
          have same : SameReading spare _ (evaluate context less _ machine) :=
            members_sameReading path noItem plain (levels + 1) start
              ⟨start, start.shift first.length⟩ first.length machine [] enough le
          have alone : String.ofList first = path := by
            rw [← String.ofList_toList (s := path), whole, List.flatMap_nil, List.append_nil]
          rw [List.map_nil, followPath_nil] at same
          rw [alone] at same ⊢
          exact same
      | cons second rest =>
          have dotted : Parser.isDotted path = true := by simp [Parser.isDotted, whole]
          rw [lookupName_path more (levels + 1) (itemName?_of_path isPath.2) parts (free dotted)]
          exact members_sameReading path noItem plain levels start _ _ machine _ enough le

/-- A dotted name that no scope binds as a whole denotes what the members denote that the parser
makes of it, in all respects: the value, what is made on the way to it, and how it fails to exist.
What room the evaluation has beyond its steps is there for copies and for texts of receivers.  So an
object is constructed by the function that is called when the name is called. -/
theorem resolve_expandPath {context : Context} {path : String} {file : Option String}
    {token finish : Token} (lexed : Lexer.lex path file = .ok [token, finish])
    (named : token.lexical = .name path) {machine : Machine}
    (unbound : machine.scopes.lookup? path context.scope = none) (start : Location)
    (enough : 2 * (cutAt '.' path.toList).length + 3 + spare ≤ less) (le : less ≤ more) :
    SameReading spare (resolve more context.scope path machine)
        (evaluate context less (expandPath path start) machine) ∧
      ∀ span object field, expandPath path start = .member span object field →
        ∀ room ≤ more, 2 * (cutAt '.' path.toList).length + 1 ≤ room →
          ∀ receiver middle, evaluate context room object machine = .ok receiver middle →
            ∀ member after, Store.readMember room receiver field middle.store = .ok member after →
              resolve more context.scope path machine =
                Machine.onStore (Store.memberValue more receiver member)
                  { middle with store := after } := by
  have isPath := Lexer.isPath_of_lex lexed List.mem_cons_self named
  refine ⟨lookupName_sameReading isPath 1 start (fun _ => unbound) enough le, ?_⟩
  intro span object field expanded room le' enough' receiver middle evaluated member after read
  cases parts : cutAt '.' path.toList with
  | nil => exact absurd parts (cutAt_ne_nil _ _)
  | cons first rest =>
      obtain ⟨noItem, plain⟩ := first_of_isPath isPath parts
      rw [expandPath_of_cutAt start parts] at expanded
      rw [parts, List.length_cons] at enough'
      obtain rfl | ⟨front, last, rfl⟩ := List.eq_nil_or_concat' rest
      · cases expanded
      · rw [List.length_append, List.length_singleton] at enough'
        rw [List.foldl_append] at expanded
        cases expanded
        have before : SameReading 0 _ (evaluate context room _ machine) :=
          members_sameReading path noItem plain 1 start ⟨start, start.shift first.length⟩
            first.length machine front (by omega) le'
        have followed := before.looked_ok evaluated
        have dotted : ∃ second rest, front ++ [last] = second :: rest := by
          cases front <;> exact ⟨_, _, rfl⟩
        obtain ⟨second, rest, split⟩ := dotted
        unfold resolve
        rw [lookupName_path more 2 (itemName?_of_path isPath.2) (split ▸ parts) unbound, ← split,
          List.map_append, List.map_singleton, followPath_snoc, bind_of_ok followed]
        exact onStore_eq (segmentOf_of_readMember read path)

/-- A machine whose only scope binds a text. -/
def textMachine : Machine where
  scopes := #[{ name := "global", parent := none, bindings := [("t", .text "abc")] }]
  disk := (FileTree.directory []).disk "/"

/-- The member after the first one does not exist. -/
theorem resolve_expandPath_of_text :
    ∃ token finish, Lexer.lex "t.length.half" none = .ok [token, finish] ∧
      token.lexical = .name "t.length.half" ∧ textMachine.scopes.lookup? "t.length.half" 0 = none ∧
      SameReading 0 (resolve 9 0 "t.length.half" textMachine)
        (evaluate ⟨0, 0, 0⟩ 9 (expandPath "t.length.half" default) textMachine) := by
  have unbound : textMachine.scopes.lookup? "t.length.half" 0 = none := by decide
  have lexed : Lexer.lex "t.length.half" none = .ok [_, _] := rfl
  refine ⟨_, _, lexed, rfl, unbound, ?_⟩
  exact (@resolve_expandPath 0 9 9 ⟨0, 0, 0⟩ _ _ _ _ lexed rfl _ unbound default (by decide)
    (Nat.le_refl 9)).1

/-- A machine whose only scope binds a record with an integer too large for a number. -/
def overflowMachine : Machine where
  scopes := #[{ name := "global", parent := none, bindings := [("r", .host 0)] }]
  store := { objects := #[.record "Record" [("a", .raw (.int (10 ^ 400)))]] }
  disk := (FileTree.directory []).disk "/"

/-- A member that the record does not have is looked up as a name that nothing binds, but its
evaluation fails while it shows the record. -/
theorem resolve_expandPath_of_overflow :
    faultOf (resolve 9 0 "r.b" overflowMachine) =
        some (.script ⟨.undefinedName "r.b" (.noSegment "b"), none, none, none⟩) ∧
      faultOf (evaluate ⟨0, 0, 0⟩ 9 (expandPath "r.b" default) overflowMachine) =
        some .tooLarge := by
  decide +kernel

end Scriptlet
