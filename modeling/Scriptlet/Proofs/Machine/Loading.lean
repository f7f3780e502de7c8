import Scriptlet.Proofs.Fault.Answers
import Scriptlet.Proofs.Store.Change
import Scriptlet.Proofs.Parser.Nesting
import Scriptlet.Loading

/-!
# Loading step by step

What the loading of a module does to a machine.  The loading is noted and the file is consulted; a
runner gets the text only with the program that was read from it.  A loading that fails names the
path, whatever is wrong with the file or with its text.  Only a path that no file can have is no
fault of a script.
-/

namespace Scriptlet

/-- The module root of a runner. -/
def Machine.moduleRoot? (machine : Machine) (runner : RunnerId) : Option String :=
  (machine.runner? runner).bind Runner.moduleRoot

/-- The file that a runner reads for a path of a module. -/
def Machine.moduleFile (machine : Machine) (runner : RunnerId) (path : String) : String :=
  (modulePath machine.disk.workingDirectory (machine.moduleRoot? runner) path).render

/-- Whether a path of a module starts at a working directory that is gone. -/
def Machine.isAdrift (machine : Machine) (runner : RunnerId) (path : String) : Bool :=
  machine.disk.isAdrift (machine.moduleRoot? runner) path

/-- The machine that has noted that it reads a file for a module. -/
def Machine.noting (machine : Machine) (path file : String) : Machine :=
  { machine with
    store := { machine.store with
      journal := machine.store.journal.push
        ⟨.debug, .loading, s!"loading module {path} from {file}"⟩ } }

/-- The machine that has noted that it reads a file for a module, and consults the file. -/
def Machine.consulting (machine : Machine) (path file : String) : Machine :=
  { machine.noting path file with consulted := file :: machine.consulted }

/-- A runner that has read the text of a module. -/
def Runner.reading (file source : String) (runner : Runner) : Runner :=
  { runner with sources := runner.sources.put file source }

/-- The machine in which a runner has read the text of a module. -/
def Machine.reading (machine : Machine) (runner : RunnerId) (file source : String) : Machine :=
  { machine with
    runners := machine.runners.modify runner (Runner.reading file source)
    units := machine.units + 1 }

theorem requireDirectory_run (disk : Disk) (root : Option String) (path : String)
    (machine : Machine) : requireDirectory disk root path machine =
      if disk.isAdrift root path then .error missingDirectory machine else .ok () machine := by
  unfold requireDirectory
  split <;> rfl

theorem requireDirectory_ok {disk : Disk} {root : Option String} {path : String} {value : Unit}
    {machine after : Machine} (found : requireDirectory disk root path machine = .ok value after) :
    machine = after := by
  rw [requireDirectory_run] at found
  split at found <;> cases found
  rfl

/-- Steps that need the working directory fail where they would start without it. -/
theorem requireDirectory_bind {α : Type} (disk : Disk) (root : Option String) (path : String)
    (next : Unit → MachineM α) (machine : Machine) :
    (requireDirectory disk root path >>= next) machine =
      if disk.isAdrift root path then .error missingDirectory machine else next () machine := by
  have run := requireDirectory_run disk root path machine
  split at run
  · rw [bind_of_error run, if_pos ‹_›]
  · rw [bind_of_ok run, if_neg ‹_›]

theorem readModule_run (space : Nat) (runner : RunnerId) (path file source : String)
    (machine : Machine) :
    readModule space runner path file source machine =
      match Program.ofSource space source (some file) with
      | .error fault => .error (invalidModule path fault) machine
      | .ok program => .ok (program, machine.units) (machine.reading runner file source) := by
  unfold readModule
  cases Program.ofSource space source (some file) <;> rfl

theorem loadModule_run (space : Nat) (runner : RunnerId) (path : String) (machine : Machine) :
    loadModule space runner path machine =
      if machine.isAdrift runner path then .error missingDirectory machine
      else
        let file := machine.moduleFile runner path
        match machine.disk.readText file with
        | .error failure => .error (unreadableModule path failure) (machine.consulting path file)
        | .ok source =>
            match Program.ofSource space source (some file) with
            | .error fault => .error (invalidModule path fault) (machine.consulting path file)
            | .ok program =>
                .ok (program, machine.units)
                  ((machine.consulting path file).reading runner file source) := by
  unfold loadModule Machine.moduleFile Machine.isAdrift Machine.moduleRoot?
  refine (bind_of_ok rfl).trans ((requireDirectory_bind ..).trans ?_)
  refine if_congr Iff.rfl rfl ?_
  refine (bind_of_ok rfl).trans ((bind_of_ok rfl).trans ?_)
  dsimp only
  generalize (modulePath machine.disk.workingDirectory
    ((machine.runner? runner).bind Runner.moduleRoot) path).render = file
  cases machine.disk.readText file with
  | error failure => rfl
  | ok source =>
      dsimp only
      exact readModule_run space runner path file source _

/-- Steps that need a path that a file can have fail without one. -/
theorem requireEncoded_bind {α : Type} (disk : Disk) (root : Option Text.HostText)
    (path : Text.HostText) (next : Unit → MachineM α) (machine : Machine) :
    (requireEncoded disk root path >>= next) machine =
      match disk.unencoded root path with
      | [] => next () machine
      | rest =>
          .error (.host .wrongValue
            (Text.HostText.encodingMessage (disk.unencodedPlace root path) rest)) machine := by
  unfold requireEncoded
  cases disk.unencoded root path <;> rfl

theorem loadPath_run (space : Nat) (runner : RunnerId) (root : Option Text.HostText)
    (path : Text.HostText) (machine : Machine) :
    loadPath space runner root path machine =
      let file := machine.disk.moduleFile root path
      if machine.disk.isAdrift (root.map Text.HostText.shown) path.shown then
        .error missingDirectory machine
      else
        match machine.disk.unencoded root path with
        | [] =>
            match machine.disk.readHostPath root path with
            | .error failure =>
                .error (unreadableModule path.shown failure) (machine.consulting path.shown file)
            | .ok source =>
                readModule space runner path.shown file source (machine.consulting path.shown file)
        | rest =>
            .error (.host .wrongValue
              (Text.HostText.encodingMessage (machine.disk.unencodedPlace root path) rest))
              (machine.noting path.shown file) := by
  unfold loadPath
  refine (bind_of_ok rfl).trans ((requireDirectory_bind ..).trans ?_)
  refine if_congr Iff.rfl rfl ?_
  refine (bind_of_ok rfl).trans ((requireEncoded_bind ..).trans ?_)
  cases machine.disk.unencoded root path with
  | cons => rfl
  | nil =>
      refine (bind_of_ok rfl).trans ?_
      dsimp only
      cases machine.disk.readHostPath root path <;> rfl

/-! ## Programs -/

/-- A text that is no program is refused with a script error, or there is no room to read it. -/
theorem ofSource_fails (room : Nat) (source : String) (file : Option String) :
    Fails (fun failure => (∃ error, failure = .script error) ∨ failure = .exhausted)
      (Program.ofSource room source file) := by
  unfold Program.ofSource
  split
  · exact .error (.inl ⟨_, rfl⟩)
  · split
    · unfold Parser.parse
      split
      · exact .ok _
      · exact .error (.inl ⟨_, rfl⟩)
      · exact .error (.inr rfl)
    · exact .error (.inr rfl)

/-- No text needs more room than its tokens allow for. -/
theorem Program.ofSource_roomy (source : String) (file : Option String) :
    ∃ bound, ∀ room, bound ≤ room → Program.ofSource room source file ≠ .error .exhausted := by
  cases lexed : Lexer.lex source file with
  | error failure =>
      refine ⟨0, fun room _ failed => ?_⟩
      simp only [ofSource, lexed] at failed
      cases failed
  | ok tokens =>
      obtain ⟨first, total⟩ := Parser.parse_total (Lexer.endsOnce_of_lex lexed) file (some source)
      refine ⟨Parser.ampleAllowance tokens, fun room enough failed => ?_⟩
      have outcome := total.outcome room
      simp only [ofSource, lexed, total.opens.2] at failed
      rw [failed] at outcome
      exact absurd outcome.2 (Nat.not_lt_of_le enough)

/-! ## Texts of scripts

The path and the module root that a script loads a module with are texts of scripts. -/

theorem unencoded_ofString (text : String) : (Text.HostText.ofString text).unencoded = [] := by
  rw [Text.HostText.unencoded, List.dropWhile_eq_nil_iff]
  intro point found
  obtain ⟨c, -, rfl⟩ := List.mem_map.mp found
  rfl

/-- A module root that is a text of a script. -/
def hostRoot (root : Option String) : Option Text.HostText :=
  root.map .ofString

theorem shown_hostRoot (root : Option String) :
    (hostRoot root).map Text.HostText.shown = root := by
  cases root with
  | none => rfl
  | some text => exact congrArg some (Text.HostText.shown_ofString text)

theorem moduleBase_hostRoot (disk : Disk) (root : Option String) (path : Text.HostText) :
    ∃ base, disk.moduleBase (hostRoot root) path = .ofString base := by
  unfold Disk.moduleBase
  split
  · exact ⟨"", rfl⟩
  · cases root with
    | none => exact ⟨disk.workingDirectory, rfl⟩
    | some text => exact ⟨text, rfl⟩

theorem unencoded_hostRoot (disk : Disk) (root : Option String) (path : String) :
    disk.unencoded (hostRoot root) (.ofString path) = [] := by
  obtain ⟨base, named⟩ := moduleBase_hostRoot disk root (.ofString path)
  rw [Disk.unencoded, named, unencoded_ofString, unencoded_ofString]

theorem moduleFile_hostRoot (disk : Disk) (root : Option String) (path : String) :
    disk.moduleFile (hostRoot root) (.ofString path) =
      (modulePath disk.workingDirectory root path).render := by
  rw [Disk.moduleFile, shown_hostRoot, Text.HostText.shown_ofString]

theorem readHostPath_hostRoot (disk : Disk) (root : Option String) (path : String) :
    disk.readHostPath (hostRoot root) (.ofString path) =
      disk.readText (modulePath disk.workingDirectory root path).render := by
  obtain ⟨base, named⟩ := moduleBase_hostRoot disk root (.ofString path)
  rw [Disk.readHostPath, named, moduleFile_hostRoot]
  simp

/-- A script loads a module as the host does, from the module root of its runner. -/
theorem loadPath_moduleRoot (space : Nat) (runner : RunnerId) (path : String) (machine : Machine) :
    loadPath space runner (hostRoot (machine.moduleRoot? runner)) (.ofString path) machine =
      loadModule space runner path machine := by
  rw [loadPath_run, loadModule_run, unencoded_hostRoot, moduleFile_hostRoot,
    readHostPath_hostRoot, shown_hostRoot, Text.HostText.shown_ofString]
  refine if_congr Iff.rfl rfl ?_
  unfold Machine.moduleFile
  dsimp only
  split
  · rfl
  · rw [readModule_run]
    rfl

/-! ## Outcomes -/

namespace Disk

/-- What a loading says of a path at which there is no module: the file cannot be opened, its bytes
are no text, or the text is no program. -/
inductive Refuses (disk : Disk) (room : Nat) (root : Option Text.HostText)
    (path : Text.HostText) : String → Prop where
  | unopened {failure : OpenFailure} {shown : String}
      (read : disk.readHostPath root path = .error (.unopened failure shown)) :
      Refuses disk room root path failure.message
  | undecodable {fault : Text.Utf8Fault}
      (read : disk.readHostPath root path = .error (.undecodable fault)) :
      Refuses disk room root path fault.message
  | invalid {text : String} {e : ScriptError} (read : disk.readHostPath root path = .ok text)
      (refused : Program.ofSource room text (some (disk.moduleFile root path)) =
        .error (.script e)) :
      Refuses disk room root path (e.diagnostic.format false)

/-- The failures of the host itself to load a module: the path starts at a working directory that is
gone, or no file can have it, because of a surrogate or of a null character. -/
inductive Escapes (disk : Disk) (root : Option Text.HostText) (path : Text.HostText) :
    Fault → Prop where
  | adrift (gone : disk.isAdrift (root.map Text.HostText.shown) path.shown = true) :
      Escapes disk root path (.host .missingKey "[Errno 2] No such file or directory")
  | surrogate (found : disk.isAdrift (root.map Text.HostText.shown) path.shown = false)
      (strange : disk.unencoded root path ≠ []) :
      Escapes disk root path (.host .wrongValue (Text.HostText.encodingMessage
        (disk.unencodedPlace root path) (disk.unencoded root path)))
  | null (found : disk.isAdrift (root.map Text.HostText.shown) path.shown = false)
      (encodable : disk.unencoded root path = [])
      (null : '\x00' ∈ (disk.moduleFile root path).toList) :
      Escapes disk root path (.host .wrongValue "embedded null byte")

theorem decodeFile_ne_invalidPath (path : String) (bytes : Except OpenFailure (List UInt8)) :
    decodeFile path bytes ≠ .error .invalidPath := by
  unfold decodeFile
  split
  · exact nofun
  · split <;> exact nofun

theorem readText_eq_invalidPath {disk : Disk} {file : String} :
    disk.readText file = .error .invalidPath ↔ '\x00' ∈ file.toList := by
  unfold readText
  split
  · rename_i null
    exact iff_of_true rfl (List.contains_iff_mem.mp null)
  · rename_i clean
    exact iff_of_false (decodeFile_ne_invalidPath file _) fun null =>
      clean (List.contains_iff_mem.mpr null)

/-- A path with a null character is the path of no file, whatever else is wrong with it. -/
theorem readHostPath_eq_invalidPath {disk : Disk} {root : Option Text.HostText}
    {path : Text.HostText} : disk.readHostPath root path = .error .invalidPath ↔
      '\x00' ∈ (disk.moduleFile root path).toList := by
  unfold readHostPath
  dsimp only
  split
  · exact readText_eq_invalidPath
  · split
    · rename_i null
      exact iff_of_true rfl (List.contains_iff_mem.mp null)
    · rename_i clean
      exact iff_of_false (decodeFile_ne_invalidPath _ _) fun null =>
        clean (List.contains_iff_mem.mpr null)

end Disk

/-- What comes of loading a module.  A runner knows the text that the program was read from, under
the name of the file, and nothing else has changed for any runner; after a failure nothing has
changed for any runner at all.  A failure names the path and says what is wrong with it or with the
file, unless the host itself fails or reading was short of room. -/
def Machine.Traceless (machine : Machine) (runner : RunnerId) (current : Runner)
    (root : Option Text.HostText) (path : Text.HostText) (room : Nat) :
    EStateM.Result Fault Machine (Program × UnitId) → Prop
  | .ok (program, _) after => ∃ text,
      machine.disk.readHostPath root path = .ok text ∧
      Program.ofSource room text (some (machine.disk.moduleFile root path)) = .ok program ∧
      after.runner? runner = some { current with
        sources := current.sources.put (machine.disk.moduleFile root path) text } ∧
      ∀ other, other ≠ runner → after.runner? other = machine.runner? other
  | .error fault after => after.runners = machine.runners ∧
      ((∃ reason, machine.disk.Refuses room root path reason ∧
          fault = importFailure path.shown reason) ∨
        machine.disk.Escapes root path fault ∨ fault = .exhausted)

section Loads

variable {runner : RunnerId} {current : Runner} {machine : Machine}
  {root : Option Text.HostText} {path : Text.HostText}

/-- A file that has been read leaves its text if it is a module. -/
theorem readModule_traceless (known : machine.runner? runner = some current) {text : String}
    (read : machine.disk.readHostPath root path = .ok text) (room : Nat) :
    machine.Traceless runner current root path room
      (readModule room runner path.shown (machine.disk.moduleFile root path) text
        (machine.consulting path.shown (machine.disk.moduleFile root path))) := by
  rw [readModule_run]
  cases parsed : Program.ofSource room text (some (machine.disk.moduleFile root path)) with
  | error fault =>
      refine ⟨rfl, ?_⟩
      rcases ofSource_fails _ _ _ _ parsed with ⟨e, rfl⟩ | rfl
      · exact .inl ⟨_, .invalid read parsed, rfl⟩
      · exact .inr (.inr rfl)
  | ok program =>
      refine ⟨text, read, parsed, ?_, fun other different => ?_⟩
      · unfold Machine.runner? at known ⊢
        simp [Machine.reading, Machine.consulting, Machine.noting, Array.getElem?_modify, known,
          Runner.reading]
      · unfold Machine.runner?
        simp [Machine.reading, Machine.consulting, Machine.noting, Array.getElem?_modify,
          Ne.symm different]

/-- A file that cannot be read leaves nothing. -/
theorem unreadableModule_traceless (current : Runner)
    (found : machine.disk.isAdrift (root.map Text.HostText.shown) path.shown = false)
    (encodable : machine.disk.unencoded root path = []) {failure : ReadFailure}
    (unread : machine.disk.readHostPath root path = .error failure) (room : Nat) :
    machine.Traceless runner current root path room
      (.error (unreadableModule path.shown failure)
        (machine.consulting path.shown (machine.disk.moduleFile root path))) := by
  refine ⟨rfl, ?_⟩
  cases failure with
  | unopened failure shown => exact .inl ⟨_, .unopened unread, rfl⟩
  | undecodable fault => exact .inl ⟨_, .undecodable unread, rfl⟩
  | invalidPath =>
      exact .inr (.inl (.null found encodable (Disk.readHostPath_eq_invalidPath.mp unread)))

theorem traceless_of_known (known : machine.runner? runner = some current) (room : Nat) :
    machine.Traceless runner current root path room (loadPath room runner root path machine) := by
  rw [loadPath_run]
  dsimp only
  split
  · rename_i gone
    exact ⟨rfl, .inr (.inl (.adrift gone))⟩
  rename_i found
  have found := Bool.eq_false_iff.mpr found
  split
  · rename_i encodable
    cases read : machine.disk.readHostPath root path with
    | error failure => exact unreadableModule_traceless current found encodable read room
    | ok text => exact readModule_traceless known read room
  · rename_i _ strange
    exact ⟨rfl, .inr (.inl (.surrogate found strange))⟩

/-- Whenever the host itself may fail, it does. -/
theorem loadPath_of_escapes {fault : Fault} (escapes : machine.disk.Escapes root path fault)
    (room : Nat) : ∃ after, loadPath room runner root path machine = .error fault after := by
  rw [loadPath_run]
  cases escapes with
  | adrift gone => exact ⟨_, if_pos gone⟩
  | surrogate found strange =>
      rw [if_neg (Bool.eq_false_iff.mp found)]
      split
      · exact absurd ‹_› strange
      · exact ⟨_, rfl⟩
  | null found encodable null =>
      rw [if_neg (Bool.eq_false_iff.mp found), encodable,
        Disk.readHostPath_eq_invalidPath.mpr null]
      exact ⟨_, rfl⟩

/-- A module whose file can be read and is a program is loaded. -/
theorem loadPath_of_ofSource (runner : RunnerId)
    (found : machine.disk.isAdrift (root.map Text.HostText.shown) path.shown = false)
    (encodable : machine.disk.unencoded root path = []) {text : String}
    (read : machine.disk.readHostPath root path = .ok text) {room : Nat} {program : Program}
    (parsed : Program.ofSource room text (some (machine.disk.moduleFile root path)) = .ok program) :
    ∃ unit after, loadPath room runner root path machine = .ok (program, unit) after := by
  rw [loadPath_run, if_neg (Bool.eq_false_iff.mp found), encodable, read]
  dsimp only
  rw [readModule_run, parsed]
  exact ⟨_, _, rfl⟩

/-- No path needs more room than the text of its file. -/
theorem loadPath_roomy (machine : Machine) (runner : RunnerId) (root : Option Text.HostText)
    (path : Text.HostText) : ∃ bound, ∀ room, bound ≤ room →
      ∀ after, loadPath room runner root path machine ≠ .error .exhausted after := by
  simp only [loadPath_run]
  split
  · exact ⟨0, nofun⟩
  split
  · cases machine.disk.readHostPath root path with
    | error failure =>
        refine ⟨0, fun room _ after failed => ?_⟩
        cases failure <;> cases failed
    | ok source =>
        obtain ⟨bound, roomy⟩ :=
          Program.ofSource_roomy source (some (machine.disk.moduleFile root path))
        refine ⟨bound, fun room enough after failed => ?_⟩
        dsimp only at failed
        rw [readModule_run] at failed
        split at failed
        · rename_i fault parsed
          rcases ofSource_fails _ _ _ _ parsed with ⟨e, rfl⟩ | rfl
          · cases failed
          · exact roomy room enough parsed
        · cases failed
  · exact ⟨0, nofun⟩

/-- A module is loaded and leaves its text, or loading it fails and leaves nothing, whatever the
module root and the path are.  The failures of the host itself come about exactly when the path
starts at a working directory that is gone, or has a surrogate or a null character that no file can
have.  No module needs more room than a certain bound.  This is how scripts load modules, too. -/
theorem loadPath_traceless (known : machine.runner? runner = some current)
    (root : Option Text.HostText) (path : Text.HostText) :
    (∀ room, machine.Traceless runner current root path room
        (loadPath room runner root path machine)) ∧
      (∀ fault, machine.disk.Escapes root path fault →
        ∀ room, ∃ after, loadPath room runner root path machine = .error fault after) ∧
      (∃ bound, ∀ room, bound ≤ room →
        ∀ after, loadPath room runner root path machine ≠ .error .exhausted after) ∧
      ∀ room name, loadModule room runner name machine =
        loadPath room runner (hostRoot (machine.moduleRoot? runner)) (.ofString name) machine := by
  refine ⟨traceless_of_known known, fun _ => loadPath_of_escapes,
    loadPath_roomy machine runner root path, fun room name => ?_⟩
  exact (loadPath_moduleRoot room runner name machine).symm

end Loads

/-- A machine with one runner, and a module on its disk. -/
def moduleMachine : Machine where
  runners := #[{ source := "", file := none, moduleRoot := none, globals := 0 }]
  disk := (FileTree.directory [("a.ml", .file [0x31])]).disk "/"

/-- The machine whose working directory has been removed. -/
def adriftMachine : Machine :=
  { moduleMachine with disk := { moduleMachine.disk with hasWorkingDirectory := false } }

/-- The module is loaded, but not at a path that ends in a null character or from a module root that
is a lone surrogate, nor from a working directory that is gone. -/
theorem loadPath_traceless_module :
    (∃ program unit after,
      loadPath 20 0 none (.ofString "a.ml") moduleMachine = .ok (program, unit) after ∧
        (after.runner? 0).map Runner.sources = some [("/a.ml", "1")]) ∧
    (∃ after, loadPath 20 0 none (.ofString "a.ml\x00") moduleMachine =
      .error (.host .wrongValue "embedded null byte") after) ∧
    (∃ after, loadPath 20 0 (some [.surrogate 0]) (.ofString "a.ml") moduleMachine =
      .error (.host .wrongValue ("'utf-8' codec can't encode character '\\ud800' in position 0: " ++
        "surrogates not allowed")) after) ∧
    (∃ after, loadPath 20 0 none (.ofString "a.ml") adriftMachine =
      .error (.host .missingKey "[Errno 2] No such file or directory") after) := by
  have known : moduleMachine.runner? 0 = some _ := rfl
  have knownAdrift : adriftMachine.runner? 0 = some _ := rfl
  obtain ⟨traceless, -⟩ := loadPath_traceless known none (.ofString "a.ml")
  obtain ⟨-, null, -⟩ := loadPath_traceless known none (.ofString "a.ml\x00")
  obtain ⟨-, surrogate, -⟩ :=
    loadPath_traceless known (some [.surrogate 0]) (.ofString "a.ml")
  obtain ⟨-, adrift, -⟩ := loadPath_traceless knownAdrift none (.ofString "a.ml")
  refine ⟨?_, null _ (.null (by decide) (by decide) (by decide +kernel)) 20, ?_,
    adrift _ (.adrift (by decide)) 20⟩
  · have file : moduleMachine.disk.moduleFile none (.ofString "a.ml") = "/a.ml" := by
      decide +kernel
    have read : moduleMachine.disk.readHostPath none (.ofString "a.ml") = .ok "1" := by
      decide +kernel
    have isProgram : (Program.ofSource 20 "1" (some "/a.ml")).toBool = true := by decide +kernel
    cases parsed : Program.ofSource 20 "1" (some "/a.ml") with
    | error fault =>
        rw [parsed] at isProgram
        cases isProgram
    | ok program =>
        obtain ⟨unit, after, loads⟩ :=
          loadPath_of_ofSource 0 (by decide) (by decide) read (file.symm ▸ parsed)
        have outcome := traceless 20
        rw [loads] at outcome
        obtain ⟨text, readToo, -, knows, -⟩ := outcome
        obtain rfl := Except.ok.inj (read.symm.trans readToo)
        rw [file] at knows
        exact ⟨program, unit, after, loads, congrArg (Option.map Runner.sources) knows⟩
  · have message : Text.HostText.encodingMessage
        (moduleMachine.disk.unencodedPlace (some [.surrogate 0]) (.ofString "a.ml"))
        (moduleMachine.disk.unencoded (some [.surrogate 0]) (.ofString "a.ml")) =
          "'utf-8' codec can't encode character '\\ud800' in position 0: " ++
            "surrogates not allowed" := by
      decide +kernel
    exact message ▸ surrogate _ (.surrogate (by decide) (by decide)) 20

end Scriptlet
