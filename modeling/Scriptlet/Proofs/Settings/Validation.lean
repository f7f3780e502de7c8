import Scriptlet.Proofs.Session.Regime
import Scriptlet.Proofs.Scope.Assignment

/-!
# The check of settings

A table is taken as settings, or the first problem in it is reported, unless the host itself fails:
it cannot list a name that is no text, and it cannot write out an integer that has too many digits
or values that are nested too deep.  Settings that were taken can be given back as a table and are
taken again, and an environment can always be made from them.
-/

namespace Scriptlet

/-- A value is a text. -/
def Yaml.IsText : Yaml → Prop
  | .text _ => True
  | _ => False

/-- A value is left out or an integer, as the seed of random numbers has to be. -/
def Yaml.IsSeed : Yaml → Prop
  | .null | .int _ => True
  | _ => False

/-- How a failure can come about: a problem at any time, a failure of the host only for a reason. -/
def SettingsFailure.Due (reason : Prop) : SettingsFailure → Prop
  | .invalid _ => True
  | .host _ _ => reason
  | .undecodable _ => False

theorem SettingsFailure.Due.mono {reason other : Prop} (weaker : reason → other)
    {failure : SettingsFailure} (due : failure.Due reason) : failure.Due other := by
  cases failure with
  | invalid => trivial
  | host => exact weaker due
  | undecodable => exact due

namespace Settings

/-- A check ends in a failure of the host. -/
def Breaks {α : Type} (check : Except SettingsFailure α) : Prop :=
  ∃ failure message, check = .error (.host failure message)

/-- A check ends in a failure of the host exactly for a reason. -/
structure BreaksOn {α : Type} (check : Except SettingsFailure α) (reason : Prop) : Prop where
  due : ∀ failure, check = .error failure → failure.Due reason
  breaks : reason → Breaks check

/-! ## Checks in turn -/

section Turns

variable {α β : Type} {first : Except SettingsFailure α} {next : α → Except SettingsFailure β}

theorem bind_error {failure : SettingsFailure} (run : first >>= next = .error failure) :
    first = .error failure ∨ ∃ value, first = .ok value ∧ next value = .error failure := by
  cases first with
  | error other => exact .inl (congrArg Except.error (Except.error.inj run))
  | ok value => exact .inr ⟨value, rfl, run⟩

theorem bind_taken {result : β} (run : first >>= next = .ok result) :
    ∃ value, first = .ok value ∧ next value = .ok result := by
  cases first with
  | error => cases run
  | ok value => exact ⟨value, rfl, run⟩

theorem bind_passed {value : α} (passed : first = .ok value) : first >>= next = next value := by
  cases passed
  rfl

theorem Breaks.bind (breaks : Breaks first) : Breaks (first >>= next) := by
  obtain ⟨failure, message, rfl⟩ := breaks
  exact ⟨failure, message, rfl⟩

/-- What breaks after a check that passed breaks all of it. -/
theorem Breaks.after {value : α} (passed : first = .ok value) (breaks : Breaks (next value)) :
    Breaks (first >>= next) := by
  rwa [bind_passed passed]

namespace BreaksOn

variable {reason other : Prop}

theorem congr (on : BreaksOn first reason) (same : reason ↔ other) : BreaksOn first other :=
  ⟨fun failure run => (on.due failure run).mono same.mp, fun holds => on.breaks (same.mpr holds)⟩

theorem ok {value : α} (never : ¬ reason) :
    BreaksOn (.ok value : Except SettingsFailure α) reason :=
  ⟨nofun, fun holds => absurd holds never⟩

theorem invalid {problem : SettingsProblem} (never : ¬ reason) :
    BreaksOn (.error (.invalid problem) : Except SettingsFailure α) reason := by
  refine ⟨fun failure run => ?_, fun holds => absurd holds never⟩
  cases run
  trivial

theorem not_of_ok {value : α} (on : BreaksOn first reason) (run : first = .ok value) :
    ¬ reason := by
  intro holds
  obtain ⟨_, _, broken⟩ := on.breaks holds
  cases run.symm.trans broken

/-- What comes after a check does not break. -/
theorem bind (on : BreaksOn first reason) (rest : ∀ value, BreaksOn (next value) False) :
    BreaksOn (first >>= next) reason := by
  refine ⟨fun failure run => ?_, fun holds => (on.breaks holds).bind⟩
  rcases bind_error run with failed | ⟨value, -, ended⟩
  · exact on.due failure failed
  · exact ((rest value).due failure ended).mono False.elim

end BreaksOn

end Turns

/-! ## Names that are listed -/

theorem listedNames_breaksOn (index : Nat) (names : List Yaml) :
    BreaksOn (listedNames index names) (∃ name ∈ names, ¬ name.IsText) := by
  fun_induction listedNames index names with
  | case1 => exact .ok (by simp)
  | case2 index name rest ih =>
      refine (ih.congr ?_).bind fun _ => .ok id
      simp [Yaml.IsText]
  | case3 index other rest strange =>
      have noText : ¬ other.IsText := by
        cases other with
        | text name => exact absurd rfl (strange name)
        | _ => exact id
      refine ⟨fun failure run => ?_, fun _ => ⟨_, _, rfl⟩⟩
      cases run
      exact ⟨other, .head _, noText⟩

/-- Of two values that cannot be put in order one is no text. -/
theorem isText_of_not_areOrdered {a b : Yaml} (apart : areOrdered a b = false) :
    ¬ a.IsText ∨ ¬ b.IsText := by
  cases a with
  | text => cases b with
    | text => cases apart
    | _ => exact .inr id
  | _ => exact .inl id

theorem sortedNames_breaksOn (names : List Yaml) :
    BreaksOn (sortedNames names) (∃ name ∈ names, ¬ name.IsText) := by
  unfold sortedNames
  split
  · rename_i first second rest
    split
    · rename_i name apart
      refine ⟨fun failure run => ?_, fun _ => ⟨_, _, rfl⟩⟩
      cases run
      have unordered : areOrdered first name = false := by simpa using List.find?_some apart
      rcases isText_of_not_areOrdered unordered with strange | strange
      · exact ⟨first, .head _, strange⟩
      · exact ⟨name, .tail _ (List.mem_of_find?_eq_some apart), strange⟩
    · apply (listedNames_breaksOn _ _).congr
      simp only [(List.mergeSort_perm _ _).mem_iff]
  · exact listedNames_breaksOn _ _

/-! ## The single checks -/

/-- Every key of a table is a key of settings. -/
def Known (entries : List (Yaml × Yaml)) : Prop :=
  ∀ entry ∈ entries, isKnownKey entry.1 = true

/-- The builtins that a table lists; without an entry for them it lists none. -/
def Lists (entries : List (Yaml × Yaml)) (names : List Yaml) : Prop :=
  valueOf? builtinsKey entries = some (.list names) ∨
    valueOf? builtinsKey entries = none ∧ names = []

/-- What a table says about a key; without an entry, null. -/
def said (key : String) (entries : List (Yaml × Yaml)) : Yaml :=
  (valueOf? key entries).getD .null

variable {entries : List (Yaml × Yaml)} {failure : SettingsFailure}

theorem isText_of_isKnownKey {key : Yaml} (known : isKnownKey key = true) : key.IsText := by
  cases key with
  | text => trivial
  | _ => cases known

theorem unknown_eq_nil_iff :
    (entries.map Prod.fst).filter (fun key => !isKnownKey key) = [] ↔ Known entries := by
  simp [Known, List.filter_eq_nil_iff]

theorem checkKeys_of_known (known : Known entries) : checkKeys entries = .ok () := by
  rw [checkKeys, unknown_eq_nil_iff.mpr known]

theorem known_of_checkKeys (run : checkKeys entries = .ok ()) : Known entries := by
  rw [checkKeys] at run
  split at run
  · exact unknown_eq_nil_iff.mp ‹_›
  · obtain ⟨names, -, ended⟩ := bind_taken run
    cases ended

theorem checkKeys_breaksOn (entries : List (Yaml × Yaml)) :
    BreaksOn (checkKeys entries) (∃ entry ∈ entries, ¬ entry.1.IsText) := by
  rw [checkKeys]
  split
  · rename_i none
    apply BreaksOn.ok
    rintro ⟨entry, present, strange⟩
    exact strange (isText_of_isKnownKey (unknown_eq_nil_iff.mp none entry present))
  · refine ((sortedNames_breaksOn _).congr ?_).bind fun _ => .invalid id
    constructor
    · rintro ⟨name, found, strange⟩
      obtain ⟨entry, present, rfl⟩ := List.mem_map.mp (List.mem_filter.mp found).1
      exact ⟨entry, present, strange⟩
    · rintro ⟨entry, present, strange⟩
      refine ⟨entry.1, List.mem_filter.mpr ⟨List.mem_map_of_mem present, ?_⟩, strange⟩
      cases known : isKnownKey entry.1 with
      | false => rfl
      | true => exact absurd (isText_of_isKnownKey known) strange

theorem builtinNames?_of_lists {names : List Yaml} (lists : Lists entries names) :
    ∃ found, builtinNames? entries = .ok found ∧ found.getD [] = names := by
  rw [builtinNames?]
  rcases lists with listed | ⟨absent, rfl⟩
  · exact ⟨some names, by rw [listed], rfl⟩
  · exact ⟨none, by rw [absent], rfl⟩

theorem lists_of_builtinNames? {found : Option (List Yaml)}
    (run : builtinNames? entries = .ok found) : Lists entries (found.getD []) := by
  rw [builtinNames?] at run
  split at run
  · cases run
    exact .inr ⟨‹_›, rfl⟩
  · cases run
    exact .inl ‹_›
  · cases run

theorem builtinNames?_breaksOn (entries : List (Yaml × Yaml)) :
    BreaksOn (builtinNames? entries) False := by
  rw [builtinNames?]
  split
  · exact .ok id
  · exact .ok id
  · exact .invalid id

/-- The host fails to write a value out only where it meets an obstacle. -/
theorem refuseObstacle_breaksOn (found : Option Yaml.Obstacle) :
    BreaksOn (refuseObstacle found) (¬ found.isNone) := by
  cases found with
  | none => exact .ok (absurd rfl)
  | some obstacle =>
      refine ⟨fun failure run => ?_, fun _ => ?_⟩
      · cases obstacle <;> cases run <;> exact nofun
      · cases obstacle <;> exact ⟨_, _, rfl⟩

theorem refuseObstacle_iff {found : Option Yaml.Obstacle} :
    refuseObstacle found = .ok () ↔ found.isNone := by
  rcases found with _ | _ | _ <;> simp [refuseObstacle]

theorem moduleRootOf_breaksOn (room : Nat) (value : Yaml) :
    BreaksOn (moduleRootOf room value) (value ≠ .null ∧ ¬ value.isSayable room) := by
  cases value with
  | null => exact .ok fun ⟨other, _⟩ => other rfl
  | _ =>
      refine ((refuseObstacle_breaksOn _).bind fun _ => .ok id).congr ?_
      exact ⟨fun long => ⟨nofun, long⟩, And.right⟩

theorem moduleRootOf_of_sayable {room : Nat} {value : Yaml}
    (sayable : value ≠ .null → value.isSayable room) :
    ∃ root, moduleRootOf room value = .ok root := by
  cases value with
  | null => exact ⟨none, rfl⟩
  | _ => exact ⟨_, bind_passed (refuseObstacle_iff.mpr (sayable nofun))⟩

theorem moduleRootOf_taken {room : Nat} {value : Yaml} {root : Option String}
    (run : moduleRootOf room value = .ok root) :
    value = .null ∧ root = none ∨ value ≠ .null ∧ root = some value.plain := by
  cases value with
  | null =>
      cases run
      exact .inl ⟨rfl, rfl⟩
  | _ =>
      obtain ⟨_, -, ended⟩ := bind_taken run
      cases ended
      exact .inr ⟨nofun, rfl⟩

theorem builtinOf?_eq_some {name : Yaml} {builtin : Builtin} :
    builtinOf? name = some builtin ↔ name = .text builtin.name := by
  constructor
  · intro named
    cases name with
    | text =>
        have same := List.find?_some named
        rw [← eq_of_beq same]
    | _ => cases named
  · rintro rfl
    cases builtin <;> decide

/-- The check of a list of builtins passes if the list names builtins only, and gives
them in order. -/
theorem builtinsOf_names (builtins : List Builtin) :
    builtinsOf (builtins.map fun builtin => .text builtin.name) = .ok builtins := by
  have named (builtin : Builtin) : builtinOf? (.text builtin.name) = some builtin :=
    builtinOf?_eq_some.mpr rfl
  rw [builtinsOf]
  rw [List.filter_eq_nil_iff.mpr fun name listed => ?_]
  · simp [List.filterMap_map, named]
  · obtain ⟨builtin, -, rfl⟩ := List.mem_map.mp listed
    simp [named]

theorem builtinsOf_taken {names : List Yaml} {builtins : List Builtin}
    (run : builtinsOf names = .ok builtins) :
    names = builtins.map fun builtin => .text builtin.name := by
  rw [builtinsOf] at run
  split at run
  · rename_i known
    cases run
    induction names with
    | nil => rfl
    | cons name rest ih =>
        cases found : builtinOf? name with
        | none => simp [found] at known
        | some builtin =>
            rw [List.filter_cons_of_neg (by simp [found])] at known
            rw [List.filterMap_cons_some found, List.map_cons, ← ih known,
              builtinOf?_eq_some.mp found]
  · obtain ⟨_, -, ended⟩ := bind_taken run
    cases ended

theorem isNone_builtinOf? {name : Yaml} (strange : ¬ name.IsText) : (builtinOf? name).isNone := by
  cases name with
  | text => exact absurd trivial strange
  | _ => rfl

theorem builtinsOf_breaksOn (names : List Yaml) :
    BreaksOn (builtinsOf names) (∃ name ∈ names, ¬ name.IsText) := by
  rw [builtinsOf]
  split
  · rename_i known
    apply BreaksOn.ok
    rintro ⟨name, listed, strange⟩
    exact List.filter_eq_nil_iff.mp known name listed (isNone_builtinOf? strange)
  · refine ((listedNames_breaksOn _ _).congr ?_).bind fun _ => .invalid id
    constructor
    · rintro ⟨name, found, strange⟩
      exact ⟨name, (List.mem_filter.mp found).1, strange⟩
    · rintro ⟨name, listed, strange⟩
      exact ⟨name, List.mem_filter.mpr ⟨listed, isNone_builtinOf? strange⟩, strange⟩

theorem builtinsFor_of_lists {found : Option (List Yaml)} {builtins : List Builtin}
    (listed : found.getD [] = builtins.map fun builtin => .text builtin.name) :
    ∃ chosen, builtinsFor found = .ok chosen := by
  cases found with
  | none => exact ⟨Builtin.all, rfl⟩
  | some names =>
      cases listed
      exact ⟨builtins, builtinsOf_names builtins⟩

/-- The value that a table has for a seed. -/
def seedValue : Option Int → Yaml
  | some n => .int n
  | none => .null

theorem seedOf_taken {room : Nat} {value : Yaml} {seed : Option Int}
    (run : seedOf room value = .ok seed) : value = seedValue seed := by
  cases value with
  | null | int =>
      cases run
      rfl
  | _ =>
      obtain ⟨_, -, ended⟩ := bind_taken run
      cases ended

theorem isSeed_of_seedOf {room : Nat} {value : Yaml} {seed : Option Int}
    (run : seedOf room value = .ok seed) : value.IsSeed := by
  rw [seedOf_taken run]
  cases seed <;> trivial

theorem seedOf_of_isSeed (room : Nat) {value : Yaml} (fits : value.IsSeed) :
    ∃ seed, seedOf room value = .ok seed := by
  cases value with
  | null => exact ⟨none, rfl⟩
  | int n => exact ⟨some n, rfl⟩
  | _ => exact fits.elim

theorem seedOf_breaksOn (room : Nat) (value : Yaml) :
    BreaksOn (seedOf room value) (¬ value.IsSeed ∧ ¬ value.isWritable room) := by
  cases value with
  | null => exact .ok fun ⟨unfit, _⟩ => unfit trivial
  | int => exact .ok fun ⟨unfit, _⟩ => unfit trivial
  | _ =>
      refine ((refuseObstacle_breaksOn _).bind fun _ => .invalid id).congr ?_
      exact ⟨fun long => ⟨id, long⟩, And.right⟩

theorem levelOf_breaksOn (room : Nat) (value : Yaml) :
    BreaksOn (levelOf room value) (¬ value.isSayable room) := by
  refine (refuseObstacle_breaksOn _).bind fun _ => ?_
  split
  · exact .ok id
  · exact .invalid id

/-! ## Tables that the host fails on -/

/-- The module root of a table can be made a text, if the table has one. -/
def Rooted (room : Nat) (entries : List (Yaml × Yaml)) : Prop :=
  said moduleRootKey entries ≠ .null → (said moduleRootKey entries).isSayable room

/-- The tables that the host fails on with room for so many levels of values inside each other: the
value that it cannot list or write out is met while everything before it is accepted. -/
inductive HostFails (room : Nat) (entries : List (Yaml × Yaml)) : Prop where
  | key {entry : Yaml × Yaml} : entry ∈ entries → ¬ entry.1.IsText → HostFails room entries
  | moduleRoot {names : List Yaml} : Known entries → Lists entries names →
      ¬ Rooted room entries → HostFails room entries
  | builtin {names : List Yaml} {name : Yaml} : Known entries → Lists entries names →
      Rooted room entries → name ∈ names → ¬ name.IsText → HostFails room entries
  | randomSeed {builtins : List Builtin} : Known entries →
      Lists entries (builtins.map fun builtin => .text builtin.name) → Rooted room entries →
      ¬ (said randomSeedKey entries).IsSeed → ¬ (said randomSeedKey entries).isWritable room →
      HostFails room entries
  | logLevel {builtins : List Builtin} {level : Yaml} : Known entries →
      Lists entries (builtins.map fun builtin => .text builtin.name) → Rooted room entries →
      (said randomSeedKey entries).IsSeed → valueOf? logLevelKey entries = some level →
      ¬ level.isSayable room → HostFails room entries

variable {room : Nat}

theorem HostFails.breaks (fails : HostFails room entries) : Breaks (ofTable entries room) := by
  cases fails with
  | key present strange => exact ((checkKeys_breaksOn entries).breaks ⟨_, present, strange⟩).bind
  | moduleRoot known lists unsayable =>
      obtain ⟨found, read, -⟩ := builtinNames?_of_lists lists
      apply Breaks.after (checkKeys_of_known known)
      apply Breaks.after read
      exact ((moduleRootOf_breaksOn room _).breaks (Classical.not_imp.mp unsayable)).bind
  | builtin known lists rooted listed strange =>
      obtain ⟨found, read, rfl⟩ := builtinNames?_of_lists lists
      obtain ⟨root, rooted⟩ := moduleRootOf_of_sayable rooted
      apply Breaks.after (checkKeys_of_known known)
      apply Breaks.after read
      apply Breaks.after rooted
      cases found with
      | none => cases listed
      | some names => exact ((builtinsOf_breaksOn names).breaks ⟨_, listed, strange⟩).bind
  | randomSeed known lists rooted unfit long =>
      obtain ⟨found, read, listed⟩ := builtinNames?_of_lists lists
      obtain ⟨root, rooted⟩ := moduleRootOf_of_sayable rooted
      obtain ⟨chosen, taken⟩ := builtinsFor_of_lists listed
      apply Breaks.after (checkKeys_of_known known)
      apply Breaks.after read
      apply Breaks.after rooted
      apply Breaks.after taken
      exact ((seedOf_breaksOn room _).breaks ⟨unfit, long⟩).bind
  | logLevel known lists rooted fits named long =>
      obtain ⟨found, read, listed⟩ := builtinNames?_of_lists lists
      obtain ⟨root, rooted⟩ := moduleRootOf_of_sayable rooted
      obtain ⟨chosen, taken⟩ := builtinsFor_of_lists listed
      obtain ⟨seed, seeded⟩ := seedOf_of_isSeed room fits
      apply Breaks.after (checkKeys_of_known known)
      apply Breaks.after read
      apply Breaks.after rooted
      apply Breaks.after taken
      apply Breaks.after seeded
      rw [named]
      exact ((levelOf_breaksOn room _).breaks long).bind

theorem ofTable_due (run : ofTable entries room = .error failure) :
    failure.Due (HostFails room entries) := by
  rcases bind_error run with failed | ⟨_, passed, run⟩
  · refine ((checkKeys_breaksOn entries).due failure failed).mono ?_
    rintro ⟨entry, present, strange⟩
    exact .key present strange
  have known := known_of_checkKeys passed
  rcases bind_error run with failed | ⟨found, listed, run⟩
  · exact ((builtinNames?_breaksOn entries).due failure failed).mono False.elim
  have lists := lists_of_builtinNames? listed
  rcases bind_error run with failed | ⟨root, rooted, run⟩
  · refine ((moduleRootOf_breaksOn room _).due failure failed).mono fun unsayable => ?_
    exact .moduleRoot known lists (Classical.not_imp.mpr unsayable)
  have rooted : Rooted room entries := fun other => not_not.mp fun unsayable =>
    (moduleRootOf_breaksOn room _).not_of_ok rooted ⟨other, unsayable⟩
  rcases bind_error run with failed | ⟨builtins, chosen, run⟩
  · cases found with
    | none => cases failed
    | some names =>
        refine ((builtinsOf_breaksOn names).due failure failed).mono ?_
        rintro ⟨name, listed, strange⟩
        exact .builtin known lists rooted listed strange
  have named : ∃ builtins : List Builtin,
      Lists entries (builtins.map fun builtin => .text builtin.name) := by
    cases found with
    | none => exact ⟨[], lists⟩
    | some names => exact ⟨builtins, builtinsOf_taken chosen ▸ lists⟩
  obtain ⟨listed, lists⟩ := named
  rcases bind_error run with failed | ⟨seed, seeded, run⟩
  · refine ((seedOf_breaksOn room _).due failure failed).mono fun ⟨unfit, long⟩ => ?_
    exact .randomSeed known lists rooted unfit long
  rcases bind_error run with failed | ⟨level, leveled, ended⟩
  · cases named : valueOf? logLevelKey entries with
    | none =>
        rw [named] at failed
        cases failed
    | some value =>
        rw [named] at failed
        refine ((levelOf_breaksOn room value).due failure failed).mono fun long => ?_
        exact .logLevel known lists rooted (isSeed_of_seedOf seeded) named long
  · cases ended

theorem ofTable_breaksOn (room : Nat) (entries : List (Yaml × Yaml)) :
    BreaksOn (ofTable entries room) (HostFails room entries) :=
  ⟨fun _ run => ofTable_due run, HostFails.breaks⟩

/-! ## Settings that were taken -/

/-- The value that a table has for a module root. -/
def rootValue : Option String → Yaml
  | some root => .text root
  | none => .null

/-- The table of settings. -/
def fields (settings : Settings) : List (Yaml × Yaml) :=
  [(.text moduleRootKey, rootValue settings.moduleRoot),
    (.text builtinsKey, .list (settings.builtins.map fun builtin => .text builtin.name)),
    (.text randomSeedKey, seedValue settings.randomSeed),
    (.text logLevelKey, .text settings.logLevel.label)]

/-- Settings are what a table says. -/
structure Says (entries : List (Yaml × Yaml)) (settings : Settings) : Prop where
  known : Known entries
  moduleRoot : said moduleRootKey entries = .null ∧ settings.moduleRoot = none ∨
    said moduleRootKey entries ≠ .null ∧
      settings.moduleRoot = some (said moduleRootKey entries).plain
  builtins : valueOf? builtinsKey entries = some (.list
      (settings.builtins.map fun builtin => .text builtin.name)) ∨
    valueOf? builtinsKey entries = none ∧ settings.builtins = Builtin.all
  randomSeed : said randomSeedKey entries = seedValue settings.randomSeed
  logLevel : Text.upper ((valueOf? logLevelKey entries).getD (.text "WARNING")).plain =
    settings.logLevel.label

theorem upper_label (level : Level) : Text.upper level.label = level.label := by
  cases level <;> decide +kernel

theorem levelOf_taken {value : Yaml} {level : Level} (run : levelOf room value = .ok level) :
    Text.upper value.plain = level.label := by
  obtain ⟨_, -, run⟩ := bind_taken run
  split at run
  · rename_i named
    cases run
    rw [Level.ofLabel?] at named
    have same := List.find?_some named
    exact (eq_of_beq same).symm
  · cases run

theorem levelOf_label (room : Nat) (level : Level) :
    levelOf room (.text level.label) = .ok level := by
  have plain : (Yaml.text level.label).plain = level.label := rfl
  have named : Level.ofLabel? (Text.upper level.label) = some level := by
    rw [upper_label, Level.ofLabel?_label]
  apply (bind_passed (refuseObstacle_iff.mpr rfl)).trans
  rw [plain, named]

/-- The table of settings is taken, and gives the settings back. -/
theorem ofTable_fields (room : Nat) (settings : Settings) :
    ofTable settings.fields room = .ok settings := by
  have keys : checkKeys settings.fields = .ok () := by
    apply checkKeys_of_known
    simp [Known, fields, isKnownKey, Settings.keys]
  have root : moduleRootOf room (rootValue settings.moduleRoot) = .ok settings.moduleRoot := by
    cases settings.moduleRoot <;> rfl
  have seed : seedOf room (seedValue settings.randomSeed) = .ok settings.randomSeed := by
    cases settings.randomSeed <;> rfl
  have listed : builtinNames? settings.fields =
      .ok (some (settings.builtins.map fun builtin => .text builtin.name)) := by
    simp [builtinNames?, fields, valueOf?, moduleRootKey, builtinsKey]
  have named : levelFor room (valueOf? logLevelKey settings.fields) = .ok settings.logLevel := by
    simp [fields, valueOf?, moduleRootKey, builtinsKey, randomSeedKey, logLevelKey, levelFor,
      levelOf_label]
  refine (bind_passed keys).trans ((bind_passed listed).trans ?_)
  refine (bind_passed root).trans ((bind_passed (builtinsOf_names settings.builtins)).trans ?_)
  exact (bind_passed seed).trans (bind_passed named)

theorem says_of_ofTable {settings : Settings} (run : ofTable entries room = .ok settings) :
    Says entries settings := by
  obtain ⟨_, passed, run⟩ := bind_taken run
  obtain ⟨found, listed, run⟩ := bind_taken run
  obtain ⟨root, rooted, run⟩ := bind_taken run
  obtain ⟨builtins, chosen, run⟩ := bind_taken run
  obtain ⟨seed, seeded, run⟩ := bind_taken run
  obtain ⟨level, leveled, run⟩ := bind_taken run
  cases run
  refine ⟨known_of_checkKeys passed, moduleRootOf_taken rooted, ?_, seedOf_taken seeded, ?_⟩
  · rw [builtinNames?] at listed
    split at listed <;> cases listed
    · cases chosen
      exact .inr ⟨‹_›, rfl⟩
    · exact .inl (builtinsOf_taken chosen ▸ ‹_›)
  · cases named : valueOf? logLevelKey entries with
    | none =>
        rw [named] at leveled
        cases leveled
        exact upper_label .warning
    | some value =>
        rw [named] at leveled
        exact levelOf_taken leveled

end Settings

/-! ## Environments from settings -/

/-- Builtins are bound under their names, beside what the scope binds already. -/
theorem install_binds {scope : ScopeId} {seed : Int} {builtins : List Builtin}
    {machine installed : Machine} (present : scope < machine.scopes.size)
    (run : Builtin.install scope seed builtins machine = .ok () installed) (name : String) :
    installed.scopes.parent? scope = machine.scopes.parent? scope ∧
      (installed.scopes.Binds scope name ↔
        name ∈ builtins.map Builtin.name ∨ machine.scopes.Binds scope name) := by
  induction builtins generalizing machine with
  | nil =>
      cases run
      simp
  | cons builtin rest ih =>
      obtain ⟨id, store, made, -⟩ := make_ok seed builtin machine.store
      rw [Builtin.install, bind_of_ok (onStore_of_ok made)] at run
      have still : scope < (machine.scopes.define scope builtin.name (.host id)).size := by
        simpa [Scopes.define] using present
      obtain ⟨around, binds⟩ := ih still run
      refine ⟨around.trans (Scopes.parent?_define _ _), binds.trans ?_⟩
      rw [Scopes.binds_define present, List.map_cons, List.mem_cons]
      tauto

/-- An environment is a new scope inside no other that binds the names of the builtins. -/
theorem openEnvironment_binds (settings : Settings) (entropy : Int) (machine : Machine) :
    ∃ opened, openEnvironment settings entropy machine = .ok machine.scopes.size opened ∧
      opened.scopes.parent? machine.scopes.size = none ∧
      ∀ name, opened.scopes.Binds machine.scopes.size name ↔
        name ∈ settings.builtins.map Builtin.name := by
  let grown : Scopes := machine.scopes.push { name := "global", parent := none }
  obtain ⟨opened, run, -⟩ := install_ok machine.scopes.size (settings.randomSeed.getD entropy)
    settings.builtins { machine with scopes := grown }
  have present : machine.scopes.size < grown.size := by simp [grown]
  have binds := install_binds present run
  have unbound (name : String) : ¬ grown.Binds machine.scopes.size name := by
    simp [grown, Scopes.Binds, Scopes.valueIn?]
  refine ⟨opened, bind_of_ok run, ?_, fun name => ?_⟩
  · rw [(binds "").1, Scopes.parent?_push, if_pos rfl]
  · rw [(binds name).2, or_iff_left (unbound name)]

namespace Settings

/-- A table is taken or refused with a problem, unless it is one of those that the host fails on.
Settings that were taken are what the table says, their own table gives them back, and the root of
an environment that is made from them binds their builtins and no other name. -/
theorem ofTable_validates (entries : List (Yaml × Yaml)) (room : Nat) (entropy : Int)
    (machine : Machine) :
    match ofTable entries room with
    | .ok settings =>
        ¬ HostFails room entries ∧ Says entries settings ∧
          (∀ builtin ∈ settings.builtins,
            builtin.name ∈ ["Math", "Date", "JSON", "print", "log", "Task"]) ∧
          settings.logLevel.label ∈ ["DEBUG", "INFO", "WARNING", "ERROR", "CRITICAL"] ∧
          (∀ room, ofTable settings.fields room = .ok settings) ∧
          ∃ opened, openEnvironment settings entropy machine = .ok machine.scopes.size opened ∧
            opened.scopes.parent? machine.scopes.size = none ∧
            ∀ name, opened.scopes.Binds machine.scopes.size name ↔
              name ∈ settings.builtins.map Builtin.name
    | .error (.invalid _) => ¬ HostFails room entries
    | .error (.host _ _) => HostFails room entries
    | .error (.undecodable _) => False := by
  cases outcome : ofTable entries room with
  | ok settings =>
      refine ⟨(ofTable_breaksOn room entries).not_of_ok outcome, says_of_ofTable outcome,
        fun builtin _ => ?_, ?_, fun room => ofTable_fields room settings,
        openEnvironment_binds settings entropy machine⟩
      · cases builtin <;> decide
      · cases settings.logLevel <;> decide
  | error failure =>
      have due := (ofTable_breaksOn room entries).due failure outcome
      cases failure with
      | invalid =>
          intro fails
          obtain ⟨_, _, broken⟩ := fails.breaks
          cases outcome.symm.trans broken
      | host => exact due
      | undecodable => exact due

/-- A number in the list of builtins makes the host fail on the wording of the problem, and so does
a list as a seed if there is no room left to write out what is in it. -/
theorem ofTable_validates_number :
    ofTable [(.text "builtins", .list [.int 5])] =
        .error (.host .wrongType "sequence item 0: expected str instance, int found") ∧
      ofTable [(.text "random_seed", .list [.list []])] 1 = .error (.host .overflow
        "maximum recursion depth exceeded while getting the repr of an object") :=
  ⟨rfl, rfl⟩

end Settings

end Scriptlet
