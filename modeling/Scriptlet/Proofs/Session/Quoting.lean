import Scriptlet.Proofs.Activity.Failure
import Scriptlet.Proofs.Jobs.Places
import Scriptlet.Proofs.Session.Regime
import Scriptlet.Proofs.Token.Quoting
import Scriptlet.Proofs.Parser.Places

/-!
# Quoted lines of errors

An error that has a place and quotes a line quotes the line around this place, whether the text
could not be read or an evaluation has failed, in the program or in a module that it has loaded.
This is so wherever line feeds are the only line breaks: the text is cut into lines at other
characters as well, which the places do not count.
-/

namespace Scriptlet

/-- The text of a file: of the program that is run, or of one on the disk. -/
def textOf (source : String) (file : Option String) (disk : Disk) (name : Option String) :
    Option String :=
  if name = file then some source else name.bind fun name => (disk.readText name).toOption

/-- An error that has a place and quotes a line quotes the line around this place, unless another
line break than a line feed comes before its end. -/
def ScriptError.Quotes (text? : Option String → Option String) (e : ScriptError) : Prop :=
  ∀ span line, e.span = some span → e.sourceLine = some line →
    ∃ text, text? span.start.file = some text ∧
      (Text.FeedsThrough text.toList span.start.offset → span.start.ShownIn text.toList line)

/-- A place at a character of its file that is no line feed. -/
def Location.OpensSomewhere (text? : Option String → Option String) (place : Location) : Prop :=
  ∃ text, text? place.file = some text ∧ place.OpensIn text.toList place.file

/-! ## Errors of reading -/

/-- Where the line of a place is looked up in the text of its file, the right one is found. -/
theorem ScriptError.quotes_of_opens {text? : Option String → Option String} {e : ScriptError}
    {span : Span} {source : String} (place : e.span = some span)
    (known : text? span.start.file = some source)
    (opens : span.start.OpensIn source.toList span.start.file)
    (quoted : e.sourceLine = Text.line? source span.start.line) : e.Quotes text? := by
  intro other line same found
  cases place.symm.trans same
  refine ⟨source, known, fun feeds => ?_⟩
  obtain ⟨shown, shown_eq, shownIn⟩ := opens.shownIn feeds
  cases (found.symm.trans quoted).trans shown_eq
  exact shownIn

theorem Location.OpensIn.file_eq {source : List Char} {file : Option String} {place : Location}
    (opens : place.OpensIn source file) : place.file = file := by
  obtain ⟨front, c, back, -, -, rfl⟩ := opens
  rw [start_after]

section Reading

variable {text? : Option String → Option String} {source : String} {file : Option String}
  {e : ScriptError}

/-- An error of the lexer opens at a character that is no line feed, and if it complains about a
character, at this one. -/
theorem Lexer.FaultIn.opens (fault : Lexer.FaultIn source file e) :
    ∃ span, e.span = some span ∧ span.start.OpensIn source.toList file ∧
      e.sourceLine = Text.line? source span.start.line ∧
      ∀ c, e.cause = .unexpectedCharacter c → source.toList[span.start.offset]? = some c := by
  obtain ⟨front, c, back, source_eq, other, cause, place, quoted⟩ := fault
  refine ⟨_, place, ?_, ?_, ?_⟩
  · rw [Lexer.faultSpan_start]
    exact ⟨front, c, back, source_eq, other, rfl⟩
  · rw [Lexer.faultSpan_start]
    exact quoted
  · intro d complains
    rw [Lexer.faultSpan_start, Location.start_after, source_eq]
    rcases cause with unterminated | unexpected
    · cases unterminated.symm.trans complains
    · cases unexpected.symm.trans complains
      simp

/-- What is refused as a program quotes the right line. -/
theorem Program.ofSource_quotes {room : Nat} (known : text? file = some source)
    (refused : Program.ofSource room source file = .error (.script e)) : e.Quotes text? := by
  have framed := Program.ofSource_framed room source file
  rw [refused] at framed
  have right {span : Span} (place : e.span = some span)
      (opens : span.start.OpensIn source.toList file)
      (quoted : e.sourceLine = Text.line? source span.start.line) : e.Quotes text? := by
    have same := opens.file_eq
    rw [← same] at known opens
    exact ScriptError.quotes_of_opens place known opens quoted
  rcases framed with fault | ⟨span, place, excused, quoted⟩
  · obtain ⟨span, place, opens, quoted, -⟩ := fault.opens
    exact right place opens quoted
  · cases ends : e.cause with
    | unexpectedEnd expected =>
        -- The end of the text is no place in any line, and nothing is quoted.
        rw [ends] at quoted
        intro other line _ found
        cases quoted.symm.trans found
    | _ =>
        rw [ends] at excused quoted
        exact right place (excused.frames nofun).1 quoted

end Reading

/-! ## Errors of runs -/

section Runs

variable (source : String) (file : Option String) (disk : Disk)

/-- A runner quotes the lines of its program, and those of modules as they are on the disk. -/
structure Runner.KnowsTexts (runner : Runner) : Prop where
  source : runner.source = source
  file : runner.file = file
  sources : ∀ name text, runner.sources.get? name = some text → disk.readText name = .ok text

variable {source file disk}

/-- What a runner quotes for a place that opens somewhere is the line that the place names. -/
theorem Runner.KnowsTexts.quotes {runner : Runner} (knows : runner.KnowsTexts source file disk)
    {span : Span} (opens : span.start.OpensSomewhere (textOf source file disk)) {e : ScriptError}
    (place : e.span = some span) (quoted : e.sourceLine = runner.quotedLine span) :
    e.Quotes (textOf source file disk) := by
  obtain ⟨text, known, opens⟩ := opens
  have found : runner.quotedLine span = none ∨
      runner.quotedLine span = Text.line? text span.start.line := by
    unfold Runner.quotedLine
    unfold textOf at known
    rw [knows.file]
    by_cases here : span.start.file = file
    · rw [if_pos here] at known ⊢
      cases known
      rw [knows.source]
      exact .inr rfl
    · rw [if_neg here] at known ⊢
      cases name : span.start.file with
      | none => exact .inl rfl
      | some name' =>
          rw [name] at known
          cases stored : runner.sources.get? name' with
          | none =>
              left
              simp [stored]
          | some stored' =>
              have read := knows.sources name' stored' stored
              simp only [Option.bind_some, read, Except.toOption, Option.some.injEq] at known
              subst known
              right
              simp [stored]
  rcases found with none | line
  · intro _ line _ present
    cases (present.symm.trans quoted).trans none
  · exact ScriptError.quotes_of_opens place known opens (quoted.trans line)

/-- Whatever is read from the disk opens in the text that its file has. -/
theorem opensSomewhere_of_read
    (named : ∀ name text, file = some name → disk.readText name = .ok text → text = source)
    {name text : String} (stored : disk.readText name = .ok text) {room : Nat} {program : Program}
    (read : Program.ofSource room text (some name) = .ok program) :
    ∀ part ∈ bodyNodes program.body, part.span.start.OpensSomewhere (textOf source file disk) := by
  intro part inside
  have framed := Program.ofSource_framed room text (some name)
  rw [read] at framed
  have opens := (framed.2.1 _ (bodySpans_mem_of_nodes _ part inside)).1
  refine ⟨text, ?_, ?_⟩
  · rw [opens.file_eq, textOf]
    split
    · rename_i same
      rw [named name text same.symm stored]
    · simp [stored, Except.toOption]
  · rw [opens.file_eq]
    exact opens

theorem opensSomewhere_of_program {room : Nat} {program : Program}
    (read : Program.ofSource room source file = .ok program) :
    ∀ part ∈ bodyNodes program.body, part.span.start.OpensSomewhere (textOf source file disk) := by
  intro part inside
  have framed := Program.ofSource_framed room source file
  rw [read] at framed
  have opens := (framed.2.1 _ (bodySpans_mem_of_nodes _ part inside)).1
  refine ⟨source, ?_, ?_⟩
  · rw [opens.file_eq, textOf, if_pos rfl]
  · rw [opens.file_eq]
    exact opens

theorem Runner.KnowsTexts.modify {runners : Array Runner} {change : Runner → Runner}
    (known : ∀ runner ∈ runners, runner.KnowsTexts source file disk) (id : RunnerId)
    (kept : ∀ runner, runner.KnowsTexts source file disk →
      (change runner).KnowsTexts source file disk) :
    ∀ runner ∈ runners.modify id change, runner.KnowsTexts source file disk := by
  intro runner found
  obtain ⟨index, found⟩ := Array.mem_iff_getElem?.mp found
  rw [Array.getElem?_modify] at found
  split at found
  · obtain ⟨old, present, rfl⟩ := Option.map_eq_some_iff.mp found
    exact kept old (known old (Array.mem_of_getElem? present))
  · exact known runner (Array.mem_of_getElem? found)

/-- The regime of runs whose errors quote the right lines: all nodes open in the texts that they
were read from, all runners know these texts, and errors that have a place quote its line. -/
def Regime.quoting (source : String) (file : Option String) (disk : Disk)
    (named : ∀ name text, file = some name → disk.readText name = .ok text → text = source) :
    Regime where
  node part := part.span.start.OpensSomewhere (textOf source file disk)
  around _ runners current := current = disk ∧
    ∀ runner ∈ runners, runner.KnowsTexts source file disk
  fault failure := ∀ e, failure = .script e → e.Quotes (textOf source file disk)
  opens _ _ _ known := known
  defines _ _ _ _ known := known
  assigns _ _ _ _ known := known
  counts id _ known := ⟨known.1,
    .modify known.2 id fun _ knows => ⟨knows.source, knows.file, knows.sources⟩⟩
  loads := by
    rintro _ runners current name text id ⟨rfl, known⟩ stored
    refine ⟨rfl, .modify known id fun runner knows => ⟨knows.source, knows.file, ?_⟩⟩
    intro other content found
    by_cases same : other = name
    · subst same
      rw [Assoc.get?_put_self] at found
      cases found
      exact stored
    · refine knows.sources other content ?_
      rw [← Assoc.get?_put_of_ne runner.sources text (Ne.symm same)]
      exact found
  reads := by
    rintro _ _ current name text room program ⟨rfl, -⟩ stored read
    exact opensSomewhere_of_read named stored read
  fresh := by
    rintro _ unplaced e rfl span line place
    cases unplaced.1.symm.trans place
  tagged := by
    rintro failure number quotes e same
    cases failure with
    | script error =>
        cases same
        exact quotes error rfl
    | _ => cases same
  located := by
    rintro part e _ runners _ id opens ⟨-, known⟩ unplaced - _ ⟨⟩
    rw [ScriptError.locate_of_span_eq_none unplaced]
    cases found : runners[id]? with
    | none =>
        intro _ line _ quoted
        cases quoted
    | some runner =>
        exact (known runner (Array.mem_of_getElem? found)).quotes opens rfl rfl

end Runs

/-- Whatever error comes out of a text, be it one of the lexer, one of the parser, one that ends the
run or the failure of a job, it quotes the right line. -/
structure QuotesLines (settings : Settings) (entropy : Int) (source : String) (file : Option String)
    (start : Machine) : Prop where
  /-- An unexpected character is the one at the place of the error. -/
  lexed : ∀ e, Lexer.lex source file = .error e → e.Quotes (textOf source file start.disk) ∧
    ∀ c, e.cause = .unexpectedCharacter c →
      ∃ span, e.span = some span ∧ source.toList[span.start.offset]? = some c
  parsed : ∀ room e, Program.ofSource room source file = .error (.script e) →
    e.Quotes (textOf source file start.disk)
  raised : ∀ e last, runFresh settings entropy source file start = .error (.script e) last →
    e.Quotes (textOf source file start.disk)
  failed : ∀ job ∈ (endState (runFresh settings entropy source file start)).store.schedule.jobs,
    ∀ e, job.state = .failed (.script e) → e.Quotes (textOf source file start.disk)

/-- Where no other line break than a line feed comes before the end of a line, every error with a
place on it quotes exactly this line, in the text that is run and in the modules that it loads.  A
module that has the name of the text that is run must be this text. -/
theorem runFresh_quotesLines (settings : Settings) (entropy : Int) (source : String)
    (file : Option String) (disk : Disk) (depthLimit : Nat) (clock : Float)
    (named : ∀ name text, file = some name → disk.readText name = .ok text → text = source) :
    QuotesLines settings entropy source file (.unused disk depthLimit clock) := by
  let R : Regime := .quoting source file disk named
  have here : textOf source file disk file = some source := if_pos rfl
  have parsed (room : Nat) (e : ScriptError)
      (refused : Program.ofSource room source file = .error (.script e)) :
      e.Quotes (textOf source file disk) := Program.ofSource_quotes here refused
  have unused : R.Holds (.unused disk depthLimit clock) :=
    ⟨unused_obeys R.discipline disk depthLimit clock, rfl, by simp [Machine.unused]⟩
  have opening : R.Minds (fun _ => True) (openEnvironment settings entropy) := by
    intro machine held
    obtain ⟨opened, run, runners, disk⟩ := openEnvironment_ok settings entropy machine
    have obeys := ((R.openEnvironment_obeys settings entropy machine).of_ok held.store run).1
    rw [run]
    refine .ok ⟨obeys, ?_⟩ trivial
    rw [runners, disk]
    exact held.around
  have running (scope : ScopeId) (machine : Machine) : Keeps R.Holds R.fault (fun _ => True)
      (runSource settings.moduleRoot scope source file) machine := by
    refine Regime.runSource_keeps machine ?_ (fun _ read => opensSomewhere_of_program read) ?_
    · rintro scopes runners current ⟨rfl, known⟩
      refine ⟨rfl, fun runner found => ?_⟩
      rcases Array.mem_push.mp found with found | rfl
      · exact known runner found
      · exact ⟨rfl, rfl, fun name text stored => by cases stored⟩
    · rintro e refused _ ⟨⟩
      exact parsed _ e refused
  have run : Keeps R.Holds R.fault (fun _ => True) (runFresh settings entropy source file)
      (.unused disk depthLimit clock) :=
    .bind (opening _) fun scope opened _ _ =>
      .andFinally (running scope opened) (R.releaseEnvironment_minds scope)
  refine ⟨fun e failed => ?_, parsed, fun e last failed => ?_, fun job found e failed => ?_⟩
  · have fault := Lexer.lex_standsIn source file
    rw [failed] at fault
    obtain ⟨span, place, opens, quoted, complains⟩ := fault.opens
    refine ⟨?_, fun c cause => ⟨span, place, complains c cause⟩⟩
    have same := opens.file_eq
    rw [← same] at opens
    exact ScriptError.quotes_of_opens place (same ▸ here) opens quoted
  · exact (run.of_error unused failed).2 e rfl
  · exact (run.endState unused).store.failures job found (.script e) failed e rfl

/-- A name that nothing binds, on the second line of a file that is also on the disk. -/
theorem runFresh_quotesLines_unbound :
    let disk : Disk := (FileTree.directory [("main", .file [49, 10, 120])]).disk "/"
    let place : Span := ⟨⟨2, 1, 2, some "main"⟩, ⟨2, 2, 3, some "main"⟩⟩
    let e : ScriptError := ⟨.undefinedName "x" .unbound, some place, some "x", none⟩
    (∀ name text, some "main" = some name → disk.readText name = .ok text → text = "1\nx") ∧
      (∃ last, runFresh {} 0 "1\nx" (some "main") (.unused disk 1 0.0) = .error (.script e) last) ∧
      place.start.ShownIn "1\nx".toList "x" := by
  intro disk place e
  have named : ∀ name text, some "main" = some name → disk.readText name = .ok text →
      text = "1\nx" := by
    rintro _ text ⟨⟩ stored
    have content : disk.readText "main" = .ok "1\nx" := by decide +kernel
    rw [content] at stored
    cases stored
    rfl
  have failed : faultOf (runFresh {} 0 "1\nx" (some "main") (.unused disk 1 0.0)) =
      some (.script e) := by decide +kernel
  obtain ⟨last, run⟩ := exists_of_faultOf failed
  have quotes := (runFresh_quotesLines {} 0 "1\nx" (some "main") disk 1 0.0 named).raised e last run
  obtain ⟨text, known, shown⟩ := quotes place "x" rfl rfl
  cases known
  have feeds : Text.FeedsThrough "1\nx".toList 2 := by
    intro c found
    have here : c ∈ ['1', '\n', 'x'] := found
    simp only [List.mem_cons, List.not_mem_nil, or_false] at here
    rcases here with rfl | rfl | rfl <;> decide
  exact ⟨named, ⟨last, run⟩, shown feeds⟩

/-- A vertical tab starts no new line for the places of errors, but the line that is quoted ends
there, before the character that is not expected. -/
theorem runFresh_quotesLines_verticalTab :
    let place : Span := ⟨⟨1, 3, 2, none⟩, ⟨1, 4, 3, none⟩⟩
    Lexer.lex "1\x0b@" none = .error ⟨.unexpectedCharacter '@', some place, some "1", none⟩ ∧
      ¬ place.start.ShownIn "1\x0b@".toList "1" := by
  intro place
  refine ⟨rfl, fun shown => ?_⟩
  obtain ⟨c, -, quoted⟩ := shown.character
  cases quoted

end Scriptlet
