import Stencil.Command
import Stencil.Proofs.BuiltinOutput
import Stencil.Proofs.Registration

/-!
# The first failure decides

A run of the command has requirements: on its variables, on the file of the globals, on the
context, on the template and on the rendering. `Occasion.Breaks` says of each, apart from the
others, when it is broken and by which failure, and `Worded` in which words. The command checks
them in a fixed order, so its outcome is the failure of the first that is broken
(`Occasion.BreaksFirst`), or else the rendered text. Nothing is said about the parser of the
arguments but what the command does with its answer.

The stages are taken one by one. `Occasion.Tests` says that the result of a stage is about one
requirement, and `Occasion.Decides` that an outcome is about several in order; the stages are
joined by `Occasion.Decides.bind`.
-/

namespace Stencil

/-- A text that has to be an object is malformed, or another value, or it gives the fields. -/
theorem Json.parseObject_cases (malformed : Json.SyntaxError → RenderError) (text : String) :
    (∃ table : Table Json, Json.parse text = .ok (.object table.entries) ∧
      Json.parseObject malformed text = .ok table) ∨
    (∃ error, Json.parse text = .error error ∧
      Json.parseObject malformed text = .error (malformed error)) ∨
    (∃ value, Json.parse text = .ok value ∧ (∀ fields, value ≠ .object fields) ∧
      Json.parseObject malformed text = .error (.notAnObject value)) := by
  fun_cases Json.parseObject malformed text with
  | case1 error parsed => exact .inr (.inl ⟨error, parsed, rfl⟩)
  | case2 fields parsed =>
      obtain ⟨table, rfl⟩ := exists_table_of_parse parsed
      exact .inl ⟨table, parsed, by rw [Table.ofList_entries]⟩
  | case3 value other parsed => exact .inr (.inr ⟨value, parsed, other, rfl⟩)

theorem Json.parseObject_of_other {text : String} {value : Json}
    (parsed : Json.parse text = .ok value) (other : ∀ fields, value ≠ .object fields)
    (malformed : Json.SyntaxError → RenderError) :
    Json.parseObject malformed text = .error (.notAnObject value) := by
  rcases Json.parseObject_cases malformed text with
    ⟨table, parsed', _⟩ | ⟨_, failed, _⟩ | ⟨_, parsed', _, result⟩
  · exact absurd (Except.ok.inj (parsed.symm.trans parsed')) (other table.entries)
  · cases parsed.symm.trans failed
  · cases parsed.symm.trans parsed'
    exact result

namespace Command

/-- What the outcome of a run depends on. -/
structure Occasion where
  /-- The arguments. -/
  arguments : Arguments
  /-- The values of the variables. -/
  environment : Environment
  /-- The texts of the files. -/
  readFile : FileReader

/-- Something that a run requires. -/
inductive Requirement where
  /-- A variable can be used, if it is set. -/
  | variable (name : String)
  /-- The file of the globals holds an object, if one is named. -/
  | globals
  /-- The context is an object. -/
  | context
  /-- The template is a builtin one. -/
  | template
  /-- The template is rendered without an error. -/
  | rendering

/--
The wording of a failure to meet a requirement: the message, and those of the errors behind it, the
nearest first. An error of a rendering has the wording of that error.
-/
inductive Worded : Requirement → Failure → String → List String → Prop where
  | notUnicode (name : String) :
      Worded (.variable name) (.settings (.environment (.notUnicode name)))
        (Text.quote name ++ " env var is not unicode") []
  | notBoolean (name word : String) :
      Worded (.variable name) (.settings (.environment (.notBoolean name word)))
        (Text.quote name ++ " env var must be a boolean, got " ++ Text.quote word) []
  | unreadable (path : String) (error : FileError) :
      Worded .globals (.settings (.unreadable path error))
        ("opening path for reading: " ++ Text.quote path) [error.message]
  | malformedGlobals (path : String) (error : Json.SyntaxError) :
      Worded .globals (.settings (.invalidGlobals path (.malformedGlobals error)))
        ("globals file " ++ Text.quote path)
        ["malformed globals JSON: " ++ error.message, error.message]
  | globalsNotAnObject (path : String) (value : Json) :
      Worded .globals (.settings (.invalidGlobals path (.notAnObject value)))
        ("globals file " ++ Text.quote path) ["expected a JSON object, got: " ++ value.compact]
  | malformedContext (error : Json.SyntaxError) :
      Worded .context (.render (.malformedContext error))
        ("malformed context JSON: " ++ error.message) [error.message]
  | contextNotAnObject (value : Json) :
      Worded .context (.render (.notAnObject value))
        ("expected a JSON object, got: " ++ value.compact) []
  | unknownTemplate (id : String) :
      Worded .template (.render (.templateNotFound id))
        ("template " ++ Text.quote id ++ " is not defined") []
  | rendering (error : RenderError) :
      Worded .rendering (.render error) error.message error.reasons

/-- The text in which a message and those of the errors behind it are printed. -/
inductive Printed (message : String) : List String → String → Prop where
  | alone : Printed message [] ("Error: " ++ message ++ "\n")
  | cause (reason : String) :
      Printed message [reason]
        ("Error: " ++ message ++ "\n" ++ "\nCaused by:\n    " ++ reason ++ "\n")
  | causes (nearest farther : String) :
      Printed message [nearest, farther]
        ("Error: " ++ message ++ "\n" ++ "\nCaused by:\n" ++
          "    0: " ++ nearest ++ "\n" ++ "    1: " ++ farther ++ "\n")

theorem Printed.eq_of_nil {message text : String} (printed : Printed message [] text) :
    text = "Error: " ++ message ++ "\n" := by
  cases printed
  rfl

/-- The requirements in the order in which they are checked. -/
def Requirement.order : List Requirement :=
  [.variable Settings.strictVariable, .variable Settings.globalsVariable,
    .variable Settings.traceVariable, .globals, .context, .template, .rendering]

namespace Occasion

/-- The text of a variable that is set to one. -/
def text? (occasion : Occasion) (name : String) : Option String :=
  (occasion.environment name).bind String.fromUTF8?

/-- Lookups are strict if the option is given or the variable is set to true. -/
def policy (occasion : Occasion) : Policy :=
  if occasion.arguments.strict ∨
      (occasion.text? Settings.strictVariable).bind parseBool = some true then .strict
  else .lenient

/-- The option names the file of the globals, or else the variable. -/
def globalsPath (occasion : Occasion) : Option String :=
  occasion.arguments.globals.or (occasion.text? Settings.globalsVariable)

/-- The globals of a run. -/
inductive HasGlobals (occasion : Occasion) : Table Json → Prop where
  | absent (unnamed : occasion.globalsPath = none) : HasGlobals occasion ∅
  | file {path text : String} {globals : Table Json} (named : occasion.globalsPath = some path)
      (read : occasion.readFile path = .ok text)
      (parsed : Json.parse text = .ok (.object globals.entries)) : HasGlobals occasion globals

/-- A builtin template and the scope that it is bound to, which has defs from nowhere else. -/
inductive HasTemplate (occasion : Occasion) : Template → Scope → Prop where
  | mk {template : Template} {vars globals : Table Json}
      (known : Builtin.catalogue.get? occasion.arguments.template = some template)
      (context : Json.parse occasion.arguments.context = .ok (.object vars.entries))
      (given : occasion.HasGlobals globals) :
      HasTemplate occasion template { vars, globals, policy := occasion.policy }

/-- A requirement is broken, by a failure. -/
inductive Breaks (occasion : Occasion) : Requirement → Failure → Prop where
  | notUnicode {name : String} {bytes : ByteArray}
      (set : occasion.environment name = some bytes)
      (undecodable : String.fromUTF8? bytes = none) :
      Breaks occasion (.variable name) (.settings (.environment (.notUnicode name)))
  | notBoolean {name text : String} (boolean : name ≠ Settings.globalsVariable)
      (set : occasion.text? name = some text) (unknown : parseBool text = none) :
      Breaks occasion (.variable name) (.settings (.environment (.notBoolean name text)))
  | unreadable {path : String} {error : FileError} (named : occasion.globalsPath = some path)
      (failed : occasion.readFile path = .error error) :
      Breaks occasion .globals (.settings (.unreadable path error))
  | malformedGlobals {path text : String} {error : Json.SyntaxError}
      (named : occasion.globalsPath = some path) (read : occasion.readFile path = .ok text)
      (malformed : Json.parse text = .error error) :
      Breaks occasion .globals (.settings (.invalidGlobals path (.malformedGlobals error)))
  | globalsNotAnObject {path text : String} {value : Json}
      (named : occasion.globalsPath = some path) (read : occasion.readFile path = .ok text)
      (parsed : Json.parse text = .ok value) (other : ∀ fields, value ≠ .object fields) :
      Breaks occasion .globals (.settings (.invalidGlobals path (.notAnObject value)))
  | malformedContext {error : Json.SyntaxError}
      (malformed : Json.parse occasion.arguments.context = .error error) :
      Breaks occasion .context (.render (.malformedContext error))
  | contextNotAnObject {value : Json}
      (parsed : Json.parse occasion.arguments.context = .ok value)
      (other : ∀ fields, value ≠ .object fields) :
      Breaks occasion .context (.render (.notAnObject value))
  | unknownTemplate (unknown : occasion.arguments.template ∉ Builtin.catalogue.names) :
      Breaks occasion .template (.render (.templateNotFound occasion.arguments.template))
  | rendering {template : Template} {scope : Scope} {error : RenderError}
      (chosen : occasion.HasTemplate template scope)
      (fails : (template.bind scope).EndsWith (.error error)) :
      Breaks occasion .rendering (.render error)

/-- The first requirement of a list that is broken is broken by a failure. -/
inductive BreaksFirst (occasion : Occasion) : List Requirement → Failure → Prop where
  | here {requirement : Requirement} {failure : Failure} (later : List Requirement)
      (breaks : occasion.Breaks requirement failure) :
      BreaksFirst occasion (requirement :: later) failure
  | later {requirement : Requirement} {requirements : List Requirement} {failure : Failure}
      (met : ∀ failure, ¬ occasion.Breaks requirement failure)
      (rest : BreaksFirst occasion requirements failure) :
      BreaksFirst occasion (requirement :: requirements) failure

/-- No requirement of a list is broken. -/
def Meets (occasion : Occasion) (requirements : List Requirement) : Prop :=
  ∀ requirement ∈ requirements, ∀ failure, ¬ occasion.Breaks requirement failure

/-- The template is rendered to a text. -/
def Renders (occasion : Occasion) (html : String) : Prop :=
  ∃ template scope, occasion.HasTemplate template scope ∧
    (template.bind scope).EndsWith (.ok html)

variable {occasion : Occasion}

theorem BreaksFirst.not_meets {requirements : List Requirement} {failure : Failure}
    (broken : occasion.BreaksFirst requirements failure) : ¬ occasion.Meets requirements := by
  intro meets
  induction broken with
  | here later breaks => exact meets _ List.mem_cons_self _ breaks
  | later _ _ ih => exact ih fun requirement member => meets _ (List.mem_cons_of_mem _ member)

theorem BreaksFirst.exists_breaks {requirements : List Requirement} {failure : Failure}
    (broken : occasion.BreaksFirst requirements failure) :
    ∃ requirement ∈ requirements, occasion.Breaks requirement failure := by
  induction broken with
  | here later breaks => exact ⟨_, List.mem_cons_self, breaks⟩
  | later _ _ ih =>
      obtain ⟨requirement, member, breaks⟩ := ih
      exact ⟨requirement, List.mem_cons_of_mem _ member, breaks⟩

/-- Of the requirements of a list either none is broken, or there is a first that is. -/
theorem meets_or_breaksFirst (occasion : Occasion) (requirements : List Requirement) :
    occasion.Meets requirements ∨ ∃ failure, occasion.BreaksFirst requirements failure := by
  induction requirements with
  | nil => exact .inl fun _ member => nomatch member
  | cons requirement requirements ih =>
      by_cases broken : ∃ failure, occasion.Breaks requirement failure
      · obtain ⟨failure, breaks⟩ := broken
        exact .inr ⟨failure, .here requirements breaks⟩
      · have met : ∀ failure, ¬ occasion.Breaks requirement failure := not_exists.mp broken
        rcases ih with meets | ⟨failure, first⟩
        · exact .inl (List.forall_mem_cons.mpr ⟨met, meets⟩)
        · exact .inr ⟨failure, .later met first⟩

theorem HasGlobals.unique {globals other : Table Json} (has : occasion.HasGlobals globals)
    (also : occasion.HasGlobals other) : globals = other := by
  cases has with
  | absent unnamed =>
      cases also with
      | absent _ => rfl
      | file named _ _ => cases unnamed.symm.trans named
  | file named read parsed =>
      cases also with
      | absent unnamed => cases named.symm.trans unnamed
      | file named' read' parsed' =>
          cases named.symm.trans named'
          cases read.symm.trans read'
          exact Table.ext (Json.object.inj (Except.ok.inj (parsed.symm.trans parsed')))

theorem HasTemplate.unique {template other : Template} {scope scope' : Scope}
    (has : occasion.HasTemplate template scope) (also : occasion.HasTemplate other scope') :
    template = other ∧ scope = scope' := by
  obtain ⟨known, context, given⟩ := has
  obtain ⟨known', context', given'⟩ := also
  cases known.symm.trans known'
  obtain rfl := Table.ext (Json.object.inj (Except.ok.inj (context.symm.trans context')))
  cases given.unique given'
  exact ⟨rfl, rfl⟩

/-- A run has one rendered text at most. -/
theorem Renders.unique {html other : String} (renders : occasion.Renders html)
    (also : occasion.Renders other) : html = other := by
  obtain ⟨template, scope, chosen, ends⟩ := renders
  obtain ⟨template', scope', chosen', ends'⟩ := also
  obtain ⟨rfl, rfl⟩ := chosen.unique chosen'
  exact Except.ok.inj (ends.unique ends')

/-! ## Stages and requirements -/

/-- A result is a failure exactly if a requirement is broken by this failure. -/
def Tests {α : Type} (occasion : Occasion) (requirement : Requirement)
    (result : Except Failure α) : Prop :=
  ∀ failure, occasion.Breaks requirement failure ↔ result = .error failure

/-- An outcome is a failure exactly if the first requirement that is broken is broken by it. -/
def Decides {α : Type} (occasion : Occasion) (requirements : List Requirement)
    (outcome : Except Failure α) : Prop :=
  ∀ failure, occasion.BreaksFirst requirements failure ↔ outcome = .error failure

namespace Decides

theorem nil {α : Type} (value : α) : occasion.Decides [] (.ok value) := by
  intro failure
  constructor
  · rintro ⟨⟩
  · rintro ⟨⟩

/-- A stage is about the first requirement, and what follows it about the others. -/
theorem bind {α β : Type} {requirement : Requirement} {requirements : List Requirement}
    {first : Except Failure α} {next : α → Except Failure β}
    (tests : occasion.Tests requirement first)
    (rest : ∀ value, first = .ok value → occasion.Decides requirements (next value)) :
    occasion.Decides (requirement :: requirements) (first >>= next) := by
  intro failure
  cases first with
  | error earlier =>
      have breaks := (tests earlier).mpr rfl
      constructor
      · intro broken
        cases broken with
        | here _ breaks => exact congrArg _ (Except.error.inj ((tests failure).mp breaks))
        | later met _ => exact absurd breaks (met earlier)
      · rintro ⟨⟩
        exact .here requirements breaks
  | ok value =>
      have met : ∀ failure, ¬ occasion.Breaks requirement failure :=
        fun failure breaks => nomatch (tests failure).mp breaks
      constructor
      · intro broken
        cases broken with
        | here _ breaks => exact absurd breaks (met failure)
        | later _ broken => exact (rest value rfl failure).mp broken
      · intro failed
        exact .later met ((rest value rfl failure).mpr failed)

theorem last {α : Type} {requirement : Requirement} {result : Except Failure α}
    (tests : occasion.Tests requirement result) : occasion.Decides [requirement] result := by
  have decides : occasion.Decides [requirement] (result >>= fun value => .ok value) :=
    bind tests fun value _ => nil value
  cases result <;> exact decides

end Decides

/-! ## The variables -/

/-- A failure of a variable. -/
def ofVariable {α : Type} (result : Except EnvironmentError α) : Except Failure α :=
  result.mapError fun error => .settings (.environment error)

/-- A variable is read as the text it is set to, unless it is set to something else. -/
theorem text?_cases (occasion : Occasion) (name : String) :
    (occasion.environment.text? name = .ok (occasion.text? name) ∧
      ∀ bytes, occasion.environment name = some bytes → String.fromUTF8? bytes ≠ none) ∨
    (occasion.environment.text? name = .error (.notUnicode name) ∧
      ∃ bytes, occasion.environment name = some bytes ∧ String.fromUTF8? bytes = none) := by
  rw [Environment.text?, text?]
  cases occasion.environment name with
  | none => exact .inl ⟨rfl, fun _ set => nomatch set⟩
  | some bytes =>
      cases decoded : String.fromUTF8? bytes with
      | none => exact .inr ⟨by simp only [decoded], bytes, rfl, decoded⟩
      | some text =>
          refine .inl ⟨by simp only [Option.bind_some, decoded], ?_⟩
          rintro _ ⟨⟩
          simp [decoded]

/-- A variable is read as a truth value if it is set to a word for one. -/
theorem bool?_cases (occasion : Occasion) (name : String) :
    (occasion.environment.bool? name = .ok ((occasion.text? name).bind parseBool) ∧
      (∀ bytes, occasion.environment name = some bytes → String.fromUTF8? bytes ≠ none) ∧
      ∀ word, occasion.text? name = some word → parseBool word ≠ none) ∨
    (occasion.environment.bool? name = .error (.notUnicode name) ∧
      ∃ bytes, occasion.environment name = some bytes ∧ String.fromUTF8? bytes = none) ∨
    (∃ word, occasion.environment.bool? name = .error (.notBoolean name word) ∧
      occasion.text? name = some word ∧ parseBool word = none) := by
  rw [Environment.bool?]
  rcases occasion.text?_cases name with ⟨read, decodes⟩ | ⟨failed, undecodable⟩
  · rw [read]
    cases occasion.text? name with
    | none => exact .inl ⟨rfl, decodes, fun _ set => nomatch set⟩
    | some word =>
        cases parsed : parseBool word with
        | none =>
            refine .inr (.inr ⟨word, ?_, rfl, parsed⟩)
            simp only [bind, Except.bind, parsed]
            rfl
        | some value =>
            refine .inl ⟨?_, decodes, ?_⟩
            · simp only [bind, Except.bind, parsed, Option.bind_some]
              rfl
            · rintro _ ⟨⟩
              simp [parsed]
  · rw [failed]
    exact .inr (.inl ⟨rfl, undecodable⟩)

/-- A variable that is set to something else has no text. -/
theorem text?_of_undecodable {name : String} {bytes : ByteArray}
    (set : occasion.environment name = some bytes) (undecodable : String.fromUTF8? bytes = none) :
    occasion.text? name = none := by
  rw [text?, set, Option.bind_some, undecodable]

theorem text?_eq {name : String} {text : Option String}
    (read : occasion.environment.text? name = .ok text) : text = occasion.text? name := by
  rcases occasion.text?_cases name with ⟨read', _⟩ | ⟨failed, _⟩
  · exact Except.ok.inj (read.symm.trans read')
  · cases read.symm.trans failed

theorem bool?_eq {name : String} {value : Option Bool}
    (read : occasion.environment.bool? name = .ok value) :
    value = (occasion.text? name).bind parseBool := by
  rcases occasion.bool?_cases name with ⟨read', _⟩ | ⟨failed, _⟩ | ⟨_, failed, _⟩
  · exact Except.ok.inj (read.symm.trans read')
  · cases read.symm.trans failed
  · cases read.symm.trans failed

/-- A variable that is not set can be used. -/
theorem not_breaks_of_unset {name : String} (unset : occasion.environment name = none)
    (failure : Failure) : ¬ occasion.Breaks (.variable name) failure := by
  intro breaks
  cases breaks with
  | notUnicode set => cases unset.symm.trans set
  | notBoolean _ set =>
      rw [text?, unset] at set
      cases set

/-- The variable for the globals is only decoded. -/
theorem globalsVariable_tests :
    occasion.Tests (.variable Settings.globalsVariable)
      (ofVariable (occasion.environment.text? Settings.globalsVariable)) := by
  intro failure
  rcases occasion.text?_cases Settings.globalsVariable with
    ⟨read, decodes⟩ | ⟨failed, bytes, set, undecodable⟩
  · rw [read]
    refine ⟨fun breaks => ?_, fun failed => nomatch failed⟩
    cases breaks with
    | notUnicode set undecodable => exact absurd undecodable (decodes _ set)
    | notBoolean boolean => exact absurd rfl boolean
  · rw [failed]
    constructor
    · intro breaks
      cases breaks with
      | notUnicode => rfl
      | notBoolean boolean => exact absurd rfl boolean
    · rintro ⟨⟩
      exact .notUnicode set undecodable

/-- Every other variable is decoded, and is a truth value. -/
theorem boolVariable_tests {name : String} (boolean : name ≠ Settings.globalsVariable) :
    occasion.Tests (.variable name) (ofVariable (occasion.environment.bool? name)) := by
  intro failure
  rcases occasion.bool?_cases name with
    ⟨read, decodes, words⟩ | ⟨failed, bytes, set, undecodable⟩ | ⟨word, failed, set, unknown⟩
  · rw [read]
    refine ⟨fun breaks => ?_, fun failed => nomatch failed⟩
    cases breaks with
    | notUnicode set undecodable => exact absurd undecodable (decodes _ set)
    | notBoolean _ set unknown => exact absurd unknown (words _ set)
  · rw [failed]
    constructor
    · intro breaks
      cases breaks with
      | notUnicode => rfl
      | notBoolean _ set' => cases (text?_of_undecodable set undecodable).symm.trans set'
    · rintro ⟨⟩
      exact .notUnicode set undecodable
  · rw [failed]
    constructor
    · intro breaks
      cases breaks with
      | notUnicode set' undecodable =>
          cases (text?_of_undecodable set' undecodable).symm.trans set
      | notBoolean _ set' =>
          cases set.symm.trans set'
          rfl
    · rintro ⟨⟩
      exact .notBoolean boolean set unknown

/-! ## The globals and the context -/

/-- The settings of a run whose variables can be used. -/
def settings (occasion : Occasion) : Settings :=
  occasion.arguments.adjust
    { strict := ((occasion.text? Settings.strictVariable).bind parseBool).getD false
      globalsPath := occasion.text? Settings.globalsVariable
      trace := ((occasion.text? Settings.traceVariable).bind parseBool).getD false }

theorem globalsPath_settings : occasion.settings.globalsPath = occasion.globalsPath := by
  rw [settings, Arguments.adjust, globalsPath]
  cases occasion.arguments.globals <;> rfl

theorem policy_settings : occasion.settings.policy = occasion.policy := by
  rw [settings, Arguments.adjust, Settings.policy, policy]
  match (occasion.text? Settings.strictVariable).bind parseBool, occasion.arguments.strict with
  | none, true | none, false => rfl
  | some true, true | some true, false => rfl
  | some false, true | some false, false => rfl

/-- The file of the globals is the only source of them, and of what can be wrong with them. -/
theorem loadGlobals_cases (occasion : Occasion) :
    (∃ globals, occasion.HasGlobals globals ∧
      occasion.settings.loadGlobals occasion.readFile = .ok globals) ∨
    (∃ error, occasion.Breaks .globals (.settings error) ∧
      occasion.settings.loadGlobals occasion.readFile = .error error) := by
  rw [Settings.loadGlobals, globalsPath_settings]
  cases named : occasion.globalsPath with
  | none => exact .inl ⟨∅, .absent named, rfl⟩
  | some path =>
      cases read : occasion.readFile path with
      | error error => exact .inr ⟨_, .unreadable named read, by simp only [read]⟩
      | ok text =>
          simp only [read, Scope.readGlobals]
          rcases Json.parseObject_cases .malformedGlobals text with
            ⟨fields, parsed, given⟩ | ⟨error, malformed, failed⟩ | ⟨value, parsed, other, failed⟩
          · exact .inl ⟨fields, .file named read parsed, by rw [given]; rfl⟩
          · exact .inr ⟨_, .malformedGlobals named read malformed, by rw [failed]; rfl⟩
          · exact .inr ⟨_, .globalsNotAnObject named read parsed other, by rw [failed]; rfl⟩

theorem globals_tests :
    occasion.Tests .globals
      ((occasion.settings.loadGlobals occasion.readFile).mapError .settings) := by
  intro failure
  constructor
  · intro breaks
    rw [Settings.loadGlobals, globalsPath_settings]
    cases breaks with
    | unreadable named failed => simp only [named, failed, Except.mapError]
    | malformedGlobals named read malformed =>
        simp only [named, read, Scope.readGlobals, Json.parseObject, malformed, Except.mapError]
    | globalsNotAnObject named read parsed other =>
        simp only [named, read, Scope.readGlobals, Json.parseObject_of_other parsed other,
          Except.mapError]
  · intro failed
    rcases occasion.loadGlobals_cases with ⟨globals, _, loaded⟩ | ⟨error, breaks, failed'⟩
    · rw [loaded] at failed
      cases failed
    · rw [failed'] at failed
      cases failed
      exact breaks

theorem hasGlobals_of_loadGlobals {globals : Table Json}
    (loaded : occasion.settings.loadGlobals occasion.readFile = .ok globals) :
    occasion.HasGlobals globals := by
  rcases occasion.loadGlobals_cases with ⟨known, has, loaded'⟩ | ⟨error, _, failed⟩
  · cases loaded.symm.trans loaded'
    exact has
  · cases loaded.symm.trans failed

theorem context_tests (globals : Table Json) :
    occasion.Tests .context
      ((Scope.read occasion.arguments.context globals).mapError .render) := by
  intro failure
  rw [Scope.read]
  constructor
  · intro breaks
    cases breaks with
    | malformedContext malformed =>
        simp only [Json.parseObject, malformed, Except.map, Except.mapError]
    | contextNotAnObject parsed other =>
        simp only [Json.parseObject_of_other parsed other, Except.map, Except.mapError]
  · intro failed
    rcases Json.parseObject_cases .malformedContext occasion.arguments.context with
      ⟨fields, _, given⟩ | ⟨error, malformed, failed'⟩ | ⟨value, parsed, other, failed'⟩
    · rw [given] at failed
      cases failed
    · rw [failed'] at failed
      cases failed
      exact .malformedContext malformed
    · rw [failed'] at failed
      cases failed
      exact .contextNotAnObject parsed other

theorem parse_of_read {globals : Table Json} {scope : Scope}
    (read : Scope.read occasion.arguments.context globals = .ok scope) :
    ∃ vars : Table Json, Json.parse occasion.arguments.context = .ok (.object vars.entries) ∧
      scope = { vars, globals } := by
  obtain ⟨vars, given, rfl⟩ := exists_of_map_eq_ok read
  rcases Json.parseObject_cases .malformedContext occasion.arguments.context with
    ⟨fields, parsed, given'⟩ | ⟨_, _, failed⟩ | ⟨_, _, _, failed⟩
  · cases given.symm.trans given'
    exact ⟨vars, parsed, rfl⟩
  · cases given.symm.trans failed
  · cases given.symm.trans failed

/-! ## The template and its rendering -/

/-- The template that is asked for. -/
def loaded (occasion : Occasion) : Except RenderError Template :=
  Registry.load { templates := Builtin.catalogue } occasion.arguments.template

theorem template_tests : occasion.Tests .template (occasion.loaded.mapError .render) := by
  intro failure
  rw [loaded, Registry.load]
  cases known : Builtin.catalogue.get? occasion.arguments.template with
  | none =>
      have unknown : occasion.arguments.template ∉ Builtin.catalogue.names := by
        rw [Table.mem_names_iff, known]
        exact Bool.false_ne_true
      constructor
      · rintro ⟨⟩
        rfl
      · rintro ⟨⟩
        exact .unknownTemplate unknown
  | some template =>
      have listed : occasion.arguments.template ∈ Builtin.catalogue.names := by
        rw [Table.mem_names_iff, known]
        rfl
      constructor
      · intro breaks
        cases breaks with
        | unknownTemplate unknown => exact absurd listed unknown
      · rintro ⟨⟩

/-- The outcome of rendering a template in a scope. -/
def rendered (template : Template) (scope : Scope) : Except Failure String :=
  match (template.bind scope).render Builtin.depth with
  | none => .error (.render .callsTooDeep)
  | some run => run.outcome.mapError .render

theorem HasTemplate.known_fresh {template : Template} {scope : Scope}
    (chosen : occasion.HasTemplate template scope) :
    Builtin.catalogue.get? occasion.arguments.template = some template ∧ scope.defs = ∅ := by
  obtain ⟨known, _, _⟩ := chosen
  exact ⟨known, rfl⟩

/-- Rendering a builtin template ends, with the outcome of the render. -/
theorem rendered_eq {template : Template} {scope : Scope}
    (chosen : occasion.HasTemplate template scope) :
    ∃ outcome, (template.bind scope).EndsWith outcome ∧
      rendered template scope = outcome.mapError .render := by
  obtain ⟨known, fresh⟩ := chosen.known_fresh
  obtain ⟨outcome, run, ended, rfl⟩ := Builtin.exists_endsWithin known fresh
  exact ⟨run.outcome, ⟨_, run, ended, rfl⟩, by rw [rendered, ended]⟩

theorem rendering_tests {template : Template} {scope : Scope}
    (chosen : occasion.HasTemplate template scope) :
    occasion.Tests .rendering (rendered template scope) := by
  intro failure
  obtain ⟨outcome, ends, same⟩ := rendered_eq chosen
  rw [same]
  constructor
  · intro breaks
    cases breaks with
    | rendering chosen' fails =>
        obtain ⟨rfl, rfl⟩ := chosen.unique chosen'
        rw [ends.unique fails]
        rfl
  · intro failed
    cases outcome with
    | ok html => cases failed
    | error error =>
        cases failed
        exact .rendering chosen ends

/-! ## The stages in order -/

/-- The outcome of a run under given settings, apart from the events. -/
def outcomeUnder (occasion : Occasion) (settings : Settings) : Except Failure String := do
  let globals ← (settings.loadGlobals occasion.readFile).mapError .settings
  let scope ← (Scope.read occasion.arguments.context globals).mapError .render
  let template ← occasion.loaded.mapError .render
  rendered template { scope with policy := settings.policy }

/-- The outcome of a run, apart from the events. -/
def outcome (occasion : Occasion) : Except Failure String := do
  let strict ← ofVariable (occasion.environment.bool? Settings.strictVariable)
  let globalsPath ← ofVariable (occasion.environment.text? Settings.globalsVariable)
  let trace ← ofVariable (occasion.environment.bool? Settings.traceVariable)
  occasion.outcomeUnder (occasion.arguments.adjust
    { strict := strict.getD false, globalsPath, trace := trace.getD false })

theorem eq_ok_of_mapError {ε ε' α : Type} {result : Except ε α} {change : ε → ε'} {value : α}
    (succeeds : result.mapError change = .ok value) : result = .ok value := by
  cases result with
  | error _ => cases succeeds
  | ok known => exact congrArg Except.ok (Except.ok.inj succeeds)

/-- Stages that have all succeeded have found the template and the scope of the run. -/
theorem hasTemplate {globals : Table Json} {scope : Scope} {template : Template}
    (given : (occasion.settings.loadGlobals occasion.readFile).mapError Failure.settings =
      .ok globals)
    (read : (Scope.read occasion.arguments.context globals).mapError Failure.render = .ok scope)
    (known : occasion.loaded.mapError Failure.render = .ok template) :
    occasion.HasTemplate template { scope with policy := occasion.settings.policy } := by
  obtain ⟨vars, parsed, rfl⟩ := parse_of_read (eq_ok_of_mapError read)
  rw [policy_settings]
  exact .mk (Registry.load_eq_ok_iff.mp (eq_ok_of_mapError known)) parsed
    (hasGlobals_of_loadGlobals (eq_ok_of_mapError given))

/-- The stages behind the settings are about the requirements behind the variables. -/
theorem outcomeUnder_decided :
    occasion.Decides [.globals, .context, .template, .rendering]
      (occasion.outcomeUnder occasion.settings) := by
  refine .bind globals_tests fun globals given => ?_
  refine .bind (context_tests globals) fun scope read => ?_
  refine .bind template_tests fun template known => ?_
  exact .last (rendering_tests (hasTemplate given read known))

/-- Variables that are all read give the settings of the run. -/
theorem settings_of_read {strict trace : Option Bool} {path : Option String}
    (read_strict : ofVariable (occasion.environment.bool? Settings.strictVariable) = .ok strict)
    (read_path : ofVariable (occasion.environment.text? Settings.globalsVariable) = .ok path)
    (read_trace : ofVariable (occasion.environment.bool? Settings.traceVariable) = .ok trace) :
    occasion.arguments.adjust
      { strict := strict.getD false, globalsPath := path, trace := trace.getD false } =
      occasion.settings := by
  rw [bool?_eq (eq_ok_of_mapError read_strict), text?_eq (eq_ok_of_mapError read_path),
    bool?_eq (eq_ok_of_mapError read_trace)]
  rfl

theorem outcome_decided : occasion.Decides Requirement.order occasion.outcome := by
  refine .bind (boolVariable_tests (by decide)) fun strict read_strict => ?_
  refine .bind globalsVariable_tests fun path read_path => ?_
  refine .bind (boolVariable_tests (by decide)) fun trace read_trace => ?_
  rw [settings_of_read read_strict read_path read_trace]
  exact outcomeUnder_decided

/-- A run that succeeds has rendered the template. -/
theorem renders_of_outcome {html : String} (succeeds : occasion.outcome = .ok html) :
    occasion.Renders html := by
  obtain ⟨strict, read_strict, succeeds⟩ := exists_of_bind_eq_ok succeeds
  obtain ⟨path, read_path, succeeds⟩ := exists_of_bind_eq_ok succeeds
  obtain ⟨trace, read_trace, succeeds⟩ := exists_of_bind_eq_ok succeeds
  rw [settings_of_read read_strict read_path read_trace] at succeeds
  obtain ⟨globals, given, succeeds⟩ := exists_of_bind_eq_ok succeeds
  obtain ⟨scope, read, succeeds⟩ := exists_of_bind_eq_ok succeeds
  obtain ⟨template, known, succeeds⟩ := exists_of_bind_eq_ok succeeds
  have chosen := hasTemplate given read known
  obtain ⟨outcome, ends, same⟩ := rendered_eq chosen
  rw [eq_ok_of_mapError (same.symm.trans succeeds)] at ends
  exact ⟨_, _, chosen, ends⟩

end Occasion

/-! ## The report of a run -/

/-- A stage has a result, whatever was noted before it. -/
def Results {α : Type} (stage : Stage α) (result : Except Failure α) : Prop :=
  ∀ events, (stage.run.run events).1 = result

namespace Results

variable {α β : Type}

theorem note (events : List Event) : Results (note events) (.ok ()) :=
  fun _ => rfl

theorem attempt {ε : Type} (failure : ε → Failure) (result : Except ε α) :
    Results (attempt failure result) (result.mapError failure) := by
  cases result <;> exact fun _ => rfl

theorem bind {first : Stage α} {next : α → Stage β} {result : Except Failure α}
    {later : α → Except Failure β} (begins : Results first result)
    (continues : ∀ value, result = .ok value → Results (next value) (later value)) :
    Results (first >>= next) (result >>= later) := by
  intro events
  have begun := begins events
  change ((ExceptT.bindCont next (first.run.run events).1).run (first.run.run events).2).1 = _
  rw [begun]
  cases result with
  | error failure => rfl
  | ok value => exact continues value rfl _

/-- A stage that succeeds in any case leaves the result to what follows it. -/
theorem skip {first : Stage α} {next : α → Stage β} {value : α} {result : Except Failure β}
    (begins : Results first (.ok value)) (continues : Results (next value) result) :
    Results (first >>= next) result := by
  have results : Results (first >>= next) (.ok value >>= fun _ => result) := by
    refine bind begins fun found same => ?_
    cases same
    exact continues
  exact results

end Results

theorem loadTemplate_results (registry : Registry) (id : String) :
    Results (loadTemplate registry id) ((registry.load id).mapError .render) := by
  rw [loadTemplate]
  cases registry.load id with
  | ok template => exact fun _ => rfl
  | error error => exact fun _ => rfl

theorem renderIn_results (template : Template) (scope : Scope) :
    Results (renderIn template scope) (Occasion.rendered template scope) := by
  refine .skip (.note _) ?_
  rw [Occasion.rendered]
  cases (template.bind scope).render Builtin.depth with
  | none => exact fun _ => rfl
  | some run => exact .skip (.note run.events) (.attempt .render run.outcome)

/-- The stages of a run have its outcome under the settings. -/
theorem stages_results (occasion : Occasion) (settings : Settings) :
    Results (stages occasion.arguments settings occasion.readFile)
      (occasion.outcomeUnder settings) := by
  refine .skip (.note _) ?_
  refine .bind (.attempt _ _) fun globals _ => .bind (.attempt _ _) fun scope _ => ?_
  rw [Builtin.registry_eq]
  refine .skip (.attempt _ _) (.skip (.note _) ?_)
  exact .bind (loadTemplate_results _ _) fun template _ => renderIn_results _ _

/-- The report of a run is that of its outcome. -/
theorem run_eq (occasion : Occasion) :
    ∃ events, run occasion.arguments occasion.environment occasion.readFile =
      .ofOutcome events occasion.outcome := by
  rw [run, Settings.read, Occasion.outcome]
  cases occasion.environment.bool? Settings.strictVariable with
  | error error => exact ⟨[], rfl⟩
  | ok strict =>
      cases occasion.environment.text? Settings.globalsVariable with
      | error error => exact ⟨[], rfl⟩
      | ok path =>
          cases occasion.environment.bool? Settings.traceVariable with
          | error error => exact ⟨[], rfl⟩
          | ok trace =>
              have result := stages_results occasion (occasion.arguments.adjust
                { strict := strict.getD false, globalsPath := path, trace := trace.getD false }) []
              exact ⟨_, congrArg (Report.ofOutcome _) result⟩

/-- A failure to meet a requirement is told in the words for it. -/
theorem Occasion.Breaks.worded {occasion : Occasion} {requirement : Requirement}
    {failure : Failure} (breaks : occasion.Breaks requirement failure) :
    Worded requirement failure failure.message failure.reasons := by
  cases breaks with
  | notUnicode => exact .notUnicode _
  | notBoolean => exact .notBoolean _ _
  | unreadable => exact .unreadable _ _
  | malformedGlobals => exact .malformedGlobals _ _
  | globalsNotAnObject => exact .globalsNotAnObject _ _
  | malformedContext => exact .malformedContext _
  | contextNotAnObject => exact .contextNotAnObject _
  | unknownTemplate => exact .unknownTemplate _
  | rendering => exact .rendering _

/-- A failure has two errors behind it at most. -/
theorem length_reasons_le (failure : Failure) : failure.reasons.length ≤ 2 := by
  have behind (error : RenderError) : error.reasons.length ≤ 1 := by
    fun_cases RenderError.reasons error <;> simp
  cases failure with
  | render error => exact Nat.le_succ_of_le (behind error)
  | settings error =>
      cases error with
      | environment | unreadable => simp [Failure.reasons, SettingsError.reasons]
      | invalidGlobals path error => exact Nat.succ_le_succ (behind error)

/-- Two reasons are numbered from zero. -/
theorem numbered_pair (nearest farther : String) :
    Failure.numbered 0 [nearest, farther] =
      "    0: " ++ nearest ++ "\n" ++ ("    1: " ++ farther ++ "\n") := by
  simp only [Failure.numbered, String.append_empty]
  rfl

/-- The report of a failure is the text for its message and its reasons. -/
theorem printed_report (failure : Failure) :
    Printed failure.message failure.reasons failure.report := by
  have few := length_reasons_le failure
  rw [Failure.report]
  generalize failure.message = message, failure.reasons = reasons at few
  match reasons, few with
  | [], _ =>
      simp only [String.append_empty]
      exact .alone
  | [reason], _ =>
      have printed : Printed message [reason] _ := .cause reason
      simpa only [String.append_assoc] using printed
  | [nearest, farther], _ =>
      have printed : Printed message [nearest, farther] _ := .causes nearest farther
      simpa only [numbered_pair, String.append_assoc] using printed

theorem outcome_ignores_trace (occasion : Occasion) (trace : Bool) :
    { occasion with arguments := { occasion.arguments with trace } : Occasion }.outcome =
      occasion.outcome := rfl

/-- A report tells that a run was successful, and shows the text it rendered. -/
structure Report.Shows (report : Report) (html : String) : Prop where
  /-- Exactly the text is printed, and a newline. -/
  output : report.output = html ++ "\n"
  /-- There is no failure. -/
  succeeded : report.failure = none
  /-- No failure is told. -/
  errorText : report.errorText = ""

/-- A report tells that a run failed, by a failure to meet a requirement. -/
structure Report.Tells (report : Report) (occasion : Occasion) (failure : Failure) : Prop where
  /-- The exit code is that of a failed run. -/
  exitCode : report.exitCode = 1
  /-- Nothing is printed. -/
  output : report.output = ""
  /-- It is this failure. -/
  failed : report.failure = some failure
  /-- It is told in the words for the requirement it breaks. -/
  errorText : ∃ requirement message reasons, occasion.Breaks requirement failure ∧
    Worded requirement failure message reasons ∧ Printed message reasons report.errorText

/-- What a report says about an outcome that is decided by requirements. -/
theorem report_of_decided {occasion : Occasion} {requirements : List Requirement}
    {outcome : Except Failure String} (decided : occasion.Decides requirements outcome)
    (renders : ∀ html, outcome = .ok html → occasion.Renders html) (events : List Event) :
    ((Report.ofOutcome events outcome).exitCode = 0 ↔ occasion.Meets requirements) ∧
      (occasion.Meets requirements → (∃ html, occasion.Renders html) ∧
        ∀ html, occasion.Renders html → (Report.ofOutcome events outcome).Shows html) ∧
      (∀ failure, occasion.BreaksFirst requirements failure →
        (Report.ofOutcome events outcome).Tells occasion failure) := by
  cases outcome with
  | ok html =>
      have unbroken : ∀ failure, ¬ occasion.BreaksFirst requirements failure :=
        fun failure broken => nomatch (decided failure).mp broken
      have meets : occasion.Meets requirements :=
        (occasion.meets_or_breaksFirst requirements).resolve_right (not_exists.mpr unbroken)
      have rendered := renders html rfl
      refine ⟨iff_of_true rfl meets, fun _ => ⟨⟨html, rendered⟩, fun other also => ?_⟩,
        fun failure broken => absurd broken (unbroken failure)⟩
      rw [also.unique rendered]
      exact ⟨rfl, rfl, rfl⟩
  | error failure =>
      have first := (decided failure).mpr rfl
      refine ⟨iff_of_false Nat.one_ne_zero first.not_meets,
        fun meets => absurd meets first.not_meets, fun other also => ?_⟩
      -- The failure is determined by the requirements, so any first failure is this one.
      cases (decided other).mp also
      obtain ⟨requirement, _, breaks⟩ := first.exists_breaks
      exact ⟨rfl, rfl, rfl, requirement, _, _, breaks, breaks.worded, printed_report failure⟩

/--
The outcome of the command is that of the first requirement which is broken, whatever parser reads
its arguments. With arguments that are accepted the command exits with 0 exactly if every
requirement is met, and then it prints the rendered text and a newline. Otherwise it exits with 1,
prints nothing and tells the failure of the first requirement that is broken, in the words for it. A
trace changes none of this. Arguments that are refused end the command before anything else, with 2
and without output; so do those that ask for help, with 0 and the help.
-/
theorem first_failure_decides (parser : ArgumentParser) (arguments : List ByteArray)
    (environment : Environment) (readFile : FileReader) :
    (∀ accepted, parser arguments = .accepted accepted →
      let occasion : Occasion := { arguments := accepted, environment, readFile }
      let report := execute parser arguments environment readFile
      (report.exitCode = 0 ↔ occasion.Meets Requirement.order) ∧
      (occasion.Meets Requirement.order → (∃ html, occasion.Renders html) ∧
        ∀ html, occasion.Renders html → report.Shows html) ∧
      (∀ failure, occasion.BreaksFirst Requirement.order failure →
        report.Tells occasion failure) ∧
      (occasion.Meets Requirement.order ∨
        ∃ failure, occasion.BreaksFirst Requirement.order failure) ∧
      ∀ trace, ∃ events,
        run { accepted with trace } environment readFile = { report with events }) ∧
    (∀ text, parser arguments = .refused text →
      execute parser arguments environment readFile =
        { exitCode := 2, output := "", events := [], failure := none, errorText := text }) ∧
    (∀ text, parser arguments = .help text →
      execute parser arguments environment readFile =
        { exitCode := 0, output := text, events := [], failure := none, errorText := "" }) := by
  refine ⟨fun accepted parsed => ?_, fun text refused => by rw [execute, refused],
    fun text asked => by rw [execute, asked]⟩
  let occasion : Occasion := { arguments := accepted, environment, readFile }
  obtain ⟨events, reported⟩ := run_eq occasion
  have executed :
      execute parser arguments environment readFile = .ofOutcome events occasion.outcome := by
    rw [execute, parsed]
    exact reported
  obtain ⟨exits, prints, fails⟩ :=
    report_of_decided occasion.outcome_decided (fun _ => Occasion.renders_of_outcome) events
  rw [executed]
  refine ⟨exits, prints, fails, occasion.meets_or_breaksFirst _, fun trace => ?_⟩
  obtain ⟨traced, reported'⟩ := run_eq { occasion with arguments := { accepted with trace } }
  refine ⟨traced, reported'.trans ?_⟩
  have ignored := outcome_ignores_trace occasion trace
  cases ended : occasion.outcome with
  | ok html => exact congrArg (Report.ofOutcome traced) (ignored.trans ended)
  | error failure => exact congrArg (Report.ofOutcome traced) (ignored.trans ended)

/-- Arguments that name no builtin template and a context that is no object. -/
def muddledArguments : List ByteArray :=
  ["--strict".toUTF8, "nowhere".toUTF8, "[1]".toUTF8]

/-- An environment that asks for a trace in a word that is not understood. -/
def muddledEnvironment : Environment :=
  fun name => if name = Settings.traceVariable then some "maybe".toUTF8 else none

/-- Arguments with which there is nothing wrong. -/
def plainArguments : Arguments :=
  { template := "greeting", context := "\x7b\"name\": \"A & B\"\x7d" }

/--
Of everything that is wrong with a run, the variable is reported, as it is checked first. An unknown
option before it all is reported in its place, and a request for help is met. With nothing wrong,
the greeting is printed.
-/
theorem muddled_run_reports_first :
    let report := execute Arguments.parse muddledArguments muddledEnvironment (Directory.read ∅)
    let refused := execute Arguments.parse ("--loud".toUTF8 :: muddledArguments)
      muddledEnvironment (Directory.read ∅)
    let helped := execute Arguments.parse ("--help".toUTF8 :: muddledArguments)
      muddledEnvironment (Directory.read ∅)
    let greeted := execute Arguments.parse
      [plainArguments.template.toUTF8, plainArguments.context.toUTF8] (fun _ => none)
      (Directory.read ∅)
    (report.exitCode = 1 ∧ report.output = "" ∧
      report.failure = some (.settings (.environment (.notBoolean "TKRENDER_TRACE" "maybe"))) ∧
      report.errorText =
        "Error: \"TKRENDER_TRACE\" env var must be a boolean, got \"maybe\"\n") ∧
    (refused.exitCode = 2 ∧ refused.output = "") ∧
    (helped.exitCode = 0 ∧ helped.output ≠ "") ∧
    (greeted.exitCode = 0 ∧ ∃ html,
      Occasion.Renders ⟨plainArguments, fun _ => none, Directory.read ∅⟩ html ∧
      greeted.output = html ++ "\n") := by
  have accepted : Arguments.parse muddledArguments =
      .accepted { template := "nowhere", context := "[1]", strict := true } := by
    decide +kernel
  have refused : Arguments.parse ("--loud".toUTF8 :: muddledArguments) =
      .refused Arguments.usage := by
    decide +kernel
  have helped : Arguments.parse ("--help".toUTF8 :: muddledArguments) = .help Arguments.usage := by
    decide +kernel
  have plain : Arguments.parse [plainArguments.template.toUTF8, plainArguments.context.toUTF8] =
      .accepted plainArguments := by
    decide +kernel
  have word : String.fromUTF8? "maybe".toUTF8 = some "maybe" := by decide +kernel
  obtain ⟨_, _, fails, _⟩ := (first_failure_decides Arguments.parse muddledArguments
    muddledEnvironment (Directory.read ∅)).1 _ accepted
  have told := fails _ (.later (Occasion.not_breaks_of_unset rfl)
    (.later (Occasion.not_breaks_of_unset rfl)
      (.here _ (.notBoolean (by decide) word (by decide +kernel)))))
  refine ⟨⟨told.exitCode, told.output, told.failed, ?_⟩, ?_, ?_, ?_⟩
  · obtain ⟨_, _, _, _, worded, printed⟩ := told.errorText
    cases worded
    rw [printed.eq_of_nil]
    decide +kernel
  · rw [(first_failure_decides Arguments.parse _ _ _).2.1 _ refused]
    exact ⟨rfl, rfl⟩
  · rw [(first_failure_decides Arguments.parse _ _ _).2.2 _ helped]
    exact ⟨rfl, by decide +kernel⟩
  · obtain ⟨exits, prints, _⟩ := (first_failure_decides Arguments.parse _ (fun _ => none)
      (Directory.read ∅)).1 _ plain
    have meets := exits.mp (by decide +kernel)
    obtain ⟨⟨html, renders⟩, shows⟩ := prints meets
    exact ⟨exits.mpr meets, html, renders, (shows html renders).output⟩

end Command

end Stencil
