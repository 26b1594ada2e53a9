/-!
# Arguments of the command line

The words on a command line name a command, some of them in two steps, and options may stand behind
the program and behind every step. An option may be given once behind each step. The options that
every command has may be given anywhere, and the innermost one counts.
-/

namespace WorkItems.CommandLine

inductive Command where
  | setUp (name : Option String)
  | validate (strict : Bool)
  | fix (dryRun : Bool)
  | renumber (dryRun : Bool)
  | showConfig
  | validateConfig
deriving DecidableEq, Repr

/-- What is to be done, where, and how the answer is written. -/
structure Invocation where
  command : Command
  /-- The root of the project, if it is given. -/
  root : Option String
  json : Bool
deriving DecidableEq, Repr

/-- How far the command is named. -/
inductive Step where
  | program
  | setUp
  | validate
  | fix
  | renumber
  | config
  | showConfig
  | validateConfig
deriving DecidableEq, Repr

namespace Step

/-- The words that may follow, and where they lead. -/
def words : Step → List (String × Step)
  | program =>
    [("init", setUp), ("validate", validate), ("fix", fix), ("fix-ids", renumber),
      ("config", config)]
  | config => [("show", showConfig), ("validate", validateConfig)]
  | _ => []

def next? (step : Step) (word : String) : Option Step := step.words.lookup word

end Step

/-- An option with a value. -/
inductive Setting where
  | root
  | name
deriving DecidableEq, Repr

/-- An option without a value. -/
inductive Switch where
  | json
  | strict
  | dryRun
  | help
  | version
deriving DecidableEq, Repr

def Step.setting? (step : Step) (word : String) : Option Setting :=
  match word, step with
  | "root", _ => some .root
  | "name", .setUp => some .name
  | _, _ => none

def Step.switch? (step : Step) (word : String) : Option Switch :=
  match word, step with
  | "json", _ => some .json
  | "help", _ => some .help
  | "version", _ => some .version
  | "strict", .validate => some .strict
  | "dry-run", .fix | "dry-run", .renumber => some .dryRun
  | _, _ => none

/-- The switch of a letter behind a single dash. -/
def Switch.ofLetter? : Char → Option Switch
  | 'j' => some .json
  | 'h' => some .help
  | 'V' => some .version
  | _ => none

/-- Why nothing is done. -/
inductive Stop where
  /-- The arguments say nothing that can be done. -/
  | usage
  | help (step : Step)
  | version (step : Step)
deriving DecidableEq, Repr

/-- The help about the step that some words lead to. -/
def Stop.helpBehind (step : Step) : List String → Stop
  | [] => .help step
  | word :: words =>
    match step.next? word with
    | some next => helpBehind next words
    | none => .usage

/-- The options behind one step. -/
structure Given where
  settings : List (Setting × String) := []
  switches : List Switch := []
deriving Repr

namespace Given

def value? (g : Given) (s : Setting) : Option String := g.settings.lookup s

def has (g : Given) (s : Switch) : Bool := g.switches.contains s

/-- Takes an option with its value. The root cannot be empty. -/
def set (g : Given) (s : Setting) (value : String) : Except Stop Given :=
  if (g.value? s).isSome || (s = .root && value.isEmpty) then .error .usage
  else .ok { g with settings := (s, value) :: g.settings }

/-- Takes an option without a value. -/
def turnOn (g : Given) (step : Step) (s : Switch) : Except Stop Given :=
  match s with
  | .help => .error (.help step)
  | .version => .error (.version step)
  | s => if g.has s then .error .usage else .ok { g with switches := s :: g.switches }

/-- Takes the switches of letters behind one dash. -/
def turnOnAll (g : Given) (step : Step) : List Char → Except Stop Given
  | [] => .ok g
  | letter :: letters =>
    match Switch.ofLetter? letter with
    | none => .error .usage
    | some s => do turnOnAll (← g.turnOn step s) step letters

end Given

/-- The steps so far, each with its options. The innermost comes first. -/
structure Reading where
  step : Step := .program
  given : Given := {}
  /-- The options behind the steps before. -/
  outer : List Given := []

/-- What a word on the command line is. -/
inductive Word where
  /-- Two dashes: no options follow. -/
  | lastOption
  | long (name : String) (value : Option String)
  | letters (ls : List Char)
  | plain (text : String)

namespace Word

def ofText (text : String) : Word :=
  match text.toList with
  | ['-', '-'] => lastOption
  | '-' :: '-' :: cs =>
    long (String.ofList (cs.takeWhile (· != '=')))
      ((cs.dropWhile (· != '=')).tail?.map String.ofList)
  | '-' :: l :: ls => letters (l :: ls)
  | _ => plain text

/-- Whether a word can be the value of the option before it. -/
def isPlain : Word → Bool
  | plain _ => true
  | _ => false

end Word

namespace Reading

/-- Takes a long option, with the value that is given in the same word. -/
def long (r : Reading) (name : String) (value : Option String) : Except Stop Reading :=
  match r.step.setting? name, r.step.switch? name, value with
  | some s, _, some v => (r.given.set s v).map fun given => { r with given }
  | none, some s, none => (r.given.turnOn r.step s).map fun given => { r with given }
  | _, _, _ => .error .usage

/-- Takes a word that is no option. -/
def enter (r : Reading) (word : String) : Except Stop Reading :=
  match r.step.next? word with
  | some step => .ok { step, given := {}, outer := r.given :: r.outer }
  | none => .error .usage

/-- Takes a word that needs no other one. -/
def takeOne (r : Reading) : Word → Except Stop Reading
  | .lastOption => .error .usage
  | .long name value => r.long name value
  | .letters ls => (r.given.turnOnAll r.step ls).map fun given => { r with given }
  | .plain text => r.enter text

/-- Whether a word asks for help about the words behind it. -/
def asksForHelp (r : Reading) (word : String) : Bool := word = "help" && !r.step.words.isEmpty

/-- Reads the words one after the other. Nothing may follow two dashes. -/
def readAll (r : Reading) : List String → Except Stop Reading
  | [] => .ok r
  | [word] =>
    if r.asksForHelp word then .error (.help r.step)
    else match Word.ofText word with
      | .lastOption => .ok r
      | w => r.takeOne w
  | word :: next :: rest =>
    if r.asksForHelp word then .error (.helpBehind r.step (next :: rest))
    else match Word.ofText word with
      | .long name none =>
        if (r.step.setting? name).isSome then
          if (Word.ofText next).isPlain then do readAll (← r.long name (some next)) rest
          else .error .usage
        else do readAll (← r.takeOne (.long name none)) (next :: rest)
      | w => do readAll (← r.takeOne w) (next :: rest)

/-- The command that has been named, if it is one. -/
def command? (r : Reading) : Option Command :=
  match r.step with
  | .setUp => some (.setUp (r.given.value? .name))
  | .validate => some (.validate (r.given.has .strict))
  | .fix => some (.fix (r.given.has .dryRun))
  | .renumber => some (.renumber (r.given.has .dryRun))
  | .showConfig => some .showConfig
  | .validateConfig => some .validateConfig
  | .program | .config => none

/-- The options behind all steps, the innermost first. -/
def allGiven (r : Reading) : List Given := r.given :: r.outer

/-- The root that is given: the innermost one, or else the usual one, which cannot be empty. -/
def root (r : Reading) (usual : Option String) : Except Stop (Option String) :=
  if usual = some "" && r.allGiven.any fun g => (g.value? .root).isNone then .error .usage
  else .ok ((r.allGiven.findSome? (·.value? .root)).or usual)

end Reading

/-- Reads the arguments. `usualRoot` is the root unless they give another one. -/
def Invocation.ofArguments (usualRoot : Option String) (arguments : List String) :
    Except Stop Invocation := do
  let reading ← ({} : Reading).readAll arguments
  let root ← reading.root usualRoot
  match reading.command? with
  | some command => .ok { command, root, json := reading.allGiven.any (·.has .json) }
  | none => .error .usage

end WorkItems.CommandLine
