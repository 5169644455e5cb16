import NetNames.Console.Help

/-!
Reading the arguments of a run. Options may stand before or after the command and are written in
full or by one letter; the value of an option follows it or is joined to it.
-/
namespace NetNames.Arguments
open Usage

inductive UsageError where
  | nothing
  | noCommand
  | unknownCommand (name : String)
  | unexpected (argument : String)
  | noValue (key : Key)
  | noArgument (name : String)
deriving DecidableEq, Repr

/-- What is said of the fault; the program without arguments tells its help. -/
def UsageError.message : UsageError → String
  | .nothing => "\n".intercalate Topic.program.lines
  | .noCommand => "error: 'tnsync' requires a subcommand but one was not provided"
  | .unknownCommand name => s!"error: unrecognized subcommand '{name}'"
  | .unexpected argument => s!"error: unexpected argument '{argument}' found"
  | .noValue key => s!"error: a value is required for '--{key.name}' but none was supplied"
  | .noArgument name =>
    s!"error: the following required arguments were not provided:\n  {name}"

inductive Item where
  | option (key : Key) (value : String)
  | word (s : String)
deriving DecidableEq, Repr

/-- The items of one argument, and the option that still needs a value. -/
abbrev Reading := Except UsageError (List Item × Option Key)

def asksFor (items : List Item) (key : Key) : Bool := items.contains (.option key "")

/-- Nothing is read after an option that asks for the version or for help. -/
def endsReading (items : List Item) : Bool := asksFor items .version || asksFor items .help

def unexpectedLetter (c : Char) : UsageError := .unexpected (String.ofList ['-', c])

/-- Options by their letters; what follows the letter of an option with a value is that value. -/
def readLetters : List Char → Reading
  | [] => .ok ([], none)
  | c :: r =>
    match Key.all.find? (·.letter? == some c) with
    | none => .error (unexpectedLetter c)
    | some key =>
      if key.isLast then .ok ([.option key ""], none)
      else if !key.takesValue then do
        let (items, pending) ← readLetters r
        return (.option key "" :: items, pending)
      else match r with
        | [] => .ok ([], some key)
        | '=' :: value => .ok ([.option key (String.ofList value)], none)
        | value => .ok ([.option key (String.ofList value)], none)

/-- An option by its name, perhaps with its value behind an equals sign. -/
def readNamed (s : List Char) : Reading :=
  let name := String.ofList (s.takeWhile (· != '='))
  match Key.all.find? (·.name == name), s.dropWhile (· != '=') with
  | none, _ => .error (.unexpected ("--" ++ name))
  | some key, [] => if key.takesValue then .ok ([], some key) else .ok ([.option key ""], none)
  | some key, _ :: value =>
    if key.takesValue then .ok ([.option key (String.ofList value)], none)
    else .error (.unexpected (String.ofList value))

def readArgument (a : String) : Reading :=
  match a.toList with
  | '-' :: '-' :: r => readNamed r
  | '-' :: c :: r => readLetters (c :: r)
  | _ => .ok ([.word a], none)

def isOption (a : String) : Bool :=
  match a.toList with
  | '-' :: _ :: _ => true
  | _ => false

/-- The items of the arguments; behind a double dash there are only words. An argument at fault is
found before those after it are looked at. -/
def readItems : Option Key → List String → Except UsageError (List Item)
  | none, [] => .ok []
  | some key, [] => .error (.noValue key)
  | some key, a :: rest =>
    if isOption a then .error (.noValue key)
    else return .option key a :: (← readItems none rest)
  | none, a :: rest =>
    if a == "--" then .ok (rest.map .word)
    else do
      let (items, pending) ← readArgument a
      if endsReading items then return items
      return items ++ (← readItems pending rest)

def words (items : List Item) : List String :=
  items.filterMap fun
    | .word s => some s
    | .option _ _ => none

/-- The last value given for an option. -/
def value? (items : List Item) (key : Key) : Option String :=
  items.reverse.findSome? fun
    | .option k v => if k = key then some v else none
    | .word _ => none

/-- What a run is asked for. -/
inductive Request where
  | version
  | help (t : Topic)
  | run (i : Invocation)
deriving DecidableEq, Repr

def commandOf (items : List Item) (args : List String) : Verb → Except UsageError Command
  | .init => .ok (.init ((value? items .output).getD defaultOutput))
  | .validate => .ok .validate
  | .list => .ok (.list (value? items .filter) (value? items .file) (given .noIfile))
  | .lookup =>
    match args with
    | wanted :: _ => .ok (.lookup wanted (value? items .domain) (value? items .file))
    | [] => .error (.noArgument "<ALIAS>")
  | .diff => .ok (.diff (given .verbose))
  | .sync => .ok (.sync (given .json))
  | .exportTo =>
    match value? items .output with
    | some output => .ok (.exportTo output)
    | none => .error (.noArgument (Key.form .output))
  | .clear => .ok (.clear (given .yes))
where
  given (key : Key) : Bool := (value? items key).isSome

/-- An option that is none of those taken. -/
def strayOption? (items : List Item) (taken : List Key) : Option String :=
  items.findSome? fun
    | .option key _ => if taken.contains key then none else some ("--" ++ key.name)
    | .word _ => none

/-- An argument that the command does not take. -/
def stray? (items : List Item) (args : List String) (v : Verb) : Option String :=
  (args.drop v.operands.length).head? <|> strayOption? items v.keys

def topicOf : List String → Except UsageError Topic
  | [] => .ok .program
  | ["help"] => .ok .help
  | [name] =>
    match Verb.ofName? name with
    | some v => .ok (.command v)
    | none => .error (.unknownCommand name)
  | _ :: name :: _ => .error (.unknownCommand name)

def readVerb (items : List Item) (args : List String) (v : Verb) : Except UsageError Request := do
  if let some a := stray? items args v then throw (.unexpected a)
  if asksFor items .help then return .help (.command v)
  let command ← commandOf items args v
  return .run ⟨(value? items .config).getD defaultConfigPath, value? items .logLevel, command⟩

def readShared (items : List Item) : Except UsageError Request := do
  if items.isEmpty then throw .nothing
  if let some a := strayOption? items sharedKeys then throw (.unexpected a)
  if asksFor items .version then return .version
  if asksFor items .help then return .help .program
  throw .noCommand

def read (args : List String) : Except UsageError Request := do
  let items ← readItems none args
  match words items with
  | [] => readShared items
  | "help" :: names =>
    if let some a := strayOption? items [.config, .logLevel] then throw (.unexpected a)
    return .help (← topicOf names)
  | name :: args =>
    match Verb.ofName? name with
    | some v => readVerb items args v
    | none => throw (.unknownCommand name)

example : (read ["list", "-fx", "--no-ifile", "-c=a"]).toOption =
    some (.run ⟨"a", none, .list (some "x") none true⟩) := by decide +kernel

end NetNames.Arguments
