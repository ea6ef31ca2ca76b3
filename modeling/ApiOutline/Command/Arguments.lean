/-
Arguments.

What is typed behind the name of the program is understood in two steps. First every argument is
taken for itself: it is a flag, a plain word or something unknown, and a flag may be shortened as
long as only one begins like that. Then the arguments are read from left to right, and a flag
with a value takes the word behind it.
-/
import ApiOutline.Command.Flag
import ApiOutline.Text.Pattern

set_option autoImplicit false

namespace ApiOutline.Command

/-- Arguments that make no sense. -/
inductive Misuse where
  /-- More than one flag begins like this. -/
  | ambiguous (argument : String) (candidates : List String)
  | missingValue (flag : Flag)
  | unwantedValue (flag : Flag) (value : String)
  | unknown (arguments : List String)
  deriving DecidableEq, Repr

def Misuse.message : Misuse → String
  | .ambiguous argument candidates =>
    "ambiguous option: " ++ argument ++ " could match " ++ ", ".intercalate candidates
  | .missingValue flag => "argument " ++ flag.label ++ ": expected one argument"
  | .unwantedValue flag value =>
    "argument " ++ flag.label ++ ": ignored explicit argument " ++ Text.quoted value
  | .unknown arguments => "unrecognized arguments: " ++ " ".intercalate arguments

/-! ## Single arguments -/

/-- What an argument is, taken for itself. -/
inductive Word where
  /-- Two hyphens, behind which there are no flags. -/
  | separator
  | plain
  | unknown
  /-- A flag, and the value written together with it, behind an equals sign. -/
  | flag (flag : Flag) (value : Option String)
  /-- A flag of one letter, and what is written right behind it or behind an equals sign. -/
  | letter (flag : Flag) (behind : List Char)
  deriving DecidableEq, Repr

/-- A negative number. -/
def negativeNumber : Text.Pattern :=
  let digit := Text.Pattern.one Text.isDecimal
  .chain [.word "-",
    .either (.repeated digit) (.chain [.many digit, .word ".", .repeated digit]),
    .optional (.word "\n")]

/-- The parts in front of and behind the first equals sign. -/
def atEquals (argument : String) : String × Option String :=
  match Text.cutAt? ['='] argument.toList with
  | some (name, value) => (String.ofList name, some (String.ofList value))
  | none => (argument, none)

/-- The names that begin like a long flag. -/
def beginningWith (start : String) : List (String × Flag) :=
  Flag.names.filter fun (name, _) => Text.beginsWith start.toList name.toList

/-- The flag that an argument begins, if there is one: a long flag by its first letters, or one
letter with more behind it. -/
def begun? (argument : String) : Except Misuse (Option Word) :=
  match argument.toList with
  | '-' :: '-' :: _ =>
    let (start, value) := atEquals argument
    match beginningWith start with
    | [] => .ok none
    | [(_, f)] => .ok (some (.flag f value))
    | many => .error (.ambiguous argument (many.map Prod.fst))
  | '-' :: c :: rest =>
    .ok ((Flag.ofLetter? c).map fun f => .letter f rest)
  | _ => .ok none

/-- An argument with a hyphen that begins no flag. -/
def otherWord (argument : String) : Word :=
  if negativeNumber.accepts argument.toList || argument.toList.contains ' ' then .plain
  else .unknown

/-- What an argument is. -/
def classify (argument : String) : Except Misuse Word :=
  match argument.toList with
  | '-' :: _ :: _ =>
    match Flag.ofName? argument with
    | some f => .ok (.flag f none)
    | none =>
      let (name, value) := atEquals argument
      match Flag.ofName? name, value with
      | some f, some v =>
        .ok (if name.toList.length = 2 then .letter f v.toList else .flag f (some v))
      | _, _ => (begun? argument).map fun w => w.getD (otherWord argument)
  | _ => .ok .plain

/-- What the arguments are. Behind the first pair of hyphens everything is plain. -/
def classifyAll : List String → Except Misuse (List (String × Word))
  | [] => .ok []
  | "--" :: rest => .ok (("--", .separator) :: rest.map fun a => (a, .plain))
  | argument :: rest => do
    let word ← classify argument
    return (argument, word) :: (← classifyAll rest)

/-! ## All arguments -/

/-- What was asked for. -/
structure Arguments where
  given : Settings := {}
  /-- The file with the settings, unless it was taken back. -/
  config : Option String := some Settings.defaultPath
  initConfig : Bool := false
  verbose : Bool := false

/-- A request for an explanation, or for something to be done. -/
inductive Request where
  | help
  | run (arguments : Arguments)

namespace Arguments

/-- The arguments with a value for a flag. Two hyphens are no value and take back what was there. -/
def set (a : Arguments) (f : Flag) (v : String) : Arguments :=
  let given : Value := if v = "--" then .null else .str v
  match f with
  | .spec => { a with given := { a.given with spec := given } }
  | .output => { a with given := { a.given with output := given } }
  | .moduleName => { a with given := { a.given with moduleName := given } }
  | .serviceName => { a with given := { a.given with serviceName := given } }
  | .host => { a with given := { a.given with host := given } }
  | .schema => { a with given := { a.given with schema := given } }
  | .config => { a with config := if v = "--" then none else some v }
  | .help | .strictRefs | .initConfig | .verbose => a

/-- The arguments with a switch turned on. -/
def turnOn (a : Arguments) (f : Flag) : Arguments :=
  match f with
  | .strictRefs => { a with given := { a.given with strictRefs := .bool true } }
  | .initConfig => { a with initConfig := true }
  | .verbose => { a with verbose := true }
  | _ => a

end Arguments

/-- The switches of a letter and of the letters behind it. Nothing else may stand there. -/
def switches (f : Flag) : List Char → Except Misuse (List Flag)
  | [] => .error (.unwantedValue f "")
  | c :: rest =>
    match Flag.ofLetter? c, rest with
    | none, rest => .error (.unwantedValue f (String.ofList (c :: rest)))
    | some g, [] => .ok [f, g]
    | some g, d :: rest => (switches g (d :: rest)).map (f :: ·)

/-- The arguments from left to right; `unknown` holds those that could not be understood, last one
first. Whoever asks for an explanation gets it, whatever follows. -/
def read (a : Arguments) (unknown : List String) : List (String × Word) → Except Misuse Request
  | [] => if unknown.isEmpty then .ok (.run a) else .error (.unknown unknown.reverse)
  | (_, .flag f value) :: rest =>
    if f.takesValue then
      match value, rest with
      | some v, rest => read (a.set f v) unknown rest
      | none, (v, .plain) :: rest => read (a.set f v) unknown rest
      | none, _ => .error (.missingValue f)
    else
      match value with
      | some v => .error (.unwantedValue f v)
      | none => if f = .help then .ok .help else read (a.turnOn f) unknown rest
  | (_, .letter f behind) :: rest =>
    match switches f behind with
    | .error m => .error m
    | .ok fs =>
      if fs.contains .help then .ok .help else read (fs.foldl Arguments.turnOn a) unknown rest
  | (argument, .separator) :: rest => read a (argument :: unknown) rest
  | (argument, .plain) :: rest => read a (argument :: unknown) rest
  | (argument, .unknown) :: rest => read a (argument :: unknown) rest

/-- What the arguments of a command ask for, as the parser of `_build_parser` reads them. -/
def parse (arguments : List String) : Except Misuse Request :=
  (classifyAll arguments).bind (read {} [])

end ApiOutline.Command
