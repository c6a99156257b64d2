/-!
# Options

A command line is a list of words. Words with two dashes in front name an option, which may have a
value after an equals sign or in the next word; words with one dash hold the letters of switches;
all other words are plain.

* `OptionRule`: an option, the variable that may stand for it, and the values it admits.
* `scan`: the options up to the first plain word. The first mistake, or the first wish for help or
  for the version, ends the reading.
* `Stop`: why the reading of a command line ended early.
-/

namespace OnCall.CommandLine

/-! ## 1. Rules -/

/-- An option of a command. -/
structure OptionRule where
  name : String
  /-- A switch may also be named by a letter. -/
  letter : Option Char
  /-- The variable that holds the value if the option is not given. -/
  variableName : Option String
  /-- A switch is given without a value; that means `true`. -/
  isSwitch : Bool
  admits : String → Bool
  /-- The value if there is no other. -/
  standard : Option String
  isRequired : Bool

namespace OptionRule

/-- A switch, off by default. -/
def switch (name : String) : OptionRule where
  name := name
  letter := none
  variableName := none
  isSwitch := true
  admits v := v = "true" || v = "false"
  standard := some "false"
  isRequired := false

/-- An option with a value, which need not be given. -/
def valued (name : String) (admits : String → Bool) : OptionRule where
  name := name
  letter := none
  variableName := none
  isSwitch := false
  admits := admits
  standard := none
  isRequired := false

def withLetter (c : Char) (r : OptionRule) : OptionRule := { r with letter := some c }

def withVariable (name : String) (r : OptionRule) : OptionRule := { r with variableName := some name }

def withStandard (value : String) (r : OptionRule) : OptionRule := { r with standard := some value }

def required (r : OptionRule) : OptionRule := { r with isRequired := true }

end OptionRule

/-- Why the reading of a command line ended early. -/
inductive Stop where
  | help
  | version
  | misuse (complaint : String)

/-! ## 2. Words -/

/-- What a word is. -/
inductive Word where
  /-- Two dashes alone: no option follows. -/
  | endOfOptions
  /-- An option, and the value after its equals sign. -/
  | option (name : String) (value : Option String)
  | letters (letters : List Char)
  | plain (text : String)

/-- A name, and what follows its first equals sign. -/
def splitValue (cs : List Char) : String × Option String :=
  (String.ofList (cs.takeWhile (· ≠ '=')),
    match cs.dropWhile (· ≠ '=') with
    | [] => none
    | _ :: value => some (String.ofList value))

/-- What a word is. A dash alone is plain. -/
def Word.of (word : String) : Word :=
  match word.toList with
  | ['-', '-'] => .endOfOptions
  | '-' :: '-' :: cs =>
    let (name, value) := splitValue cs
    .option name value
  | '-' :: c :: cs => .letters (c :: cs)
  | _ => .plain word

/-! ## 3. Reading -/

/-- The options that were given, with their values. -/
abbrev Given := List (String × String)

/-- Add an option. It may be given once, with a value that it admits. -/
def add (r : OptionRule) (value : String) (given : Given) : Except Stop Given :=
  if (given.lookup r.name).isSome then .error (.misuse ("--" ++ r.name ++ " is given twice"))
  else if r.admits value then .ok (given ++ [(r.name, value)])
  else .error (.misuse ("invalid value '" ++ value ++ "' for --" ++ r.name))

/-- Add the switches that some letters name. -/
def addLetters (rules : List OptionRule) (hasVersion : Bool) :
    Given → List Char → Except Stop Given
  | given, [] => .ok given
  | given, c :: cs =>
    if c = 'h' then .error .help
    else if c = 'V' ∧ hasVersion then .error .version
    else match rules.find? fun r => r.isSwitch && r.letter = some c with
      | some r => do addLetters rules hasVersion (← add r "true" given) cs
      | none => .error (.misuse ("unexpected argument '-" ++ String.ofList [c] ++ "'"))

/-- Read options up to the first plain word, and return them with that word and what follows it.
An option that still needs its value takes the next word, which has to be plain. -/
def scan (rules : List OptionRule) (hasVersion : Bool) :
    Option OptionRule → Given → List String → Except Stop (Given × List String)
  | none, given, [] => .ok (given, [])
  | some r, _, [] => .error (.misuse ("--" ++ r.name ++ " needs a value"))
  | some r, given, word :: words =>
    match Word.of word with
    | .plain value => do scan rules hasVersion none (← add r value given) words
    | _ => .error (.misuse ("--" ++ r.name ++ " needs a value"))
  | none, given, word :: words =>
    match Word.of word with
    | .plain _ => .ok (given, word :: words)
    | .endOfOptions =>
      if words.isEmpty then .ok (given, []) else .error (.misuse "unexpected argument")
    | .letters cs => do scan rules hasVersion none (← addLetters rules hasVersion given cs) words
    | .option name value =>
      match rules.find? fun r => r.name = name with
      | some r =>
        match r.isSwitch, value with
        | true, none => do scan rules hasVersion none (← add r "true" given) words
        | true, some _ => .error (.misuse ("--" ++ name ++ " takes no value"))
        | false, some value => do scan rules hasVersion none (← add r value given) words
        | false, none => scan rules hasVersion (some r) given words
      | none =>
        if name = "help" ∧ value = none then .error .help
        else if name = "version" ∧ value = none ∧ hasVersion then .error .version
        else .error (.misuse ("unexpected argument '" ++ word ++ "'"))

/-! ## 4. Variables -/

/-- The variables of the surroundings. -/
abbrev Variables := List (String × String)

/-- The value that a variable holds for an option. -/
def OptionRule.fromVariable (r : OptionRule) (vars : Variables) : Option String :=
  r.variableName.bind fun name => vars.lookup name

/-- Check what stands for the options that are not given: a variable has to hold a value that the
option admits, and a required option needs one. -/
def check (rules : List OptionRule) (vars : Variables) (given : Given) : Except Stop Unit :=
  rules.forM fun r =>
    if (given.lookup r.name).isSome then .ok ()
    else match r.fromVariable vars with
      | some value =>
        if r.admits value then .ok ()
        else .error (.misuse ("invalid value '" ++ value ++ "' for --" ++ r.name))
      | none =>
        if r.isRequired then .error (.misuse ("--" ++ r.name ++ " is required")) else .ok ()

/-- The value of an option: the one given, or that of its variable, or the standard one. -/
def OptionRule.value (r : OptionRule) (vars : Variables) (given : Given) : Option String :=
  (given.lookup r.name).or ((r.fromVariable vars).or r.standard)

end OnCall.CommandLine
