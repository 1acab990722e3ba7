-- The words of a command line: options, with or without a value, and the
-- words between them.

namespace Stride

/-- An option has a name, `--name`, and perhaps a letter, `-n`. Behind one
that ends the line nothing is read. -/
structure OptionRule where
  name : String
  letter : Option Char := none
  hasValue : Bool := false
  endsLine : Bool := false
  accepts : String → Bool := fun _ => true

/-- The options that may be given, and which words may stand between them. -/
structure LineRules where
  options : List OptionRule
  accepts : List String → Bool

/-- What was given, in order. An option without a value has none here. -/
structure Arguments where
  options : List (String × Option String)
  words : List String
deriving DecidableEq, Repr

/-- Where the reading of a line stops: at its end, at an option that ends it,
at a word that is not for this reader, or at one that means nothing. -/
inductive Ending where
  | complete
  | option (name : String)
  | word (word : String) (rest : List String)
  | misuse
deriving DecidableEq, Repr

/-- A word that is neither an option nor a value that may stand for one: a
dash alone is a word. -/
def isOptionLike (word : String) : Bool :=
  match word.toList with
  | '-' :: _ :: _ => true
  | _ => false

namespace Arguments

def value? (a : Arguments) (name : String) : Option String :=
  (a.options.find? (·.1 == name)).bind (·.2)

def has (a : Arguments) (name : String) : Bool := a.options.any (·.1 == name)

def addWord (a : Arguments) (word : String) : Arguments := { a with words := word :: a.words }

/-- An option that still needs the word behind it as its value. -/
inductive Group where
  | done (options : List (String × Option String))
  | wants (options : List (String × Option String)) (name : String)

/-- The letters behind a dash. The first letter with a value takes the rest
as its value; an equals sign may stand between. -/
def readLetters (rules : List OptionRule) : List Char → Option Group
  | [] => some (.done [])
  | c :: rest =>
    match rules.find? (·.letter == some c) with
    | none => none
    | some rule =>
      if rule.hasValue then
        match rest with
        | [] => some (.wants [] rule.name)
        | '=' :: value => some (.done [(rule.name, some (String.ofList value))])
        | value => some (.done [(rule.name, some (String.ofList value))])
      else if rule.endsLine then some (.done [(rule.name, none)])
      else
        match readLetters rules rest with
        | none => none
        | some (.done options) => some (.done ((rule.name, none) :: options))
        | some (.wants options name) => some (.wants ((rule.name, none) :: options) name)

/-- The name behind two dashes, and perhaps an equals sign and a value. -/
def readName (rules : List OptionRule) (s : List Char) : Option Group :=
  let name := String.ofList (s.takeWhile (· != '='))
  match rules.find? (·.name == name), s.dropWhile (· != '=') with
  | none, _ => none
  | some rule, [] => some (if rule.hasValue then .wants [] name else .done [(name, none)])
  | some rule, _ :: value =>
    if rule.hasValue then some (.done [(name, some (String.ofList value))]) else none

def readGroup (rules : List OptionRule) (word : String) : Option Group :=
  match word.toList with
  | '-' :: '-' :: s => readName rules s
  | _ :: s => readLetters rules s
  | [] => none

/-- The first of these options that ends the line. -/
def ending? (rules : List OptionRule) (options : List (String × Option String)) : Option String :=
  (options.find? fun (name, _) => rules.any fun rule => rule.endsLine && rule.name == name).map
    (·.1)

/-- Reads as far as words have a meaning, or up to the first word if `stop`
is set. Behind `--` there are no options. -/
def read (rules : List OptionRule) (stop : Bool) : List String → Arguments × Ending
  | [] => (⟨[], []⟩, .complete)
  | word :: rest =>
    if word = "--" then if stop then (⟨[], []⟩, .misuse) else (⟨[], rest⟩, .complete)
    else if isOptionLike word then
      match readGroup rules word with
      | none => (⟨[], []⟩, .misuse)
      | some (.done options) =>
        match ending? rules options with
        | some name => (⟨options, []⟩, .option name)
        | none =>
          let (a, ending) := read rules stop rest
          ({ a with options := options ++ a.options }, ending)
      | some (.wants options name) =>
        match rest with
        | [] => (⟨options, []⟩, .misuse)
        | value :: rest =>
          if isOptionLike value then (⟨options, []⟩, .misuse)
          else
            let (a, ending) := read rules stop rest
            ({ a with options := options ++ (name, some value) :: a.options }, ending)
    else if stop then (⟨[], []⟩, .word word rest)
    else
      let (a, ending) := read rules stop rest
      (a.addWord word, ending)

/-- No option is given twice. -/
def isOnce (a : Arguments) : Bool :=
  a.options.all fun (name, _) => (a.options.filter (·.1 == name)).length = 1

/-- The values of an option are all accepted. -/
def acceptsValues (a : Arguments) (rule : OptionRule) : Bool :=
  a.options.all fun (name, value) => name != rule.name || value.all rule.accepts

/-- What was read is in order, though something may still be missing. -/
def fits (a : Arguments) (rules : LineRules) : Bool :=
  a.isOnce && rules.options.all a.acceptsValues && rules.accepts a.words

end Arguments

end Stride
