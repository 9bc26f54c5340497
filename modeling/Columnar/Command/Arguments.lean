/-
This file reads the arguments of the command line. The first word that is no option names the
command; before and after it stand options and operands. A long option takes its value after an
equals sign or as the next word. Short options can share one hyphen; one that takes a value takes
the rest of the word, less an equals sign in front, or the next word. Two hyphens alone end the
options. Where an operand may start with a hyphen, a word that is no known option is taken for an
operand, and so is a word of short options of which one is unknown. No option is given twice to
one command, and each option that takes a value gets one. The word `help` in the place of a
command asks for help, about the program or about the one command named after it.
-/

namespace Columnar

/-- What the command line asks for. -/
inductive Command
  /-- List the partition schemes. -/
  | partitions
  /-- Look up the code of a partition scheme. -/
  | lookup (name : String)
  /-- Evaluate an operation on two literals of one type. -/
  | evaluate (op type left right : String)
deriving DecidableEq, Repr

namespace Command

/-- The options of the program. -/
inductive Flag
  | debug
  | help
  | version
  /-- The operation to evaluate; takes a value. -/
  | op
  /-- The type of the literals; takes a value. -/
  | type
deriving DecidableEq, Repr

namespace Flag

/-- Whether an option takes a value. -/
def takesValue : Flag → Bool
  | .op | .type => true
  | _ => false

/-- The word of an option after two hyphens. -/
def long : Flag → String
  | .debug => "debug"
  | .help => "help"
  | .version => "version"
  | .op => "op"
  | .type => "type"

/-- The letter of an option after one hyphen. -/
def short : Flag → Char
  | .debug => 'd'
  | .help => 'h'
  | .version => 'V'
  | .op => 'o'
  | .type => 't'

end Flag

/-- What may stand after one word of the command line: the options, how many operands, and
whether operands may start with a hyphen. -/
structure Shape where
  flags : List Flag
  operands : Nat
  hyphens : Bool

namespace Shape

/-- The option with a word. -/
def long? (shape : Shape) (word : String) : Option Flag :=
  shape.flags.find? fun flag => flag.long == word

/-- The option with a letter. -/
def short? (shape : Shape) (letter : Char) : Option Flag :=
  shape.flags.find? fun flag => flag.short == letter

/-- Before the command there are options alone. -/
def program : Shape := ⟨[.debug, .help, .version], 0, false⟩

/-- The listing takes nothing. -/
def partitions : Shape := ⟨[.debug, .help], 0, false⟩

/-- The look-up takes a name. -/
def lookup : Shape := ⟨[.debug, .help], 1, false⟩

/-- The evaluation takes two literals, which may be negative numbers. -/
def evaluate : Shape := ⟨[.debug, .help, .op, .type], 2, true⟩

end Shape

/-- Why arguments are not taken as a command. -/
inductive Refusal
  /-- The user asks for help instead. -/
  | helpWanted
  /-- The arguments do not have the form of a command. -/
  | misused
deriving DecidableEq, Repr

/-- The arguments read so far. -/
structure Reading where
  /-- The options met, each with its value; one without a value has the empty text. -/
  given : List (Flag × String)
  /-- The operands met, the first one first. -/
  operands : List String
  /-- The option whose value is the next word. -/
  pending : Option Flag
  /-- Whether the options have ended. -/
  ended : Bool

namespace Reading

/-- Nothing has been read. -/
def start : Reading := ⟨[], [], none, false⟩

/-- Whether a word that starts with a hyphen can be an operand here. -/
def takesHyphens (reading : Reading) (shape : Shape) : Bool :=
  shape.hyphens && reading.operands.length < shape.operands

/-- Record an option. Help interrupts the reading. -/
def give (reading : Reading) (flag : Flag) (value : String) : Except Refusal Reading :=
  if reading.pending.isSome then .error .misused
  else if flag = .help || flag = .version then .error .helpWanted
  else if reading.given.any fun earlier => earlier.1 == flag then .error .misused
  else .ok { reading with given := reading.given ++ [(flag, value)] }

/-- Record that an option waits for its value. -/
def await (reading : Reading) (flag : Flag) : Except Refusal Reading :=
  if reading.pending.isSome then .error .misused
  else .ok { reading with pending := some flag }

/-- Record an operand. -/
def operand (reading : Reading) (shape : Shape) (word : String) : Except Refusal Reading :=
  if reading.pending.isSome then .error .misused
  else if reading.operands.length < shape.operands then
    .ok { reading with operands := reading.operands ++ [word] }
  else .error .misused

/-- Record a word that is no option: the value of the option that waits for one, or an operand. -/
def plain (reading : Reading) (shape : Shape) (word : String) : Except Refusal Reading :=
  match reading.pending with
  | some flag => { reading with pending := none }.give flag word
  | none => reading.operand shape word

/-- Read the options that share one hyphen. -/
def shortFlags (reading : Reading) (shape : Shape) : List Char → Except Refusal Reading
  | [] => .ok reading
  | letter :: rest =>
    match shape.short? letter with
    | none => .error .misused
    | some flag =>
      if flag.takesValue then
        match rest with
        | [] => reading.await flag
        | '=' :: value => reading.give flag (String.ofList value)
        | value => reading.give flag (String.ofList value)
      else do
        let reading ← reading.give flag ""
        reading.shortFlags shape rest

/-- Read an option written out after two hyphens. -/
def longFlag (reading : Reading) (shape : Shape) (word : String) (characters : List Char) :
    Except Refusal Reading :=
  let (name, rest) := characters.span (· != '=')
  let value? : Option String := match rest with
    | [] => none
    | _ :: value => some (String.ofList value)
  match shape.long? (String.ofList name), value? with
  | some flag, some value =>
    if flag.takesValue then reading.give flag value else .error .misused
  | some flag, none =>
    if flag.takesValue then reading.await flag else reading.give flag ""
  | none, _ =>
    if reading.takesHyphens shape then reading.plain shape word else .error .misused

/-- Read one word. -/
def word (reading : Reading) (shape : Shape) (argument : String) : Except Refusal Reading :=
  if reading.ended then reading.operand shape argument
  else
    match argument.toList with
    | ['-', '-'] =>
      if reading.pending.isSome then .error .misused else .ok { reading with ended := true }
    | '-' :: '-' :: characters => reading.longFlag shape argument characters
    | '-' :: letter :: letters =>
      if reading.takesHyphens shape &&
          (letter :: letters).any fun letter => (shape.short? letter).isNone then
        reading.plain shape argument
      else reading.shortFlags shape (letter :: letters)
    | _ => reading.plain shape argument

/-- Read the words after a command. -/
def words (shape : Shape) (arguments : List String) : Except Refusal Reading := do
  let reading ← arguments.foldlM (fun reading word => reading.word shape word) start
  if reading.pending.isSome || reading.operands.length < shape.operands then throw .misused
  else return reading

/-- The value given to an option. -/
def value? (reading : Reading) (flag : Flag) : Option String :=
  reading.given.lookup flag

end Reading

/-- The words that name a command. The last one asks for help. -/
def names : List String := ["partitions", "lookup", "eval", "help"]

/-- Whether help can be given on the words after `help`: on the program when there are none, else
on one command. The words are names alone, so no option is understood among them. -/
def isTopic : List String → Bool
  | [] => true
  | [name] => names.contains name
  | _ => false

/-- The command with a name, from the words after it. -/
def ofWords (name : String) (words : List String) : Except Refusal Command := do
  if name = "partitions" then
    let _ ← Reading.words .partitions words
    return .partitions
  else if name = "lookup" then
    let reading ← Reading.words .lookup words
    match reading.operands with
    | [name] => return .lookup name
    | _ => throw .misused
  else if name = "eval" then
    let reading ← Reading.words .evaluate words
    match reading.operands with
    | [left, right] =>
      return .evaluate ((reading.value? .op).getD "add") ((reading.value? .type).getD "long")
        left right
    | _ => throw .misused
  else if name = "help" && isTopic words then throw .helpWanted
  else throw .misused

/-- Read the arguments of the program, after those in `reading`. -/
def ofArgumentsFrom (reading : Reading) : List String → Except Refusal Command
  | [] => .error .misused
  | word :: rest =>
    if word.startsWith "-" && !reading.ended then do
      let reading ← reading.word .program word
      ofArgumentsFrom reading rest
    else if reading.ended then .error .misused
    else ofWords word rest

/-- Read the arguments of the program. -/
def ofArguments (arguments : List String) : Except Refusal Command :=
  ofArgumentsFrom .start arguments

end Command

end Columnar
