import Dcpu16Asm.Bench.Program
import Dcpu16Asm.Command

/-!
The benchmark runs. Each run takes a size, works on the benchmark program or on fixed
operands, instructions or failing inputs repeated to that size, and returns a short
summary. A run whose summary names a first or last element has none to name when the
size is not positive, and then returns `none`.
-/

namespace Dcpu16Asm.Bench

/-- The benchmark runs. -/
inductive Run where
  | readProgram
  | assembleProgram
  | readOperands
  | encodeInstructions
  | provokeFailures
  | writeSummaries
  | commandLine
  deriving DecidableEq, Repr

/-- The size a run takes when none is given. -/
def Run.defaultSize : Run → Int
  | .readProgram => 30
  | .assembleProgram => 30
  | .readOperands => 2000
  | .encodeInstructions => 1500
  | .provokeFailures => 200
  | .writeSummaries => 2000
  | .commandLine => 25

def total (ws : List Nat) : Nat := ws.foldl (· + ·) 0

/-- The first `n` elements of `src` repeated without end; for negative `n`, `src` without
its last `-n` elements. -/
def grow {α : Type} (src : List α) (n : Int) : List α :=
  if n < 0 then src.take (src.length - n.natAbs)
  else (List.replicate (n.toNat / src.length + 1) src).flatten.take n.toNat

/-- The first `n` elements of `src` repeated without end; nothing for `n` not positive. -/
def cycleTake {α : Type} (src : List α) (n : Int) : List α :=
  (List.replicate (n.toNat / src.length + 1) src).flatten.take n.toNat

/-! ### Reading and assembling the program -/

/-- The summary of reading: how many items, the first label, the last mnemonic. -/
structure ReadSummary where
  count : Nat
  firstLabel : String
  lastMnemonic : String
  deriving DecidableEq, Repr

def readProgram (n : Int) : Option ReadSummary :=
  let items := (parseLines (program n)).items
  match items.head?, items.getLast? with
  | some (.label l), some (.instr i) => some ⟨items.length, l, i.mnemonic.name⟩
  | _, _ => none

/-- The summary of assembling: how many words, the first and last, and their sum modulo
`0x10000`. -/
structure AssembleSummary where
  count : Nat
  first : Nat
  last : Nat
  checksum : Nat
  deriving DecidableEq, Repr

def assembleProgram (n : Int) : Option AssembleSummary :=
  match Assembly.assembleLines (program n) with
  | .ok words =>
    match words.head?, words.getLast? with
    | some a, some z => some ⟨words.length, a, z, total words % 0x10000⟩
    | _, _ => none
  | .error _ => none

/-! ### Operands and instructions -/

/-- Thirty operand texts: the special operands, the registers, two registers in brackets,
then decimal literals, hexadecimal literals and a name, each in their plain, bracketed and
offset forms. -/
def operandTexts : List String :=
  ["POP", "PEEK", "PUSH", "SP", "PC", "O",
   "A", "B", "C", "X", "Y", "Z", "I", "J",
   "[A]", "[J]",
   "3", "31", "100", "65535", "[100]", "[1234+X]",
   "0x1", "0x1f", "0x20", "0xffff", "[0x1000]", "[0x10+B]",
   "somelabel", "[somelabel]"]

/-- The summary of reading operands: how many, the first code, the last code and whether
the last needs a label. -/
structure OperandSummary where
  count : Nat
  firstCode : Nat
  lastCode : Nat
  lastRequiresLookup : Bool
  deriving DecidableEq, Repr

/-- Reads `n` operands, the operand texts repeated. -/
def readOperands (n : Int) : Option OperandSummary :=
  match (cycleTake operandTexts n).mapM Operand.parse with
  | .ok ops =>
    match ops.head?, ops.getLast? with
    | some a, some z => some ⟨ops.length, a.code, z.code, z.requiresLookup⟩
    | _, _ => none
  | .error _ => none

/-- Eight instruction forms, by their fields. -/
def instructionForms : List (List String) :=
  [["SET", "A,", "0x30"],
   ["ADD", "[0x1000],", "0x20"],
   ["SUB", "A,", "[0x1000]"],
   ["JSR", "routine"],
   ["XOR", "X,", "[200+Y]"],
   ["IFE", "A,", "PEEK"],
   ["SET", "[0x2000+I],", "[A]"],
   ["BOR", "C,", "[500]"]]

/-- The summary of encoding: how many words, and their sum modulo `0x100000000`, a reference
counting as 0. -/
structure EncodeSummary where
  count : Nat
  checksum : Nat
  deriving DecidableEq, Repr

/-- Encodes `n` instructions, the forms repeated. -/
def encodeInstructions (n : Int) : EncodeSummary :=
  let words := ((cycleTake instructionForms n).filterMap fun ts =>
    (Instruction.parse ts).toOption).flatMap fun i => i.cells.map Cell.word
  ⟨words.length, total words % 0x100000000⟩

/-! ### Failures -/

/-- The failure of a computation, if it fails. -/
def failureOf {α : Type} : Except AsmError α → Option AsmError
  | .error e => some e
  | .ok _ => none

/-- Nine inputs that fail, one for each of the assembler's eight complaints and one whose
report cannot be written. A complaint records its report; the instruction with the wrong
number of operands records the name of its class instead. -/
def failureCases : List (Option String) :=
  [(failureOf (Item.parseLabel "nolabel")).map AsmError.message,
   (failureOf (Operand.parse "[1+Q]")).map AsmError.message,
   (failureOf (Operand.parse "@")).map AsmError.message,
   (failureOf (Instruction.parse ["SET"])).map AsmError.message,
   (failureOf (Instruction.parse ["FOO", "A,", "B"])).map AsmError.message,
   (failureOf (Instruction.parse ["SET", "A", "B"])).map AsmError.message,
   (failureOf (Instruction.parse ["JSR", "A,", "B"])).map AsmError.className,
   (failureOf (Assembly.assembleLines [":dup", "SET A, B", ":dup"])).map AsmError.message,
   (failureOf (Assembly.assembleLines ["SET PC, nowhere"])).map AsmError.message]

/-- The summary of the failures: how many, the first record and the last. -/
structure FailureSummary where
  count : Nat
  first : String
  last : String
  deriving DecidableEq, Repr

def provokeFailures (n : Int) : Option FailureSummary :=
  let msgs := (List.replicate n.toNat failureCases).flatten.filterMap id
  match msgs.head?, msgs.getLast? with
  | some a, some z => some ⟨msgs.length, a, z⟩
  | _, _ => none

/-! ### Summaries -/

/-- Facts about the items written: what an item of neither kind answers to being an
instruction and a label (no to both: each kind overrides the answer for itself), what the
first label answers to being a label and an instruction, what the first instruction answers
to being an instruction, its operand count and its opcode, and whether the first operand
needs a label and how it is written. -/
structure ItemFacts where
  bareIsInstruction : Bool
  bareIsLabel : Bool
  labelIsLabel : Bool
  labelIsInstruction : Bool
  instructionIsInstruction : Bool
  instructionArity : Nat
  instructionOpcode : Nat
  operandRequiresLookup : Bool
  operandText : String
  deriving DecidableEq, Repr

/-- The summary of writing summaries: how many texts, the first and last, and facts about
the first items written. -/
structure SummaryRun where
  count : Nat
  first : String
  last : String
  facts : ItemFacts
  deriving DecidableEq, Repr

/-- Writes two texts for each of `n` labels, `n` instructions and `n` operands of the
program of three blocks, each list grown to `n` from the program's own: a label as written
and its summary, an instruction's summary twice, an operand's summary twice. -/
def writeSummaries (n : Int) : Option SummaryRun :=
  let items := (parseLines (program 3)).items
  let labels := grow (items.filterMap fun | .label l => some l | .instr _ => none) n
  let instrs := items.filterMap fun | .instr i => some i | .label _ => none
  let ops := grow (instrs.flatMap Instruction.operands) n
  let instrs := grow instrs n
  let texts := labels.flatMap (fun l => [Item.labelText l, Item.labelSummary l]) ++
    instrs.flatMap (fun i => [i.summary, i.summary]) ++
    ops.flatMap (fun o => [o.summary, o.summary])
  match texts.head?, texts.getLast?, labels.head?, instrs.head?, ops.head? with
  | some a, some z, some l, some i, some o =>
    some ⟨texts.length, a, z,
      ⟨false, false, (Item.label l).isLabel, (Item.label l).isInstruction,
        (Item.instr i).isInstruction, i.mnemonic.arity, i.mnemonic.opcode,
        o.requiresLookup, o.summary⟩⟩
  | _, _, _, _, _ => none

/-! ### The command line -/

/-- The summary of the command line: how long its output is, its first four characters,
and how many lines it has. -/
structure CommandSummary where
  length : Nat
  head : String
  lineCount : Nat
  deriving DecidableEq, Repr

/-- Runs the command line on the program of `n` blocks, first from a file, then from
standard input, and summarises both outputs together. -/
def commandLine (n : Int) : CommandSummary :=
  let text := String.join ((program n).map (· ++ "\n"))
  let fromFile := (Command.run ["bench.dasm"] ⟨[], [("bench.dasm", text)]⟩).toOption.getD ""
  let fromInput := (Command.run [] ⟨Text.LineBreaks.lineFeed.lines text, []⟩).toOption.getD ""
  let out := fromFile ++ fromInput
  ⟨out.length, String.ofList (out.toList.take 4), out.toList.count '\n'⟩

end Dcpu16Asm.Bench
