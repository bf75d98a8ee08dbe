import ScriptSandbox.Pattern.Footprint
import ScriptSandbox.Pattern.Grammar.Sequence
import ScriptSandbox.Pattern.Meaning
import ScriptSandbox.Unicode.Word

/-!
# Searching for a pattern

A pattern is compiled to a program of choices, tests of a character and tests of a place. The
search keeps the states the program can be in, best first, and moves them over the text one
character at a time, so its cost is bounded by the product of both sizes. Among all matches it
finds the one that begins first, and of those the one that the choices prefer.
-/

namespace ScriptSandbox.Pattern

open ScriptSandbox.Text

/-- One step of a program; the numbers are positions in the program. -/
inductive Step where
  /-- Goes on after a character of the set. -/
  | chars (set : CharSet) (next : Nat)
  /-- Goes on in both ways and prefers the first. -/
  | choice (first second : Nat)
  /-- Goes on where the condition holds. -/
  | look (kind : Look) (next : Nat)
  /-- The text so far is a match. -/
  | accept
  /-- There is no match this way. -/
  | fail
  deriving Inhabited

/-- A program under construction. -/
abbrev Program := Array Step

/-- Adds a step; gives its position. -/
def Program.add (p : Program) (s : Step) : Nat × Program := (p.size, p.push s)

/-- Puts `emit` before the program `n` times. -/
def emitTimes (emit : Nat → Program → Nat × Program) : Nat → Nat → Program → Nat × Program
  | 0, next, p => (next, p)
  | n + 1, next, p =>
    let (next, p) := emit next p
    emitTimes emit n next p

/-- A choice between a body and what follows it. -/
def Step.option (greedy : Bool) (body next : Nat) : Step :=
  if greedy then .choice body next else .choice next body

mutual

/-- Compiles a node that goes on at `next`; gives the position it starts at. -/
def Node.emit : Node → Nat → Program → Nat × Program
  | .empty, next, p => (next, p)
  | .literal text, next, p =>
    text.foldr (fun c (next, p) ↦ Program.add p (.chars (.singleton c) next)) (next, p)
  | .chars set, next, p => Program.add p (if set.isEmpty then .fail else .chars set next)
  | .look kind, next, p => Program.add p (.look kind next)
  | .group _ body, next, p => body.emit next p
  | .concat parts, next, p => Node.emitAll parts next p
  | .branches options, next, p => Node.emitAny options next p
  | .repetition least most greedy body, next, p =>
    match most with
    | some most =>
      -- optional copies from the last to the first, each around the next
      let (start, p) :=
        emitTimes
          (fun inner p ↦
            let (start, p) := body.emit inner p
            Program.add p (Step.option greedy start next))
          (most - least) next p
      emitTimes (fun next p ↦ body.emit next p) least start p
    | none =>
      let (loop, p) := Program.add p .fail
      let (start, p) := body.emit loop p
      let p := p.set! loop (Step.option greedy start next)
      match least with
      | 0 => if body.advances then (loop, p) else Program.add p (Step.option greedy start next)
      | least + 1 => emitTimes (fun next p ↦ body.emit next p) least start p

/-- Compiles nodes one after another. -/
def Node.emitAll : List Node → Nat → Program → Nat × Program
  | [], next, p => (next, p)
  | n :: rest, next, p =>
    let (next, p) := Node.emitAll rest next p
    n.emit next p

/-- Compiles a choice between nodes. -/
def Node.emitAny : List Node → Nat → Program → Nat × Program
  | [], _, p => Program.add p .fail
  | [n], next, p => n.emit next p
  | n :: rest, next, p =>
    let (second, p) := Node.emitAny rest next p
    let (first, p) := n.emit next p
    Program.add p (.choice first second)

end

/-! ### Search -/

/-- Whether there is a word character at a place. -/
def wordAt (unicode : Bool) (text : Array Char) (i : Nat) : Bool :=
  match text[i]? with
  | some c =>
    if unicode then Unicode.isWordChar c else c.isAlphanum || c = '_'
  | none => false

/-- Whether there is a word character before a place. -/
def wordBefore (unicode : Bool) (text : Array Char) (i : Nat) : Bool :=
  i != 0 && wordAt unicode text (i - 1)

/-- Whether a condition holds at a place in a text. -/
def Look.holds (text : Array Char) (i : Nat) : Look → Bool
  | start => i = 0
  | stop => i = text.size
  | startLine => i = 0 || text[i - 1]? = some '\n'
  | stopLine => i = text.size || text[i]? = some '\n'
  | startLineCrlf =>
    i = 0 || text[i - 1]? = some '\n'
      || (text[i - 1]? = some '\r' && text[i]? != some '\n')
  | stopLineCrlf =>
    i = text.size || text[i]? = some '\r'
      || (text[i]? = some '\n' && (i = 0 || text[i - 1]? != some '\r'))
  | boundary u => wordBefore u text i != wordAt u text i
  | notBoundary u => wordBefore u text i == wordAt u text i
  | wordStart u => !wordBefore u text i && wordAt u text i
  | wordEnd u => wordBefore u text i && !wordAt u text i
  | wordStartHalf u => !wordBefore u text i
  | wordEndHalf u => !wordAt u text i

/-- A state of the search: a position in the program, and where its match begins. -/
structure Thread where
  /-- The position in the program. -/
  pc : Nat
  /-- Where the match begins. -/
  start : Nat

/-- The states at a place, best first, and the positions met on the way to them. -/
structure Threads where
  /-- The states that wait for a character or have matched. -/
  list : Array Thread
  /-- The positions met. -/
  met : Array Bool

/-- Follows choices and conditions from the positions of a stack; `fuel` bounds the positions. -/
def follow (program : Program) (text : Array Char) (i start : Nat) :
    Nat → List Nat → Threads → Threads
  | 0, _, threads => threads
  | _, [], threads => threads
  | fuel + 1, pc :: stack, threads =>
    if threads.met.getD pc true then follow program text i start fuel stack threads
    else
      let threads := { threads with met := threads.met.set! pc true }
      match program[pc]? with
      | some (.choice first second) =>
        follow program text i start fuel (first :: second :: stack) threads
      | some (.look kind next) =>
        if kind.holds text i then follow program text i start fuel (next :: stack) threads
        else follow program text i start fuel stack threads
      | some .fail | none => follow program text i start fuel stack threads
      | some _ =>
        follow program text i start fuel stack
          { threads with list := threads.list.push ⟨pc, start⟩ }

/-- The states after a character: those of `list` that accept it, in order, up to the first that
has matched, whose match is given too. -/
def advance (program : Program) (text : Array Char) (i : Nat) (c : Option Char) :
    List Thread → Threads → Threads × Option (Nat × Nat)
  | [], next => (next, none)
  | t :: rest, next =>
    match program[t.pc]? with
    | some .accept => (next, some (t.start, i))
    | some (.chars set pc) =>
      if c.any set.contains then
        advance program text i c rest
          (follow program text (i + 1) t.start (2 * program.size + 2) [pc] next)
      else advance program text i c rest next
    | _ => advance program text i c rest next

/-- Moves the states over the text from place `i` on; `best` is the best match so far, after which
no later beginning is tried. -/
def run (program : Program) (entry : Nat) (text : Array Char) :
    Nat → Nat → Threads → Option (Nat × Nat) → Option (Nat × Nat)
  | 0, _, _, best => best
  | fuel + 1, i, threads, best =>
    let threads :=
      if best.isSome then threads
      else follow program text i i (2 * program.size + 2) [entry] threads
    if threads.list.isEmpty && best.isSome then best
    else
      let fresh : Threads := ⟨#[], Array.replicate program.size false⟩
      let (next, found) := advance program text i text[i]? threads.list.toList fresh
      let best := found.orElse fun _ ↦ best
      if text.size ≤ i then best else run program entry text fuel (i + 1) next best

/-- A pattern that has been read. -/
structure Compiled where
  /-- The text of the pattern. -/
  source : String
  /-- Its program. -/
  program : Program
  /-- Where the program begins. -/
  entry : Nat

/-- Reads a pattern. -/
def Compiled.ofString (source : String) : Except PatternError Compiled :=
  match Ast.ofString source with
  | .error fault => .error (.malformed fault)
  | .ok ast =>
    match Node.ofAst ast with
    | .error fault => .error (.malformed fault)
    | .ok node =>
      if !node.fits then .error (.tooBig sizeLimit)
      else
        let (entry, program) := node.emit 0 #[.accept]
        .ok ⟨source, program, entry⟩

/-- The part of a text that matches, anywhere in it. -/
def Compiled.find? (p : Compiled) (text : String) : Option String :=
  let chars := text.toList.toArray
  let fresh : Threads := ⟨#[], Array.replicate p.program.size false⟩
  (run p.program p.entry chars (chars.size + 1) 0 fresh none).map fun (start, stop) ↦
    String.ofList (chars.extract start stop).toList

end ScriptSandbox.Pattern
