import ScriptSandbox.Script.Purity

/-!
# Statements that make no difference

What can be left out of a list of statements by looking at the list alone: blocks around statements
that mean the same without them, statements that are not reached, and statements without an effect
whose value nobody sees.
-/

namespace ScriptSandbox.Script

/-- What becomes of a block. -/
structure BlockUse where
  /-- Whether its value is seen. -/
  valued : Bool
  /-- Whether what is declared in it ends with it. -/
  inner : Bool
  /-- Whether its end is the end of a function or of the script. -/
  last : Bool

/-- The statements of a function or of a script. -/
def BlockUse.whole : BlockUse := ⟨true, false, true⟩

/-- Whether a statement of a block has no effect. -/
def BlockUse.isPure (use : BlockUse) (s : Stmt) : Bool :=
  if use.inner then s.isPureInside else s.isPure

mutual

/-- A statement without blocks around what means the same outside them. -/
def Stmt.flattened : Stmt → List Stmt
  | .block body p => if body.any Stmt.isTiedToBlock then [.block body p] else flattenAll body
  | s => [s]

/-- Statements without blocks around what means the same outside them. -/
def flattenAll : List Stmt → List Stmt
  | [] => []
  | s :: rest => s.flattened ++ flattenAll rest

end

/-- Whether a list has a block that can be flattened. -/
def hasLooseBlock (body : List Stmt) : Bool :=
  body.any fun s ↦
    match s with
    | .block inside _ => !inside.any Stmt.isTiedToBlock
    | _ => false

/-- The statements up to the first one that leaves the block. -/
def reached : List Stmt → List Stmt
  | [] => []
  | s :: rest => if s.leaves then [s] else s :: reached rest

/-- Whether the statements before one are kept as far as only their block sees them. -/
def keepsEarlier (use : BlockUse) (s : Stmt) : Bool :=
  !use.isPure s ||
    match s with
    | .expr e => !e.isConstant
    | .importModule path _ => !path.isConstant
    | _ => false

/-- The statements that have an effect; of those before one that keeps what is declared, only the
ones without any effect go. The last statement stays if the value of the block is seen. -/
def effective (use : BlockUse) (body : List Stmt) : List Stmt :=
  let rest := body.reverse.dropWhile fun s ↦ !keepsEarlier use s
  let kept := rest.length - 1
  (body.zipIdx.filter fun (s, i) ↦
    (use.valued && i + 1 = body.length) || !(s.isPure || (use.isPure s && kept ≤ i))).map (·.1)

/-- The end of a block whose value is seen, from its last statement backwards: returning a value at
the end of a function is having it, and what has neither value nor effect goes. -/
def settled (use : BlockUse) (final : Stmt) (before : List Stmt) : List Stmt :=
  match final, before with
  | .return none p, [] => if use.last then [] else [.return none p]
  | .return none p, second :: rest =>
    if !use.last then .return none p :: second :: rest
    else if second.isValued then .skip p :: second :: rest
    else settled use second rest
  | .return (some e) p, before =>
    (if use.last then .expr e else .return (some e) p) :: before
  | final, [] => if !final.isValued && use.isPure final then [] else [final]
  | final, second :: rest =>
    if final.isValued || !use.isPure final then final :: second :: rest
    else if second.isValued then .skip final.position :: second :: rest
    else settled use second rest

/-- Whether settling the end of a block changes it. -/
def isSettled (use : BlockUse) (body : List Stmt) : Bool :=
  match body.reverse with
  | [] => true
  | .return .. :: _ => !use.last
  | [final] => final.isValued || !use.isPure final
  | final :: second :: _ =>
    final.isValued || !use.isPure final || (final.isSkip && second.isValued)

/-- A block without what makes no difference at its end. -/
def withoutTail (use : BlockUse) (body : List Stmt) : List Stmt :=
  if use.valued then
    match body.reverse with
    | [] => []
    | final :: before => (settled use final before).reverse
  else (body.reverse.dropWhile use.isPure).reverse

/-- Whether a block has nothing at its end that makes no difference. -/
def hasTail (use : BlockUse) (body : List Stmt) : Bool :=
  if use.valued then !isSettled use body
  else body.reverse.head?.any use.isPure

end ScriptSandbox.Script
