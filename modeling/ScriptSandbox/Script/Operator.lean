import ScriptSandbox.Script.Engine

/-!
# Operators

What the operators do with values. Arithmetic on integers never wraps: a result that does not fit
is an error, which names the operation with its operands. An operator that no rule gives a meaning
for two values is left to functions of its name.
-/

namespace ScriptSandbox.Script

/-- The result of an operator, if a rule gives it a meaning. -/
abbrev Result := Option (Except Cause Value)

/-- An integer result, or the error that it does not fit. -/
def fitting (error : String) (n : Int) : Except Cause Value :=
  match checkedInt n with
  | some n => .ok (.int n)
  | none => .error (.arithmetic error)

/-- An integer moved by a number of bits to the right, or to the left if that is negative; bits that
leave the word are lost. -/
def shiftRight (a b : Int) : Int :=
  if 0 ≤ b then a / Int.pow 2 (min b 64).toNat
  else if -b < 64 then Int.bmod (a * Int.pow 2 (-b).toNat) (Nat.pow 2 64)
  else 0

/-- Bit by bit, a connective of two integers. -/
def bitwise (f : Bool → Bool → Bool) (a b : Int) : Int :=
  let word (n : Int) : Nat := (n % Int.pow 2 64).toNat
  Int.bmod (Nat.bitwise f (word a) (word b)) (Nat.pow 2 64)

/-- Arithmetic on integers. -/
def intArithmetic (op : String) (a b : Int) : Result :=
  let shown := toString a ++ " " ++ op ++ " " ++ toString b
  let error (text : String) : Except Cause Value := .error (.arithmetic (text ++ shown))
  match op with
  | "+" => some (fitting ("Addition overflow: " ++ shown) (a + b))
  | "-" => some (fitting ("Subtraction overflow: " ++ shown) (a - b))
  | "*" => some (fitting ("Multiplication overflow: " ++ shown) (a * b))
  | "/" =>
    some (if b = 0 then error "Division by zero: "
      else fitting ("Division overflow: " ++ shown) (Int.tdiv a b))
  | "%" =>
    some (if b = 0 ∨ (a = minInt ∧ b = -1) then error "Modulo division by zero or overflow: "
      else .ok (.int (Int.tmod a b)))
  | "**" =>
    some (if b < 0 then error "Integer raised to a negative power: "
      else if 2 < a.natAbs ∧ 64 < b then error "Exponential overflow: "
      else if a.natAbs ≤ 1 then .ok (.int (if b % 2 = 0 then a * a else a))
      else fitting ("Exponential overflow: " ++ shown) (Int.pow a (min b 64).toNat))
  | "<<" => some (.ok (.int (shiftRight a (-b))))
  | ">>" => some (.ok (.int (shiftRight a b)))
  | "&" => some (.ok (.int (bitwise (· && ·) a b)))
  | "|" => some (.ok (.int (bitwise (· || ·) a b)))
  | "^" => some (.ok (.int (bitwise (· != ·) a b)))
  | ".." => some (.ok (.range a b false))
  | "..=" => some (.ok (.range a b true))
  | _ => none

/-- The remainder of a division of floats that goes toward zero; it is exact. -/
def floatRemainder (a b : Float) : Float :=
  match Decimal.Parts.ofFloat a, Decimal.Parts.ofFloat b with
  | .finite negative m p, .finite _ n q =>
    let e := min p q
    let r := (m * Nat.pow 2 (p - e).toNat) % (n * Nat.pow 2 (q - e).toNat)
    let zeros := if r = 0 then 0 else (Nat.toDigits 2 r).reverse.takeWhile (· = '0') |>.length
    let f := Float.scaleB (Float.ofNat (r / Nat.pow 2 zeros)) (e + zeros)
    if negative then -f else f
  | .zero _, .finite .. | .zero _, .infinite _ | .finite .., .infinite _ => a
  | _, _ => 0.0 / 0.0

/-- Arithmetic on floats. -/
def floatArithmetic (op : String) (a b : Float) : Result :=
  match op with
  | "+" => some (.ok (.float (a + b)))
  | "-" => some (.ok (.float (a - b)))
  | "*" => some (.ok (.float (a * b)))
  | "/" => some (.ok (.float (a / b)))
  | "%" => some (.ok (.float (floatRemainder a b)))
  | "**" => some (.ok (.float (Float.pow a b)))
  | _ => none

/-- What a comparison operator says, given how its operands compare; `none` for operands that do
not compare, which differ. -/
def comparison (op : String) (order : Option Ordering) : Option Bool :=
  match op with
  | "==" => some (order = some .eq)
  | "!=" => some (order ≠ some .eq)
  | "<" => some (order = some .lt)
  | "<=" => some (order = some .lt || order = some .eq)
  | ">" => some (order = some .gt)
  | ">=" => some (order = some .gt || order = some .eq)
  | _ => none

/-- The distance of the first two floats that differ: from one to the next. -/
def floatTolerance : Float := 2.220446049250313e-16

/-- The difference of two floats in proportion to the greater of their sizes; next to zero it counts
as it is. -/
def relativeDifference (a b : Float) : Float :=
  let scale := if a * b == 0.0 then 1.0 else if a.abs < b.abs then b.abs else a.abs
  (a - b) / scale

/-- What a comparison operator says of two floats, which are equal up to a tolerance. A difference
that is no number makes every comparison false. -/
def floatComparison (op : String) (a b : Float) : Option Bool :=
  let d := relativeDifference a b
  match op with
  | "==" => some (d.abs ≤ floatTolerance)
  | "!=" => some (floatTolerance < d.abs)
  | "<" => some (floatTolerance < -d)
  | "<=" => some (-floatTolerance < -d)
  | ">" => some (floatTolerance < d)
  | ">=" => some (-floatTolerance < d)
  | _ => none

/-- How two texts compare, character by character. -/
def compareTexts (a b : String) : Ordering := if a < b then .lt else if a = b then .eq else .gt

/-- A comparison as a result. -/
def compared (op : String) (order : Option Ordering) : Result :=
  (comparison op order).map fun b ↦ .ok (.bool b)

/-- The operators on two floats. -/
def floatOperator (op : String) (a b : Float) : Result :=
  (floatArithmetic op a b).orElse fun _ ↦ (floatComparison op a b).map fun r ↦ .ok (.bool r)

/-- The operators on two numbers. -/
def numeric (op : String) : Value → Value → Result
  | .int a, .int b => (intArithmetic op a b).orElse fun _ ↦ compared op (some (compare a b))
  | .float a, .float b => floatOperator op a b
  | .int a, .float b => floatOperator op (Float.ofInt a) b
  | .float a, .int b => floatOperator op a (Float.ofInt b)
  | _, _ => none

/-- A text without the occurrences of another one. -/
def without (text part : String) : String :=
  if part.isEmpty then text else String.join (text.splitOn part)

/-- The operators on two texts; a character counts as a text of one. -/
def textual (op : String) (a b : String) : Result :=
  if op = "+" then some (.ok (.string (a ++ b))) else compared op (some (compareTexts a b))

/-- The operators on a string and a text, which can be taken away from it too. -/
def stringOperator (op : String) (a b : String) : Result :=
  if op = "-" then some (.ok (.string (without a b))) else textual op a b

/-- The operators on two strings. What is taken away from nothing is what there is. -/
def stringsOperator (op : String) (a b : String) : Result :=
  if op = "-" && a.isEmpty then some (.ok (.string b)) else stringOperator op a b

/-- Two values of one type that has no equality. -/
structure Incomparable where
  /-- The value on the left. -/
  left : Value
  /-- The value on the right. -/
  right : Value

mutual

/-- Whether two values are equal all through, as the operators say of their parts: a float equals a
number up to the tolerance, and values of different types differ. Host values of one type cannot be
compared. -/
def Value.equals : Value → Value → Except Incomparable Bool
  | .unit, .unit => return true
  | .bool a, .bool b => return a == b
  | .int a, .int b => return a == b
  | .float a, .float b => return (floatComparison "==" a b).getD false
  | .int a, .float b => return (floatComparison "==" (Float.ofInt a) b).getD false
  | .float a, .int b => return (floatComparison "==" a (Float.ofInt b)).getD false
  | .char a, .char b => return a == b
  | .string a, .string b => return a == b
  | .char a, .string b => return a.toString == b
  | .string a, .char b => return a == b.toString
  | .array ⟨as⟩, .array ⟨bs⟩ =>
    if as.length = bs.length then Value.equalAll as bs else return false
  | .map as, .map bs =>
    if as.length = bs.length then Value.equalEntries as bs else return false
  | .range a b i, .range c d j => return a == c && b == d && i == j
  | .function a, .function b => return a == b
  | .host s v, .host t w => if s = t then .error ⟨.host s v, .host t w⟩ else return false
  | _, _ => return false

/-- Whether two lists of values are equal. -/
def Value.equalAll : List Value → List Value → Except Incomparable Bool
  | a :: as, b :: bs => do
    if ← a.equals b then Value.equalAll as bs else return false
  | as, bs => return as.isEmpty && bs.isEmpty

/-- Whether entries are all in a map with equal values. -/
def Value.equalEntries :
    List (String × Value) → List (String × Value) → Except Incomparable Bool
  | [], _ => return true
  | (name, a) :: rest, entries => do
    match entries.lookup name with
    | none => return false
    | some b => if ← a.equals b then Value.equalEntries rest entries else return false

end

/-- The operators that every engine has. -/
def builtinOperator (op : String) (a b : Value) : Result :=
  match a, b with
  | .int _, .int _ | .float _, .float _ | .int _, .float _ | .float _, .int _ => numeric op a b
  | .bool a, .bool b =>
    match op with
    | "&" => some (.ok (.bool (a && b)))
    | "|" => some (.ok (.bool (a || b)))
    | "^" => some (.ok (.bool (a != b)))
    | op => compared op (some (compare a.toNat b.toNat))
  | .string a, .string b => stringsOperator op a b
  | .char a, .char b => textual op a.toString b.toString
  | .char a, .string b => textual op a.toString b
  | .string a, .char b => stringOperator op a b.toString
  | .string s, .unit | .unit, .string s =>
    if op = "+" then some (.ok (.string s)) else compared op none
  | .unit, .unit =>
    match op with
    | "==" => some (.ok (.bool true))
    | op => compared op none |>.map fun _ ↦ .ok (.bool false)
  | .function a, .function b =>
    match op with
    | "==" => some (.ok (.bool (a = b)))
    | "!=" => some (.ok (.bool (a ≠ b)))
    | _ => none
  | .range first last true, .range first' last' true
  | .range first last false, .range first' last' false =>
    match op with
    | "==" => some (.ok (.bool (first = first' ∧ last = last')))
    | "!=" => some (.ok (.bool (first ≠ first' ∨ last ≠ last')))
    | _ => none
  | a, b =>
    -- values of different types differ
    if a.typeId ≠ b.typeId then compared op none else none

namespace Engine

/-- The cause that there is no function of a name for some arguments. -/
def noFunction (e : Engine) (name : String) (args : List Value) : Cause :=
  .functionNotFound (e.signature name args)

/-- Whether two values are equal, or that the engine cannot tell. -/
def equal (e : Engine) (a b : Value) : Except Cause Bool :=
  match a.equals b with
  | .ok r => .ok r
  | .error pair => .error (e.noFunction "==" [pair.left, pair.right])

/-- The operators of the standard functions: joining texts with anything, and arrays and maps. -/
def standardOperator (e : Engine) (op : String) (a b : Value) : Result :=
  match op, a, b with
  | "+", .string a, b => some (.ok (.string (a ++ b.display e.style)))
  | "+", a, .string b => some (.ok (.string (a.display e.style ++ b)))
  | "+", .array a, .array b => some (.ok (.array (a ++ b)))
  | "+", .map a, .map b =>
    some (.ok (.map (b.foldl (fun m (k, v) ↦ Text.NameMap.insertEntry k v m) a)))
  | "==", .array .., .array .. | "==", .map .., .map .. =>
    some ((e.equal a b).map .bool)
  | "!=", .array .., .array .. | "!=", .map .., .map .. =>
    some ((e.equal a b).map fun r ↦ .bool !r)
  | _, _, _ => none

end Engine

/-- What a negative number comes to in every engine, and what a truth value does. -/
def builtinUnary (op : String) (a : Value) : Result :=
  match op, a with
  | "!", .bool b => some (.ok (.bool !b))
  | "-", .int n => some (fitting "integer overflow" (-n))
  | "-", .float f => some (.ok (.float (-f)))
  | _, _ => none

/-! ### Operators of assignment -/

/-- What an assignment by an operator needs to be checked for. -/
inductive Growth where
  /-- Nothing. -/
  | free
  /-- The old value has to be within the limits. -/
  | ofOld
  /-- The new value has to be. -/
  | ofNew

/-- What the operator of an assignment does in every engine, and what it is checked for. An array
takes one more item. Joining with nothing, making a string of two characters, and taking away from
a string is free. -/
def builtinAssignOperator (op : String) (a b : Value) : Option (Growth × Except Cause Value) :=
  let growth? : Option Growth := match op, a, b with
    | "+", .array items, .array more =>
      some (if items.isEmpty || more.isEmpty then .free else .ofOld)
    | "+", .array _, _ => some .ofNew
    | "+", .string s, .string t => some (if s.isEmpty || t.isEmpty then .free else .ofNew)
    | "+", .string _, .char _ | "+", .char _, .string _ => some .ofNew
    | "+", .char _, .char _ | "-", .string _, .string _ | "-", .string _, .char _ => some .free
    | _, .int _, .int _ | _, .float _, .float _ | _, .float _, .int _ | _, .bool _, .bool _ =>
      some .free
    | _, _, _ => none
  let result : Result := match op, a, b with
    | "+", .array items, .array more => some (.ok (.array (items ++ more)))
    | "+", .array items, b => some (.ok (.array (items.push b)))
    | op, a, b => builtinOperator op a b
  match growth?, result with
  | some growth, some r => some (growth, r)
  | _, _ => none

/-- Whether the standard functions have an operator of assignment of their own for a value; without
one, the plain operator makes the new value. -/
def hasAssignOperator (op : String) (a b : Value) : Bool :=
  match op, a, b with
  | "+", .string _, _ | "+", .map _, .map _ => true
  | _, _, _ => false

end ScriptSandbox.Script
