import ScriptSandbox.Script.Fault

/-!
# Tokens

The words of a script: literals, names, and symbols and keywords, which are told apart by their
text alone.
-/

namespace ScriptSandbox.Script

/-- A word of a script. -/
inductive Token where
  | int (n : Int)
  | float (f : Float)
  | char (c : Char)
  | string (s : String)
  | name (s : String)
  /-- A keyword or symbol with a meaning. -/
  | symbol (s : String)
  /-- A word or symbol without one. -/
  | reserved (s : String)
  /-- What cannot be read, and why. -/
  | bad (kind : FaultKind)
  | eof
  deriving Inhabited

namespace Token

/-- Whether a token is the given symbol or keyword. -/
def isSymbol (s : String) : Token → Bool
  | symbol t => s == t
  | _ => false

/-- Whether a token ends the script. -/
def isEnd : Token → Bool
  | eof => true
  | _ => false

/-- Whether a token is a keyword, or a word that is kept. -/
def isWord : Token → Bool
  | symbol s | reserved s => isName s && s ≠ "_"
  | _ => false

/-- The text of a token in a message. -/
def text : Token → String
  | int n => toString n
  | float _ => "float"
  | char c => c.toString
  | string _ => "string"
  | name s | symbol s | reserved s => s
  | bad kind => kind.message
  | eof => "\x7bEOF\x7d"

/-- The keywords. -/
def keywords : List String :=
  ["true", "false", "let", "const", "if", "else", "switch", "do", "while", "until", "loop", "for",
    "in", "continue", "break", "return", "throw", "try", "catch", "fn", "private", "import",
    "export", "as", "_"]

/-- Words that are kept for later or have a meaning of their own. -/
def reservedWords : List String :=
  ["public", "protected", "super", "new", "use", "module", "package", "var", "static", "with",
    "shared", "is", "goto", "match", "case", "default", "void", "null", "nil", "spawn", "thread",
    "go", "sync", "async", "await", "yield", "print", "debug", "type_of", "eval", "Fn", "call",
    "curry", "this", "is_def_var", "is_def_fn", "is_shared"]

/-- The reserved words that can be called like functions. -/
def callableWords : List String :=
  ["print", "debug", "type_of", "eval", "Fn", "call", "curry", "is_def_var", "is_def_fn",
    "is_shared"]

/-- The reserved words that can be called as methods. -/
def methodWords : List String := ["type_of", "call", "curry", "is_shared"]

/-- The symbols with a meaning, longest first where one begins another. -/
def symbols : List String :=
  ["**=", "<<=", ">>=", "..=", "=>", "==", "!=", "<=", ">=", "+=", "-=", "*=", "/=", "%=", "&=",
    "|=", "^=", "**", "<<", ">>", "&&", "||", "..", "::", "??", "?.", "?[", "#\x7b", "()", "+",
    "-", "*", "/", "%", "=", "<", ">", "!", "&", "|", "^", "(", ")", "\x7b", "\x7d", "[", "]", ",",
    ";", ":", "."]

/-- The symbols without a meaning, longest first. -/
def reservedSymbols : List String :=
  ["# \x7b", "...", "===", "!==", "::<", "->", "<-", "<|", "|>", ":=", ":;", "(*", "*)", "#!",
    "++", "--", "!.", "~", "@", "$", "#", "?"]

/-- What a script should say instead of a symbol of another language. -/
def advice? : String → Option String
  | "===" =>
    some "'===' is not a valid operator. This is not JavaScript! Should it be '=='?"
  | "!==" =>
    some "'!==' is not a valid operator. This is not JavaScript! Should it be '!='?"
  | "->" => some "'->' is not a valid symbol. This is not C or C++!"
  | "<-" => some "'<-' is not a valid symbol. This is not Go! Should it be '<='?"
  | ":=" =>
    some
      "':=' is not a valid assignment operator. This is not Go or Pascal! Should it be simply '='?"
  | ":;" => some "':;' is not a valid symbol. Should it be '::'?"
  | "::<" => some "'::<>' is not a valid symbol. This is not Rust! Should it be '::'?"
  | "# \x7b" => some "'#' is not a valid symbol. Should it be '#\x7b'?"
  | "(*" | "*)" =>
    some
      "'(* .. *)' is not a valid comment format. This is not Pascal! Should it be '/* .. */'?"
  | _ => none

/-- The symbols and keywords after which a minus before a digit is a sign, not a subtraction. -/
def beforeSignSymbols : List String :=
  [";", ":", ",", "??", "..", "..=", "\x7b", "(", "[", "?[", "#\x7b", "+", "+=", "-", "-=", "*",
    "*=", "/", "/=", "%", "%=", "**", "**=", "<<", "<<=", ">>", ">>=", "=", "==", "!=", "<", ">",
    "!", "<=", ">=", "|", "|=", "||", "&", "&=", "&&", "^", "^=", "if", "while", "until", "in",
    "!in", "return", "throw"]

/-- Whether a minus after a token is a sign, not a subtraction. -/
def beforeSign : Token → Bool
  | symbol s => beforeSignSymbols.contains s
  | _ => false

end Token

end ScriptSandbox.Script
