import Gamebook.Fault
import Gamebook.Script.Item

/-!
# Tokens of scripts

The words and signs of the script language, what is wrong with a malformed one, and the strength
with which signs bind as operators.
-/

namespace Gamebook

namespace Script

/-- What is wrong with the characters of a token. -/
inductive Misspelling where
  | stray (text : String)
  | badEscape (text : String)
  | badNumber (text : String)
  | badChar (text : String)
  | badName (text : String)
  | openText
  /-- A sign that the language has no use for, with the advice given about it. -/
  | noSuchSign (text advice : String)
  deriving Repr, DecidableEq

/-- The wording of a misspelling. -/
def Misspelling.message : Misspelling → String
  | stray text => "Unexpected '" ++ text ++ "'"
  | badEscape text => "Invalid escape sequence: '" ++ text ++ "'"
  | badNumber text => "Invalid number: '" ++ text ++ "'"
  | badChar text => "Invalid character: '" ++ text ++ "'"
  | badName text => "Variable name is not proper: '" ++ text ++ "'"
  | openText => "Open string is not terminated"
  | noSuchSign text advice =>
    if advice.isEmpty then "Invalid symbol encountered: '" ++ text ++ "'" else advice

/-- A token. -/
inductive Token where
  | int (n : Int64)
  | float (x : Float)
  | char (c : Char)
  | text (s : String)
  /-- A piece of text that an embedded block follows. -/
  | opening (s : String)
  | name (s : String)
  /-- A keyword or sign of the grammar. -/
  | sign (s : String)
  /-- A word or sign that is kept out of use. -/
  | reserved (s : String)
  | bad (what : Misspelling)
  /-- The end of the script. -/
  | finish

namespace Token

/-- How complaints show a token. -/
def shown : Token → String
  | int n => toString n.toInt
  | float x => Layout.script.text x
  | char c => String.singleton c
  | text s => "\"" ++ s ++ "\""
  | opening _ => "string"
  | name s => s
  | sign s => s
  | reserved s => s
  | bad what => what.message
  | finish => "\x7bEOF\x7d"

/-- The token is this keyword or sign. -/
def is (s : String) : Token → Bool
  | sign t => s == t
  | _ => false

/-- The words of the grammar. -/
def keywords : List String :=
  ["true", "false", "let", "const", "if", "else", "switch", "do", "while", "until", "loop", "for",
    "in", "continue", "break", "return", "throw", "try", "catch", "fn", "private", "import",
    "export", "as", "_"]

/-- The words that name nothing. -/
def reservedWords : List String :=
  ["public", "protected", "super", "new", "use", "module", "package", "var", "static", "shared",
    "with", "is", "goto", "match", "case", "default", "void", "null", "nil", "spawn", "thread",
    "go", "sync", "async", "await", "yield", "each", "then"]

/-- The reserved words that may be called as functions, and whether they may be called as methods
too. -/
def callableWords : List (String × Bool) :=
  [("print", false), ("debug", false), ("type_of", true), ("eval", false), ("Fn", false),
    ("call", true), ("curry", true), ("this", false), ("is_def_var", false),
    ("is_def_fn", false), ("is_shared", true)]

/-- The word is kept out of use as a name. -/
def isReserved (s : String) : Bool :=
  reservedWords.contains s || callableWords.any (fun w => w.1 == s)

/-- A reserved word that may be called as a function. -/
def isCallable (s : String) : Bool := s != "this" && callableWords.any (fun w => w.1 == s)

/-- A reserved word that may be called as a method. -/
def isMethodWord (s : String) : Bool := callableWords.any (fun w => w.1 == s && w.2)

/-- Underscores and a letter, then letters, digits and underscores. -/
def isProperName (s : String) : Bool :=
  match s.toList.dropWhile (· == '_') with
  | [] => false
  | c :: rest => c.isAlpha && rest.all (fun d => d.isAlphanum || d == '_')

/-- The advice about signs that other languages use. -/
def advice (s : String) : String :=
  match s with
  | "===" => "'===' is not a valid operator. This is not JavaScript! Should it be '=='?"
  | "!==" => "'!==' is not a valid operator. This is not JavaScript! Should it be '!='?"
  | "->" => "'->' is not a valid symbol. This is not C or C++!"
  | "<-" => "'<-' is not a valid symbol. This is not Go! Should it be '<='?"
  | ":=" =>
    "':=' is not a valid assignment operator. This is not Go or Pascal! Should it be simply '='?"
  | "::" => "'::' is not a valid symbol. This is not Rust! Should it be '.'?"
  | ":;" => "':;' is not a valid symbol. This is not Icon!"
  | "(*" => "'(*' is not a valid comment format. This is not Pascal! Should it be '/*'?"
  | "*)" => "'*)' is not a valid comment format. This is not Pascal! Should it be '*/'?"
  | "#" => "'#' is not a valid symbol. Should it be '#\x7b'?"
  | "::<" => "'::<>' is not a valid symbol. This is not Rust! Should it be '::'?"
  | _ => ""

/-- How strongly an operator binds; zero for what is no operator. -/
def precedence : Token → Nat
  | sign s =>
    match s with
    | "||" | "^" | "|" => 30
    | "&&" | "&" => 60
    | "==" | "!=" => 90
    | "in" | "!in" => 110
    | "<" | "<=" | ">" | ">=" => 130
    | "??" => 135
    | ".." | "..=" => 140
    | "+" | "-" => 150
    | "*" | "/" | "%" => 180
    | "**" => 190
    | "<<" | ">>" => 210
    | _ => 0
  | _ => 0

/-- The operator groups to the right. -/
def bindsRight : Token → Bool
  | sign s => s == "**"
  | _ => false

/-- The operator of a sign that assigns through an operator. -/
def assigning? : Token → Option String
  | sign s =>
    match s with
    | "+=" => some "+"
    | "-=" => some "-"
    | "*=" => some "*"
    | "/=" => some "/"
    | "%=" => some "%"
    | "**=" => some "**"
    | "<<=" => some "<<"
    | ">>=" => some ">>"
    | "&=" => some "&"
    | "|=" => some "|"
    | "^=" => some "^"
    | _ => none
  | _ => none

/-- A minus sign behind this token belongs to the number that follows it. -/
def beforeSignedNumber : Token → Bool
  | sign s =>
    [";", ":", ",", "??", "..", "..=", "\x7b", "(", "[", "+", "+=", "-", "-=", "*", "*=", "/",
      "/=", "%", "%=", "**", "**=", "<<", "<<=", ">>", ">>=", "=", "==", "!=", "<", ">", "!",
      "<=", ">=", "||", "|", "|=", "&", "&=", "^", "^=", "&&", "if", "while", "until", "in", "!in",
      "return", "throw"].contains s
  | _ => false

end Token

end Script

end Gamebook
