/-!
# Vocabulary

The reserved words of the language, and its operators with their spellings of one or two
characters. Both are looked up by their spelling in a table.

Each entry of a table finds itself under its own spelling (`Keyword.ofSpelling?_spelling`,
`Operator.ofSpelling?_spelling`). So looking up is the inverse of spelling
(`find?_key_eq_some_iff`), and a spelling belongs to one entry only (`eq_of_find?_key`).
-/

namespace ScriptScan

/-! ## Tables -/

section Table

variable {Entry Key : Type} [BEq Key] [LawfulBEq Key] {table : List Entry} {key : Entry → Key}

/-- A table whose entries find themselves has under a key the entry with that key. -/
theorem find?_key_eq_some_iff
    (finds : ∀ entry, table.find? (key · == key entry) = some entry) {wanted : Key}
    {entry : Entry} : table.find? (key · == wanted) = some entry ↔ key entry = wanted := by
  constructor
  · intro found
    simpa using List.find?_some found
  · rintro rfl
    exact finds entry

theorem eq_of_find?_key
    (finds : ∀ entry, table.find? (key · == key entry) = some entry) {entry other : Entry}
    (same : key entry = key other) : entry = other := by
  have found := (find?_key_eq_some_iff finds).mpr same
  rw [finds other] at found
  exact (Option.some.inj found).symm

end Table

/-! ## Keywords -/

inductive Keyword where
  | andWord | orWord | ifWord | elsifWord | elseWord | unlessWord
  | classWord | thisWord | superWord
  | varWord | letWord | funWord | printWord | returnWord
  | loopWord | whileWord | forWord | untilWord
  | trueWord | falseWord | nilWord
  deriving DecidableEq, Repr

namespace Keyword

/-- Every keyword. -/
def all : List Keyword :=
  [andWord, orWord, ifWord, elsifWord, elseWord, unlessWord, classWord, thisWord, superWord,
    varWord, letWord, funWord, printWord, returnWord, loopWord, whileWord, forWord, untilWord,
    trueWord, falseWord, nilWord]

/-- The word as a script writes it. -/
def spelling : Keyword → String
  | andWord => "and"
  | orWord => "or"
  | ifWord => "if"
  | elsifWord => "elsif"
  | elseWord => "else"
  | unlessWord => "unless"
  | classWord => "class"
  | thisWord => "this"
  | superWord => "super"
  | varWord => "var"
  | letWord => "let"
  | funWord => "fun"
  | printWord => "print"
  | returnWord => "return"
  | loopWord => "loop"
  | whileWord => "while"
  | forWord => "for"
  | untilWord => "until"
  | trueWord => "true"
  | falseWord => "false"
  | nilWord => "nil"

/-- The keyword that is spelled so. Case matters. -/
def ofSpelling? (text : String) : Option Keyword := all.find? (·.spelling == text)

/-- The name under which a token shows the keyword. -/
def name : Keyword → String
  | andWord => "And"
  | orWord => "Or"
  | ifWord => "If"
  | elsifWord => "Elsif"
  | elseWord => "Else"
  | unlessWord => "Unless"
  | classWord => "Class"
  | thisWord => "This"
  | superWord => "Super"
  | varWord => "Var"
  | letWord => "Let"
  | funWord => "Fun"
  | printWord => "Print"
  | returnWord => "Return"
  | loopWord => "Loop"
  | whileWord => "While"
  | forWord => "For"
  | untilWord => "Until"
  | trueWord => "True"
  | falseWord => "False"
  | nilWord => "Nil"

theorem ofSpelling?_spelling (word : Keyword) : ofSpelling? word.spelling = some word := by
  cases word <;> decide

theorem ofSpelling?_eq_some_iff {text : String} {word : Keyword} :
    ofSpelling? text = some word ↔ word.spelling = text :=
  find?_key_eq_some_iff ofSpelling?_spelling

end Keyword

/-! ## Operators and punctuation -/

inductive Operator where
  | leftParenthesis | rightParenthesis | leftBrace | rightBrace
  | comma | dot | semicolon | colon
  | minus | plus | slash | star
  | bang | bangEqual | equal | equalEqual
  | greater | greaterEqual | less | lessEqual
  deriving DecidableEq, Repr

namespace Operator

/-- Every operator, single characters first. -/
def all : List Operator :=
  [leftParenthesis, rightParenthesis, leftBrace, rightBrace, comma, dot, semicolon, colon,
    minus, plus, slash, star, bang, bangEqual, equal, equalEqual, greater, greaterEqual, less,
    lessEqual]

/-- The characters that a script writes for the operator. -/
def spelling : Operator → List Char
  | leftParenthesis => ['(']
  | rightParenthesis => [')']
  | leftBrace => ['\x7b']
  | rightBrace => ['\x7d']
  | comma => [',']
  | dot => ['.']
  | semicolon => [';']
  | colon => [':']
  | minus => ['-']
  | plus => ['+']
  | slash => ['/']
  | star => ['*']
  | bang => ['!']
  | bangEqual => ['!', '=']
  | equal => ['=']
  | equalEqual => ['=', '=']
  | greater => ['>']
  | greaterEqual => ['>', '=']
  | less => ['<']
  | lessEqual => ['<', '=']

/-- The operator that is spelled so. -/
def ofSpelling? (text : List Char) : Option Operator := all.find? (·.spelling == text)

/-- The name under which a token shows the operator. -/
def name : Operator → String
  | leftParenthesis => "LeftParenthesis"
  | rightParenthesis => "RightParenthesis"
  | leftBrace => "LeftBrace"
  | rightBrace => "RightBrace"
  | comma => "Comma"
  | dot => "Dot"
  | semicolon => "Semicolon"
  | colon => "Colon"
  | minus => "Minus"
  | plus => "Plus"
  | slash => "Slash"
  | star => "Star"
  | bang => "Bang"
  | bangEqual => "BangEqual"
  | equal => "Equal"
  | equalEqual => "EqualEqual"
  | greater => "Greater"
  | greaterEqual => "GreaterEqual"
  | less => "Less"
  | lessEqual => "LessEqual"

theorem ofSpelling?_spelling (op : Operator) : ofSpelling? op.spelling = some op := by
  cases op <;> rfl

theorem ofSpelling?_eq_some_iff {text : List Char} {op : Operator} :
    ofSpelling? text = some op ↔ op.spelling = text :=
  find?_key_eq_some_iff ofSpelling?_spelling

end Operator

end ScriptScan
