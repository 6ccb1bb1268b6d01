/-!
# CTokens — the vocabulary of C

The reserved words, operator spellings and delimiters that the scanner knows by heart.

Main statement:

* `mem_operatorsLongestFirst` — sorting the operators by length keeps all of them.
-/

namespace CTokens

/-- The reserved words. The name of the entry function is reserved along with the keywords. -/
def keywords : List String :=
  ["auto", "break", "case", "char", "const", "continue", "default", "do", "double", "else",
    "enum", "extern", "float", "for", "goto", "if", "inline", "int", "long", "register",
    "restrict", "return", "short", "signed", "sizeof", "static", "struct", "switch", "typedef",
    "union", "unsigned", "void", "volatile", "while", "_Bool", "_Complex", "_Imaginary", "main"]

/-- The operator spellings. -/
def operators : List String :=
  ["+=", "-=", "*=", "/=", "%=", "&=", "|=", "^=",
    "<<", ">>",
    "++", "--",
    "==", "!=", "<=", ">=",
    "&&", "||",
    "+", "-", "*", "/", "%", "=", "!", "<", ">", "&", "|", "^", "~"]

/-- The punctuation marks that are never part of a longer token. -/
def delimiters : List Char := [';', ',', '(', ')', '{', '}', '[', ']']

/-- Whether a word is reserved. Case matters. -/
def isKeyword (word : String) : Bool := keywords.contains word

/-- Whether a text is exactly one operator spelling. -/
def isOperator (text : String) : Bool := operators.contains text

/-- Whether a character is a delimiter. -/
def isDelimiter (c : Char) : Bool := delimiters.contains c

/-- The operator spellings, longer ones first, those of one length in the order of the table. The
first of them that begins a text is the longest one that does. -/
def operatorsLongestFirst : List String :=
  operators.mergeSort fun a b => decide (b.length ≤ a.length)

theorem mem_operatorsLongestFirst {op : String} : op ∈ operatorsLongestFirst ↔ op ∈ operators :=
  List.mem_mergeSort

end CTokens
