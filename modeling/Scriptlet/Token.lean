import Scriptlet.Location
import Scriptlet.Number.Format
import Scriptlet.Text.Quoted

/-!
# Tokens

A source text is a sequence of tokens: numbers, texts, names, keywords and symbols, closed by a
token for the end of the input.
-/

namespace Scriptlet

/-- The reserved words. -/
inductive Keyword where
  | letWord
  | ifWord
  | elseWord
  | whileWord
  | fnWord
  | returnWord
  | breakWord
  | continueWord
  | newWord
  | requireWord
  | trueWord
  | falseWord
  | andWord
  | orWord
  | isntWord
  deriving DecidableEq, Repr

namespace Keyword

/-- The spelling of a keyword. -/
def text : Keyword → String
  | .letWord => "let"
  | .ifWord => "if"
  | .elseWord => "else"
  | .whileWord => "while"
  | .fnWord => "fn"
  | .returnWord => "return"
  | .breakWord => "break"
  | .continueWord => "continue"
  | .newWord => "new"
  | .requireWord => "require"
  | .trueWord => "true"
  | .falseWord => "false"
  | .andWord => "and"
  | .orWord => "or"
  | .isntWord => "isnt"

/-- All keywords. -/
def all : List Keyword :=
  [.letWord, .ifWord, .elseWord, .whileWord, .fnWord, .returnWord, .breakWord, .continueWord,
    .newWord, .requireWord, .trueWord, .falseWord, .andWord, .orWord, .isntWord]

/-- The keyword with a given spelling. -/
def ofText? (word : String) : Option Keyword :=
  all.find? fun keyword => keyword.text == word

end Keyword

/-- The operators and brackets. -/
inductive Symbol where
  | plus
  | minus
  | star
  | slash
  | percent
  | assign
  | less
  | greater
  | bang
  | openParen
  | closeParen
  | openBrace
  | closeBrace
  | openBracket
  | closeBracket
  | comma
  | semicolon
  | equal
  | notEqual
  | lessEqual
  | greaterEqual
  | both
  | either
  deriving DecidableEq, Repr

namespace Symbol

/-- The characters of a symbol. -/
def chars : Symbol → List Char
  | .plus => ['+']
  | .minus => ['-']
  | .star => ['*']
  | .slash => ['/']
  | .percent => ['%']
  | .assign => ['=']
  | .less => ['<']
  | .greater => ['>']
  | .bang => ['!']
  | .openParen => ['(']
  | .closeParen => [')']
  | .openBrace => ['\x7b']
  | .closeBrace => ['\x7d']
  | .openBracket => ['[']
  | .closeBracket => [']']
  | .comma => [',']
  | .semicolon => [';']
  | .equal => ['=', '=']
  | .notEqual => ['!', '=']
  | .lessEqual => ['<', '=']
  | .greaterEqual => ['>', '=']
  | .both => ['&', '&']
  | .either => ['|', '|']

/-- The spelling of a symbol. -/
def text (symbol : Symbol) : String :=
  String.ofList symbol.chars

/-- The symbols, those of two characters first. -/
def all : List Symbol :=
  [.equal, .notEqual, .lessEqual, .greaterEqual, .both, .either, .plus, .minus, .star, .slash,
    .percent, .assign, .less, .greater, .bang, .openParen, .closeParen, .openBrace, .closeBrace,
    .openBracket, .closeBracket, .comma, .semicolon]

/-- The longest symbol at the front of a text. -/
def leading? (text : List Char) : Option Symbol :=
  all.find? fun symbol => symbol.chars.isPrefixOf text

end Symbol

/-- What a token stands for. -/
inductive Lexical where
  | number (value : Float)
  | text (value : String)
  /-- A name, possibly a path of names joined by dots. -/
  | name (path : String)
  | keyword (word : Keyword)
  | symbol (symbol : Symbol)
  | finish
  deriving Repr

/-- A token with the characters it was read from and their place. -/
structure Token where
  lexical : Lexical
  lexeme : String
  span : Span
  deriving Repr

namespace Token

/-- How a token is named in messages. -/
def render (token : Token) : String :=
  match token.lexical with
  | .number value => s!"NUMBER({Number.literal value})"
  | .text value => s!"STRING({Text.quoted value})"
  | .name path => s!"IDENTIFIER({Text.quoted path})"
  | .keyword _ | .symbol _ => s!"'{token.lexeme}'"
  | .finish => "end of input"

/-- Whether a token ends the input. -/
def isFinish (token : Token) : Bool :=
  match token.lexical with
  | .finish => true
  | _ => false

/-- Whether a token is the given symbol. -/
def isSymbol (token : Token) (symbol : Symbol) : Bool :=
  match token.lexical with
  | .symbol found => found == symbol
  | _ => false

/-- Whether a token is the given keyword. -/
def isKeyword (token : Token) (word : Keyword) : Bool :=
  match token.lexical with
  | .keyword found => found == word
  | _ => false

end Token

end Scriptlet
