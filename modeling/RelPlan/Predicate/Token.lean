import RelPlan.Text.Quoted

/-!
# Tokens of conditions

The words, signs and literals that a condition is made of. The last token of every condition
marks its end.
-/

namespace RelPlan

/-- The words with a meaning of their own in a condition. -/
inductive Keyword where
  | and
  | or
  | not
  | like
  | is
  | null
  | between
  | among
deriving DecidableEq

/-- The signs of a condition. -/
inductive Symbol where
  | equals
  | less
  | greater
  | lessEqual
  | greaterEqual
  | notEqual
  | plus
  | minus
  | star
  | slash
  | comma
  | leftParen
  | rightParen
  | dot
deriving DecidableEq

/-- What a token is. -/
inductive TokenKind where
  | keyword (word : Keyword)
  | symbol (sign : Symbol)
  | name (text : String)
  | number (spelling : String)
  | string (value : String)
  /-- A character that begins no token. -/
  | stray (char : Char)
  /-- A quote that is never closed. -/
  | openString
  | finish
deriving DecidableEq

/-- A token, as it is written and with the position of its first byte. -/
structure Token where
  kind : TokenKind
  literal : String
  offset : Nat
deriving DecidableEq

namespace Keyword

/-- The keyword of an upper-case word. -/
def ofUpper? : String → Option Keyword
  | "AND" => some and
  | "OR" => some or
  | "NOT" => some not
  | "LIKE" => some like
  | "IS" => some is
  | "NULL" => some null
  | "BETWEEN" => some between
  | "IN" => some among
  | _ => none

/-- The keyword in upper case. -/
def text : Keyword → String
  | and => "AND"
  | or => "OR"
  | not => "NOT"
  | like => "LIKE"
  | is => "IS"
  | null => "NULL"
  | between => "BETWEEN"
  | among => "IN"

@[simp] theorem ofUpper?_text (keyword : Keyword) : ofUpper? keyword.text = some keyword := by
  cases keyword <;> rfl

end Keyword

namespace Symbol

/-- What the sign is called in messages. -/
def label : Symbol → String
  | equals => "EQUALS"
  | less => "LessThan"
  | greater => "GreaterThan"
  | lessEqual => "LessEqual"
  | greaterEqual => "GreaterEqual"
  | notEqual => "NotEqual"
  | plus => "PLUS"
  | minus => "MINUS"
  | star => "MULTIPLY"
  | slash => "DIVIDE"
  | comma => "COMMA"
  | leftParen => "LeftParen"
  | rightParen => "RightParen"
  | dot => "DOT"

end Symbol

namespace TokenKind

/-- What the kind of token is called in messages. -/
def label : TokenKind → String
  | keyword word => word.text
  | symbol sign => sign.label
  | name _ => "IDENTIFIER"
  | number _ => "NUMBER"
  | string _ => "STRING"
  | stray _ => "ILLEGAL"
  | openString => "ILLEGAL"
  | finish => "EOF"

/-- The text that belongs to the kind, apart from how the token is written. -/
def payload? : TokenKind → Option String
  | name text => some text
  | number spelling => some spelling
  | string value => some value
  | stray char => some (String.singleton char)
  | openString => some "unterminated string"
  | keyword _ | symbol _ | finish => none

/-- The kind as it is shown in messages. -/
def text (kind : TokenKind) : String :=
  match kind.payload? with
  | some payload => kind.label ++ "(" ++ Text.quoted payload ++ ")"
  | none => kind.label

end TokenKind

/-- The token as it is shown in messages: its kind, and how it is written. -/
def Token.text (token : Token) : String := token.kind.text ++ "(" ++ token.literal ++ ")"

end RelPlan
