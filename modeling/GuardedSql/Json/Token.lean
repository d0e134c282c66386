import GuardedSql.Decimal.Numeral

/-!
# Tokens of JSON texts

A JSON text is cut into tokens by a machine that reads one character at a time.
A string is kept as the code points that are written in it, where an escape may
write half of a surrogate pair.
-/

namespace GuardedSql.Json

open Decimal (Numeral)

inductive Token where
  | leftBrace
  | rightBrace
  | leftBracket
  | rightBracket
  | comma
  | colon
  | null
  | bool (b : Bool)
  | number (n : Numeral)
  | string (points : List Nat)
  deriving DecidableEq, Repr

namespace Token

/-- Where the machine stands.  What has been read of a token is kept in reverse.
-/
inductive Mode where
  /-- Between two tokens. -/
  | between
  /-- In a keyword or a number. -/
  | word (read : List Char)
  /-- In a string. -/
  | string (read : List Nat)
  /-- In a string, after a backslash. -/
  | escape (read : List Nat)
  /-- In a string, with some hexadecimal digits of an escape to come. -/
  | hexadecimal (read : List Nat) (missing value : Nat)

/-- Whether a character is white space between tokens. -/
def isBlank (c : Char) : Bool :=
  c == ' ' || c == '\t' || c == '\n' || c == '\r'

def isWordChar (c : Char) : Bool :=
  c.isAlphanum || c == '+' || c == '-' || c == '.'

/-- The token that a single character is. -/
def punctuation? : Char → Option Token
  | '\x7b' => some leftBrace
  | '\x7d' => some rightBrace
  | '[' => some leftBracket
  | ']' => some rightBracket
  | ',' => some comma
  | ':' => some colon
  | _ => none

/-- The token that a keyword or a number is. -/
def ofWord? (word : List Char) : Option Token :=
  if word = ['n', 'u', 'l', 'l'] then some null
  else if word = ['t', 'r', 'u', 'e'] then some (bool true)
  else if word = ['f', 'a', 'l', 's', 'e'] then some (bool false)
  else (Numeral.parse? word).map number

/-- The character that a letter after a backslash stands for. -/
def escaped? : Char → Option Char
  | '"' => some '"'
  | '\\' => some '\\'
  | '/' => some '/'
  | 'b' => some '\x08'
  | 'f' => some '\x0c'
  | 'n' => some '\n'
  | 'r' => some '\r'
  | 't' => some '\t'
  | _ => none

/-- The value of a hexadecimal digit. -/
def hexDigit? (c : Char) : Option Nat :=
  if c.isDigit then some (c.toNat - '0'.toNat)
  else if 'a' ≤ c ∧ c ≤ 'f' then some (c.toNat - 'a'.toNat + 10)
  else if 'A' ≤ c ∧ c ≤ 'F' then some (c.toNat - 'A'.toNat + 10)
  else none

/-- Reads a character between two tokens. -/
def enter? (c : Char) : Option (List Token × Mode) :=
  if isBlank c then some ([], .between)
  else if c = '"' then some ([], .string [])
  else if isWordChar c then some ([], .word [c])
  else (punctuation? c).map fun token => ([token], .between)

/-- Reads a character: the tokens that end with or before it, and where the
machine stands then. -/
def step? : Mode → Char → Option (List Token × Mode)
  | .between, c => enter? c
  | .word read, c =>
    if isWordChar c then some ([], .word (c :: read))
    else do
      let token ← ofWord? read.reverse
      let (tokens, mode) ← enter? c
      return (token :: tokens, mode)
  | .string read, c =>
    if c = '"' then some ([string read.reverse], .between)
    else if c = '\\' then some ([], .escape read)
    else if c.toNat < 0x20 then none
    else some ([], .string (c.toNat :: read))
  | .escape read, c =>
    if c = 'u' then some ([], .hexadecimal read 4 0)
    else (escaped? c).map fun d => ([], .string (d.toNat :: read))
  | .hexadecimal read missing value, c => do
    let value := 16 * value + (← hexDigit? c)
    return ([], if missing ≤ 1 then .string (value :: read)
      else .hexadecimal read (missing - 1) value)

/-- The tokens that end with the text. -/
def finish? : Mode → Option (List Token)
  | .between => some []
  | .word read => (ofWord? read.reverse).map fun token => [token]
  | _ => none

/-- The tokens of what is left of a text. -/
def scanFrom? : Mode → List Char → Option (List Token)
  | mode, [] => finish? mode
  | mode, c :: rest => do
    let (tokens, next) ← step? mode c
    return tokens ++ (← scanFrom? next rest)

def scan? (s : List Char) : Option (List Token) :=
  scanFrom? .between s

end Token

end GuardedSql.Json
