namespace Metrology

namespace Json

def isBlank (c : Char) : Bool :=
  c == ' ' || c == '\t' || c == '\n' || c == '\r'

def skipBlanks (cs : List Char) : List Char :=
  cs.dropWhile isBlank

namespace Text

/-- What stands in a quoted text: a character, or an escaped code unit of sixteen bits. -/
inductive Piece where
  | char (c : Char)
  | unit (n : Nat)
  deriving DecidableEq

def hexDigit? (c : Char) : Option Nat :=
  if c.isDigit then some (c.toNat - '0'.toNat)
  else if 'a' ≤ c ∧ c ≤ 'f' then some (c.toNat - 'a'.toNat + 10)
  else if 'A' ≤ c ∧ c ≤ 'F' then some (c.toNat - 'A'.toNat + 10)
  else none

def unit? (a b c d : Char) : Option Piece := do
  return .unit
    (((← hexDigit? a) * 16 + (← hexDigit? b)) * 256 + (← hexDigit? c) * 16 + (← hexDigit? d))

def escaped? : Char → Option Char
  | '"' => some '"'
  | '\\' => some '\\'
  | '/' => some '/'
  | 'b' => some '\x08'
  | 'f' => some '\x0c'
  | 'n' => some '\n'
  | 'r' => some '\r'
  | 't' => some '\t'
  | _ => none

/-- The pieces up to the closing quote, and the text after it. Control characters must be
escaped. -/
def pieces : List Char → Option (List Piece × List Char)
  | [] => none
  | '"' :: rest => some ([], rest)
  | '\\' :: 'u' :: a :: b :: c :: d :: cs => do
      let piece ← unit? a b c d
      let (more, rest) ← pieces cs
      some (piece :: more, rest)
  | '\\' :: c :: cs => do
      let c ← escaped? c
      let (more, rest) ← pieces cs
      some (.char c :: more, rest)
  | c :: cs =>
      if c.toNat < 0x20 ∨ c = '\\' then none
      else do
        let (more, rest) ← pieces cs
        some (.char c :: more, rest)

def isHighSurrogate (n : Nat) : Bool :=
  0xd800 ≤ n && n < 0xdc00

def isLowSurrogate (n : Nat) : Bool :=
  0xdc00 ≤ n && n < 0xe000

/-- The characters of the pieces; a surrogate must be in a pair. -/
def join : List Piece → Option (List Char)
  | [] => some []
  | .char c :: rest => (join rest).map (c :: ·)
  | .unit n :: rest =>
      if isHighSurrogate n then
        match rest with
        | .unit m :: rest =>
            if isLowSurrogate m then
              (join rest).map (Char.ofNat (0x10000 + (n - 0xd800) * 0x400 + (m - 0xdc00)) :: ·)
            else none
        | _ => none
      else if isLowSurrogate n then none
      else (join rest).map (Char.ofNat n :: ·)

/-- A quoted text after its opening quote. -/
def scan (cs : List Char) : Option (String × List Char) := do
  let (found, rest) ← pieces cs
  let text ← join found
  some (String.ofList text, rest)

def escape (c : Char) : List Char :=
  match c with
  | '"' => ['\\', '"']
  | '\\' => ['\\', '\\']
  | '\x08' => ['\\', 'b']
  | '\x0c' => ['\\', 'f']
  | '\n' => ['\\', 'n']
  | '\r' => ['\\', 'r']
  | '\t' => ['\\', 't']
  | c =>
      if c.toNat < 0x20 then
        "\\u00".toList ++ [Nat.digitChar (c.toNat / 16), Nat.digitChar (c.toNat % 16)]
      else [c]

def write (text : String) : String :=
  String.ofList ('"' :: text.toList.flatMap escape ++ ['"'])

end Text

end Json

end Metrology
