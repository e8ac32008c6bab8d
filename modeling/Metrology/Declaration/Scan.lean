import Metrology.Declaration.Ahead
import Metrology.Declaration.Refusal

/-!
Reading phrases. A phrase takes tokens from the front of a source and gives them as they are
written back, which is in most cases as they stand. Tokens that are left over in a group are no
error at once: the source remembers the first such group, and whoever has read everything else
reports it.
-/

namespace Metrology

namespace Declaration

structure Source where
  tokens : List Token
  /-- The delimiter of the first group with tokens left over. -/
  stray : Option Delimiter := none

abbrev Scan :=
  StateT Source (Except SyntaxError)

/-- A phrase reads tokens, and gives them as they are written back. -/
abbrev Phrase :=
  Scan (List Token)

namespace Scan

variable {α : Type}

def rest : Scan (List Token) := do
  return (← get).tokens

def advance (tokens : List Token) : Scan Unit :=
  modify fun source => { source with tokens }

def refuse (cause : Refusal) : Scan α :=
  throw (.refused cause)

def expected (what : List String) : Scan α := do
  throw (.expected what (← rest).isEmpty)

def sees (test : List Token → Bool) : Scan Bool := do
  return test (← rest)

def atEnd : Scan Bool :=
  sees List.isEmpty

/-- A mark; the end of the tokens makes no difference to the error. -/
def mark (spelling : String) : Phrase := do
  let tokens ← rest
  match marks? spelling.toList tokens with
  | some after =>
      advance after
      return tokens.take spelling.length
  | none => throw (.expected ["`" ++ spelling ++ "`"] false)

def token (test : List Token → Bool) (what : String) : Phrase := do
  match ← rest with
  | [] => expected [what]
  | t :: after =>
      if test (t :: after) then
        advance after
        return [t]
      else expected [what]

def word (text : String) : Phrase :=
  token (atWord text) ("`" ++ text ++ "`")

def anyWord : Phrase :=
  token atAnyWord "ident"

def lifetime : Phrase :=
  token atLifetime "lifetime"

/-- A name: a word that is raw or no keyword. -/
def name : Phrase := do
  match ← rest with
  | .word raw text :: after =>
      if isName raw text then
        advance after
        return [.word raw text]
      else throw (.keyword text)
  | _ => expected ["identifier"]

def nameOr (words : List String) : Phrase := do
  if ← sees (atWords words) then anyWord else name

/-- A literal. A number takes its minus sign along. -/
def literal : Phrase := do
  match ← rest with
  | t :: after =>
      if !atLiteral (t :: after) then expected ["literal"]
      else
        match t, after with
        | .mark _ _, number :: after =>
            advance after
            return [t, number]
        | _, _ =>
            advance after
            return [t]
  | [] => expected ["literal"]

def anyGroup : Phrase := do
  match ← rest with
  | .group d inner :: after =>
      advance after
      return [.group d inner]
  | _ => expected ["delimiter"]

def within (d : Delimiter) (content : Scan α) : Scan α := do
  match ← get with
  | ⟨.group d' inner :: after, stray⟩ =>
      if d = d' then
        match content.run ⟨inner, stray⟩ with
        | .ok (a, left) =>
            set (⟨after, left.stray.or (if left.tokens.isEmpty then none else some d)⟩ : Source)
            return a
        | .error e => throw e
      else expected [d.title]
  | _ => expected [d.title]

def group (d : Delimiter) (content : Phrase) : Phrase := do
  return [.group d (← within d content)]

/-- A phrase that may be missing: it is read where its start is seen. -/
def whenSeen (test : List Token → Bool) (phrase : Phrase) : Phrase := do
  if ← sees test then phrase else return []

def optionalMark (spelling : String) : Phrase :=
  whenSeen (atMark spelling) (mark spelling)

def optionalWord (text : String) : Phrase :=
  whenSeen (atWord text) (word text)

def inOrder (phrases : List Phrase) : Phrase := do
  return (← phrases.mapM id).flatten

def attempt (scan : Scan α) : Scan (Option α) := do
  match scan.run (← get) with
  | .ok (a, source) =>
      set source
      return some a
  | .error _ => return none

/-- Read something, and go back to where it started. -/
def peek (scan : Scan α) : Scan α := do
  let source ← get
  let a ← scan
  set source
  return a

/-- The tokens that have been read since a point. -/
def since (start : List Token) : Phrase := do
  return start.take (start.length - (← rest).length)

/-- Read something, and give its tokens as they stand. -/
def verbatim (scan : Scan α) : Phrase := do
  let start ← rest
  let _ ← scan
  since start

/-- Repeat a step while it asks for it; `fuel` bounds the number of steps. -/
def iterate (step : α → Scan (ForInStep α)) : (fuel : Nat) → α → Scan α
  | 0, _ => throw .tooDeep
  | fuel + 1, a => do
      match ← step a with
      | .done a => return a
      | .yield a => iterate step fuel a

/-- Repeat a step that reads at least one token while it asks to be repeated. -/
def repeated (step : α → Scan (ForInStep α)) (start : α) : Scan α := do
  iterate step ((← rest).length + 1) start

def many (test : List Token → Bool) (phrase : Phrase) : Phrase :=
  repeated (fun read => do
    if ← sees test then return .yield (read ++ (← phrase)) else return .done read) []

/-- Phrases with a separator between them, which may also stand at the end. The list ends where
`ends?` holds; after a phrase, a separator is needed unless it holds again. -/
def separatedUntil (ends? : List Token → Bool) (separator : String) (phrase : Phrase) : Phrase :=
  repeated (fun read => do
    if ← sees ends? then return .done read
    else
      let read := read ++ (← phrase)
      if ← sees ends? then return .done read
      else return .yield (read ++ (← mark separator))) []

/-- Phrases with commas between them, up to the end of the group. -/
def commaSeparated (phrase : Phrase) : Phrase :=
  separatedUntil List.isEmpty "," phrase

/-- Phrases with a separator between them. The list ends where `ends?` holds, and after a phrase
without a separator. -/
def separatedWhile (ends? : List Token → Bool) (separator : String) (phrase : Phrase) : Phrase :=
  repeated (fun read => do
    if ← sees ends? then return .done read
    else
      let read := read ++ (← phrase)
      if ← sees (atMark separator) then return .yield (read ++ (← mark separator))
      else return .done read) []

def toEnd (phrase : Phrase) : Phrase :=
  many (fun ts => !ts.isEmpty) phrase

def everything : Phrase := do
  let tokens ← rest
  advance []
  return tokens

end Scan

/-- Read all tokens. Tokens left over in a group are reported before those left over at the
end. -/
def Scan.complete {α : Type} (scan : Scan α) (tokens : List Token) : Except SyntaxError α :=
  match scan.run ⟨tokens, none⟩ with
  | .ok (a, ⟨[], none⟩) => .ok a
  | .ok (_, ⟨_, some d⟩) => .error (.stray (some d))
  | .ok (_, ⟨_ :: _, none⟩) => .error (.stray none)
  | .error e => .error e

end Declaration

end Metrology
