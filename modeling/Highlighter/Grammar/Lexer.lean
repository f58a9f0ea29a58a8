import Highlighter.Grammar.Basic
import Highlighter.Token.Basic

/-!
# Lexing by a grammar

At each place the rules are tried in order, and the first that applies right there yields the
next token. Where none does, everything up to the nearest place where one applies is plain text.

`Grammar.scan` says this directly. `Grammar.lex` remembers for every rule where it applies next,
so a rule is searched for again only when the place it was found at has been passed.
-/

namespace Highlighter

/-- What is known about the next place where a rule applies. -/
inductive Hit where
  /-- Nothing yet. -/
  | unknown
  /-- The rule applies at `extent`, and nowhere between the last search and there. -/
  | at (extent : Extent)
  /-- The rule applies nowhere in the rest of the text. -/
  | exhausted
  deriving DecidableEq, Repr

namespace Hit

/-- What a search found. -/
def ofSearch : Option Extent → Hit
  | some extent => .at extent
  | none => .exhausted

/-- The place that is known. -/
def extent? : Hit → Option Extent
  | .at extent => some extent
  | _ => none

/-- Bring what is known up to date: search again unless the rule is exhausted or its place
still lies at or after the cursor. -/
def refresh (hit : Hit) (rule : Rule) (cursor : Cursor) : Hit :=
  match hit with
  | .exhausted => .exhausted
  | .at extent =>
    if cursor.offset ≤ extent.start then .at extent else ofSearch (rule.find? cursor)
  | .unknown => ofSearch (rule.find? cursor)

end Hit

namespace Grammar

/-- The token that starts at the cursor and ends at the offset `stop`. -/
def tokenTo (kind : TokenKind) (cursor : Cursor) (stop : Nat) : Token :=
  { kind, text := cursor.rest.take (stop - cursor.offset) }

/-- The outcome of trying rules at one place. -/
structure Attempt where
  /-- The kind and the end of the token, if a rule applies right here. -/
  found : Option (TokenKind × Nat)
  /-- The nearest place where one of the rules tried applies, or the end of the text. -/
  nearest : Nat
  /-- The rules with what is known about them now. -/
  rules : List (Rule × Hit)

/-- Try the rules in order until one applies at the cursor. The rules behind it are left as
they are. -/
def attempt (cursor : Cursor) (nearest : Nat) : List (Rule × Hit) → Attempt
  | [] => { found := none, nearest, rules := [] }
  | (rule, hit) :: others =>
    let hit := hit.refresh rule cursor
    match hit.extent? with
    | none =>
      let result := attempt cursor nearest others
      { result with rules := (rule, hit) :: result.rules }
    | some extent =>
      if extent.start = cursor.offset then
        { found := some (rule.kind, rule.tokenEnd cursor extent), nearest
          rules := (rule, hit) :: others }
      else
        let result := attempt cursor (min nearest extent.start) others
        { result with rules := (rule, hit) :: result.rules }

/-- Lex from the cursor on, with what is known about the rules. Every token takes at least one
character, so `steps` equal to the length of the rest is always enough. -/
def lexFrom : (steps : Nat) → List (Rule × Hit) → Cursor → List Token
  | 0, _, _ => []
  | steps + 1, rules, cursor =>
    if cursor.rest.isEmpty then []
    else
      let result := attempt cursor cursor.limit rules
      let (kind, stop) := result.found.getD (.text, result.nearest)
      tokenTo kind cursor stop
        :: lexFrom steps result.rules (cursor.advance (stop - cursor.offset))

/-- The tokens of a text. -/
def lex (grammar : Grammar) (text : Text) : List Token :=
  lexFrom text.length (grammar.rules.map (·, .unknown)) (.start text)

/-- The kind and the end of the token that a rule yields right at the cursor. -/
def tokenHere? (cursor : Cursor) (rule : Rule) : Option (TokenKind × Nat) :=
  match rule.find? cursor with
  | some extent =>
    if extent.start = cursor.offset then some (rule.kind, rule.tokenEnd cursor extent) else none
  | none => none

/-- The nearest place at or after the cursor where one of the rules applies, or the end of the
text. -/
def nearestStart (rules : List Rule) (cursor : Cursor) : Nat :=
  (rules.filterMap fun rule => (rule.find? cursor).map (·.start)).foldl min cursor.limit

/-- Scan from the cursor on, searching for every rule afresh at every token. -/
def scanFrom (rules : List Rule) : (steps : Nat) → Cursor → List Token
  | 0, _ => []
  | steps + 1, cursor =>
    if cursor.rest.isEmpty then []
    else
      let (kind, stop) :=
        (rules.findSome? (tokenHere? cursor)).getD (.text, nearestStart rules cursor)
      tokenTo kind cursor stop :: scanFrom rules steps (cursor.advance (stop - cursor.offset))

/-- The tokens of a text, found without remembering anything from one token to the next. -/
def scan (grammar : Grammar) (text : Text) : List Token :=
  scanFrom grammar.rules text.length (.start text)

/-- The tokenizer that lexes by a grammar. -/
def tokenizer (grammar : Grammar) : Tokenizer where
  name := grammar.name
  lex := grammar.lex

end Grammar

end Highlighter
