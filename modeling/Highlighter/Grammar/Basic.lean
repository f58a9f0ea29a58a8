import Highlighter.Grammar.Rule

/-!
# Grammars

A grammar is a list of region rules in the order in which they were added and a list of pattern
rules by descending priority, where rules of equal priority keep the order in which they were
added. Rules whose patterns cannot be read are dropped and counted.
-/

namespace Highlighter

/-- The lexical rules of one language. -/
structure Grammar where
  name : String
  regions : List RegionRule := []
  /-- Sorted by descending priority. -/
  patterns : List PatternRule := []
  /-- The number of rules dropped because a pattern could not be read. -/
  rejected : Nat := 0
  deriving DecidableEq, Repr

namespace Grammar

/-- The grammar without rules. -/
def named (name : String) : Grammar :=
  { name }

/-- Insert a rule behind all rules of the same or a higher priority. -/
def insertByPriority (rule : PatternRule) : List PatternRule → List PatternRule
  | [] => [rule]
  | other :: others =>
    if other.priority < rule.priority then rule :: other :: others
    else other :: insertByPriority rule others

/-- Add a pattern rule. -/
def addPattern (grammar : Grammar) (rule : PatternRule) : Grammar :=
  { grammar with patterns := insertByPriority rule grammar.patterns }

/-- Add a region rule. -/
def addRegion (grammar : Grammar) (rule : RegionRule) : Grammar :=
  { grammar with regions := grammar.regions ++ [rule] }

/-- Count a rule that was dropped. -/
def reject (grammar : Grammar) : Grammar :=
  { grammar with rejected := grammar.rejected + 1 }

/-- Add a pattern rule by the text of its pattern. -/
def pattern (grammar : Grammar) (name pattern kind : String) (priority : Int) : Grammar :=
  match PatternRule.make? name pattern ⟨kind⟩ priority with
  | some rule => grammar.addPattern rule
  | none => grammar.reject

/-- Add a pattern rule for the whole words that are listed. -/
def words (grammar : Grammar) (name : String) (words : List String) (kind : String)
    (priority : Int) : Grammar :=
  grammar.pattern name ("\\b(" ++ "|".intercalate words ++ ")\\b") kind priority

/-- Add a region rule by the texts of its patterns. The region may span lines. -/
def region (grammar : Grammar) (name opening closing kind : String) : Grammar :=
  match RegionRule.make? name opening closing ⟨kind⟩ with
  | some rule => grammar.addRegion rule
  | none => grammar.reject

/-- Add a region rule with options. It is left out, and not counted, if a pattern cannot be
read. -/
def regionWith (grammar : Grammar) (name opening closing kind : String) (escape : Option Char)
    (singleLine : Bool) : Grammar :=
  match RegionRule.make? name opening closing ⟨kind⟩ escape singleLine with
  | some rule => grammar.addRegion rule
  | none => grammar

/-- Add a string on one line with backslash escapes. One pattern both opens and closes it. -/
def string (grammar : Grammar) (name delimiter kind : String) : Grammar :=
  match RegionRule.make? name delimiter delimiter ⟨kind⟩ (some '\\') true with
  | some rule => grammar.addRegion rule
  | none => grammar.reject

/-- All rules in the order in which they are tried. -/
def rules (grammar : Grammar) : List Rule :=
  grammar.regions.map .region ++ grammar.patterns.map .pattern

end Grammar

end Highlighter
