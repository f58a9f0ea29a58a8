/-!
# Token kinds

A token kind is a dotted name such as `Literal.String.Double`; each dot separates a kind from
the kinds nested below it. The name of a kind is also the name of its tag on a surface.
-/

namespace Highlighter

/-- The classification of a lexeme. -/
structure TokenKind where
  name : String
  deriving DecidableEq, Repr

namespace TokenKind

/-- Text that no rule claims. -/
def text : TokenKind := ⟨"Text"⟩

/-- The part of a name before its last dot, if it has a dot. -/
def beforeLastDot? (name : List Char) : Option (List Char) :=
  match name.reverse.dropWhile (· != '.') with
  | [] => none
  | _ :: before => some before.reverse

/-- The kind that encloses this one: `Keyword` for `Keyword.Type`. -/
def parent? (kind : TokenKind) : Option TokenKind :=
  (beforeLastDot? kind.name.toList).map fun name => ⟨String.ofList name⟩

/-- Everything that stands before a dot of the name, shortest first. -/
def dotPrefixes : List Char → List (List Char)
  | [] => []
  | c :: rest =>
    let longer := (dotPrefixes rest).map (c :: ·)
    if c = '.' then [] :: longer else longer

/-- The names of the enclosing kinds, nearest first. -/
def ancestors (kind : TokenKind) : List String :=
  ((dotPrefixes kind.name.toList).map String.ofList).reverse

/-- Whether the kind is called `other` or nested below the kind of that name. -/
def isWithin (kind : TokenKind) (other : String) : Bool :=
  kind.name == other || (other.toList ++ ['.']).isPrefixOf kind.name.toList

end TokenKind

end Highlighter
