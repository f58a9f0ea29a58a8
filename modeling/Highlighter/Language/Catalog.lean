import Highlighter.Language.Application
import Highlighter.Language.Configuration
import Highlighter.Language.Markup
import Highlighter.Language.Systems

/-!
# The catalog of built-in languages

Every built-in grammar with its identifier and the file names it belongs to.
-/

namespace Highlighter

/-- A built-in language and the files it belongs to. -/
structure LanguageEntry where
  /-- The identifier, in lower case. -/
  id : String
  /-- File extensions without the dot. -/
  extensions : List String
  /-- Exact file names. -/
  fileNames : List String := []
  grammar : Grammar

namespace Language

/-- All built-in languages. -/
def catalog : List LanguageEntry := [
  { id := "python", extensions := ["py", "pyw", "pyi"], grammar := python },
  { id := "rust", extensions := ["rs"], grammar := rust },
  { id := "c", extensions := ["c", "h"], grammar := c },
  { id := "cpp", extensions := ["cpp", "cc", "cxx", "hpp", "hh"], grammar := cpp },
  { id := "java", extensions := ["java"], grammar := java },
  { id := "javascript", extensions := ["js", "mjs", "cjs"], grammar := javascript },
  { id := "go", extensions := ["go"], grammar := go },
  { id := "css", extensions := ["css"], grammar := css },
  { id := "html", extensions := ["html", "htm"], grammar := html },
  { id := "yaml", extensions := ["yaml", "yml"], grammar := yaml },
  { id := "markdown", extensions := ["md", "markdown"], grammar := markdown },
  { id := "docker", extensions := ["dockerfile"],
    fileNames := ["Dockerfile", "Containerfile"], grammar := docker }]

end Language

end Highlighter
