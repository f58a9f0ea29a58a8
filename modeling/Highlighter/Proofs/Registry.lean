import Highlighter.Proofs.Dict
import Highlighter.Proofs.Unicode.Lowercase
import Highlighter.Registry

/-!
# What a registry knows

A registry holds three dictionaries, and nothing but the calls that made it says how they belong
together. So a registry is compared with the list of those calls (`Registry.Tracks`): an identifier
finds the tokenizer of the latest call under it, an extension the identifier of the latest call
that lists it. Registering one more tokenizer and leading one more file name to an identifier keep
this up (`Tracks.register`, `Tracks.registerFileName`), and so does every sequence of them, from
the registry for plain text as from the built-in one (`Tracks.registerAll`,
`Origin.tracks_registry`). What the questions to a registry answer is then read off the calls
(`Registry.answers_of_calls`).
-/

namespace Highlighter.Registry

open Unicode (lowercase)

/-- A call that registers a tokenizer. -/
structure Registration where
  id : String
  tokenizer : Tokenizer
  extensions : List String

/-- The registration that adds a language. -/
def Registration.ofEntry (entry : LanguageEntry) : Registration where
  id := entry.id
  tokenizer := entry.grammar.tokenizer
  extensions := entry.extensions

/-- The registration that every registry begins with. -/
def Registration.plainText : Registration where
  id := plainTextId
  tokenizer := .plainText
  extensions := ["txt"]

/-- Register one tokenizer after the other. -/
def registerAll (registry : Registry) (calls : List Registration) : Registry :=
  calls.foldl (fun registry call => registry.register call.id call.tokenizer call.extensions)
    registry

/-- The latest registration under an identifier in lower case. -/
def latest? (calls : List Registration) (key : String) : Option Registration :=
  calls.reverse.find? (lowercase ·.id == key)

/-- The latest registration that lists an extension, given in lower case. -/
def latestListing? (calls : List Registration) (key : String) : Option Registration :=
  calls.reverse.find? (·.extensions.any (lowercase · == key))

/-! ### Calls read from the back -/

section Calls

variable {calls : List Registration} {call : Registration} {key : String}

theorem latest?_append :
    latest? (calls ++ [call]) key = if lowercase call.id == key then some call
      else latest? calls key := by
  rw [latest?, List.reverse_append, List.reverse_singleton, List.singleton_append, List.find?_cons]
  cases lowercase call.id == key <;> rfl

theorem latestListing?_append :
    latestListing? (calls ++ [call]) key =
      if call.extensions.any (lowercase · == key) then some call else latestListing? calls key := by
  rw [latestListing?, List.reverse_append, List.reverse_singleton, List.singleton_append,
    List.find?_cons]
  cases call.extensions.any (lowercase · == key) <;> rfl

theorem mem_of_latestListing? (found : latestListing? calls key = some call) : call ∈ calls :=
  List.mem_reverse.mp (List.mem_of_find?_eq_some found)

theorem exists_latest?_iff :
    (∃ call, latest? calls key = some call) ↔ ∃ call ∈ calls, lowercase call.id = key := by
  rw [← Option.isSome_iff_exists, latest?, List.find?_isSome]
  simp only [List.mem_reverse, beq_iff_eq]

end Calls

/-! ### The registry against its calls -/

/-- A registry holds what the calls so far have put there: the registrations, and the identifiers
that exact file names were led to. -/
structure Tracks (registry : Registry) (calls : List Registration)
    (names : List (String × String)) : Prop where
  ascending : registry.tokenizers.Ascending
  tokenizers (key : String) :
    registry.tokenizers.find? key = (latest? calls key).map (·.tokenizer)
  extensions (key : String) :
    registry.extensions.find? key = (latestListing? calls key).map (lowercase ·.id)
  fileNames (name : String) : registry.fileNames.find? name = names.reverse.lookup name
  /-- File names lead to registered identifiers only. -/
  named : ∀ entry ∈ names, ∃ call ∈ calls, lowercase call.id = lowercase entry.2

namespace Tracks

variable {registry : Registry} {calls : List Registration} {names : List (String × String)}

theorem empty : Tracks {} [] [] where
  ascending := List.Pairwise.nil
  tokenizers _ := rfl
  extensions _ := rfl
  fileNames _ := rfl
  named := by simp

theorem register (tracks : Tracks registry calls names) (call : Registration) :
    Tracks (registry.register call.id call.tokenizer call.extensions) (calls ++ [call]) names where
  ascending := Dict.ascending_insert tracks.ascending
  tokenizers key := by
    rw [latest?_append]
    by_cases same : lowercase call.id = key
    · subst same
      rw [beq_self_eq_true, if_pos rfl]
      exact Dict.find?_insert_self
    · rw [beq_false_of_ne same]
      exact (Dict.find?_insert_of_ne (Ne.symm same)).trans (tracks.tokenizers key)
  extensions key := by
    rw [latestListing?_append]
    refine (Dict.find?_foldl_insert call.extensions lowercase).trans ?_
    rw [tracks.extensions]
    cases call.extensions.any (lowercase · == key) <;> rfl
  fileNames := tracks.fileNames
  named entry member := by
    obtain ⟨earlier, made, same⟩ := tracks.named entry member
    exact ⟨earlier, List.mem_append_left _ made, same⟩

theorem registerFileName (tracks : Tracks registry calls names) {name id : String}
    (registered : ∃ call ∈ calls, lowercase call.id = lowercase id) :
    Tracks (registry.registerFileName name id) calls (names ++ [(name, id)]) where
  ascending := tracks.ascending
  tokenizers := tracks.tokenizers
  extensions := tracks.extensions
  fileNames other := by
    rw [List.reverse_append, List.reverse_singleton, List.singleton_append, List.lookup_cons]
    by_cases same : other = name
    · subst same
      rw [beq_self_eq_true]
      exact Dict.find?_insert_self
    · rw [beq_false_of_ne same]
      exact (Dict.find?_insert_of_ne same).trans (tracks.fileNames other)
  named entry member := by
    rcases List.mem_append.mp member with before | last
    · exact tracks.named entry before
    · rw [List.mem_singleton.mp last]
      exact registered

theorem registerAll (tracks : Tracks registry calls names) (later : List Registration) :
    Tracks (registry.registerAll later) (calls ++ later) names := by
  induction later generalizing registry calls with
  | nil => rwa [List.append_nil]
  | cons call later inductionHypothesis =>
      rw [List.append_cons]
      exact inductionHypothesis (tracks.register call)

theorem registerFileNames (tracks : Tracks registry calls names) {id : String}
    (registered : ∃ call ∈ calls, lowercase call.id = lowercase id) (fileNames : List String) :
    Tracks (fileNames.foldl (·.registerFileName · id) registry) calls
      (names ++ fileNames.map (·, id)) := by
  induction fileNames generalizing registry names with
  | nil => rwa [List.map_nil, List.append_nil]
  | cons name fileNames inductionHypothesis =>
      rw [List.map_cons, List.append_cons]
      exact inductionHypothesis (tracks.registerFileName registered)

theorem addLanguages (tracks : Tracks registry calls names) (entries : List LanguageEntry) :
    Tracks (entries.foldl addLanguage registry) (calls ++ entries.map .ofEntry)
      (names ++ entries.flatMap fun entry => entry.fileNames.map (·, entry.id)) := by
  induction entries generalizing registry calls names with
  | nil => simpa using tracks
  | cons entry entries inductionHypothesis =>
      rw [List.map_cons, List.append_cons, List.flatMap_cons, ← List.append_assoc]
      refine inductionHypothesis ((tracks.register (.ofEntry entry)).registerFileNames ?_ _)
      exact ⟨.ofEntry entry, List.mem_append_right _ (List.mem_singleton_self _), rfl⟩

/-! ### What the questions answer -/

theorem find?_eq (tracks : Tracks registry calls names) (id : String) :
    registry.find? id = (latest? calls (lowercase id)).map (·.tokenizer) :=
  tracks.tokenizers _

theorem select_eq (tracks : Tracks registry calls names) (id : String) :
    registry.select id =
      match latest? calls (lowercase id) with
      | some call => .ok call.tokenizer
      | none => .error (.unknownLanguage id) := by
  rw [select, tracks.find?_eq]
  cases latest? calls (lowercase id) <;> rfl

theorem contains_iff (tracks : Tracks registry calls names) (id : String) :
    registry.contains id = true ↔ ∃ call, latest? calls (lowercase id) = some call := by
  rw [← Option.isSome_iff_exists, contains, Dict.contains, tracks.tokenizers, Option.isSome_map]

/-- An identifier that a registration was made under in lower case is one that the registry
contains. -/
theorem contains_of_call (tracks : Tracks registry calls names) {id : String}
    (registered : ∃ call ∈ calls, lowercase call.id = lowercase id) :
    registry.contains id = true :=
  (tracks.contains_iff id).mpr (exists_latest?_iff.mpr registered)

theorem detect?_eq (tracks : Tracks registry calls names) (path : String) :
    registry.detect? path =
      ((Path.fileName? path).bind fun name => names.reverse.lookup (String.ofList name)).or
        ((Path.extension? path).bind fun extension =>
          (latestListing? calls (lowercase (String.ofList extension))).map (lowercase ·.id)) := by
  rw [detect?]
  simp only [tracks.fileNames, tracks.extensions]
  cases (Path.fileName? path).bind fun name => names.reverse.lookup (String.ofList name) <;> rfl

theorem contains_of_detect? (tracks : Tracks registry calls names) {path id : String}
    (detected : registry.detect? path = some id) : registry.contains id = true := by
  rw [tracks.detect?_eq, Option.or_eq_some_iff] at detected
  obtain byName | ⟨-, byExtension⟩ := detected
  · obtain ⟨name, -, found⟩ := Option.bind_eq_some_iff.mp byName
    obtain ⟨front, back, split, -⟩ := List.lookup_eq_some_iff.mp found
    have member : (String.ofList name, id) ∈ names := by
      rw [← List.mem_reverse, split]
      exact List.mem_append_right _ List.mem_cons_self
    exact tracks.contains_of_call (tracks.named _ member)
  · obtain ⟨extension, -, found⟩ := Option.bind_eq_some_iff.mp byExtension
    obtain ⟨call, listing, rfl⟩ := Option.map_eq_some_iff.mp found
    exact tracks.contains_of_call
      ⟨call, mem_of_latestListing? listing, (Unicode.lowercase_lowercase _).symm⟩

theorem languages_ascending (tracks : Tracks registry calls names) :
    registry.languages.Pairwise (· < ·) :=
  List.pairwise_map.mpr tracks.ascending

theorem mem_languages_iff (tracks : Tracks registry calls names) (id : String) :
    id ∈ registry.languages ↔ ∃ call ∈ calls, lowercase call.id = id := by
  rw [languages, Dict.mem_keys_iff, ← exists_latest?_iff]
  simp only [tracks.tokenizers, Option.map_eq_some_iff]
  constructor
  · rintro ⟨_, call, found, -⟩
    exact ⟨call, found⟩
  · rintro ⟨call, found⟩
    exact ⟨call.tokenizer, call, found, rfl⟩

end Tracks

/-! ### Every registry -/

/-- What a registry starts from. -/
inductive Origin where
  /-- Plain text alone. -/
  | plainText
  /-- All built-in languages. -/
  | builtins

namespace Origin

/-- The registry at the start. -/
def registry : Origin → Registry
  | plainText => plainTextOnly
  | builtins => builtin

/-- The registrations that the registry at the start was made with. -/
def registrations : Origin → List Registration
  | plainText => [.plainText]
  | builtins => .plainText :: Language.catalog.map .ofEntry

/-- The exact file names that the registry at the start was led to, with their identifiers. The last
entry of a name counts. -/
def fileNames : Origin → List (String × String)
  | plainText => []
  | builtins => Language.catalog.flatMap fun entry => entry.fileNames.map (·, entry.id)

example : builtins.fileNames = [("Dockerfile", "docker"), ("Containerfile", "docker")] := rfl

theorem tracks_registry (origin : Origin) :
    Tracks origin.registry origin.registrations origin.fileNames := by
  have plain : Tracks plainTextOnly [.plainText] [] := Tracks.empty.register .plainText
  cases origin with
  | plainText => exact plain
  | builtins => exact plain.addLanguages Language.catalog

end Origin

/-- A registry answers by the calls that made it, whatever they were. The identifier that a path
leads to is one that it contains, with the tokenizer of the latest registration under it. It
contains exactly the identifiers that it can select, and refuses any other by the name that was
asked for. A path leads to the identifier of its exact file name, or else to that of the latest
registration that lists its extension. The languages are the registered identifiers in lower case,
each once. -/
theorem answers_of_calls (origin : Origin) (calls : List Registration) :
    let registry := origin.registry.registerAll calls
    let history := origin.registrations ++ calls
    (∀ path id, registry.detect? path = some id →
      registry.contains id = true ∧
        ∃ call, latest? history (lowercase id) = some call ∧
          registry.select id = .ok call.tokenizer) ∧
    (∀ id, registry.contains id = true ↔ ∃ tokenizer, registry.select id = .ok tokenizer) ∧
    (∀ id, registry.contains id = false → registry.select id = .error (.unknownLanguage id)) ∧
    (∀ id, registry.select id =
      match latest? history (lowercase id) with
      | some call => .ok call.tokenizer
      | none => .error (.unknownLanguage id)) ∧
    (∀ path, registry.detect? path =
      ((Path.fileName? path).bind fun name =>
          origin.fileNames.reverse.lookup (String.ofList name)).or
        ((Path.extension? path).bind fun extension =>
          (latestListing? history (lowercase (String.ofList extension))).map (lowercase ·.id))) ∧
    registry.languages.Pairwise (· < ·) ∧
    (∀ id, id ∈ registry.languages ↔ ∃ call ∈ history, lowercase call.id = id) := by
  intro registry history
  have tracks : Tracks registry history origin.fileNames :=
    origin.tracks_registry.registerAll calls
  refine ⟨fun path id detected => ?_, fun id => ?_, fun id missing => ?_, tracks.select_eq,
    tracks.detect?_eq, tracks.languages_ascending, tracks.mem_languages_iff⟩
  · have contains := tracks.contains_of_detect? detected
    obtain ⟨call, latest⟩ := (tracks.contains_iff id).mp contains
    refine ⟨contains, call, latest, ?_⟩
    rw [tracks.select_eq, latest]
  · rw [tracks.contains_iff, tracks.select_eq]
    cases latest? history (lowercase id) <;> simp
  · rw [Bool.eq_false_iff, Ne, tracks.contains_iff, ← Option.isSome_iff_exists,
      Option.not_isSome_iff_eq_none] at missing
    rw [tracks.select_eq, missing]

end Highlighter.Registry
