/-!
The languages that types are generated for. Each has its canonical name, the extension of its
source files and the name by which the emitter program knows it.
-/

namespace ModelForge

inductive Language
  | ruby
  | javaScript
  | flow
  | rust
  | kotlin
  | dart
  | python
  | cSharp
  | go
  | cPlusPlus
  | java
  | typeScript
  | swift
  | objectiveC
  | elm
  deriving DecidableEq, Repr

namespace Language

/-- All languages, in the order in which they are offered. -/
def all : List Language :=
  [ruby, javaScript, flow, rust, kotlin, dart, python, cSharp, go, cPlusPlus, java, typeScript,
    swift, objectiveC, elm]

theorem mem_all (l : Language) : l ∈ all := by cases l <;> simp [all]

def canonicalName : Language → String
  | ruby => "Ruby"
  | javaScript => "JavaScript"
  | flow => "Flow"
  | rust => "Rust"
  | kotlin => "Kotlin"
  | dart => "Dart"
  | python => "Python"
  | cSharp => "C#"
  | go => "Go"
  | cPlusPlus => "C++"
  | java => "Java"
  | typeScript => "TypeScript"
  | swift => "Swift"
  | objectiveC => "Objective-C"
  | elm => "Elm"

/-- The extension of a source file, without the dot. -/
def extension : Language → String
  | ruby => "rb"
  | javaScript => "js"
  | flow => "js"
  | rust => "rs"
  | kotlin => "kt"
  | dart => "dart"
  | python => "py"
  | cSharp => "cs"
  | go => "go"
  | cPlusPlus => "cpp"
  | java => "java"
  | typeScript => "ts"
  | swift => "swift"
  | objectiveC => "m"
  | elm => "elm"

/-- The name of the language on the emitter program's command line. -/
def emitterName : Language → String
  | ruby => "ruby"
  | javaScript => "javascript"
  | flow => "flow"
  | rust => "rust"
  | kotlin => "kotlin"
  | dart => "dart"
  | python => "python"
  | cSharp => "csharp"
  | go => "go"
  | cPlusPlus => "cpp"
  | java => "java"
  | typeScript => "typescript"
  | swift => "swift"
  | objectiveC => "objc"
  | elm => "elm"

/-- ASCII capitals become small letters; all other characters stay. -/
def foldCase (s : String) : List Char := s.toList.map Char.toLower

/-- The language that a token in small letters names. -/
def ofSmallToken? : String → Option Language
  | "ruby" => some ruby
  | "javascript" => some javaScript
  | "flow" => some flow
  | "rust" => some rust
  | "kotlin" => some kotlin
  | "dart" => some dart
  | "python" => some python
  | "c#" => some cSharp
  | "go" => some go
  | "c++" => some cPlusPlus
  | "java" => some java
  | "typescript" => some typeScript
  | "swift" => some swift
  | "objective-c" => some objectiveC
  | "elm" => some elm
  | _ => none

/-- The language that a token names, whatever the case of its ASCII letters. -/
def ofToken? (token : String) : Option Language := ofSmallToken? (String.ofList (foldCase token))

end Language

/-- A token that names no language. -/
structure UnsupportedLanguage where
  token : String
  deriving DecidableEq, Repr

def UnsupportedLanguage.message (e : UnsupportedLanguage) : String :=
  "unsupported language: \"" ++ e.token ++ "\""

def Language.resolve (token : String) : Except UnsupportedLanguage Language :=
  match Language.ofToken? token with
  | some l => .ok l
  | none => .error ⟨token⟩

end ModelForge
