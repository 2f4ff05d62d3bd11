import TemplateLint.Settings.Basic

/-!
# Reading settings

Settings are written in more than one notation, and what they consist of is the same in each. A
`Decoder` reads the parts that settings are made of from the values of one notation, and
`Settings.decode` puts them together.
-/

namespace TemplateLint

/-- A field of a structure `σ`: its name, and how a value of the notation changes the structure. -/
abbrev Field (m : Type → Type) (δ σ : Type) := String × (σ → δ → m σ)

/-- How the values `δ` of a notation are read. The monad says how reading may fail, and what it keeps
count of. -/
structure Decoder (m : Type → Type) (δ : Type) where
  bool : δ → m Bool
  word : δ → m UInt64
  text : δ → m String
  /-- Any value. -/
  json : δ → m Json
  /-- One of several named choices. -/
  oneOf : {α : Type} → List (String × α) → δ → m α
  list : {α : Type} → (δ → m α) → δ → m (List α)
  /-- Values under keys; of several values under one key the last counts. -/
  map : {α : Type} → (δ → m α) → δ → m (List (String × α))
  /-- A structure of a name with fields of which each may be missing. -/
  record : {σ : Type} → String → List (Field m δ σ) → σ → δ → m σ

namespace Settings

variable {m : Type → Type} [Monad m] {δ : Type}

/-- Reads how the linter runs. -/
def decodeEngine (d : Decoder m δ) : δ → m EngineSettings :=
  d.record "EngineConfig"
    [("parallel", fun s v => return { s with parallel := ← d.bool v }),
      ("jobs", fun s v => return { s with jobs := ← d.word v })] {}

/-- Reads how the linter reports. -/
def decodeOutput (d : Decoder m δ) : δ → m OutputSettings :=
  d.record "OutputConfig"
    [("format", fun s v => return { s with format := ← d.oneOf OutputFormat.choices v }),
      ("color", fun s v => return { s with color := ← d.oneOf ColorMode.choices v })] {}

/-- Reads settings. -/
def decode (d : Decoder m δ) : δ → m Settings :=
  d.record "Config"
    [("engine", fun s v => return { s with engine := ← decodeEngine d v }),
      ("output", fun s v => return { s with output := ← decodeOutput d v }),
      ("rules", fun s v => return { s with rules := ← d.map d.json v }),
      ("severity", fun s v => return { s with severity := ← d.map (d.oneOf Severity.choices) v }),
      ("ignore", fun s v => return { s with ignore := ← d.map (d.list d.text) v })] {}

end Settings

end TemplateLint
