import Bindery.Crate.Render
import Bindery.Interchange.Render
import Bindery.Json.Text
import Bindery.Operation.Decode
import Bindery.Operation.Encode
import Bindery.Package.Render

/-!
# Pipeline configurations

Which descriptions to load, which operations to apply, and where to publish the result.
Paths are written as seen from the directory of the configuration.

* **`Target`** — the forms in which a tree is published; **`Target.ofName`** finds one by
  the name that configurations give it, **`Target.render`** gives the files of a tree for it.
* **`Configuration`** — a configuration as it is written; **`Outlet`** — one of its
  renderers.
* **`Configuration.ofText`**, **`Configuration.encode`** — read and write one.
* **`Configuration.resolve`** — the same with paths as seen from a directory.
* **`Configuration.publications`** — the renderers as targets bound to their outputs.
-/

namespace Bindery

/-- The forms of output. -/
inductive Target where
  | crate
  | package
  | interchange
deriving DecidableEq

namespace Target

/-- Every target. -/
def all : List Target := [.crate, .package, .interchange]

/-- The name of a target. -/
def name : Target → String
  | .crate => "rust"
  | .package => "js"
  | .interchange => "codama"

/-- The target of a name. -/
def ofName (name : String) : Except RenderError Target :=
  match all.find? (·.name = name) with
  | some target => .ok target
  | none => .error (.unknownTarget name)

/-- The files of a tree for a target. -/
def render (target : Target) (tree : Tree) (options : RenderOptions) :
    Except RenderError Artifacts :=
  match target with
  | .crate => Crate.render tree options
  | .package => Package.render tree options
  | .interchange => Interchange.render tree options

end Target

open Json (Readable)
open Decode

/-- A renderer of a configuration: the name of its target, where its files go, and its
    options. -/
structure Outlet where
  target : String
  output : String
  options : RenderOptions

/-- A configuration. -/
structure Configuration where
  descriptions : List String
  operations : List NamedOperation
  outlets : List Outlet

/-- A target bound to the directory of its files. -/
structure Publication where
  target : Target
  output : String
  options : RenderOptions

/-- Why a configuration cannot be used. -/
inductive ConfigurationError where
  | unreadable (path : String) (fault : FileFault)
  | malformed (label : String) (fault : Fault)
deriving DecidableEq

/-- The wording of a configuration error. -/
def ConfigurationError.message : ConfigurationError → String
  | .unreadable path fault => s!"IO error at {path}: {fault.message}"
  | .malformed label fault => s!"Invalid pipeline configuration {label}: {fault.message}"

-- ── reading ──────────────────────────────────────────────────────────────────────

variable {τ : Type} [Readable τ]

/-- Decode a setting of a renderer. -/
def Json.Canonical.decode (t : τ) : Except Fault Json.Canonical := do
  return .of (← Readable.whole t)

/-- Decode a renderer. Output is formatted unless it says otherwise. -/
def Outlet.decode : τ → Except Fault Outlet :=
  record ((fun target output formatCode settings => ⟨target, output, ⟨formatCode, settings⟩⟩)
    <$> .required "target" str
    <*> .required "output" str
    <*> .optional "formatCode" bool true
    <*> .optional "options" (mapOf Except.ok Json.Canonical.decode) SortedMap.empty)

namespace Configuration

/-- Decode a configuration. -/
def decode : τ → Except Fault Configuration :=
  record (Configuration.mk
    <$> .required "idls" (listOf str)
    <*> .optional "operations" (listOf NamedOperation.decode) []
    <*> .optional "renderers" (listOf Outlet.decode) [])

/-- Read the text of a configuration. The label stands for it in errors. -/
def ofText (label text : String) : Except ConfigurationError Configuration :=
  (Decode.text decode text).mapError (.malformed label)

end Configuration

-- ── writing ──────────────────────────────────────────────────────────────────────

/-- The JSON form of a renderer; its settings are left out when there are none. -/
def Outlet.encode (outlet : Outlet) : Json :=
  .object ([("target", .string outlet.target), ("output", .string outlet.output),
      ("formatCode", .bool outlet.options.formatCode)]
    ++ match outlet.options.settings.entries with
      | [] => []
      | settings => [("options", .object (settings.map fun (name, setting) =>
          (name, setting.value)))])

namespace Configuration

/-- The JSON form of a configuration. -/
def encode (configuration : Configuration) : Json :=
  .object [("idls", .strings configuration.descriptions),
    ("operations", .array (configuration.operations.map NamedOperation.encode)),
    ("renderers", .array (configuration.outlets.map Outlet.encode))]

-- ── use ──────────────────────────────────────────────────────────────────────────

/-- A configuration with its paths as seen from a directory. -/
def resolve (configuration : Configuration) (base : String) : Configuration where
  descriptions := configuration.descriptions.map (FilePath.resolve base)
  operations := configuration.operations
  outlets := configuration.outlets.map fun outlet =>
    { outlet with output := FilePath.resolve base outlet.output }

/-- The renderers of a configuration as publications. Names in `only`, if there are any,
    narrow the choice, and each of them has to be configured. -/
def publications (configuration : Configuration) (only : List String) :
    Except RenderError (List Publication) :=
  match only.find? fun name => !configuration.outlets.any (·.target = name) with
  | some name => .error (.unknownTarget name)
  | none =>
    (configuration.outlets.filter fun outlet => only.isEmpty || outlet.target ∈ only).mapM
      fun outlet => do
        return ⟨← Target.ofName outlet.target, outlet.output, outlet.options⟩

end Configuration

end Bindery
