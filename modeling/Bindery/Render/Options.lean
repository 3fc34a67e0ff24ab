import Bindery.Json.Canonical
import Bindery.Render.Error
import Bindery.SortedMap

/-!
# Renderer options

The settings of one target, by name. A renderer checks that it knows every setting
before it looks at any.

* **`RenderOptions.checkKnown`** — refuses the first unknown name in order.
* **`RenderOptions.text?`**, **`RenderOptions.texts`** — a setting by its form; null
  counts as not set.
-/

namespace Bindery

/-- Whether output is formatted, and the settings of the renderer. -/
structure RenderOptions where
  formatCode : Bool
  settings : SortedMap String Json.Canonical

namespace RenderOptions

/-- The value of a setting. -/
def value? (options : RenderOptions) (key : String) : Option Json :=
  (options.settings.get? key).map (·.value)

/-- Refuse the first setting, in order of names, that the renderer does not know. -/
def checkKnown (options : RenderOptions) (known : List String) : Except RenderError Unit :=
  match options.settings.keys.find? (· ∉ known) with
  | none => .ok ()
  | some key => .error (.invalidOption key (.unknown known))

/-- A setting that is a text. -/
def text? (options : RenderOptions) (key : String) : Except RenderError (Option String) :=
  match options.value? key with
  | none | some .null => .ok none
  | some (.string value) => .ok (some value)
  | some _ => .error (.invalidOption key .notAString)

/-- A setting that is a list of texts. -/
def texts (options : RenderOptions) (key : String) : Except RenderError (List String) :=
  let fault := RenderError.invalidOption key .notAListOfStrings
  match options.value? key with
  | none | some .null => .ok []
  | some (.array items) => items.mapM fun
    | .string value => .ok value
    | _ => .error fault
  | some _ => .error fault

end RenderOptions

end Bindery
