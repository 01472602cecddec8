import TemplateCheck.Toml.Reader

/-!
The settings of a bootstrap document: which programs compile and lint, and which files are left out.
-/
namespace TemplateCheck

structure CompilerConfig where
  program : Text := "latte-compile"
  args : List Text := ["\x7bfile\x7d".toList]
  templateExtension : Text := "latte"
  targetExtension : Text := "php"
  errorPattern : Text := "(?P<message>.+) in (?P<file>.+?) on line (?P<line>\\d+)"
  deriving DecidableEq, Repr

structure LinterConfig where
  program : Text := "php"
  args : List Text :=
    ["-l".toList, "-d".toList, "display_errors=1".toList, "\x7bfile\x7d".toList]
  errorPattern : Text :=
    "(?:Parse|Fatal) error:\\s*(?P<message>.+) in .+ on line (?P<line>\\d+)"
  deriving DecidableEq, Repr

structure DiscoveryConfig where
  exclude : List Text := []
  deriving DecidableEq, Repr

structure BootstrapConfig where
  compiler : CompilerConfig := {}
  linter : LinterConfig := {}
  discovery : DiscoveryConfig := {}
  deriving DecidableEq, Repr

namespace BootstrapConfig

open Toml (Value Entries)

def string? : Value → Option Text
  | .string text => some text
  | _ => none

def strings? : Value → Option (List Text)
  | .array items => items.mapM string?
  | _ => none

/-- The fields of a section in the order of their names. A table may hold no other names. An array
gives the fields by position, and what it has too many is ignored. -/
def fields? (names : List Text) : Value → Option (List (Option Value))
  | .table _ entries =>
    if entries.all fun (key, _) => names.contains key then some (names.map (Entries.get? entries)) else none
  | .array items => some ((List.range names.length).map fun i => items[i]?)
  | .tables items => some ((List.range names.length).map fun i => items.reverse[i]?)
  | _ => none

def fieldOr {α : Type} (read : Value → Option α) (default : α) : Option Value → Option α
  | none => some default
  | some value => read value

def compiler? (value : Value) : Option CompilerConfig :=
  let names : List Text :=
    ["program".toList, "args".toList, "template_extension".toList, "target_extension".toList,
      "error_pattern".toList]
  let base : CompilerConfig := {}
  match fields? names value with
  | some [program, args, templateExtension, targetExtension, errorPattern] => do
    return {
      program := ← fieldOr string? base.program program
      args := ← fieldOr strings? base.args args
      templateExtension := ← fieldOr string? base.templateExtension templateExtension
      targetExtension := ← fieldOr string? base.targetExtension targetExtension
      errorPattern := ← fieldOr string? base.errorPattern errorPattern }
  | _ => none

def linter? (value : Value) : Option LinterConfig :=
  let base : LinterConfig := {}
  match fields? ["program".toList, "args".toList, "error_pattern".toList] value with
  | some [program, args, errorPattern] => do
    return {
      program := ← fieldOr string? base.program program
      args := ← fieldOr strings? base.args args
      errorPattern := ← fieldOr string? base.errorPattern errorPattern }
  | _ => none

def discovery? (value : Value) : Option DiscoveryConfig :=
  match fields? ["exclude".toList] value with
  | some [exclude] => do return { exclude := ← fieldOr strings? [] exclude }
  | _ => none

def ofEntries? (entries : Entries) : Option BootstrapConfig :=
  match fields? ["compiler".toList, "linter".toList, "discovery".toList] (.table .header entries) with
  | some [compiler, linter, discovery] => do
    return {
      compiler := ← fieldOr compiler? {} compiler
      linter := ← fieldOr linter? {} linter
      discovery := ← fieldOr discovery? {} discovery }
  | _ => none

/-- Reads a document; one that is broken or sets anything unknown is refused. -/
def parse? (t : Text) : Option BootstrapConfig := (Toml.read? t).bind ofEntries?

def refusal : Text := "Failed to parse: TOML parse error"

end BootstrapConfig
end TemplateCheck
