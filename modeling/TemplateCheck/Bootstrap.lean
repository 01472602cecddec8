import TemplateCheck.Bootstrap.Config
import TemplateCheck.FailurePattern
import TemplateCheck.World

/-!
A bootstrap: settings that were found usable, with their patterns read.
-/
namespace TemplateCheck

structure Bootstrap where
  config : BootstrapConfig
  compilerPattern : FailurePattern
  linterPattern : FailurePattern
  deriving DecidableEq, Repr

namespace Bootstrap

open CheckM

/-- Why settings are unusable. -/
inductive Flaw where
  | compilerProgram
  | linterProgram
  | templateExtension
  | targetExtension
  | sameExtension
  | compilerPattern (mistake : FailurePattern.Mistake)
  | linterPattern (mistake : FailurePattern.Mistake)
  | exclude (pattern : Text) (error : Glob.Error)
  deriving DecidableEq, Repr

def Flaw.message : Flaw → Text
  | compilerProgram => "compiler.program must not be empty"
  | linterProgram => "linter.program must not be empty"
  | templateExtension => "compiler.template_extension must be a bare extension such as `latte`"
  | targetExtension => "compiler.target_extension must be a bare extension such as `php`"
  | sameExtension => "compiler.template_extension and compiler.target_extension must differ"
  | compilerPattern mistake => "compiler.error_pattern: " ++ mistake.message
  | linterPattern mistake => "linter.error_pattern: " ++ mistake.message
  | exclude pattern error => "discovery.exclude `" ++ pattern ++ "`: " ++ error.message

/-- Extensions are bare: not empty, and without dots and slashes. -/
def isBareExtension (t : Text) : Bool :=
  !t.isEmpty && t.all fun c => c != '.' && c != '/' && c != '\\'

/-- The first of the flaws that need no reading of patterns. -/
def shallowFlaw (c : BootstrapConfig) : Option Flaw :=
  if Text.isBlank c.compiler.program then some .compilerProgram
  else if Text.isBlank c.linter.program then some .linterProgram
  else if !isBareExtension c.compiler.templateExtension then some .templateExtension
  else if !isBareExtension c.compiler.targetExtension then some .targetExtension
  else if c.compiler.templateExtension = c.compiler.targetExtension then some .sameExtension
  else none

def excludeFlaw : List Text → Option Flaw
  | [] => none
  | pattern :: rest =>
    match Glob.parse pattern with
    | .ok _ => excludeFlaw rest
    | .error e => some (.exclude pattern e)

/-- Checks settings in a fixed order; the first flaw is the answer. -/
def ofConfig (c : BootstrapConfig) : Except Flaw Bootstrap :=
  match shallowFlaw c with
  | some flaw => .error flaw
  | none =>
    match FailurePattern.parse c.compiler.errorPattern with
    | .error mistake => .error (.compilerPattern mistake)
    | .ok compilerPattern =>
      match FailurePattern.parse c.linter.errorPattern with
      | .error mistake => .error (.linterPattern mistake)
      | .ok linterPattern =>
        match excludeFlaw c.discovery.exclude with
        | some flaw => .error flaw
        | none => .ok ⟨c, compilerPattern, linterPattern⟩

/-- Settings from some origin, which is named if they have a flaw. -/
def ofConfigAt (origin : Path) (c : BootstrapConfig) : Except CheckError Bootstrap :=
  match ofConfig c with
  | .ok bootstrap => .ok bootstrap
  | .error flaw => .error (.bootstrap origin flaw.message)

def load (path : Path) : Check Bootstrap := do
  match (← readDisk).readText path with
  | .error fault => fail (.io "Failed to read bootstrap file" path (.fault fault))
  | .ok text =>
    match BootstrapConfig.parse? text with
    | none => fail (.bootstrap path BootstrapConfig.refusal)
    | some config =>
      note .debug .bootstrap ("Loaded bootstrap from " ++ path.display)
      ofExcept id (ofConfigAt path config)

def resolve : Option Path → Check Bootstrap
  | some path => load path
  | none => do
    note .debug .bootstrap "No bootstrap file given, using default compiler"
    ofExcept id (ofConfigAt "<default>" {})

def templateExtension (b : Bootstrap) : Text := b.config.compiler.templateExtension

def targetExtension (b : Bootstrap) : Text := b.config.compiler.targetExtension

def exclude (b : Bootstrap) : List Text := b.config.discovery.exclude

end Bootstrap
end TemplateCheck
