import TemplateCheck.Text

/-!
Values of a TOML document, and how tables grow while the document is read.

A table remembers how it came about, because that decides who may still add to it: one that was only
mentioned on the way to another may get a header of its own once, one that was made by dotted keys may
get more of them, and one in braces is complete.
-/
namespace TemplateCheck.Toml

inductive Origin where
  /-- Made by a header of its own; the document itself counts as such. -/
  | header
  /-- Mentioned in a longer header. -/
  | mentioned
  /-- Made by a dotted key. -/
  | dotted
  /-- Written in braces. -/
  | braces
  /-- Made by a dotted key inside of braces. -/
  | bracesDotted
  deriving DecidableEq, Repr

namespace Origin

def isImplicit : Origin → Bool
  | mentioned => true
  | dotted => true
  | bracesDotted => true
  | _ => false

def isDotted : Origin → Bool
  | dotted => true
  | bracesDotted => true
  | _ => false

def isInline : Origin → Bool
  | braces => true
  | bracesDotted => true
  | _ => false

end Origin

inductive Value where
  | string (text : Text)
  /-- A number, a truth value or a date. -/
  | scalar
  | array (items : List Value)
  /-- An array made by headers in double brackets, last table first. -/
  | tables (items : List Value)
  | table (origin : Origin) (entries : List (Text × Value))
  deriving Repr

abbrev Entries := List (Text × Value)

namespace Entries

def get? (entries : Entries) (key : Text) : Option Value := entries.lookup key

def put (entries : Entries) (key : Text) (value : Value) : Entries :=
  if (entries.get? key).isSome then
    entries.map fun (k, v) => if k = key then (k, value) else (k, v)
  else entries ++ [(key, value)]

def erase (entries : Entries) (key : Text) : Entries := entries.filter fun (k, _) => k ≠ key

end Entries

/-- Who walks along a path of keys: a header, a dotted key, or a dotted key inside of braces. -/
inductive Walker where
  | header
  | dotted
  | bracesDotted
  deriving DecidableEq, Repr

def Walker.origin : Walker → Origin
  | header => .mentioned
  | dotted => .dotted
  | bracesDotted => .bracesDotted

def Walker.mayPass (w : Walker) (origin : Origin) : Bool :=
  match w with
  | header => !origin.isInline
  | dotted => !origin.isInline && origin.isImplicit
  | bracesDotted => origin.isImplicit

/-- Changes the table at the end of a path of keys, with the tables on the way made as needed. -/
def change (w : Walker) (edit : Origin → Entries → Option Entries) :
    List Text → Origin → Entries → Option Entries
  | [], origin, entries => edit origin entries
  | key :: path, _, entries =>
    match entries.get? key with
    | none =>
      (change w edit path w.origin []).map fun inner => entries.put key (.table w.origin inner)
    | some (.table origin inner) =>
      if w.mayPass origin then
        (change w edit path origin inner).map fun inner => entries.put key (.table origin inner)
      else none
    | some (.tables (.table origin last :: before)) =>
      if w = .bracesDotted then none
      else (change w edit path origin last).map fun last =>
        entries.put key (.tables (.table origin last :: before))
    | some _ => none

/-- Adds a key with its value. A dotted key ends in a table of dotted keys, a plain one does not, and
no key comes twice. -/
def addEntry (plain : Bool) (key : Text) (value : Value) (origin : Origin) (entries : Entries) :
    Option Entries :=
  if origin.isDotted == plain || (entries.get? key).isSome then none
  else some (entries ++ [(key, value)])

def insertValue (w : Walker) (origin : Origin) (entries : Entries) (path : List Text) (key : Text)
    (value : Value) : Option Entries :=
  change w (addEntry path.isEmpty key value) path origin entries

end TemplateCheck.Toml
