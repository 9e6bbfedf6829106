import MessageCatalog.Document.Basic
import MessageCatalog.Identifier.Order

/-!
# Stored identifiers

Reading identifiers from a document and writing them to one. Every string in an identifier's place is parsed again, so a stored spelling in any letter case is read, a spelling that is no identifier is refused, and what is written is canonical.

An object is read in the ascending order of its raw keys. Keys of different spellings may name one identifier: the one that is read last wins.
-/

namespace MessageCatalog

inductive Shape where
  | one
  | optional
  | list
  | map
  deriving DecidableEq, Repr

/-- Identifiers as a program holds them, in each of the shapes. -/
inductive Stored where
  | one (identifier : Identifier)
  | optional (identifier? : Option Identifier)
  | list (identifiers : List Identifier)
  /-- In ascending order of the identifiers, each of them once. -/
  | map (entries : List (Identifier × Document))

inductive ReadError where
  | unexpected (found : Document) (expected : String)
  | identifier (cause : IdentifierError)

namespace ReadError

def message : ReadError → String
  | unexpected found expected => "invalid type: " ++ found.describe ++ ", expected " ++ expected
  | identifier cause => cause.message

end ReadError

namespace Stored

/-- Binds a key in an ordered list of entries, in place of an equal key if there is one. -/
def insertEntry {α : Type} (key : Identifier) (value : α) : List (Identifier × α) → List (Identifier × α)
  | [] => [(key, value)]
  | entry :: rest =>
    if key = entry.1 then (key, value) :: rest
    else if key < entry.1 then (key, value) :: entry :: rest
    else entry :: insertEntry key value rest

def readIdentifier : Document → Except ReadError Identifier
  | .string candidate =>
    match Identifier.parse candidate with
    | .ok identifier => .ok identifier
    | .error cause => .error (.identifier cause)
  | found => .error (.unexpected found "a string")

/-- Reads identifiers in order and fails at the first bad one. -/
def readItems : List Document → Except ReadError (List Identifier)
  | [] => .ok []
  | item :: rest =>
    match readIdentifier item with
    | .error cause => .error cause
    | .ok identifier =>
      match readItems rest with
      | .error cause => .error cause
      | .ok identifiers => .ok (identifier :: identifiers)

/-- Reads entries in the order given, each on top of those before it, and fails at the first bad key. -/
def readEntries (entries : List (Identifier × Document)) :
    List (String × Document) → Except ReadError (List (Identifier × Document))
  | [] => .ok entries
  | (key, value) :: rest =>
    match Identifier.parse key with
    | .error cause => .error (.identifier cause)
    | .ok identifier => readEntries (insertEntry identifier value entries) rest

/-- Entries in the ascending order of their raw keys. -/
def byRawKey (entries : List (String × Document)) : List (String × Document) :=
  entries.mergeSort fun left right => decide (left.1 ≤ right.1)

def read : Shape → Document → Except ReadError Stored
  | .one, document =>
    match readIdentifier document with
    | .ok identifier => .ok (one identifier)
    | .error cause => .error cause
  | .optional, .null => .ok (optional none)
  | .optional, document =>
    match readIdentifier document with
    | .ok identifier => .ok (optional (some identifier))
    | .error cause => .error cause
  | .list, .sequence items =>
    match readItems items with
    | .ok identifiers => .ok (list identifiers)
    | .error cause => .error cause
  | .list, found => .error (.unexpected found "a sequence")
  | .map, .object entries =>
    match readEntries [] (byRawKey entries) with
    | .ok entries => .ok (map entries)
    | .error cause => .error cause
  | .map, found => .error (.unexpected found "a map")

def write : Stored → Document
  | one identifier => .string identifier.text
  | optional none => .null
  | optional (some identifier) => .string identifier.text
  | list identifiers => .sequence (identifiers.map fun identifier => .string identifier.text)
  | map entries => .object (entries.map fun entry => (entry.1.text, entry.2))

def roundTrip (shape : Shape) (document : Document) : Except ReadError Document :=
  match read shape document with
  | .ok stored => .ok stored.write
  | .error cause => .error cause

end Stored

end MessageCatalog
