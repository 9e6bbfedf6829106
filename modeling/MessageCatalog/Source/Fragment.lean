import MessageCatalog.Source.Token

/-!
# Fragments

Program text that was produced and not read: pieces without a place. In print a blank stands between two pieces, except after a mark that is joined to what follows.
-/

namespace MessageCatalog.Source

inductive Piece where
  | leaf (text : String) (joint : Bool)
  | group (delimiter : Delimiter) (body : List Piece)
  deriving Repr

abbrev Fragment := List Piece

namespace Piece

def ofText (text : String) : Piece := leaf text false

def isJoint : Piece → Bool
  | leaf _ joint => joint
  | group _ _ => false

end Piece

/-- What is printed in front of a group's body. -/
def Delimiter.opening : Delimiter → String
  | parenthesis => "("
  | bracket => "["
  | brace => "\x7b "

/-- What is printed after a group's body. Braces have a blank inside, and an empty pair has one only. -/
def Delimiter.closing (isEmpty : Bool) : Delimiter → String
  | parenthesis => ")"
  | bracket => "]"
  | brace => if isEmpty then "\x7d" else " \x7d"

mutual

def Piece.print : Piece → String
  | .leaf text _ => text
  | .group delimiter body => delimiter.opening ++ Fragment.print body ++ delimiter.closing body.isEmpty

def Fragment.print : List Piece → String
  | [] => ""
  | [piece] => piece.print
  | piece :: next :: rest => piece.print ++ (if piece.isJoint then "" else " ") ++ Fragment.print (next :: rest)

end

mutual

/-- The piece that prints as a token was written. -/
def Token.piece : Token → Piece
  | .word text _ => .leaf text false
  | .lifetime text _ => .leaf text false
  | .mark character joint _ => .leaf (String.ofList [character]) joint
  | .literal _ text _ => .leaf text false
  | .group delimiter body _ => .group delimiter (Fragment.ofTokens body)

def Fragment.ofTokens : List Token → List Piece
  | [] => []
  | token :: rest => token.piece :: Fragment.ofTokens rest

end

namespace Fragment

def ofTexts (texts : List String) : Fragment := texts.map Piece.ofText

/-- Fragments with a mark between any two, and after the last one if it is asked for. -/
def join (mark : String) (trailing : Bool) : List Fragment → Fragment
  | [] => []
  | [fragment] => fragment ++ (if trailing then [Piece.ofText mark] else [])
  | fragment :: next :: rest => fragment ++ Piece.ofText mark :: join mark trailing (next :: rest)

end Fragment

/-- Items with a mark between any two. The last item may have a mark after it. -/
structure Separated (α : Type) where
  items : List α
  trailing : Bool := false
  deriving Repr

namespace Separated

variable {α β : Type}

def empty : Separated α := ⟨[], false⟩

def map (f : α → β) (list : Separated α) : Separated β := ⟨list.items.map f, list.trailing⟩

/-- Puts more items after those that are there. With none to put, a trailing mark stays. -/
def append (list : Separated α) (more : List α) : Separated α :=
  if more.isEmpty then list else ⟨list.items ++ more, false⟩

def withoutTrailing (list : Separated α) : Separated α := ⟨list.items, false⟩

def fragment (mark : String) (list : Separated Fragment) : Fragment := Fragment.join mark list.trailing list.items

/-- The list with the chosen items before the others. Each item keeps the comma that was after it, and where an item without one is no longer the last a comma is put in front of the next. -/
def chosenFirst (list : Separated (Bool × Fragment)) : Fragment :=
  let comma : Fragment := [Piece.ofText ","]
  let count := list.items.length
  let marked := list.items.zipIdx.map fun ((chosen, fragment), place) =>
    (chosen, fragment, place + 1 < count || list.trailing)
  let chosen := marked.filter (·.1)
  let first : Fragment × Bool :=
    (chosen.flatMap fun item => item.2.1 ++ (if item.2.2 then comma else []), (chosen.getLast?.map (·.2.2)).getD true)
  let add (written : Fragment × Bool) (item : Bool × Fragment × Bool) : Fragment × Bool :=
    (written.1 ++ (if written.2 then [] else comma) ++ item.2.1 ++ (if item.2.2 then comma else []), item.2.2)
  ((marked.filter (!·.1)).foldl add first).1

@[simp] theorem items_append (list : Separated α) (more : List α) : (list.append more).items = list.items ++ more := by
  unfold append
  split <;> simp_all

end Separated

end MessageCatalog.Source
