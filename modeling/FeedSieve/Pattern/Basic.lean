import FeedSieve.Pattern.Case
import FeedSieve.Text.Class.Blank
import FeedSieve.Text.Class.Digit
import FeedSieve.Text.Class.Word

/-!
# Patterns

The syntax tree of a pattern. What a flag decides is written into the tree, so a tree means the same
wherever it stands: how letters are compared, which alphabet a class uses, what the anchors of a line are.
-/
namespace FeedSieve.Pattern

inductive Category where
  | digit | blank | word
  deriving DecidableEq, Repr

/-- Whether a character belongs to a class, of ASCII or of all scripts. -/
def Category.mem (k : Category) (ascii : Bool) (c : Char) : Bool :=
  if ascii then
    match k with
    | .digit => c.isDigit
    | .blank => c == ' ' || (9 ≤ c.toNat && c.toNat ≤ 13)
    | .word => c.isAlphanum || c == '_'
  else
    match k with
    | .digit => Text.Class.isDigit c
    | .blank => Text.Class.isBlank c
    | .word => Text.Class.isWord c

/-- A member of a set: a range of code points, or a class or what is outside of it. -/
inductive SetItem where
  | range (first last : Nat)
  | category (outside : Bool) (kind : Category) (ascii : Bool)
  deriving DecidableEq, Repr

/-- Whether a character, or for a range one that is the same up to case, is meant by the item. -/
def SetItem.mem (item : SetItem) (folding : Folding) (c : Char) : Bool :=
  match item with
  | .range first last => (folding.variants c).any fun d => first ≤ d.toNat && d.toNat ≤ last
  | .category outside kind ascii => kind.mem ascii c != outside

inductive CharTest where
  /-- Every character, or every one but the line feed. -/
  | any (lineFeed : Bool)
  | set (outside : Bool) (folding : Folding) (items : List SetItem)
  deriving DecidableEq, Repr

def CharTest.passes (t : CharTest) (c : Char) : Bool :=
  match t with
  | .any lineFeed => lineFeed || c != '\n'
  | .set outside folding items => items.any (·.mem folding c) != outside

def CharTest.code (folding : Folding) (n : Nat) : CharTest := .set false folding [.range n n]

inductive Anchor where
  | textStart
  | textEnd
  /-- At the end, or before a line feed that ends the text. -/
  | lastLineEnd
  | lineStart
  | lineEnd
  /-- Where a word begins or ends, or anywhere else. -/
  | boundary (outside ascii : Bool)
  deriving DecidableEq, Repr

/-- How a repetition goes on: as often as possible, as rarely as possible, or as often as possible without
ever going back. -/
inductive Greed where
  | greedy | lazy | possessive
  deriving DecidableEq, Repr

/-- The least and the greatest number of characters a pattern may cover. -/
structure Width where
  least : Nat
  most : Nat
  deriving DecidableEq, Repr

inductive Node where
  | empty
  | char (test : CharTest)
  | anchor (a : Anchor)
  | seq (first second : Node)
  | alt (first second : Node)
  | repeated (greed : Greed) (least : Nat) (most : Option Nat) (body : Node)
  /-- A group whose text is remembered. -/
  | group (number : Nat) (body : Node)
  /-- A group that is never gone back into. -/
  | atomic (body : Node)
  | ahead (outside : Bool) (body : Node)
  /-- What stands before, in a pattern of the given width. -/
  | behind (outside : Bool) (width : Width) (body : Node)
  /-- The text of a group once more, in a pattern of the given width. -/
  | again (number : Nat) (folding : Folding) (width : Width)
  /-- One of two patterns, depending on whether a group has a text. -/
  | whether (number : Nat) (yes no : Node)
  deriving DecidableEq, Repr, Inhabited

/-- A width that counts as unlimited. -/
def Width.limit : Nat := Nat.pow 2 64

/-- The greatest count a repetition may name, plus one. -/
def repeatLimit : Nat := 4294967295

def Width.capped (least most : Nat) : Width := ⟨min least Width.limit, min most Width.limit⟩

def Node.width : Node → Width
  | .empty => ⟨0, 0⟩
  | .char _ => ⟨1, 1⟩
  | .anchor _ => ⟨0, 0⟩
  | .seq a b => .capped (a.width.least + b.width.least) (a.width.most + b.width.most)
  | .alt a b => ⟨min a.width.least b.width.least, max a.width.most b.width.most⟩
  | .repeated _ least most body =>
    match most with
    | some n => .capped (body.width.least * least) (body.width.most * n)
    | none => .capped (body.width.least * least) (if body.width.most = 0 then 0 else Width.limit)
  | .group _ body => body.width
  | .atomic body => body.width
  | .ahead .. => ⟨0, 0⟩
  | .behind .. => ⟨0, 0⟩
  | .again _ _ width => width
  | .whether _ yes no => ⟨min yes.width.least no.width.least, max yes.width.most no.width.most⟩

end FeedSieve.Pattern
