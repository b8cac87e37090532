import FeedSieve.Pattern.Basic

/-!
# Matching

A match is searched by backtracking from a place in the text. A place is kept as the characters before it,
nearest first, and those after it. `Node.run` matches a pattern at a place and hands every way to do so, in
order of preference, to a continuation until that accepts. A repetition goes on only where the round
before it has moved, once its least count is reached; so the rounds are bounded by that count and the rest
of the text.
-/
namespace FeedSieve.Pattern

/-- A place in a text with the number of characters before it, and the texts of the groups so far, the
latest first. -/
structure Place where
  before : List Char
  position : Nat
  after : List Char
  groups : List (Nat × List Char)
  deriving DecidableEq, Repr

namespace Place

def step? (p : Place) (t : CharTest) : Option Place :=
  match p.after with
  | c :: rest => if t.passes c then some ⟨c :: p.before, p.position + 1, rest, p.groups⟩ else none
  | [] => none

/-- Some characters on, of those that are left. -/
def forward (p : Place) (n : Nat) : Place :=
  let passed := p.after.take n
  ⟨passed.reverse ++ p.before, p.position + passed.length, p.after.drop n, p.groups⟩

/-- Some characters back, if there are as many. -/
def back? (p : Place) (n : Nat) : Option Place :=
  if n ≤ p.position then
    some ⟨p.before.drop n, p.position - n, (p.before.take n).reverse ++ p.after, p.groups⟩
  else none

def group? (p : Place) (number : Nat) : Option (List Char) :=
  (p.groups.find? (·.1 == number)).map (·.2)

/-- The later place `q`, where a group is remembered whose text starts at `p`. -/
def remember (p q : Place) (number : Nat) : Place :=
  { q with groups := (number, p.after.take (q.position - p.position)) :: q.groups }

def holds (p : Place) (a : Anchor) : Bool :=
  match a with
  | .textStart => p.before == []
  | .textEnd => p.after == []
  | .lastLineEnd => p.after == [] || p.after == ['\n']
  | .lineStart => p.before == [] || p.before.head? == some '\n'
  | .lineEnd => p.after == [] || p.after.head? == some '\n'
  | .boundary outside ascii =>
    let isWord := Category.word.mem ascii
    let here := p.before.head?.any isWord != p.after.head?.any isWord
    (p.before != [] || p.after != []) && here != outside

/-- The place after a text that is the same up to case. -/
def same? (p : Place) (folding : Folding) (s : List Char) : Option Place :=
  let found := p.after.take s.length
  if found.map folding.lower = s.map folding.lower then some (p.forward s.length) else none

end Place

/-- What is done with the place a match ends at. -/
abbrev Continuation := Place → Option Place

/-- Rounds of a repetition. `count` rounds are done, `last` is the position at which the round before
began, if that round was free to end. -/
def rounds (body : Place → Continuation → Option Place) (greed : Greed) (least : Nat)
    (most : Option Nat) : (fuel count : Nat) → (last : Option Nat) → Place → Continuation → Option Place
  | 0, _, _, _, _ => none
  | fuel + 1, count, last, p, k =>
    if count < least then
      match greed with
      -- A possessive round keeps its first match, whatever comes behind.
      | .possessive =>
        (body p some).bind fun q => rounds body greed least most fuel (count + 1) last q k
      | _ => body p fun q => rounds body greed least most fuel (count + 1) last q k
    else
      let free : Bool := most.all (count < ·) && last != some p.position
      let next := fun q => rounds body greed least most fuel (count + 1) (some p.position) q k
      match greed with
      | .greedy => (if free then body p next else none) <|> k p
      | .lazy => k p <|> (if free then body p next else none)
      | .possessive =>
        match if free then body p some else none with
        | some q => next q
        | none => k p

/-- Matches a pattern at a place, and goes on with the continuation. -/
def Node.run : Node → Place → Continuation → Option Place
  | .empty, p, k => k p
  | .char t, p, k => (p.step? t).bind k
  | .anchor a, p, k => if p.holds a then k p else none
  | .seq a b, p, k => a.run p fun q => b.run q k
  | .alt a b, p, k => a.run p k <|> b.run p k
  | .repeated greed least most body, p, k =>
    rounds body.run greed least most (least + p.after.length + 2) 0 none p k
  | .group number body, p, k => body.run p fun q => k (p.remember q number)
  | .atomic body, p, k => (body.run p some).bind k
  | .ahead outside body, p, k =>
    -- Looking around moves nowhere, but the groups found on the way are remembered.
    match body.run p some with
    | some q => if outside then none else k { p with groups := q.groups }
    | none => if outside then k p else none
  | .behind outside width body, p, k =>
    match (p.back? width.least).bind fun q => body.run q some with
    | some q => if outside then none else k { p with groups := q.groups }
    | none => if outside then k p else none
  | .again number folding _, p, k =>
    match p.group? number with
    | some s => (p.same? folding s).bind k
    | none => none
  | .whether number yes no, p, k => if (p.group? number).isSome then yes.run p k else no.run p k

def Node.matchesAt (n : Node) (p : Place) : Bool := (n.run p some).isSome

/-- Whether the pattern matches at a place, given by what is before it, or after it. -/
def Node.found (n : Node) (before : List Char) (position : Nat) : List Char → Bool
  | [] => n.matchesAt ⟨before, position, [], []⟩
  | c :: rest =>
    n.matchesAt ⟨before, position, c :: rest, []⟩ || n.found (c :: before) (position + 1) rest

def Node.occursIn (n : Node) (s : String) : Bool := n.found [] 0 s.toList

end FeedSieve.Pattern
