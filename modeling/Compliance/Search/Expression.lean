import Compliance.Search.CharSet

/-!
Search expressions, and where in a text they match.

A place is a position between two characters. From a set of places where a match may begin, `ends`
gives the places where it may end; sets of places are numbers whose bits are the places. A text has
a match if one begins anywhere in it.
-/

namespace Compliance.Search

inductive Assertion
  | textStart | textEnd | lineStart | lineEnd | wordBoundary | noWordBoundary
  deriving DecidableEq, Repr, Inhabited

inductive Expression
  | empty
  | chars (set : CharSet)
  | assertion (a : Assertion)
  | sequence (a b : Expression)
  | either (a b : Expression)
  | times (a : Expression) (least : Nat) (most : Option Nat)
  deriving DecidableEq, Repr, Inhabited

namespace Assertion

def holds (before after : Option Char) : Assertion → Bool
  | textStart => before.isNone
  | textEnd => after.isNone
  | lineStart => before.all (· = '\n')
  | lineEnd => after.all (· = '\n')
  | wordBoundary => before.any isWord != after.any isWord
  | noWordBoundary => before.any isWord == after.any isWord

def placesFrom (a : Assertion) (before : Option Char) : List Char → Nat
  | [] => (a.holds before none).toNat
  | c :: rest => (a.holds before (some c)).toNat + 2 * placesFrom a (some c) rest

def places (a : Assertion) (text : List Char) : Nat := a.placesFrom none text

end Assertion

def CharSet.places (s : CharSet) : List Char → Nat
  | [] => 0
  | c :: rest => (s.contains c).toNat + 2 * places s rest

def iterate (f : Nat → Nat) : Nat → Nat → Nat
  | 0, places => places
  | n + 1, places => iterate f n (f places)

namespace Expression

/-- The places where a match may end that begins at one of the places. Going on once for every place
of the text reaches all that any number of times reaches. -/
def ends (text : List Char) : Expression → Nat → Nat
  | empty, places => places
  | chars set, places => (places &&& set.places text) <<< 1
  | assertion a, places => places &&& a.places text
  | sequence a b, places => b.ends text (a.ends text places)
  | either a b, places => a.ends text places ||| b.ends text places
  | times a least most, places =>
    let more (places : Nat) : Nat := places ||| a.ends text places
    let extra := match most with
      | some most => min (most - least) (text.length + 1)
      | none => text.length + 1
    iterate more extra (iterate (a.ends text) least places)

def allPlaces (text : List Char) : Nat := Nat.pow 2 (text.length + 1) - 1

def matchesText (e : Expression) (text : String) : Bool :=
  e.ends text.toList (allPlaces text.toList) != 0

def maxTimes : Nat := 1000

def roomLeft (room : Nat) : Expression → Nat
  | sequence a b | either a b => min (a.roomLeft room) (b.roomLeft room)
  | times a least most =>
    let bound := most.getD least
    a.roomLeft (if 1 < bound then room / bound else room)
  | _ => room

def fits (e : Expression) : Bool := e.roomLeft maxTimes ≠ 0

end Expression

end Compliance.Search
