import Compliance.Text.Lowercase
import Compliance.Text.Script

/-!
Sets of characters in a search expression.

A set is a list of members, taken as it is or as its complement. A set that folds case holds a
character if it holds one of its case variants, and the complement is taken last.
-/

namespace Compliance.Search

inductive Member
  | ranges (list : List (Nat × Nat))
  | category (code : String)
  | except (member : Member)
  deriving DecidableEq, Repr, Inhabited

structure CharSet where
  members : List Member
  negated : Bool
  foldsCase : Bool
  deriving DecidableEq, Repr, Inhabited

namespace Member

def range (first last : Nat) : Member := ranges [(first, last)]

def single (c : Char) : Member := range c.toNat c.toNat

def holds (points : List Nat) : Member → Bool
  | ranges list => points.any fun n => list.any fun r => r.1 ≤ n && n ≤ r.2
  | category code => points.any fun n =>
    let category := Text.generalCategory (Char.ofNat n)
    category ≠ .unassigned && code.isPrefixOf category.code
  | except member => !member.holds points

end Member

namespace CharSet

def ofMembers (members : List Member) (foldsCase : Bool) : CharSet := ⟨members, false, foldsCase⟩

/-- The characters that are the same as `c`, their case aside if it does not count. -/
def points (s : CharSet) (c : Char) : List Nat :=
  if s.foldsCase then Text.caseVariants c.toNat else [c.toNat]

def contains (s : CharSet) (c : Char) : Bool := s.members.any (Member.holds (s.points c)) != s.negated

def any : CharSet := ⟨[], true, false⟩

def inLine : CharSet := ⟨[.single '\n'], true, false⟩

end CharSet

/-! Named sets. All but the categories and scripts hold ASCII characters only. -/

def digits : List (Nat × Nat) := [(0x30, 0x39)]

def blanks : List (Nat × Nat) := [(0x09, 0x0A), (0x0C, 0x0D), (0x20, 0x20)]

def wordRanges : List (Nat × Nat) := [(0x30, 0x39), (0x41, 0x5A), (0x5F, 0x5F), (0x61, 0x7A)]

def isWord (c : Char) : Bool := wordRanges.any fun r => r.1 ≤ c.toNat && c.toNat ≤ r.2

def namedSets : List (String × List (Nat × Nat)) := [
  ("alnum", [(0x30, 0x39), (0x41, 0x5A), (0x61, 0x7A)]), ("alpha", [(0x41, 0x5A), (0x61, 0x7A)]),
  ("ascii", [(0x00, 0x7F)]), ("blank", [(0x09, 0x09), (0x20, 0x20)]),
  ("cntrl", [(0x00, 0x1F), (0x7F, 0x7F)]), ("digit", digits), ("graph", [(0x21, 0x7E)]),
  ("lower", [(0x61, 0x7A)]), ("print", [(0x20, 0x7E)]),
  ("punct", [(0x21, 0x2F), (0x3A, 0x40), (0x5B, 0x60), (0x7B, 0x7E)]),
  ("space", [(0x09, 0x0D), (0x20, 0x20)]), ("upper", [(0x41, 0x5A)]), ("word", wordRanges),
  ("xdigit", [(0x30, 0x39), (0x41, 0x46), (0x61, 0x66)])]

/-- A category by its code or by the first letter of its codes, a script by its name, or any
character at all. -/
def property? (name : String) : Option Member :=
  if name = "Any" then some (.range 0 0x10FFFF)
  else if name ≠ "" ∧ name ≠ "Cn" ∧ Text.Category.all.any (name.isPrefixOf ·.code)
    then some (.category name)
  else (Text.script? name).map .ranges

end Compliance.Search
