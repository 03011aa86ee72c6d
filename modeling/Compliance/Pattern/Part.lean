/-!
The measures of a part of a pattern: how deep it nests and how much room its compiled form takes.

Depth counts the groups, brackets, repetitions, sequences and alternatives around the innermost
part. Room counts bytes: a step of the matcher takes 32 of them, and a repetition repeats the steps
of what it repeats.
-/

namespace Compliance.Pattern

structure Part where
  depth : Nat
  bytes : Nat
  consumes : Bool
  zeroWidth : Bool
  deriving DecidableEq, Repr, Inhabited

namespace Part

def maxDepth : Nat := 250

def maxBytes : Nat := 10 * Nat.pow 2 20

def stepBytes : Nat := 32

def choiceBytes (n : Nat) : Nat := stepBytes + 4 * n

def empty : Part := ⟨0, stepBytes, false, true⟩

def assertion : Part := ⟨0, stepBytes, false, true⟩

def literal (c : Char) : Part := ⟨0, stepBytes * c.utf8Size, true, false⟩

def charClass (depth bytes : Nat) : Part := ⟨depth, bytes, true, false⟩

def group (captured : Bool) (p : Part) : Part :=
  { p with depth := p.depth + 1, bytes := p.bytes + if captured then 2 * stepBytes else 0 }

def deepest (parts : List Part) : Nat := (parts.map (·.depth)).foldl max 0

def total (parts : List Part) : Nat := (parts.map (·.bytes)).foldl (· + ·) 0

def sequence : List Part → Part
  | [] => empty
  | [p] => p
  | parts => ⟨deepest parts + 1, total parts, parts.any (·.consumes), parts.all (·.zeroWidth)⟩

def alternatives : List Part → Part
  | [] => empty
  | [p] => p
  | parts =>
    ⟨deepest parts + 1, total parts + choiceBytes parts.length + stepBytes, parts.all (·.consumes),
      parts.all (·.zeroWidth)⟩

def repeatBytes (p : Part) (low : Nat) : Option Nat → Nat
  | some high =>
    if high = 0 then stepBytes
    else if low = high then low * p.bytes
    else low * p.bytes + (high - low) * (p.bytes + choiceBytes 2) + stepBytes
  | none => max low 1 * p.bytes + choiceBytes 2 + if p.consumes then 0 else choiceBytes 2 + stepBytes

/-- What has no width matches again where it matched, so that repeating it takes no more room. -/
def repeated (p : Part) (low : Nat) (high : Option Nat) : Part :=
  let bytes :=
    if p.zeroWidth then repeatBytes p (min low 1) (high.map (min 1)) else repeatBytes p low high
  ⟨p.depth + 1, bytes, p.consumes && low ≠ 0, p.zeroWidth || high = some 0⟩

end Part

end Compliance.Pattern
