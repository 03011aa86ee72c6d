import Compliance.Yaml.Token

/-!
The nodes of a YAML document.

`Document.ofTokens` reads tokens by the grammar of blocks and flow collections; where a node may be
left out an empty plain scalar stands for it. Anchors get numbers in the order of the text, and an
alias keeps the number of its anchor.
-/

namespace Compliance.Yaml

structure Properties where
  anchor : Option Nat
  tag : Option String
  deriving DecidableEq, Repr, Inhabited

def Properties.none : Properties := ⟨.none, .none⟩

inductive Node
  | scalar (properties : Properties) (style : Style) (text : String)
  | sequence (properties : Properties) (items : List Node)
  | mapping (properties : Properties) (entries : List (Node × Node))
  | reference (anchor : Nat)
  deriving Repr, Inhabited

namespace Node

mutual

def decEq : (a b : Node) → Decidable (a = b)
  | .scalar p style s, .scalar q style' t =>
    decidable_of_iff (p = q ∧ style = style' ∧ s = t) (by simp)
  | .reference n, .reference m => decidable_of_iff (n = m) (by simp)
  | .sequence p a, .sequence q b =>
    if hp : p = q then
      match decEqItems a b with
      | isTrue h => isTrue (by rw [hp, h])
      | isFalse h => isFalse (by simp [h])
    else isFalse (by simp [hp])
  | .mapping p a, .mapping q b =>
    if hp : p = q then
      match decEqEntries a b with
      | isTrue h => isTrue (by rw [hp, h])
      | isFalse h => isFalse (by simp [h])
    else isFalse (by simp [hp])
  | .scalar .., .sequence .. | .scalar .., .mapping .. | .scalar .., .reference _
  | .sequence .., .scalar .. | .sequence .., .mapping .. | .sequence .., .reference _
  | .mapping .., .scalar .. | .mapping .., .sequence .. | .mapping .., .reference _
  | .reference _, .scalar .. | .reference _, .sequence .. | .reference _, .mapping .. =>
    isFalse (by simp)

def decEqItems : (a b : List Node) → Decidable (a = b)
  | [], [] => isTrue rfl
  | a :: as, b :: bs =>
    match decEq a b, decEqItems as bs with
    | isTrue h, isTrue t => isTrue (by rw [h, t])
    | isFalse h, _ => isFalse (by simp [h])
    | _, isFalse t => isFalse (by simp [t])
  | [], _ :: _ | _ :: _, [] => isFalse (by simp)

def decEqEntries : (a b : List (Node × Node)) → Decidable (a = b)
  | [], [] => isTrue rfl
  | (k, a) :: as, (l, b) :: bs =>
    match decEq k l, decEq a b, decEqEntries as bs with
    | isTrue hk, isTrue h, isTrue t => isTrue (by rw [hk, h, t])
    | isFalse hk, _, _ => isFalse (by simp [hk])
    | _, isFalse h, _ => isFalse (by simp [h])
    | _, _, isFalse t => isFalse (by simp [t])
  | [], _ :: _ | _ :: _, [] => isFalse (by simp)

end

instance : DecidableEq Node := decEq

def empty : Node := scalar .none .plain ""

mutual

def anchored (node : Node) : List (Nat × Node) :=
  match node with
  | scalar properties style text => properties.anchor.toList.map (·, scalar properties style text)
  | sequence properties items =>
    properties.anchor.toList.map (·, sequence properties items) ++ itemsAnchored items
  | mapping properties entries =>
    properties.anchor.toList.map (·, mapping properties entries) ++ entriesAnchored entries
  | reference _ => []

def itemsAnchored : List Node → List (Nat × Node)
  | [] => []
  | item :: rest => anchored item ++ itemsAnchored rest

def entriesAnchored : List (Node × Node) → List (Nat × Node)
  | [] => []
  | (key, value) :: rest => anchored key ++ anchored value ++ entriesAnchored rest

end

mutual

def size : Node → Nat
  | scalar .. | reference _ => 1
  | sequence _ items => 2 + itemsSize items
  | mapping _ entries => 2 + entriesSize entries

def itemsSize : List Node → Nat
  | [] => 0
  | item :: rest => size item + itemsSize rest

def entriesSize : List (Node × Node) → Nat
  | [] => 0
  | (key, value) :: rest => size key + size value + entriesSize rest

end

structure State where
  tokens : List Token
  names : List (String × Nat)
  handles : List (String × String)

abbrev Read := StateT State (Except Fault)

def peek : Read (Option Token) := do return (← get).tokens.head?

def skip : Read Unit := modify fun s => { s with tokens := s.tokens.drop 1 }

def skipIf (token : Token) : Read Bool := do
  if (← peek) = some token then
    skip
    return true
  return false

def misplaced {α : Type} (what : String) : Read α := throw (Fault.misplaced what)

/-- A new anchor has as its number how many names are known; a name used again names the new one. -/
def nameAnchor (name : String) : Read Nat := do
  let s ← get
  let id := s.names.length
  set { s with names := (name, id) :: s.names.filter (·.1 ≠ name) }
  return id

def expandTag (handle suffix : String) : Read String := do
  if handle = "" then return suffix
  match (← get).handles.lookup handle with
  | some expansion => return expansion ++ suffix
  | none => throw (Fault.unknown "tag handle" handle)

def anchor? : Read (Option String) := do
  match ← peek with
  | some (.anchor name) =>
    skip
    return some name
  | _ => return none

def tag? : Read (Option String) := do
  match ← peek with
  | some (.tag handle suffix) =>
    skip
    return some (← expandTag handle suffix)
  | _ => return none

def properties : Read Properties := do
  let first ← anchor?
  let tag ← tag?
  let name ← match first with
    | some name => pure (some name)
    | none => if tag.isSome then anchor? else pure none
  match name with
  | some name => return ⟨some (← nameAnchor name), tag⟩
  | none => return ⟨none, tag⟩

/-- The tag of one exclamation mark says nothing about a scalar. -/
def ofScalar (properties : Properties) (style : Style) (text : String) : Node :=
  scalar (if properties.tag = some "!" then { properties with tag := none } else properties) style text

def isLeftOut (ends : List Token) : Read Bool := do
  match ← peek with
  | some token => return ends.contains token
  | none => return false

mutual

/-- A node. Blocks are read only where `block` says so, and list entries without a block of their
own only where `indentless` says so. -/
def read (block indentless : Bool) : Nat → Read Node
  | 0 => throw Fault.tooDeep
  | fuel + 1 => do
    if let some (.reference name) ← peek then
      skip
      match (← get).names.lookup name with
      | some id => return reference id
      | none => throw (Fault.unknown "anchor" name)
    let properties ← properties
    match ← peek with
    | some .blockEntry =>
      if indentless then return sequence properties (← indentlessItems fuel)
      else if properties = .none then misplaced "list entry" else return scalar properties .plain ""
    | some (.scalar style text) =>
      skip
      return ofScalar properties style text
    | some .openFlowSequence =>
      skip
      return sequence properties (← flowItems true fuel)
    | some .openFlowMapping =>
      skip
      return mapping properties (← flowEntries true fuel)
    | some .openBlockSequence =>
      if block then
        skip
        return sequence properties (← blockItems fuel)
      else if properties = .none then misplaced "block" else return scalar properties .plain ""
    | some .openBlockMapping =>
      if block then
        skip
        return mapping properties (← blockEntries fuel)
      else if properties = .none then misplaced "block" else return scalar properties .plain ""
    | _ => if properties = .none then misplaced "end of a node" else return scalar properties .plain ""

def readOr (ends : List Token) (block indentless : Bool) : Nat → Read Node
  | 0 => throw Fault.tooDeep
  | fuel + 1 => do if ← isLeftOut ends then return empty else read block indentless fuel

def blockItems : Nat → Read (List Node)
  | 0 => throw Fault.tooDeep
  | fuel + 1 => do
    if ← skipIf .blockEntry then
      let item ← readOr [.blockEntry, .closeBlock] true false fuel
      return item :: (← blockItems fuel)
    else if ← skipIf .closeBlock then return []
    else misplaced "text in a list"

def indentlessItems : Nat → Read (List Node)
  | 0 => throw Fault.tooDeep
  | fuel + 1 => do
    if ← skipIf .blockEntry then
      let item ← readOr [.blockEntry, .key, .value, .closeBlock] true false fuel
      return item :: (← indentlessItems fuel)
    else return []

def blockValue : Nat → Read Node
  | 0 => throw Fault.tooDeep
  | fuel + 1 => do
    if ← skipIf .value then readOr [.key, .value, .closeBlock] true true fuel else return empty

def blockEntries : Nat → Read (List (Node × Node))
  | 0 => throw Fault.tooDeep
  | fuel + 1 => do
    if ← skipIf .key then
      let key ← readOr [.key, .value, .closeBlock] true true fuel
      let value ← blockValue fuel
      return (key, value) :: (← blockEntries fuel)
    else if ← skipIf .closeBlock then return []
    else misplaced "text in a mapping"

def flowValue (closing : Token) : Nat → Read Node
  | 0 => throw Fault.tooDeep
  | fuel + 1 => do
    if ← skipIf .value then readOr [.flowEntry, closing] false false fuel else return empty

def pair : Nat → Read (Node × Node)
  | 0 => throw Fault.tooDeep
  | fuel + 1 => do
    let key ← if ← isLeftOut [.value, .flowEntry, .closeFlowSequence] then skip *> pure empty
      else read false false fuel
    return (key, ← flowValue .closeFlowSequence fuel)

def flowItems (first : Bool) : Nat → Read (List Node)
  | 0 => throw Fault.tooDeep
  | fuel + 1 => do
    if ← skipIf .closeFlowSequence then return []
    if !first then
      if !(← skipIf .flowEntry) then misplaced "text in a list"
      if ← skipIf .closeFlowSequence then return []
    let item ←
      if ← skipIf .key then
        let entry ← pair fuel
        pure (mapping .none [entry])
      else read false false fuel
    return item :: (← flowItems false fuel)

def flowEntries (first : Bool) : Nat → Read (List (Node × Node))
  | 0 => throw Fault.tooDeep
  | fuel + 1 => do
    if ← skipIf .closeFlowMapping then return []
    if !first then
      if !(← skipIf .flowEntry) then misplaced "text in a mapping"
      if ← skipIf .closeFlowMapping then return []
    let entry ←
      if ← skipIf .key then
        let key ← readOr [.value, .flowEntry, .closeFlowMapping] false false fuel
        pure (key, ← flowValue .closeFlowMapping fuel)
      else
        let key ← read false false fuel
        pure (key, empty)
    return entry :: (← flowEntries false fuel)

end

end Node

structure Document where
  root : Option Node
  deriving DecidableEq, Repr, Inhabited

namespace Document

def usualHandles : List (String × String) := [("!", "!"), ("!!", "tag:yaml.org,2002:")]

def directives (versioned : Bool) (handles : List (String × String)) :
    List Token → Except Fault (Bool × List (String × String) × List Token)
  | .version major minor :: rest =>
    if versioned then .error (.misplaced "second version")
    else if major ≠ 1 ∨ (minor ≠ 1 ∧ minor ≠ 2) then
      .error (.unknown "version" (toString major ++ "." ++ toString minor))
    else directives true handles rest
  | .tagHandle handle expansion :: rest =>
    if (handles.lookup handle).isSome then .error (.misplaced "second handle")
    else directives versioned ((handle, expansion) :: handles) rest
  | tokens => .ok (versioned || !handles.isEmpty, handles, tokens)

def isEmptyHere : List Token → Bool
  | [] => true
  | token :: _ => match token with
    | .version .. | .tagHandle .. | .documentStart | .documentEnd => true
    | _ => false

def ofTokens (tokens : List Token) : Except Fault Document := do
  let (directed, handles, rest) ← directives false [] tokens
  let (explicit, rest) := match rest with
    | .documentStart :: rest => (true, rest)
    | rest => (false, rest)
  if directed && !explicit then throw (.misplaced "directive")
  if !explicit && rest.isEmpty then return ⟨none⟩
  let (node, state) ←
    if explicit && isEmptyHere rest then pure (Node.empty, ⟨rest, [], []⟩)
    else Node.read true false (3 * rest.length + 3) ⟨rest, [], handles ++ usualHandles⟩
  if state.tokens.any (· ≠ .documentEnd) then throw .notOneDocument
  return ⟨some node⟩

def ofText (text : String) : Except Fault Document := do ofTokens (← Token.read text)

end Document

end Compliance.Yaml
