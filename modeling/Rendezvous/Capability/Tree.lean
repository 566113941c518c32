import Rendezvous.Capability

/-! Capabilities in a tree of dotted names. A name is the list of its segments; inserting
puts a leaf at the end of that path and clears whatever stood in its way, above or below.
Children are kept in code point order, so equal contents are equal trees. -/
namespace Rendezvous

/-- Segments of a dotted name: the text between the dots, always at least one. -/
def segmentsOf : List Char → List (List Char)
  | [] => [[]]
  | c :: rest =>
    if c = '.' then [] :: segmentsOf rest
    else match segmentsOf rest with
      | [] => [[c]]
      | segment :: others => (c :: segment) :: others

def segments (name : String) : List String := (segmentsOf name.toList).map String.ofList

theorem segmentsOf_ne_nil (cs : List Char) : segmentsOf cs ≠ [] := by
  cases cs with
  | nil => simp [segmentsOf]
  | cons c rest =>
    unfold segmentsOf
    split
    · simp
    · split <;> simp

mutual

inductive CapabilityTree where
  | leaf (capability : Capability)
  | branch (children : Children)

/-- The children of a branch, ascending by segment. -/
inductive Children where
  | nil
  | cons (segment : String) (tree : CapabilityTree) (rest : Children)

end

namespace Children

def get? (segment : String) : Children → Option CapabilityTree
  | .nil => none
  | .cons key tree rest => if key = segment then some tree else rest.get? segment

/-- Puts a child in its place, over an older one of the same segment. -/
def set (segment : String) (child : CapabilityTree) : Children → Children
  | .nil => .cons segment child .nil
  | .cons key tree rest =>
    if key = segment then .cons segment child rest
    else if segment < key then .cons segment child (.cons key tree rest)
    else .cons key tree (rest.set segment child)

@[simp] theorem get?_set_same (segment : String) (child : CapabilityTree) (children : Children) :
    (children.set segment child).get? segment = some child := by
  induction children using Children.rec (motive_1 := fun _ => True) with
  | leaf | branch => trivial
  | nil => simp [set, get?]
  | cons key tree rest _ ih =>
    unfold set
    split
    · simp [get?]
    · split
      · simp [get?]
      · simp [get?, *]

@[simp] theorem get?_set_other {segment other : String} (h : other ≠ segment)
    (child : CapabilityTree) (children : Children) :
    (children.set segment child).get? other = children.get? other := by
  induction children using Children.rec (motive_1 := fun _ => True) with
  | leaf | branch => trivial
  | nil => simp [set, get?, Ne.symm h]
  | cons key tree rest _ ih =>
    unfold set
    split
    · simp_all [get?, Ne.symm h]
    · split <;> simp [get?, Ne.symm h, ih]

end Children

namespace CapabilityTree

def empty : CapabilityTree := .branch .nil

/-- The children of a branch; a leaf has none. -/
def children : CapabilityTree → Children
  | .leaf _ => .nil
  | .branch children => children

def insertAt (capability : Capability) : List String → CapabilityTree → CapabilityTree
  | [], _ => .leaf capability
  | segment :: path, tree =>
    .branch (tree.children.set segment
      (insertAt capability path ((tree.children.get? segment).getD empty)))

def lookupAt : List String → CapabilityTree → Option Capability
  | [], .leaf capability => some capability
  | [], .branch _ => none
  | _ :: _, .leaf _ => none
  | segment :: path, .branch children =>
    match children.get? segment with
    | none => none
    | some child => child.lookupAt path

def insert (tree : CapabilityTree) (name : String) (capability : Capability) : CapabilityTree :=
  tree.insertAt capability (segments name)

def lookup (tree : CapabilityTree) (name : String) : Option Capability :=
  tree.lookupAt (segments name)

@[simp] theorem lookupAt_insertAt (capability : Capability) (path : List String)
    (tree : CapabilityTree) : (tree.insertAt capability path).lookupAt path = some capability := by
  induction path generalizing tree with
  | nil => rfl
  | cons segment path ih => simp [insertAt, lookupAt, ih]

mutual

/-- Every leaf with its path, depth first; a branch without children stands for itself. -/
def entries : CapabilityTree → List (List String × Option Capability)
  | .leaf capability => [([], some capability)]
  | .branch .nil => [([], none)]
  | .branch (.cons segment tree rest) => entriesBelow (.cons segment tree rest)

def entriesBelow : Children → List (List String × Option Capability)
  | .nil => []
  | .cons segment tree rest =>
    (tree.entries.map fun entry => (segment :: entry.1, entry.2)) ++ entriesBelow rest

end

mutual

def debugText : CapabilityTree → String
  | .leaf capability => "Leaf(" ++ capability.debugText ++ ")"
  | .branch children => "Branch(\x7b" ++ childrenText children ++ "\x7d)"

def childrenText : Children → String
  | .nil => ""
  | .cons segment tree .nil => Text.Quoted.quote segment ++ ": " ++ tree.debugText
  | .cons segment tree (.cons next sibling rest) =>
    Text.Quoted.quote segment ++ ": " ++ tree.debugText ++ ", " ++
      childrenText (.cons next sibling rest)

end
end CapabilityTree
end Rendezvous
