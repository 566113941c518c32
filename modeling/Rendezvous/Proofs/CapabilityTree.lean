import Rendezvous.Proofs.RegistrationHistory

/-! What an insertion does to a tree of capabilities, and what a tree that was built by insertions
looks like. A name is found again under itself alone, and its path clears every other name that lies
on it or beyond it. A tree grown from nothing has no idle branches below its root and its children in
order, so nothing is in it but what its names show: two such trees in which every name is answered
alike are the same tree. -/
namespace Rendezvous

/-- A path lies above another if it is a part of the way there. -/
def Above (path other : List (List Char)) : Prop := path <+: other ∧ path ≠ other

instance (path other : List (List Char)) : Decidable (Above path other) :=
  inferInstanceAs (Decidable (_ ∧ _))

theorem segments_eq (name : String) :
    segments name = (name.toList.splitOn '.').map String.ofList := by
  rw [segments, segmentsOf_eq_splitOn]

theorem segments_ne_nil (name : String) : segments name ≠ [] := by
  simpa [segments] using segmentsOf_ne_nil name.toList

theorem splitOn_inj {name other : String} :
    name.toList.splitOn '.' = other.toList.splitOn '.' ↔ name = other := by
  rw [← segments_inj, segments_eq, segments_eq,
    List.map_inj_right fun _ _ => String.ofList_inj.mp]

theorem segments_prefix_iff {name other : String} :
    segments name <+: segments other ↔
      name.toList.splitOn '.' <+: other.toList.splitOn '.' := by
  rw [segments_eq, segments_eq]
  exact List.prefix_map_iff_of_injective fun _ _ => String.ofList_inj.mp

/-- Of two names on one way, one is above the other unless they are the same. -/
theorem comparable_segments {name other : String} :
    Comparable (segments name) (segments other) ↔
      other = name ∨ Above (name.toList.splitOn '.') (other.toList.splitOn '.') ∨
        Above (other.toList.splitOn '.') (name.toList.splitOn '.') := by
  simp only [Comparable, segments_prefix_iff, Above, ne_eq, splitOn_inj]
  by_cases same : other = name
  · simp [same]
  · simp [same, Ne.symm same]

/-- No segment of a path has a dot. -/
def Dotless (path : List String) : Prop := ∀ segment ∈ path, '.' ∉ segment.toList

@[simp] theorem dotless_nil : Dotless [] := by simp [Dotless]

@[simp] theorem dotless_cons {segment : String} {path : List String} :
    Dotless (segment :: path) ↔ '.' ∉ segment.toList ∧ Dotless path := by simp [Dotless]

theorem dot_not_mem_segmentsOf (cs : List Char) : ∀ segment ∈ segmentsOf cs, '.' ∉ segment := by
  induction cs with
  | nil => simp [segmentsOf]
  | cons c rest ih =>
    unfold segmentsOf
    split
    · simpa using ih
    · rename_i other
      cases parts : segmentsOf rest with
      | nil => exact absurd parts (segmentsOf_ne_nil rest)
      | cons segment others =>
        rw [parts] at ih
        simp only [List.mem_cons, forall_eq_or_imp] at ih ⊢
        exact ⟨not_or.mpr ⟨Ne.symm other, ih.1⟩, ih.2⟩

theorem segments_dotless (name : String) : Dotless (segments name) := by
  intro segment member
  obtain ⟨part, inside, rfl⟩ := List.mem_map.mp member
  simpa using dot_not_mem_segmentsOf name.toList part inside

/-- Every path that could be one is the path of a name. -/
theorem exists_segments {path : List String} (dotless : Dotless path) (nonempty : path ≠ []) :
    ∃ name, segments name = path := by
  refine ⟨String.ofList (['.'].intercalate (path.map String.toList)), ?_⟩
  have parts : (['.'].intercalate (path.map String.toList)).splitOn '.' = path.map String.toList :=
    List.splitOn_intercalate '.' (by simpa [Dotless] using dotless) (by simpa using nonempty)
  rw [segments_eq, String.toList_ofList, parts]
  simp

namespace CapabilityTree

/-- What an insertion makes of the answers of a tree, whatever tree it is: the name itself is
answered by what was put there, a name above or below it by nothing, any other as before. -/
theorem insert_settles (tree : CapabilityTree) (name other : String) (capability : Capability) :
    (tree.insert name capability).lookup other =
      if other = name then some capability
      else if Above (name.toList.splitOn '.') (other.toList.splitOn '.') ∨
          Above (other.toList.splitOn '.') (name.toList.splitOn '.') then none
      else tree.lookup other := by
  rw [lookup_insert]
  simp only [comparable_segments]
  by_cases same : other = name
  · simp [same]
  · simp [same, Ne.symm same]

/-- A name above one that is known to a tree, and one that only looks so. -/
example :
    let tree := empty.insert "a.b" (.module "one")
    (tree.insert "a" (.module "two")).lookup "a.b" = none ∧
    (tree.insert "a." (.module "two")).lookup "a.b" = some (.module "one") := by
  decide +kernel

end CapabilityTree

/-- The segments under which there are children, in their order. -/
def Children.segments : Children → List String
  | .nil => []
  | .cons segment _ rest => segment :: rest.segments

mutual

/-- A node that something stands at or below: a leaf, or a branch with a child. -/
inductive Grown : CapabilityTree → Prop
  | leaf (capability : Capability) : Grown (.leaf capability)
  | branch {children : Children} (ordered : Ordered children) (inhabited : children ≠ .nil) :
      Grown (.branch children)

/-- Children that are all grown, under segments without dots, each under a greater one than those
before it. -/
inductive Ordered : Children → Prop
  | nil : Ordered .nil
  | cons {segment : String} {tree : CapabilityTree} {rest : Children}
      (dotless : '.' ∉ segment.toList) (grown : Grown tree)
      (least : ∀ later ∈ rest.segments, segment < later) (others : Ordered rest) :
      Ordered (.cons segment tree rest)

end

namespace Children

theorem get?_eq_none {children : Children} {segment : String}
    (absent : segment ∉ children.segments) : children.get? segment = none := by
  induction children using Children.rec (motive_1 := fun _ => True) with
  | leaf | branch => trivial
  | nil => rfl
  | cons key tree rest _ ih =>
    simp only [segments, List.mem_cons, not_or] at absent
    simp [get?, Ne.symm absent.1, ih absent.2]

theorem set_ne_nil (segment : String) (child : CapabilityTree) (children : Children) :
    children.set segment child ≠ .nil := by
  cases children with
  | nil => simp [set]
  | cons key tree rest =>
    unfold set
    split
    · simp
    · split <;> simp

theorem mem_segments_set {segment key : String} {child : CapabilityTree} {children : Children}
    (member : key ∈ (children.set segment child).segments) :
    key = segment ∨ key ∈ children.segments := by
  induction children using Children.rec (motive_1 := fun _ => True) with
  | leaf | branch => trivial
  | nil => simpa [set, segments] using member
  | cons first tree rest _ ih =>
    unfold set at member
    split at member
    · rcases List.mem_cons.mp member with same | member
      · exact .inl same
      · exact .inr (List.mem_cons_of_mem _ member)
    · split at member
      · simpa [segments] using member
      · simp only [segments, List.mem_cons] at member ⊢
        rcases member with same | member
        · exact .inr (.inl same)
        · exact (ih member).imp_right .inr

end Children

namespace Ordered

theorem get? {segment : String} {tree : CapabilityTree} {children : Children}
    (ordered : Ordered children) (found : children.get? segment = some tree) : Grown tree := by
  induction children using Children.rec (motive_1 := fun _ => True) with
  | leaf | branch => trivial
  | nil => simp [Children.get?] at found
  | cons key child rest _ ih =>
    cases ordered with
    | cons _ grown _ others =>
      unfold Children.get? at found
      split at found
      · rwa [← Option.some.inj found]
      · exact ih others found

theorem set {segment : String} {child : CapabilityTree} {children : Children}
    (ordered : Ordered children) (dotless : '.' ∉ segment.toList) (grown : Grown child) :
    Ordered (children.set segment child) := by
  induction children using Children.rec (motive_1 := fun _ => True) with
  | leaf | branch => trivial
  | nil => exact .cons dotless grown (by simp [Children.segments]) .nil
  | cons key tree rest _ ih =>
    cases ordered with
    | cons clean first least others =>
      unfold Children.set
      split
      · rename_i same
        exact .cons dotless grown (same ▸ least) others
      · split
        · rename_i _ before
          refine .cons dotless grown ?_ (.cons clean first least others)
          intro later member
          rcases List.mem_cons.mp member with rfl | member
          · exact before
          · exact String.lt_trans before (least later member)
        · rename_i different behind
          refine .cons clean first ?_ (ih others)
          intro later member
          rcases Children.mem_segments_set member with rfl | member
          · rcases Std.lt_trichotomy key later with below | same | above
            · exact below
            · exact absurd same different
            · exact absurd above behind
          · exact least later member

end Ordered

namespace CapabilityTree

theorem lookupAt_branch_cons {segment first : String} {path : List String} {tree : CapabilityTree}
    {rest : Children} :
    (branch (.cons first tree rest)).lookupAt (segment :: path) =
      if first = segment then tree.lookupAt path
      else (branch rest).lookupAt (segment :: path) := by
  simp only [lookupAt_cons, children, Children.get?]
  split <;> rfl

theorem lookupAt_branch_absent {segment : String} {children : Children}
    (absent : segment ∉ children.segments) (path : List String) :
    (branch children).lookupAt (segment :: path) = none := by
  simp [lookupAt_cons, CapabilityTree.children, Children.get?_eq_none absent]

/-- No path goes on below a leaf. -/
theorem lookupAt_no_further {path other : List String} {tree : CapabilityTree}
    (found : tree.lookupAt path ≠ none) (beyond : tree.lookupAt other ≠ none)
    (before : path <+: other) : path = other := by
  induction path generalizing tree other with
  | nil =>
    cases tree with
    | branch children => exact absurd rfl found
    | leaf capability =>
      cases other with
      | nil => rfl
      | cons segment rest => exact absurd rfl beyond
  | cons segment path ih =>
    obtain ⟨rest, rfl, onward⟩ := List.cons_prefix_iff.mp before
    rw [lookupAt_cons] at found beyond
    rw [ih found beyond onward]

end CapabilityTree

namespace Grown

open CapabilityTree

theorem children {tree : CapabilityTree} (grown : Grown tree) : Ordered tree.children := by
  cases grown with
  | leaf => exact .nil
  | branch ordered => exact ordered

/-- An insertion leaves no idle branch on its way. -/
theorem insertAt (capability : Capability) {path : List String} (dotless : Dotless path)
    {tree : CapabilityTree} (ordered : Ordered tree.children) :
    Grown (tree.insertAt capability path) := by
  induction path generalizing tree with
  | nil => exact .leaf capability
  | cons segment path ih =>
    obtain ⟨clean, dotless⟩ := dotless_cons.mp dotless
    refine .branch (ordered.set clean (ih dotless ?_)) (Children.set_ne_nil _ _ _)
    cases found : tree.children.get? segment with
    | none => exact .nil
    | some child => exact (ordered.get? found).children

/-- Some name leads to a leaf at or below every grown node. -/
theorem reaches {tree : CapabilityTree} (grown : Grown tree) :
    ∃ path, Dotless path ∧ tree.lookupAt path ≠ none := by
  induction tree using CapabilityTree.rec (motive_2 := fun children => Ordered children →
    children ≠ .nil → ∃ path, Dotless path ∧
      (CapabilityTree.branch children).lookupAt path ≠ none) with
  | leaf capability => exact ⟨[], by simp, by simp [lookupAt]⟩
  | branch children ih =>
    cases grown with
    | branch ordered inhabited => exact ih ordered inhabited
  | nil _ inhabited => exact absurd rfl inhabited
  | cons key child rest ih _ ordered _ =>
    cases ordered with
    | cons dotless grown =>
      obtain ⟨path, clean, found⟩ := ih grown
      exact ⟨key :: path, by simp [dotless, clean], by simpa [lookupAt_branch_cons] using found⟩

end Grown

section Agreement

open CapabilityTree

/-- Two nodes that answer alike at every path without dots. -/
def Agree (tree other : CapabilityTree) : Prop :=
  ∀ path, Dotless path → tree.lookupAt path = other.lookupAt path

variable {segment first : String} {tree other : CapabilityTree} {rest others : Children}

theorem Agree.symm (agree : Agree tree other) : Agree other tree :=
  fun path dotless => (agree path dotless).symm

/-- A child is missed if the other branch has none under its segment. -/
theorem Agree.present (agree : Agree (.branch (.cons segment tree rest)) (.branch others))
    (dotless : '.' ∉ segment.toList) (grown : Grown tree) : segment ∈ others.segments := by
  obtain ⟨path, clean, found⟩ := grown.reaches
  by_contra absent
  have same := agree (segment :: path) (by simp [dotless, clean])
  rw [lookupAt_branch_absent absent, lookupAt_branch_cons, if_pos rfl] at same
  exact found same

theorem Agree.child
    (agree : Agree (.branch (.cons segment tree rest)) (.branch (.cons segment other others)))
    (dotless : '.' ∉ segment.toList) : Agree tree other := by
  intro path clean
  simpa [lookupAt_branch_cons] using agree (segment :: path) (by simp [dotless, clean])

theorem Agree.behind
    (agree : Agree (.branch (.cons segment tree rest)) (.branch (.cons segment other others)))
    (least : ∀ later ∈ rest.segments, segment < later)
    (lesser : ∀ later ∈ others.segments, segment < later) :
    Agree (.branch rest) (.branch others) := by
  have fresh {children : Children} (least : ∀ later ∈ children.segments, segment < later) :
      segment ∉ children.segments := fun member => String.lt_irrefl _ (least segment member)
  intro path clean
  cases path with
  | nil => rfl
  | cons key path =>
    by_cases same : segment = key
    · subst same
      rw [lookupAt_branch_absent (fresh least), lookupAt_branch_absent (fresh lesser)]
    · simpa [lookupAt_branch_cons, same] using agree (key :: path) clean

/-- Of two lists of segments that each have the other's first one, both begin with the same. -/
theorem first_eq (least : ∀ later ∈ rest.segments, segment < later)
    (lesser : ∀ later ∈ others.segments, first < later)
    (one : segment ∈ (Children.cons first other others).segments)
    (two : first ∈ (Children.cons segment tree rest).segments) : segment = first := by
  rcases List.mem_cons.mp one with same | after
  · exact same
  · rcases List.mem_cons.mp two with same | before
    · exact same.symm
    · exact absurd (least first before) (String.lt_asymm (lesser segment after))

mutual

/-- Grown nodes are told apart by their answers. -/
theorem Grown.ext : {tree other : CapabilityTree} → Grown tree → Grown other →
    Agree tree other → tree = other
  | .leaf capability, .leaf another, _, _, agree => by
    simpa [lookupAt] using agree [] (by simp)
  | .leaf capability, .branch children, _, _, agree => by
    simpa [lookupAt] using agree [] (by simp)
  | .branch children, .leaf capability, _, _, agree => by
    simpa [lookupAt] using agree [] (by simp)
  | .branch children, .branch others, .branch ordered _, .branch also _, agree => by
    rw [ordered.ext also agree]

theorem Ordered.ext : {children others : Children} → Ordered children → Ordered others →
    Agree (.branch children) (.branch others) → children = others
  | .nil, .nil, _, _, _ => rfl
  | .nil, .cons segment tree rest, _, .cons dotless grown _ _, agree => by
    simpa [Children.segments] using agree.symm.present dotless grown
  | .cons segment tree rest, .nil, .cons dotless grown _ _, _, agree => by
    simpa [Children.segments] using agree.present dotless grown
  | .cons segment tree rest, .cons first other others, .cons dotless grown least ordered,
      .cons clean also lesser following, agree => by
    obtain rfl := first_eq least lesser (agree.present dotless grown)
      (agree.symm.present clean also)
    rw [grown.ext also (agree.child dotless), ordered.ext following (agree.behind least lesser)]

end

end Agreement

namespace CapabilityTree

/-- The form that insertions keep: a branch at the root, and below it only grown nodes. -/
inductive Canonical : CapabilityTree → Prop
  | root {children : Children} (ordered : Ordered children) : Canonical (.branch children)

theorem Canonical.insert {tree : CapabilityTree} (canonical : tree.Canonical) (name : String)
    (capability : Capability) : (tree.insert name capability).Canonical := by
  have ordered : Ordered tree.children := by
    obtain ⟨ordered⟩ := canonical
    exact ordered
  have grown := Grown.insertAt capability (segments_dotless name) ordered
  unfold CapabilityTree.insert
  cases path : segments name with
  | nil => exact absurd path (segments_ne_nil name)
  | cons segment path =>
    rw [path] at grown
    exact .root grown.children

/-- What a name is answered is all there is to a canonical tree. -/
theorem Canonical.ext {tree other : CapabilityTree} (canonical : tree.Canonical)
    (also : other.Canonical) (same : ∀ name, tree.lookup name = other.lookup name) :
    tree = other := by
  obtain ⟨ordered⟩ := canonical
  obtain ⟨following⟩ := also
  rw [ordered.ext following]
  intro path dotless
  cases path with
  | nil => rfl
  | cons segment path =>
    obtain ⟨name, named⟩ := exists_segments dotless (by simp)
    simpa only [lookup, named] using same name

/-- The tree that grows from nothing by insertions, one after the other. -/
def ofInserts (inserts : List (String × Capability)) : CapabilityTree :=
  inserts.foldl (fun tree entry => tree.insert entry.1 entry.2) .empty

theorem ofInserts_canonical (inserts : List (String × Capability)) :
    (ofInserts inserts).Canonical := by
  induction inserts using List.reverseRecOn with
  | nil => exact .root .nil
  | append_singleton earlier entry ih =>
    rw [ofInserts, List.foldl_append]
    exact ih.insert entry.1 entry.2

/-- A tree that insertions have built is a branch with only grown nodes below. The names it knows do
not lead beyond one another, and another such tree that answers every name alike is the same. -/
theorem built_tree_canonical (inserts : List (String × Capability)) :
    let tree := ofInserts inserts
    tree.Canonical ∧
    (∀ name other, tree.lookup name ≠ none → tree.lookup other ≠ none →
      name.toList.splitOn '.' <+: other.toList.splitOn '.' → name = other) ∧
    ∀ others, (∀ name, tree.lookup name = (ofInserts others).lookup name) →
      tree = ofInserts others := by
  intro tree
  refine ⟨ofInserts_canonical inserts, ?_, ?_⟩
  · intro name other known beyond before
    exact segments_inj.mp (lookupAt_no_further known beyond (segments_prefix_iff.mpr before))
  · intro others same
    exact (ofInserts_canonical inserts).ext (ofInserts_canonical others) same

/-- A name that is put below another takes its place, and leaves nothing of it behind. -/
example : ofInserts [("a", .module "one"), ("a.b", .module "two")] =
    ofInserts [("a.b.c", .module "three"), ("a.b", .module "two")] := by rfl

end CapabilityTree

end Rendezvous
