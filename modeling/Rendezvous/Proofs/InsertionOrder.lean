import Rendezvous.Proofs.CapabilityTree

/-! Insertions one after the other, into any tree at all. Two that part on their ways can be made in
either order, also where both have to clear the same leaf or to grow the same branch. One that ends
on the way of the one before, or where that one ended, leaves nothing of it. -/
namespace Rendezvous

namespace Children

variable {segment other key : String} {tree child sibling : CapabilityTree} {rest : Children}

theorem set_cons_same : (cons key tree rest).set key child = cons key child rest := by
  simp [set]

theorem set_cons_before (before : segment < key) :
    (cons key tree rest).set segment child = cons segment child (cons key tree rest) := by
  have apart : key ≠ segment := fun same => String.lt_irrefl _ (same ▸ before)
  simp [set, apart, before]

theorem set_cons_behind (behind : key < segment) :
    (cons key tree rest).set segment child = cons key tree (rest.set segment child) := by
  have apart : key ≠ segment := fun same => String.lt_irrefl _ (same ▸ behind)
  simp [set, apart, String.lt_asymm behind]

/-- The later of two children under one segment is the one that stays. -/
theorem set_set (segment : String) (first second : CapabilityTree) (children : Children) :
    (children.set segment first).set segment second = children.set segment second := by
  induction children using Children.rec (motive_1 := fun _ => True) with
  | leaf | branch => trivial
  | nil => simp [set]
  | cons key tree rest _ ih =>
    rcases Std.lt_trichotomy key segment with behind | same | before
    · rw [set_cons_behind behind, set_cons_behind behind, set_cons_behind behind, ih]
    · subst same
      rw [set_cons_same, set_cons_same, set_cons_same]
    · rw [set_cons_before before, set_cons_before before, set_cons_same]

/-- The places of two children do not depend on which of them came first, even among children that
are in no order. -/
theorem set_comm (apart : segment ≠ other) (child sibling : CapabilityTree)
    (children : Children) :
    (children.set segment child).set other sibling =
      (children.set other sibling).set segment child := by
  wlog less : segment < other generalizing segment other child sibling
  · rcases Std.lt_trichotomy segment other with before | same | behind
    · exact absurd before less
    · exact absurd same apart
    · exact (this apart.symm sibling child behind).symm
  induction children using Children.rec (motive_1 := fun _ => True) with
  | leaf | branch => trivial
  | nil =>
    change (cons segment child nil).set other sibling = (cons other sibling nil).set segment child
    rw [set_cons_behind less, set_cons_before less]
    rfl
  | cons key tree rest _ ih =>
    rcases Std.lt_trichotomy key segment with behind | same | before
    · have further := String.lt_trans behind less
      rw [set_cons_behind behind, set_cons_behind further, set_cons_behind further,
        set_cons_behind behind, ih]
    · subst same
      rw [set_cons_same, set_cons_behind less, set_cons_behind less, set_cons_same]
    · rw [set_cons_before before, set_cons_behind less]
      -- Whatever stands first after the other child was put in, this one goes before it.
      rcases Std.lt_trichotomy key other with behind | same | ahead
      · rw [set_cons_behind behind, set_cons_before before]
      · subst same
        rw [set_cons_same, set_cons_before before]
      · rw [set_cons_before ahead, set_cons_before less]

end Children

namespace CapabilityTree

theorem insertAt_comm {path other : List String} (apart : ¬ Comparable path other)
    (capability another : Capability) (tree : CapabilityTree) :
    (tree.insertAt capability path).insertAt another other =
      (tree.insertAt another other).insertAt capability path := by
  induction path generalizing other tree with
  | nil => exact absurd (comparable_nil_left other) apart
  | cons segment path ih =>
    cases other with
    | nil => exact absurd (comparable_nil_right _) apart
    | cons first rest =>
      simp only [insertAt, children]
      by_cases same : segment = first
      · subst same
        have onward : ¬ Comparable path rest := fun meet => apart (by simp [meet])
        simp only [Children.get?_set_same, Option.getD_some, Children.set_set, ih onward]
      · rw [Children.get?_set_other (Ne.symm same), Children.get?_set_other same,
          Children.set_comm same]

theorem insertAt_insertAt {path other : List String} (onTheWay : other <+: path)
    (capability another : Capability) (tree : CapabilityTree) :
    (tree.insertAt capability path).insertAt another other = tree.insertAt another other := by
  induction other generalizing path tree with
  | nil => rfl
  | cons segment other ih =>
    obtain ⟨rest, rfl, onward⟩ := List.cons_prefix_iff.mp onTheWay
    simp only [insertAt, children, Children.get?_set_same, Option.getD_some, Children.set_set,
      ih onward]

/-- Of two insertions one after the other, whatever the tree: if neither name is on the way to the
other, they may change places; if the second name is on the way to the first, or is the same, the
first insertion might as well not have been made. -/
theorem inserts_commute_or_absorb (tree : CapabilityTree) (name other : String)
    (capability another : Capability) :
    (¬ name.toList.splitOn '.' <+: other.toList.splitOn '.' →
      ¬ other.toList.splitOn '.' <+: name.toList.splitOn '.' →
      (tree.insert name capability).insert other another =
        (tree.insert other another).insert name capability) ∧
    (other.toList.splitOn '.' <+: name.toList.splitOn '.' →
      (tree.insert name capability).insert other another = tree.insert other another) := by
  simp only [← segments_prefix_iff]
  constructor
  · intro before behind
    exact insertAt_comm (not_or.mpr ⟨before, behind⟩) capability another tree
  · intro onTheWay
    exact insertAt_insertAt onTheWay capability another tree

/-- A tree that no insertions have built: its children are out of order, one of them is a leaf and
one an idle branch. -/
def overgrown : CapabilityTree :=
  .branch (.cons "b" (.branch .nil) (.cons "a" (.leaf (.module "old")) .nil))

/-- Two names below the same leaf, one with an empty segment, and the name of the leaf itself. -/
theorem overgrown_inserts :
    ¬ "a..b".toList.splitOn '.' <+: "a.b".toList.splitOn '.' ∧
    ¬ "a.b".toList.splitOn '.' <+: "a..b".toList.splitOn '.' ∧
    (overgrown.insert "a..b" (.module "one")).insert "a.b" (.module "two") =
      (overgrown.insert "a.b" (.module "two")).insert "a..b" (.module "one") ∧
    "a".toList.splitOn '.' <+: "a..b".toList.splitOn '.' ∧
    (overgrown.insert "a..b" (.module "one")).insert "a" (.module "two") =
      overgrown.insert "a" (.module "two") := by
  have before : ¬ "a..b".toList.splitOn '.' <+: "a.b".toList.splitOn '.' := by decide
  have behind : ¬ "a.b".toList.splitOn '.' <+: "a..b".toList.splitOn '.' := by decide
  have onTheWay : "a".toList.splitOn '.' <+: "a..b".toList.splitOn '.' := by decide
  exact ⟨before, behind,
    (inserts_commute_or_absorb overgrown "a..b" "a.b" (.module "one") (.module "two")).1
      before behind,
    onTheWay,
    (inserts_commute_or_absorb overgrown "a..b" "a" (.module "one") (.module "two")).2 onTheWay⟩

end CapabilityTree
end Rendezvous
