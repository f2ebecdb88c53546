/-
Module: JobShell.Proofs.Creation
Purpose: What the changes of a tree do to its nodes, and a file that is made under a name that was free: the
  tree gains one node, its directory one entry, nothing else is touched, and the path that led to no node
  before leads to the new one.
Main exports: FileTree.Gains, FileTree.create_gains, FileTree.Gains.resolve_eq, maskMode_testBit
-/
import JobShell.Machine.Disk
import Mathlib.Tactic.SplitIfs

namespace JobShell.Machine

open Text (Bytes)

/-! ### The bits that a mask leaves -/

/-- A mask takes exactly its own bits off the permission bits. -/
theorem maskMode_testBit {mode : Nat} (small : mode ≤ 0o7777) (mask bit : Nat) :
    (maskMode mode mask).testBit bit = (mode.testBit bit && !mask.testBit bit) := by
  have limit : (0o7777 : Nat).testBit bit = decide (bit < 12) := Nat.testBit_two_pow_sub_one 12 bit
  rw [maskMode, Nat.testBit_and, Nat.testBit_xor, Nat.testBit_and, limit]
  by_cases inside : bit < 12
  · simp [inside]
  · have high : mode.testBit bit = false := by
      apply Nat.testBit_lt_two_pow
      calc mode < 2 ^ 12 := Nat.lt_succ_of_le small
        _ ≤ 2 ^ bit := Nat.pow_le_pow_right (by decide) (by omega)
    simp [high]

namespace FileTree

/-! ### Nodes -/

@[simp] theorem node?_modify (t : FileTree) (id other : NodeId) (f : Node → Node) :
    (t.modify id f).node? other = if other = id then (t.node? other).map f else t.node? other := by
  rw [modify, node?, node?, Array.getElem?_modify]
  simp only [eq_comm]

@[simp] theorem size_modify (t : FileTree) (id : NodeId) (f : Node → Node) :
    (t.modify id f).nodes.size = t.nodes.size :=
  Array.size_modify

/-- The moment that the next change of a tree is noted with. -/
def nextMoment (t : FileTree) : Int :=
  startingMoment + (t.changes + 1 : Nat)

@[simp] theorem node?_stamp (t : FileTree) (id other : NodeId) :
    (t.stamp id).node? other =
      if other = id then (t.node? other).map fun n => { n with changed := t.nextMoment }
      else t.node? other :=
  node?_modify _ id other _

@[simp] theorem size_stamp (t : FileTree) (id : NodeId) :
    (t.stamp id).nodes.size = t.nodes.size :=
  size_modify _ id _

theorem node?_lt {t : FileTree} {id : NodeId} {n : Node} (found : t.node? id = some n) :
    id < t.nodes.size :=
  (Array.getElem?_eq_some_iff.mp found).1

theorem node?_size (t : FileTree) : t.node? t.nodes.size = none :=
  Array.getElem?_eq_none (Nat.le_refl _)

@[simp] theorem node?_add (t : FileTree) (n : Node) (other : NodeId) :
    (t.add n).2.node? other =
      if other = t.nodes.size then some { n with changed := t.nextMoment } else t.node? other := by
  rw [add, node?_stamp]
  simp only [node?, Array.getElem?_push]
  split_ifs <;> rfl

@[simp] theorem size_add (t : FileTree) (n : Node) : (t.add n).2.nodes.size = t.nodes.size + 1 := by
  rw [add, size_stamp, Array.size_push]

@[simp] theorem size_link (t : FileTree) (directory id : NodeId) (name : Bytes) :
    (t.link directory name id).nodes.size = t.nodes.size := by
  rw [link, modifyEntries, size_modify, size_stamp]

theorem node?_link_other (t : FileTree) {directory other : NodeId} (name : Bytes) (id : NodeId)
    (differs : other ≠ directory) : (t.link directory name id).node? other = t.node? other := by
  rw [link, modifyEntries, node?_modify, if_neg differs, node?_stamp, if_neg differs]

theorem node?_link_self {t : FileTree} {directory : NodeId} {entries : List (Bytes × NodeId)}
    {parent : NodeId} {old : Node} (name : Bytes) (id : NodeId) (holds : t.node? directory = some old)
    (isDirectory : old.content = .directory entries parent) :
    (t.link directory name id).node? directory =
      some { old with
        content := .directory (entries ++ [(name, id)]) parent
        changed := t.nextMoment } := by
  rw [link, modifyEntries, node?_modify, if_pos rfl, node?_stamp, if_pos rfl, holds]
  simp [isDirectory]

/-- A node that is looked up as a directory has entries. -/
theorem isDirectory_iff {t : FileTree} {id : NodeId} :
    t.isDirectory id = true ↔
      ∃ node entries parent, t.node? id = some node ∧ node.content = .directory entries parent := by
  rw [isDirectory, Option.any_eq_true]
  constructor
  · rintro ⟨node, found, isDirectory⟩
    rw [Node.isDirectory] at isDirectory
    split at isDirectory
    · next entries parent content => exact ⟨node, entries, parent, found, content⟩
    · cases isDirectory
  · rintro ⟨node, entries, parent, found, content⟩
    exact ⟨node, found, by rw [Node.isDirectory, content]⟩

/-- A walk that ends at a name has looked it up in a directory. -/
theorem walk_entry {t : FileTree} {follow : Bool} {links : Nat} {here directory : NodeId}
    {path : List Bytes} {name : Bytes} {found : Option NodeId}
    (reached : t.walk follow links here path = .ok (.entry directory name found)) :
    t.isDirectory directory = true ∧ (t.entries directory).lookup name = found := by
  fun_induction walk t follow links here path with
  | case1 | case2 | case3 | case6 | case8 | case10 => cases reached
  | case4 | case5 | case11 | case13 =>
      rename_i onward
      exact onward (by simpa using reached)
  | case7 links here piece others isDirectory allows step up short lookup =>
      cases reached
      exact ⟨by simpa using isDirectory, lookup⟩
  | case9 links here piece others isDirectory allows step up short taken lookup =>
      cases reached
      exact ⟨by simpa using isDirectory, lookup⟩
  | case12 links here piece others isDirectory allows step up short taken lookup =>
      cases reached
      exact ⟨by simpa using isDirectory, lookup⟩

/-- A path that leads to a name leads to one in a directory. -/
theorem locate_entry {t : FileTree} {here directory : NodeId} {path name : Bytes} {follow : Bool}
    {found : Option NodeId} (reached : t.locate here path follow = .ok (.entry directory name found)) :
    t.isDirectory directory = true ∧ (t.entries directory).lookup name = found := by
  rw [locate] at reached
  split_ifs at reached
  · exact walk_entry reached
  · exact walk_entry reached

/-! ### A tree that gains a file -/

/-- One tree is another one with a new node under a name that was free. -/
structure Gains (t u : FileTree) (directory : NodeId) (name : Bytes) (id : NodeId) (n : Node) :
    Prop where
  size : u.nodes.size = t.nodes.size + 1
  fresh : t.node? id = none
  free : (t.entries directory).lookup name = none
  made : ∃ moment, u.node? id = some { n with changed := moment }
  /-- The directory keeps what it is and what it held; the new name comes last. -/
  holder : ∃ old entries parent moment,
    t.node? directory = some old ∧ old.content = .directory entries parent ∧
      u.node? directory =
        some { old with
          content := .directory (entries ++ [(name, id)]) parent
          changed := moment }
  others : ∀ other, other ≠ directory → other ≠ id → u.node? other = t.node? other

/-- A node that is made under a free name is gained. -/
theorem create_gains {t u : FileTree} {directory id : NodeId} {name : Bytes} {n : Node}
    (isDirectory : t.isDirectory directory = true) (free : (t.entries directory).lookup name = none)
    (created : t.create directory name n = .ok (id, u)) : t.Gains u directory name id n := by
  rw [create] at created
  split_ifs at created
  obtain rfl : t.nodes.size = id := (Prod.mk.inj (Except.ok.inj created)).1
  obtain rfl : (t.add n).2.link directory name t.nodes.size = u :=
    (Prod.mk.inj (Except.ok.inj created)).2
  obtain ⟨old, entries, parent, found, content⟩ := isDirectory_iff.mp isDirectory
  have below : directory ≠ t.nodes.size := Nat.ne_of_lt (node?_lt found)
  have kept : (t.add n).2.node? directory = some old := by rw [node?_add, if_neg below, found]
  constructor
  · rw [size_link, size_add]
  · exact t.node?_size
  · exact free
  · refine ⟨t.nextMoment, ?_⟩
    rw [node?_link_other _ _ _ below.symm, node?_add, if_pos rfl]
  · exact ⟨old, entries, parent, _, found, content, node?_link_self name _ kept content⟩
  · intro other notDirectory notNew
    rw [node?_link_other _ _ _ notDirectory, node?_add, if_neg notNew]

/-- A node is made only in a directory that may be changed. -/
theorem mayChange_of_create {t u : FileTree} {directory id : NodeId} {name : Bytes} {n : Node}
    (created : t.create directory name n = .ok (id, u)) : t.mayChange directory = true := by
  rw [create] at created
  split_ifs at created with reachable permitted
  simpa using permitted

namespace Gains

variable {t u : FileTree} {directory id : NodeId} {name : Bytes} {n : Node}

/-- A directory of the old tree is not the new node. -/
theorem ne_of_isDirectory (g : t.Gains u directory name id n) {here : NodeId}
    (isDirectory : t.isDirectory here = true) : here ≠ id := by
  rintro rfl
  obtain ⟨_, _, _, found, -⟩ := isDirectory_iff.mp isDirectory
  rw [g.fresh] at found
  cases found

/-- What the walk along a path asks of a directory is answered as before, but for the one new entry. -/
theorem answers (g : t.Gains u directory name id n) {here : NodeId}
    (isDirectory : t.isDirectory here = true) :
    u.isDirectory here = true ∧ (∀ access, u.allows here access = t.allows here access) ∧
      u.parent here = t.parent here ∧
      u.entries here = if here = directory then t.entries here ++ [(name, id)] else t.entries here := by
  by_cases itself : here = directory
  · subst itself
    obtain ⟨old, entries, parent, moment, before, content, after⟩ := g.holder
    have shape : old = { old with content := .directory entries parent } := by rw [← content]
    rw [shape] at before
    simp [FileTree.isDirectory, FileTree.allows, FileTree.parent, FileTree.entries, before, after,
      Node.isDirectory, Node.allows]
  · have same := g.others here itself (g.ne_of_isDirectory isDirectory)
    rw [if_neg itself]
    refine ⟨?_, ?_, ?_, ?_⟩
    · rwa [FileTree.isDirectory, same]
    · intro access
      rw [FileTree.allows, same, FileTree.allows]
    · rw [FileTree.parent, same, FileTree.parent]
    · rw [FileTree.entries, same, FileTree.entries]

/-- A name that was taken still means the same node. -/
theorem lookup_of_taken (g : t.Gains u directory name id n) {here : NodeId} {step : Bytes}
    {taken : NodeId} (isDirectory : t.isDirectory here = true)
    (found : (t.entries here).lookup step = some taken) :
    (u.entries here).lookup step = some taken := by
  rw [(g.answers isDirectory).2.2.2]
  split_ifs
  · rw [List.lookup_append, found, Option.some_or]
  · exact found

/-- The new name means the new node. -/
theorem lookup_name (g : t.Gains u directory name id n) (isDirectory : t.isDirectory directory = true) :
    (u.entries directory).lookup name = some id := by
  rw [(g.answers isDirectory).2.2.2, if_pos rfl, List.lookup_append, g.free]
  simp

/-- A link of the old tree is still there. -/
theorem node?_of_link (g : t.Gains u directory name id n) {place : NodeId} {target : Bytes} {mode : Nat}
    {own : Bool} {changed : Int} (isLink : t.node? place = some ⟨.link target, mode, own, changed⟩) :
    u.node? place = some ⟨.link target, mode, own, changed⟩ := by
  rw [← isLink]
  apply g.others
  · rintro rfl
    obtain ⟨old, entries, parent, moment, before, content, -⟩ := g.holder
    rw [isLink] at before
    obtain rfl := Option.some.inj before
    cases content
  · rintro rfl
    rw [g.fresh] at isLink
    cases isLink

/-- No node has become a link. -/
theorem not_link (g : t.Gains u directory name id n) (notLink : n.isLink = false) {place : NodeId}
    (before : ∀ target mode own changed, t.node? place = some ⟨.link target, mode, own, changed⟩ → False)
    (target : Bytes) (mode : Nat) (own : Bool) (changed : Int)
    (isLink : u.node? place = some ⟨.link target, mode, own, changed⟩) : False := by
  by_cases new : place = id
  · obtain ⟨moment, made⟩ := g.made
    rw [new, made] at isLink
    have content : n.content = .link target := congrArg Node.content (Option.some.inj isLink)
    rw [Node.isLink, content] at notLink
    cases notLink
  · by_cases itself : place = directory
    · obtain ⟨old, entries, parent, moment, -, -, after⟩ := g.holder
      rw [itself, after] at isLink
      cases isLink
    · rw [g.others place itself new] at isLink
      exact before target mode own changed isLink

/-- Where the walk finds nothing under the last name, it finds the new node if that was the name. -/
theorem walk_eq (g : t.Gains u directory name id n) (notLink : n.isLink = false) {follow : Bool}
    {links : Nat} {here : NodeId} {path : List Bytes}
    (missing : t.walk follow links here path = .ok (.entry directory name none)) :
    u.walk follow links here path = .ok (.entry directory name (some id)) := by
  -- Every directory on the way is one of the old tree, so it answers as before up to the last name.
  fun_induction walk t follow links here path with
  | case1 | case2 | case3 | case6 | case8 | case9 | case10 | case12 => cases missing
  | case4 links here others isDirectory allows ih =>
      obtain ⟨inside, same, -, -⟩ := g.answers (by simpa using isDirectory)
      rw [walk, inside, same, if_neg (by simp), if_neg allows, if_pos rfl]
      exact ih missing
  | case5 links here others isDirectory allows step ih =>
      obtain ⟨inside, same, above, -⟩ := g.answers (by simpa using isDirectory)
      rw [walk, inside, same, if_neg (by simp), if_neg allows, if_neg step, if_pos rfl, above]
      exact ih missing
  | case7 links here piece others isDirectory allows step up short lookup last =>
      obtain ⟨inside, same, -, -⟩ := g.answers (by simpa using isDirectory)
      cases missing
      rw [walk, inside, same, if_neg (by simp), if_neg allows, if_neg step, if_neg up, if_neg short,
        g.lookup_name (by simpa using isDirectory)]
      dsimp only
      split
      · next isLink => exact (g.not_link notLink (by simp [g.fresh]) _ _ _ _ isLink).elim
      · rw [if_pos last]
  | case11 here piece others isDirectory allows step up short taken lookup target mode own changed
      isLink follows left ih =>
      obtain ⟨inside, same, -, -⟩ := g.answers (by simpa using isDirectory)
      rw [walk, inside, same, if_neg (by simp), if_neg allows, if_neg step, if_neg up, if_neg short,
        g.lookup_of_taken (by simpa using isDirectory) lookup]
      simp only [g.node?_of_link isLink]
      rw [if_neg follows]
      simpa using ih (by simpa using missing)
  | case13 links here piece others isDirectory allows step up short taken lookup more plain ih =>
      obtain ⟨inside, same, -, -⟩ := g.answers (by simpa using isDirectory)
      rw [walk, inside, same, if_neg (by simp), if_neg allows, if_neg step, if_neg up, if_neg short,
        g.lookup_of_taken (by simpa using isDirectory) lookup]
      dsimp only
      split
      · next isLink => exact (g.not_link notLink plain _ _ _ _ isLink).elim
      · rw [if_neg more]
        exact ih missing

/-- The path that led to a free name leads to the node that has been made under it. -/
theorem resolve_eq (g : t.Gains u directory name id n) (notLink : n.isLink = false) {here : NodeId}
    {path : Bytes} (missing : t.locate here path true = .ok (.entry directory name none)) :
    u.resolve here path = .ok id := by
  have reached : u.locate here path true = .ok (.entry directory name (some id)) := by
    rw [locate] at missing ⊢
    split_ifs at missing ⊢
    · exact g.walk_eq notLink missing
    · exact g.walk_eq notLink missing
  rw [resolve, reached]
  rfl

end Gains

end FileTree

end JobShell.Machine
