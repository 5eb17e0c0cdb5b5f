import Sffl.Crypto.MerklePath

/-! Sparse tries of hashed entries.

The hash of an empty subtree is a placeholder, that of a subtree with one entry
is the hash of the entry, and that of any other is the hash of its two halves. A
trie whose entries stand where their paths lead is determined by its entries, and
so is its root.
-/

set_option autoImplicit false

namespace Sffl.Crypto

/-- Paths are told apart by their bits, the first of which is the turn at the root. -/
structure Paths (K : Type) where
  depth : Nat
  bit : K → Nat → Bool
  ext : ∀ {first second : K}, (∀ i < depth, bit first i = bit second i) → first = second

def Paths.Agree {K : Type} (paths : Paths K) (level : Nat) (first second : K) : Prop :=
  ∀ i < level, paths.bit first i = paths.bit second i

theorem Paths.agree_succ {K : Type} {paths : Paths K} {level : Nat} {first second : K} :
    paths.Agree (level + 1) first second ↔
      paths.Agree level first second ∧ paths.bit first level = paths.bit second level :=
  Nat.forall_lt_succ_right

inductive Trie (K V : Type) where
  | empty
  | leaf (path : K) (value : V)
  | node (left right : Trie K V)
  deriving DecidableEq, Repr

namespace Trie
variable {K V : Type}

def keys : Trie K V → List K
  | .empty => []
  | .leaf path _ => [path]
  | .node left right => left.keys ++ right.keys

def beside (right : Bool) (below side : Trie K V) : Trie K V :=
  if right then .node side below else .node below side

section Operations
variable (paths : Paths K)

/-- The subtree of two leaves, which part where their paths do. -/
def part (first second : K) (firstValue secondValue : V) : (remaining level : Nat) → Trie K V
  | 0, _ => .leaf first firstValue
  | remaining + 1, level =>
    if paths.bit first level = paths.bit second level then
      beside (paths.bit first level) (part first second firstValue secondValue remaining (level + 1)) .empty
    else beside (paths.bit first level) (.leaf first firstValue) (.leaf second secondValue)

variable [DecidableEq K]

def update (path : K) (value : V) : (level : Nat) → Trie K V → Trie K V
  | _, .empty => .leaf path value
  | level, .leaf other otherValue =>
    if other = path then .leaf path value
    else part paths path other value otherValue (paths.depth - level) level
  | level, .node left right =>
    if paths.bit path level then .node left (update path value (level + 1) right)
    else .node (update path value (level + 1) left) right

def ended (wanted : K) : (level : Nat) → Trie K V → Option (K × V)
  | _, .empty => none
  | _, .leaf path value => some (path, value)
  | level, .node left right =>
    if paths.bit wanted level then ended wanted (level + 1) right else ended wanted (level + 1) left

def find (wanted : K) (level : Nat) (trie : Trie K V) : Option V :=
  (trie.ended paths wanted level).bind fun leaf => if leaf.1 = wanted then some leaf.2 else none

end Operations

/-- Every entry stands where its path leads, and every node is above two entries or more. -/
inductive Canonical (paths : Paths K) : Nat → Trie K V → Prop where
  | empty {level : Nat} : Canonical paths level .empty
  | leaf {level : Nat} {path : K} {value : V} : Canonical paths level (.leaf path value)
  | node {level : Nat} {left right : Trie K V} {first second : K} :
      Canonical paths (level + 1) left → Canonical paths (level + 1) right →
      (∀ path ∈ left.keys, paths.bit path level = false) → (∀ path ∈ right.keys, paths.bit path level = true) →
      first ∈ left.keys ++ right.keys → second ∈ left.keys ++ right.keys → first ≠ second →
      Canonical paths level (.node left right)

/-! ## Subtrees beside each other -/

section Beside
variable {paths : Paths K} {level : Nat} {right : Bool} {below side : Trie K V}

theorem mem_keys_beside {path : K} : path ∈ (beside right below side).keys ↔ path ∈ below.keys ∨ path ∈ side.keys := by
  cases right with
  | false => exact List.mem_append
  | true => exact List.mem_append.trans or_comm

theorem canonical_beside {first second : K} (canonical : Canonical paths (level + 1) below)
    (canonical' : Canonical paths (level + 1) side) (inside : ∀ path ∈ below.keys, paths.bit path level = right)
    (outside : ∀ path ∈ side.keys, paths.bit path level = !right) (mem : first ∈ below.keys)
    (mem' : second ∈ below.keys ∨ second ∈ side.keys) (different : first ≠ second) :
    Canonical paths level (beside right below side) := by
  cases right with
  | false => exact .node canonical canonical' inside outside (List.mem_append_left _ mem) (List.mem_append.mpr mem') different
  | true =>
    exact .node canonical' canonical outside inside (List.mem_append_right _ mem) (List.mem_append.mpr mem'.symm)
      different

variable [DecidableEq K]

theorem find_beside (wanted : K) :
    find paths wanted level (beside right below side) =
      if paths.bit wanted level = right then find paths wanted (level + 1) below
      else find paths wanted (level + 1) side := by
  cases right with
  | false => cases turn : paths.bit wanted level <;> simp [find, beside, ended, turn]
  | true => cases turn : paths.bit wanted level <;> simp [find, beside, ended, turn]

end Beside

/-! ## Two leaves -/

section Part
variable {paths : Paths K} {level : Nat} {first second : K} (firstValue secondValue : V) {remaining : Nat}
  (different : first ≠ second)
include different

theorem mem_keys_part (agree : paths.Agree level first second) (within : level + remaining = paths.depth) (path : K) :
    path ∈ (part paths first second firstValue secondValue remaining level).keys ↔ path = first ∨ path = second := by
  induction remaining generalizing level with
  | zero =>
    subst within
    exact absurd (paths.ext agree) different
  | succ remaining ih =>
    unfold part
    split
    next same =>
      have deeper := ih (Paths.agree_succ.mpr ⟨agree, same⟩) (by omega)
      simp [mem_keys_beside, deeper, keys]
    next => simp [mem_keys_beside, keys]

theorem canonical_part (agree : paths.Agree level first second) (within : level + remaining = paths.depth) :
    Canonical paths level (part paths first second firstValue secondValue remaining level) := by
  induction remaining generalizing level with
  | zero => exact .leaf
  | succ remaining ih =>
    unfold part
    split
    next same =>
      have deeper := Paths.agree_succ.mpr ⟨agree, same⟩
      have below : level + 1 + remaining = paths.depth := by omega
      have both := mem_keys_part firstValue secondValue different deeper below
      refine canonical_beside (ih deeper below) .empty ?_ (by simp [keys]) ((both first).mpr (.inl rfl))
        (.inl ((both second).mpr (.inr rfl))) different
      intro path member
      rcases (both path).mp member with rfl | rfl
      · rfl
      · exact same.symm
    next parted =>
      refine canonical_beside .leaf .leaf ?_ ?_ (List.mem_singleton.mpr rfl) (.inr (List.mem_singleton.mpr rfl)) different
      · intro path member
        rw [List.mem_singleton.mp member]
      · intro path member
        rw [List.mem_singleton.mp member]
        exact Bool.eq_not.mpr (Ne.symm parted)

variable [DecidableEq K]

theorem find_part (agree : paths.Agree level first second) (within : level + remaining = paths.depth) (wanted : K) :
    find paths wanted level (part paths first second firstValue secondValue remaining level) =
      if first = wanted then some firstValue else if second = wanted then some secondValue else none := by
  induction remaining generalizing level with
  | zero =>
    subst within
    exact absurd (paths.ext agree) different
  | succ remaining ih =>
    unfold part
    split
    next same =>
      rw [find_beside, ih (Paths.agree_succ.mpr ⟨agree, same⟩) (by omega)]
      split
      next => rfl
      next off =>
        have other : first ≠ wanted := fun equal => off (equal ▸ rfl)
        have other' : second ≠ wanted := fun equal => off (equal ▸ same.symm)
        simp [find, ended, other, other']
    next parted =>
      rw [find_beside]
      by_cases found : first = wanted
      · simp [find, ended, found]
      · by_cases found' : second = wanted
        · subst found'
          simp [find, ended, found, Ne.symm parted]
        · simp [find, ended, found, found']

end Part

/-! ## Entries -/

section Entries
variable {paths : Paths K} {level : Nat} {trie : Trie K V}

theorem Canonical.level_lt {left right : Trie K V} {path : K} (canonical : Canonical paths level (.node left right))
    (agree : ∀ key ∈ left.keys ++ right.keys, paths.Agree level key path) : level < paths.depth := by
  cases canonical with
  | @node _ _ _ first second _ _ _ _ mem mem' different =>
    apply Nat.lt_of_not_le
    intro beyond
    apply different
    apply paths.ext
    intro i inside
    have before := Nat.lt_of_lt_of_le inside beyond
    rw [agree first mem i before, agree second mem' i before]

theorem agree_below {side : Trie K V} {path : K} {turn : Bool} (bits : ∀ key ∈ side.keys, paths.bit key level = turn)
    (agree : ∀ key ∈ side.keys, paths.Agree level key path) (turned : paths.bit path level = turn) :
    ∀ key ∈ side.keys, paths.Agree (level + 1) key path := by
  intro key member
  exact Paths.agree_succ.mpr ⟨agree key member, (bits key member).trans turned.symm⟩

variable [DecidableEq K]

theorem find_node (wanted : K) (left right : Trie K V) :
    find paths wanted level (.node left right) =
      if paths.bit wanted level then find paths wanted (level + 1) right else find paths wanted (level + 1) left := by
  unfold find
  cases turn : paths.bit wanted level <;> simp [ended, turn]

section Update
variable {path : K} (value : V)

theorem mem_keys_update (canonical : Canonical paths level trie) (within : level ≤ paths.depth)
    (agree : ∀ key ∈ trie.keys, paths.Agree level key path) (key : K) :
    key ∈ (update paths path value level trie).keys ↔ key = path ∨ key ∈ trie.keys := by
  induction canonical with
  | empty => simp [update, keys]
  | @leaf level other otherValue =>
    unfold update
    split
    next same => simp [keys, same]
    next different =>
      have parts := agree other (List.mem_singleton.mpr rfl)
      rw [mem_keys_part value otherValue (Ne.symm different) (fun i before => (parts i before).symm) (by omega)]
      simp [keys]
  | @node level left right first second canonical canonical' bits bits' mem mem' different ih ih' =>
    have inside := (Canonical.node canonical canonical' bits bits' mem mem' different).level_lt agree
    obtain ⟨agreeLeft, agreeRight⟩ := List.forall_mem_append.mp agree
    unfold update
    split
    next turned => simp [keys, ih' inside (agree_below bits' agreeRight turned), or_left_comm]
    next turned =>
      simp [keys, ih inside (agree_below bits agreeLeft (eq_false_of_ne_true turned)), or_assoc]

theorem canonical_update (canonical : Canonical paths level trie) (within : level ≤ paths.depth)
    (agree : ∀ key ∈ trie.keys, paths.Agree level key path) :
    Canonical paths level (update paths path value level trie) := by
  induction canonical with
  | empty => exact .leaf
  | @leaf level other otherValue =>
    unfold update
    split
    next same => exact .leaf
    next different =>
      have parts := agree other (List.mem_singleton.mpr rfl)
      exact canonical_part value otherValue (Ne.symm different) (fun i before => (parts i before).symm) (by omega)
  | @node level left right first second canonical canonical' bits bits' mem mem' different ih ih' =>
    have inside := (Canonical.node canonical canonical' bits bits' mem mem' different).level_lt agree
    obtain ⟨agreeLeft, agreeRight⟩ := List.forall_mem_append.mp agree
    unfold update
    split
    next turned =>
      have below := agree_below bits' agreeRight turned
      have members := mem_keys_update value canonical' inside below
      have kept : ∀ key ∈ left.keys ++ right.keys, key ∈ left.keys ++ (update paths path value (level + 1) right).keys := by
        intro key member
        simp only [List.mem_append, members] at member ⊢
        exact member.imp_right .inr
      refine .node canonical (ih' inside below) bits ?_ (kept _ mem) (kept _ mem') different
      intro key member
      rcases (members key).mp member with rfl | old
      · exact turned
      · exact bits' key old
    next turned =>
      have turned := eq_false_of_ne_true turned
      have below := agree_below bits agreeLeft turned
      have members := mem_keys_update value canonical inside below
      have kept : ∀ key ∈ left.keys ++ right.keys, key ∈ (update paths path value (level + 1) left).keys ++ right.keys := by
        intro key member
        simp only [List.mem_append, members] at member ⊢
        exact member.imp_left .inr
      refine .node (ih inside below) canonical' ?_ bits' (kept _ mem) (kept _ mem') different
      intro key member
      rcases (members key).mp member with rfl | old
      · exact turned
      · exact bits key old

theorem find_update (canonical : Canonical paths level trie) (within : level ≤ paths.depth)
    (agree : ∀ key ∈ trie.keys, paths.Agree level key path) (wanted : K) :
    find paths wanted level (update paths path value level trie) =
      if path = wanted then some value else find paths wanted level trie := by
  induction canonical with
  | empty => rfl
  | @leaf level other otherValue =>
    unfold update
    split
    next same =>
      subst same
      by_cases found : other = wanted <;> simp [find, ended, found]
    next different =>
      have parts := agree other (List.mem_singleton.mpr rfl)
      exact find_part value otherValue (Ne.symm different) (fun i before => (parts i before).symm) (by omega) wanted
  | @node level left right first second canonical canonical' bits bits' mem mem' different ih ih' =>
    have inside := (Canonical.node canonical canonical' bits bits' mem mem' different).level_lt agree
    obtain ⟨agreeLeft, agreeRight⟩ := List.forall_mem_append.mp agree
    unfold update
    split
    next turned =>
      rw [find_node, find_node, ih' inside (agree_below bits' agreeRight turned)]
      by_cases found : path = wanted
      · simp [← found, turned]
      · simp [found]
    next turned =>
      rw [find_node, find_node, ih inside (agree_below bits agreeLeft (eq_false_of_ne_true turned))]
      by_cases found : path = wanted
      · simp [← found, turned]
      · simp [found]

end Update

/-! ## One trie for given entries -/

theorem Canonical.find_isSome (canonical : Canonical paths level trie) (wanted : K) :
    (find paths wanted level trie).isSome ↔ wanted ∈ trie.keys := by
  induction canonical with
  | empty => simp [find, ended, keys]
  | @leaf level path value =>
    by_cases found : path = wanted
    · simp [find, ended, keys, found]
    · simp [find, ended, keys, found, Ne.symm found]
  | @node level left right first second canonical canonical' bits bits' mem mem' different ih ih' =>
    rw [find_node, keys, List.mem_append]
    cases turned : paths.bit wanted level with
    | false =>
      have off : wanted ∉ right.keys := fun member => by simp [bits' wanted member] at turned
      simp [ih, off]
    | true =>
      have off : wanted ∉ left.keys := fun member => by simp [bits wanted member] at turned
      simp [ih', off]

omit [DecidableEq K] in
theorem mem_keys_of_ended {wanted : K} {found : K × V} (here : trie.ended paths wanted level = some found) :
    found.1 ∈ trie.keys := by
  induction trie generalizing level with
  | empty => cases here
  | leaf path value =>
    cases here
    exact List.mem_singleton.mpr rfl
  | node left right ih ih' =>
    cases turned : paths.bit wanted level with
    | false => exact List.mem_append_left _ (ih (by simpa [ended, turned] using here))
    | true => exact List.mem_append_right _ (ih' (by simpa [ended, turned] using here))

theorem Canonical.find_eq_none (canonical : Canonical paths level trie) {wanted : K} (absent : wanted ∉ trie.keys) :
    find paths wanted level trie = none := by
  rw [← Option.not_isSome_iff_eq_none, canonical.find_isSome]
  exact absent

theorem Canonical.mem_keys_of_find {other : Trie K V} (canonical : Canonical paths level trie)
    (canonical' : Canonical paths level other)
    (same : ∀ wanted, find paths wanted level trie = find paths wanted level other) (wanted : K) :
    wanted ∈ trie.keys ↔ wanted ∈ other.keys := by
  rw [← canonical.find_isSome, ← canonical'.find_isSome, same]

theorem find_side {side side' : Trie K V} {turn : Bool} (canonical : Canonical paths (level + 1) side)
    (canonical' : Canonical paths (level + 1) side') (bits : ∀ key ∈ side.keys, paths.bit key level = turn)
    (bits' : ∀ key ∈ side'.keys, paths.bit key level = turn)
    (same : ∀ wanted, paths.bit wanted level = turn →
      find paths wanted (level + 1) side = find paths wanted (level + 1) side') (wanted : K) :
    find paths wanted (level + 1) side = find paths wanted (level + 1) side' := by
  by_cases turned : paths.bit wanted level = turn
  · exact same wanted turned
  · rw [canonical.find_eq_none fun member => turned (bits wanted member),
      canonical'.find_eq_none fun member => turned (bits' wanted member)]

theorem Canonical.eq_of_find {other : Trie K V} (canonical : Canonical paths level trie)
    (canonical' : Canonical paths level other)
    (same : ∀ wanted, find paths wanted level trie = find paths wanted level other) : trie = other := by
  -- a leaf is one entry and a node is two, so equal entries are in equal shapes
  induction canonical generalizing other with
  | empty =>
    have sameKeys := Canonical.empty.mem_keys_of_find canonical' same
    cases canonical' with
    | empty => rfl
    | leaf => exact absurd ((sameKeys _).mpr (List.mem_singleton.mpr rfl)) List.not_mem_nil
    | node _ _ _ _ mem => exact absurd ((sameKeys _).mpr mem) List.not_mem_nil
  | @leaf _ path value =>
    have sameKeys := Canonical.leaf.mem_keys_of_find canonical' same
    cases canonical' with
    | empty => exact absurd ((sameKeys _).mp (List.mem_singleton.mpr rfl)) List.not_mem_nil
    | @leaf _ path' value' =>
      obtain rfl := List.mem_singleton.mp ((sameKeys path).mp (List.mem_singleton.mpr rfl))
      have values := same path
      simp only [find, ended, Option.bind_some, if_true] at values
      rw [Option.some.inj values]
    | node _ _ _ _ mem mem' different =>
      have first := List.mem_singleton.mp ((sameKeys _).mpr mem)
      have second := List.mem_singleton.mp ((sameKeys _).mpr mem')
      exact absurd (first.trans second.symm) different
  | @node _ left right _ _ canonicalL canonicalR bitsL bitsR mem mem' different ih ih' =>
    have sameKeys := (Canonical.node canonicalL canonicalR bitsL bitsR mem mem' different).mem_keys_of_find canonical' same
    cases canonical' with
    | empty => exact absurd ((sameKeys _).mp mem) List.not_mem_nil
    | leaf =>
      have first := List.mem_singleton.mp ((sameKeys _).mp mem)
      have second := List.mem_singleton.mp ((sameKeys _).mp mem')
      exact absurd (first.trans second.symm) different
    | @node _ left' right' _ _ canonicalL' canonicalR' bitsL' bitsR' =>
      simp only [find_node] at same
      have lefts := find_side canonicalL canonicalL' bitsL bitsL' fun wanted turned => by
        simpa [turned] using same wanted
      have rights := find_side canonicalR canonicalR' bitsR bitsR' fun wanted turned => by
        simpa [turned] using same wanted
      rw [ih canonicalL' lefts, ih' canonicalR' rights]

end Entries

/-! ## Hashes -/

/-- What is hashed for a leaf and for a node. -/
inductive Preimage (K V H : Type) where
  | leaf (path : K) (value : V)
  | node (left right : H)
  deriving DecidableEq, Repr

section Hashes
variable {H : Type} (hash : Preimage K V H → H) (placeholder : H)

def digest : Trie K V → H
  | .empty => placeholder
  | .leaf path value => hash (.leaf path value)
  | .node left right => hash (.node left.digest right.digest)

/-! ## Walking down to the end of a path -/

variable (paths : Paths K) (wanted : K)

def sides : (level : Nat) → Trie K V → List (Bool × H)
  | _, .empty => []
  | _, .leaf _ _ => []
  | level, .node left right =>
    if paths.bit wanted level then (true, left.digest hash placeholder) :: sides (level + 1) right
    else (false, right.digest hash placeholder) :: sides (level + 1) left

def endHash : Option (K × V) → H
  | none => placeholder
  | some found => hash (.leaf found.1 found.2)

theorem rootOf_sides (level : Nat) (trie : Trie K V) :
    rootOf (fun left right => hash (.node left right)) (endHash hash placeholder (trie.ended paths wanted level))
      (trie.sides hash placeholder paths wanted level) = trie.digest hash placeholder := by
  induction trie generalizing level with
  | empty => rfl
  | leaf path value => rfl
  | node left right ih ih' =>
    cases turned : paths.bit wanted level with
    | false => simp [sides, ended, digest, turned, rootOf, children, ih (level + 1)]
    | true => simp [sides, ended, digest, turned, rootOf, children, ih' (level + 1)]

theorem sides_turn {level : Nat} {trie : Trie K V} {k : Nat} {turn : Bool × H}
    (here : (trie.sides hash placeholder paths wanted level)[k]? = some turn) : turn.1 = paths.bit wanted (level + k) := by
  induction trie generalizing level k with
  | empty => cases here
  | leaf path value => cases here
  | node left right ih ih' =>
    unfold sides at here
    cases turned : paths.bit wanted level with
    | false =>
      rw [turned] at here
      cases k with
      | zero =>
        cases here
        exact turned.symm
      | succ k => rw [ih here, Nat.add_right_comm, Nat.add_assoc]
    | true =>
      rw [turned] at here
      cases k with
      | zero =>
        cases here
        exact turned.symm
      | succ k => rw [ih' here, Nat.add_right_comm, Nat.add_assoc]

variable {paths wanted}

theorem Canonical.sides_length {level : Nat} {trie : Trie K V} (canonical : Canonical paths level trie)
    (within : level ≤ paths.depth) (agree : ∀ key ∈ trie.keys, paths.Agree level key wanted) :
    level + (trie.sides hash placeholder paths wanted level).length ≤ paths.depth := by
  induction canonical with
  | empty => exact within
  | leaf => exact within
  | @node level left right first second canonical canonical' bits bits' mem mem' different ih ih' =>
    have inside := (Canonical.node canonical canonical' bits bits' mem mem' different).level_lt agree
    obtain ⟨agreeLeft, agreeRight⟩ := List.forall_mem_append.mp agree
    unfold sides
    split
    next turned =>
      have below := ih' inside (agree_below bits' agreeRight turned)
      rw [List.length_cons]
      omega
    next turned =>
      have below := ih inside (agree_below bits agreeLeft (eq_false_of_ne_true turned))
      rw [List.length_cons]
      omega

end Hashes

end Trie

end Sffl.Crypto
