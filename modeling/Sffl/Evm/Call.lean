import Mathlib.Data.BitVec
import Mathlib.Data.Fintype.EquivFin

/-! Contract calls: fixed-width unsigned words, checked arithmetic and reverts.

A call returns a value or reverts. A reverted call leaves no trace, so the state
after it is the state before it; `settle` is that rule.
-/

set_option autoImplicit false

namespace Sffl.Evm

abbrev Uint (width : Nat) := BitVec width

abbrev Bytes32 := Uint 256

abbrev Address := Uint 160

instance {width : Nat} : Finite (Uint width) := Finite.of_injective _ BitVec.toFin_injective

-- Sums over all words occur only in specifications; an enumeration that could be
-- unfolded would be one with two to the width elements.
noncomputable instance {width : Nat} : Fintype (Uint width) := Fintype.ofFinite _

theorem toNat_eq_zero {width : Nat} {value : Uint width} : value.toNat = 0 ↔ value = 0 := by
  simp [← BitVec.toNat_inj]

/-- A failed `require` keeps its text; checked arithmetic, indexing and a failed
precompile call are panics. -/
inductive Revert where
  | reason (text : String)
  | panic
  deriving DecidableEq, Repr

abbrev Call (A : Type) := Except Revert A

section
variable {A B E S : Type}

def require (condition : Prop) [Decidable condition] (text : String) : Call Unit :=
  if condition then .ok () else .error (.reason text)

@[simp] theorem require_eq_ok {condition : Prop} [Decidable condition] {text : String} {result : Unit} :
    require condition text = .ok result ↔ condition := by
  by_cases holds : condition <;> simp [require, holds]

theorem bind_eq_ok {first : Except E A} {next : A → Except E B} {result : B} :
    (first >>= next) = .ok result ↔ ∃ value, first = .ok value ∧ next value = .ok result := by
  cases first with
  | error revert => simp [bind, Except.bind]
  | ok value => simp [bind, Except.bind]

@[simp] theorem ok_bind (value : A) (next : A → Except E B) :
    ((.ok value : Except E A) >>= next) = next value := rfl

def elementAt (list : List A) (i : Nat) : Call A :=
  match list[i]? with
  | some element => .ok element
  | none => .error .panic

def settle (state : S) (result : Call S) : S :=
  match result with
  | .ok state => state
  | .error _ => state

theorem settle_preserves {Inv : S → Prop} {state : S} {result : Call S} (holds : Inv state)
    (success : ∀ next, result = .ok next → Inv next) : Inv (settle state result) := by
  cases result with
  | error revert => exact holds
  | ok next => exact success next rfl

end

section
variable {width : Nat}

def checkedAdd (a b : Uint width) : Call (Uint width) :=
  if a.toNat + b.toNat < 2 ^ width then .ok (a + b) else .error .panic

def checkedSub (a b : Uint width) : Call (Uint width) :=
  if b.toNat ≤ a.toNat then .ok (a - b) else .error .panic

def checkedMul (a b : Uint width) : Call (Uint width) :=
  if a.toNat * b.toNat < 2 ^ width then .ok (a * b) else .error .panic

theorem checkedAdd_eq_ok {a b c : Uint width} : checkedAdd a b = .ok c ↔ a.toNat + b.toNat = c.toNat := by
  unfold checkedAdd
  split
  next fits => simp [← BitVec.toNat_inj, Nat.mod_eq_of_lt fits]
  next overflow =>
    simp only [reduceCtorEq, false_iff]
    intro same
    exact overflow (same ▸ c.isLt)

theorem checkedSub_eq_ok {a b c : Uint width} : checkedSub a b = .ok c ↔ a.toNat = c.toNat + b.toNat := by
  unfold checkedSub
  split
  next le =>
    simp only [Except.ok.injEq, ← BitVec.toNat_inj, BitVec.toNat_sub_of_le (BitVec.le_def.mpr le)]
    omega
  next underflow =>
    simp only [reduceCtorEq, false_iff]
    omega

theorem checkedMul_eq_ok {a b c : Uint width} : checkedMul a b = .ok c ↔ a.toNat * b.toNat = c.toNat := by
  unfold checkedMul
  split
  next fits => simp [← BitVec.toNat_inj, Nat.mod_eq_of_lt fits]
  next overflow =>
    simp only [reduceCtorEq, false_iff]
    intro same
    exact overflow (same ▸ c.isLt)

end

end Sffl.Evm
