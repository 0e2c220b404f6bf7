import Mathlib.Data.Rat.Defs
import Mathlib.Tactic.Common

/-!
# JSON values as Python objects

What `json.loads` returns, with the operations on such objects that the code uses: `dict.get`,
truth value, equality.  Python compares numbers across their types (`True == 1 == 1.0`), so `pyEq`
is coarser than equality of the data type.
-/

/-- A parsed JSON document.  The fields of an object are in insertion order and have distinct
names. -/
inductive Json
  | null
  | bool (b : Bool)
  | int (n : ℤ)
  | float (x : ℚ)
  | nan
  | infinity (negative : Bool)
  | str (s : String)
  | arr (items : List Json)
  | obj (fields : List (String × Json))

namespace Json

/-- `fields.get(key)`; an absent key is `None`, like `null`. -/
def get (fields : List (String × Json)) (key : String) : Json := (fields.lookup key).getD .null

/-- `isinstance(value, dict)`. -/
def asObj? : Json → Option (List (String × Json))
  | .obj fields => some fields
  | _ => none

/-- `isinstance(value, str)`. -/
def asStr? : Json → Option String
  | .str s => some s
  | _ => none

/-- The truth value of an object. -/
def truthy : Json → Bool
  | .null => false
  | .bool b => b
  | .int n => n ≠ 0
  | .float x => x ≠ 0
  | .nan => true
  | .infinity _ => true
  | .str s => s ≠ ""
  | .arr items => !items.isEmpty
  | .obj fields => !fields.isEmpty

/-- `a or b`. -/
def orElse (a b : Json) : Json := if a.truthy then a else b

/-- `str(value) == str(n)`: only an integer and a string print as a decimal numeral. -/
def printsAs (n : ℤ) : Json → Bool
  | .int m => m = n
  | .str s => s = toString n
  | _ => false

/-- The value of a number; `bool` is a subclass of `int`. -/
def number? : Json → Option ℚ
  | .bool b => some (if b then 1 else 0)
  | .int n => some n
  | .float x => some x
  | _ => none

mutual

/-- `a is b or a == b`, which is how the members of a tuple, a list or a dictionary are compared.
The parser makes one object of every `NaN`. -/
def pyEq : Json → Json → Bool
  | .null, .null => true
  | .nan, .nan => true
  | .str s, .str t => s = t
  | .infinity b, .infinity c => b = c
  | .arr xs, .arr ys => pyEqItems xs ys
  | .obj xs, .obj ys => xs.length = ys.length && pyEqFields xs ys
  | a, b =>
      match a.number?, b.number? with
      | some x, some y => x = y
      | _, _ => false

def pyEqItems : List Json → List Json → Bool
  | [], [] => true
  | x :: xs, y :: ys => pyEq x y && pyEqItems xs ys
  | _, _ => false

def pyEqFields : List (String × Json) → List (String × Json) → Bool
  | [], _ => true
  | (k, x) :: xs, ys =>
      (match ys.lookup k with
        | some y => pyEq x y
        | none => false) && pyEqFields xs ys

end

/-! ## Equality is transitive -/

/-- What the members of an object that is equal to another one are there. -/
lemma pyEqFields_lookup {xs ys : List (String × Json)} {k : String} {x : Json}
    (h : pyEqFields xs ys) (hx : xs.lookup k = some x) :
    ∃ y, ys.lookup k = some y ∧ pyEq x y := by
  induction xs with
  | nil => cases hx
  | cons kx xs ih =>
      obtain ⟨k', x'⟩ := kx
      rw [pyEqFields, Bool.and_eq_true] at h
      rw [List.lookup_cons] at hx
      split at hx
      · rename_i hk
        obtain rfl := Option.some.inj hx
        obtain rfl := eq_of_beq hk
        have hhead := h.1
        split at hhead
        · rename_i y hy
          exact ⟨y, hy, hhead⟩
        · cases hhead
      · exact ih h.2 hx

/-- What a number is equal to. -/
lemma pyEq_number {a b : Json} {x : ℚ} (ha : a.number? = some x) :
    pyEq a b ↔ b.number? = some x := by
  cases a <;> simp only [number?, reduceCtorEq, Option.some.injEq] at ha <;> subst ha <;>
    cases b <;> simp [pyEq, number?, eq_comm]

mutual

/-- Equality of Python objects is transitive. -/
theorem pyEq_trans : ∀ {a b c : Json}, pyEq a b → pyEq b c → pyEq a c
  | .arr xs, b, c, hab, hbc => by
      cases b with
      | arr ys =>
          cases c with
          | arr zs =>
              rw [pyEq] at hab hbc ⊢
              exact pyEqItems_trans hab hbc
          | _ => simp [pyEq, number?] at hbc
      | _ => simp [pyEq, number?] at hab
  | .obj xs, b, c, hab, hbc => by
      cases b with
      | obj ys =>
          cases c with
          | obj zs =>
              rw [pyEq, Bool.and_eq_true, decide_eq_true_iff] at hab hbc ⊢
              exact ⟨hab.1.trans hbc.1, pyEqFields_trans hab.2 hbc.2⟩
          | _ => simp [pyEq, number?] at hbc
      | _ => simp [pyEq, number?] at hab
  | .null, b, c, hab, hbc => by
      cases b <;> simp [pyEq, number?] at hab
      exact hbc
  | .nan, b, c, hab, hbc => by
      cases b <;> simp [pyEq, number?] at hab
      exact hbc
  | .str s, b, c, hab, hbc => by
      cases b <;> simp [pyEq, number?] at hab
      exact hab ▸ hbc
  | .infinity n, b, c, hab, hbc => by
      cases b <;> simp [pyEq, number?] at hab
      exact hab ▸ hbc
  | .bool n, b, c, hab, hbc =>
      (pyEq_number rfl).mpr ((pyEq_number ((pyEq_number rfl).mp hab)).mp hbc)
  | .int n, b, c, hab, hbc =>
      (pyEq_number rfl).mpr ((pyEq_number ((pyEq_number rfl).mp hab)).mp hbc)
  | .float x, b, c, hab, hbc =>
      (pyEq_number rfl).mpr ((pyEq_number ((pyEq_number rfl).mp hab)).mp hbc)

theorem pyEqItems_trans : ∀ {xs ys zs : List Json}, pyEqItems xs ys → pyEqItems ys zs →
    pyEqItems xs zs
  | [], [], zs, _, h => h
  | x :: xs, y :: ys, z :: zs, hxy, hyz => by
      rw [pyEqItems, Bool.and_eq_true] at hxy hyz ⊢
      exact ⟨pyEq_trans hxy.1 hyz.1, pyEqItems_trans hxy.2 hyz.2⟩
  | [], _ :: _, _, h, _ => absurd h Bool.false_ne_true
  | _ :: _, [], _, h, _ => absurd h Bool.false_ne_true
  | _ :: _, _ :: _, [], _, h => absurd h Bool.false_ne_true

theorem pyEqFields_trans : ∀ {xs ys zs : List (String × Json)}, pyEqFields xs ys →
    pyEqFields ys zs → pyEqFields xs zs
  | [], _, _, _, _ => rfl
  | (k, x) :: xs, ys, zs, hxy, hyz => by
      rw [pyEqFields, Bool.and_eq_true] at hxy ⊢
      refine ⟨?_, pyEqFields_trans hxy.2 hyz⟩
      have hhead := hxy.1
      split at hhead
      · rename_i y hy
        obtain ⟨z, hz, hyz⟩ := pyEqFields_lookup hyz hy
        rw [hz]
        exact pyEq_trans hhead hyz
      · cases hhead

end

end Json
