import Mathlib

/-!
# Dictionaries whose entries expire

A dictionary in insertion order, each of whose entries carries the time at which it expires.
Expiry is lazy: `expire` is called by the operations of whoever owns the dictionary, and a lookup
by itself looks at no clock.

* `TtlMap` — the dictionary; no key occurs twice.
* `expire`, `set`, `pop`, `get?`, `total` — its operations.
* `get?_expire`, `get?_set`, `get?_pop` — what a lookup answers after each of them.
* `visible` — what a lookup that expires first answers: the map as its readers see it.
-/

/-- A dictionary from `κ` to `ν` whose entries expire at times in `T`. -/
structure TtlMap (κ T ν : Type) where
  entries : List (κ × T × ν)
  nodup : (entries.map Prod.fst).Nodup

namespace TtlMap

variable {κ T ν : Type}

def empty : TtlMap κ T ν := ⟨[], List.nodup_nil⟩

def length (m : TtlMap κ T ν) : ℕ := m.entries.length

def keys (m : TtlMap κ T ν) : List κ := m.entries.map Prod.fst

/-- The sum of a measure of the values. -/
def total (f : ν → ℕ) (m : TtlMap κ T ν) : ℕ := (m.entries.map fun x => f x.2.2).sum

/-- Delete the entries that have expired by `now`. -/
def expire [LT T] [DecidableLT T] (m : TtlMap κ T ν) (now : T) : TtlMap κ T ν where
  entries := m.entries.filter fun x => now < x.2.1
  nodup := m.nodup.sublist (List.filter_sublist.map _)

variable [DecidableEq κ]

def get? (m : TtlMap κ T ν) (k : κ) : Option (T × ν) := m.entries.lookup k

/-- The assignment `m[k] = (e, v)`: an existing key keeps its place. -/
def set (m : TtlMap κ T ν) (k : κ) (e : T) (v : ν) : TtlMap κ T ν :=
  if h : k ∈ m.keys then
    { entries := m.entries.map fun x => if x.1 = k then (k, e, v) else x
      nodup := by
        have hkeys : (m.entries.map fun x => if x.1 = k then (k, e, v) else x).map Prod.fst =
            m.entries.map Prod.fst := by
          rw [List.map_map]
          refine List.map_congr_left fun x _ => ?_
          by_cases hx : x.1 = k <;> simp [hx]
        rw [hkeys]
        exact m.nodup }
  else
    { entries := m.entries ++ [(k, e, v)]
      nodup := by
        rw [List.map_append]
        refine m.nodup.append (List.nodup_singleton _) ?_
        exact List.disjoint_singleton.mpr h }

def pop (m : TtlMap κ T ν) (k : κ) : TtlMap κ T ν where
  entries := m.entries.filter fun x => x.1 ≠ k
  nodup := m.nodup.sublist (List.filter_sublist.map _)

/-! ## Lookups -/

lemma lookup_eq_some_iff {l : List (κ × T × ν)} (h : (l.map Prod.fst).Nodup) {k : κ} {x : T × ν} :
    l.lookup k = some x ↔ (k, x) ∈ l := by
  induction l with
  | nil => simp
  | cons y l ih =>
      obtain ⟨k', x'⟩ := y
      rw [List.map_cons, List.nodup_cons] at h
      by_cases hk : k = k'
      · subst hk
        have hnot : (k, x) ∉ l := fun hx => h.1 (List.mem_map.mpr ⟨(k, x), hx, rfl⟩)
        simp [hnot, eq_comm]
      · have hb : (k == k') = false := by simpa using hk
        simp [List.lookup_cons, hb, hk, ih h.2]

/-- A lookup finds the entry of the key. -/
theorem get?_eq_some_iff {m : TtlMap κ T ν} {k : κ} {x : T × ν} :
    m.get? k = some x ↔ (k, x) ∈ m.entries := lookup_eq_some_iff m.nodup

lemma mem_keys_iff {m : TtlMap κ T ν} {k : κ} : k ∈ m.keys ↔ ∃ x, m.get? k = some x := by
  simp only [keys, List.mem_map, get?_eq_some_iff]
  constructor
  · rintro ⟨⟨k', x⟩, hx, rfl⟩
    exact ⟨x, hx⟩
  · rintro ⟨x, hx⟩
    exact ⟨(k, x), hx, rfl⟩

@[simp] theorem get?_empty (k : κ) : (empty : TtlMap κ T ν).get? k = none := rfl

theorem get?_expire [LT T] [DecidableLT T] (m : TtlMap κ T ν) (now : T) (k : κ) :
    (m.expire now).get? k = (m.get? k).filter fun x => now < x.1 := by
  ext x
  rw [get?_eq_some_iff, Option.filter_eq_some_iff, get?_eq_some_iff]
  simp [expire]

theorem get?_set (m : TtlMap κ T ν) (k : κ) (e : T) (v : ν) (k' : κ) :
    (m.set k e v).get? k' = if k' = k then some (e, v) else m.get? k' := by
  ext x
  rw [get?_eq_some_iff]
  unfold set
  split_ifs with h hk hk
  · subst hk
    obtain ⟨y, hy⟩ := mem_keys_iff.mp h
    rw [get?_eq_some_iff] at hy
    simp only [List.mem_map, Option.some.injEq]
    constructor
    · rintro ⟨z, hz, hx⟩
      by_cases hzk : z.1 = k'
      · rw [if_pos hzk] at hx
        exact (Prod.mk.inj hx).2
      · rw [if_neg hzk] at hx
        exact absurd (congrArg Prod.fst hx) hzk
    · rintro rfl
      exact ⟨(k', y), hy, by simp⟩
  · rw [get?_eq_some_iff]
    simp only [List.mem_map]
    constructor
    · rintro ⟨z, hz, hx⟩
      by_cases hzk : z.1 = k
      · rw [if_pos hzk] at hx
        exact absurd (congrArg Prod.fst hx).symm hk
      · rw [if_neg hzk] at hx
        exact hx ▸ hz
    · intro hx
      exact ⟨(k', x), hx, if_neg hk⟩
  · subst hk
    have hnot : (k', x) ∉ m.entries := fun hx => h (List.mem_map.mpr ⟨(k', x), hx, rfl⟩)
    simp [hnot, eq_comm]
  · rw [get?_eq_some_iff]
    simp [hk]

theorem get?_pop (m : TtlMap κ T ν) (k k' : κ) :
    (m.pop k).get? k' = if k' = k then none else m.get? k' := by
  ext x
  rw [get?_eq_some_iff]
  split_ifs with hk
  · simp [pop, hk]
  · simp [pop, hk, get?_eq_some_iff]

/-! ## What readers see -/

/-- What is found at time `t` by a reader that expires first. -/
def visible [LT T] [DecidableLT T] (m : TtlMap κ T ν) (t : T) (k : κ) : Option (T × ν) :=
  (m.expire t).get? k

theorem visible_eq_some_iff [LT T] [DecidableLT T] {m : TtlMap κ T ν} {t : T} {k : κ}
    {x : T × ν} : m.visible t k = some x ↔ m.get? k = some x ∧ t < x.1 := by
  rw [visible, get?_expire, Option.filter_eq_some_iff, decide_eq_true_eq]

/-- An expiry is not seen by those who come after it. -/
theorem visible_expire [LinearOrder T] (m : TtlMap κ T ν) {now t : T} (h : now ≤ t) (k : κ) :
    (m.expire now).visible t k = m.visible t k := by
  ext x
  rw [visible_eq_some_iff, visible_eq_some_iff, get?_expire, Option.filter_eq_some_iff,
    decide_eq_true_eq]
  constructor
  · rintro ⟨⟨hx, -⟩, ht⟩
    exact ⟨hx, ht⟩
  · rintro ⟨hx, ht⟩
    exact ⟨⟨hx, h.trans_lt ht⟩, ht⟩

/-- An assignment is seen under its own key only. -/
theorem visible_set_of_ne [LT T] [DecidableLT T] (m : TtlMap κ T ν) {k k' : κ} (h : k' ≠ k)
    (e : T) (v : ν) (t : T) : (m.set k e v).visible t k' = m.visible t k' := by
  rw [visible, visible, get?_expire, get?_expire, get?_set, if_neg h]

/-! ## Sizes -/

omit [DecidableEq κ] in
lemma length_expire_le [LT T] [DecidableLT T] (m : TtlMap κ T ν) (now : T) :
    (m.expire now).length ≤ m.length := List.length_filter_le _ _

omit [DecidableEq κ] in
lemma total_expire_le [LT T] [DecidableLT T] (f : ν → ℕ) (m : TtlMap κ T ν) (now : T) :
    (m.expire now).total f ≤ m.total f :=
  List.Sublist.sum_le_sum (List.filter_sublist.map _) fun _ _ => Nat.zero_le _

lemma length_pop_le (m : TtlMap κ T ν) (k : κ) : (m.pop k).length ≤ m.length :=
  List.length_filter_le _ _

lemma total_pop_le (f : ν → ℕ) (m : TtlMap κ T ν) (k : κ) : (m.pop k).total f ≤ m.total f :=
  List.Sublist.sum_le_sum (List.filter_sublist.map _) fun _ _ => Nat.zero_le _

lemma length_set {m : TtlMap κ T ν} {k : κ} (h : k ∉ m.keys) (e : T) (v : ν) :
    (m.set k e v).length = m.length + 1 := by
  simp [set, h, length]

lemma total_set {m : TtlMap κ T ν} {k : κ} (h : k ∉ m.keys) (f : ν → ℕ) (e : T) (v : ν) :
    (m.set k e v).total f = m.total f + f v := by
  simp [set, h, total]

end TtlMap
