import SpeakrRunpod.Core.Encoding

/-!
# Text that is cut at a byte

A text in UTF-8 that is cut at any byte and decoded again, where what cannot be read is replaced.
The cut falls between two characters or inside one (`cut_cases`); inside one,

* `decode_take` — the bytes that are left at the end of the front come to one replacement character;
* `decode_drop` — the bytes at the start of the rest come to one replacement character each.
-/

namespace Codec

/-! ## One character -/

/-- **The bytes that end a character**: the pending sequence takes them one by one, and they come to
`c`. -/
inductive Feeds (c : Char) : Pending → Bytes → Prop
  | last {p : Pending} {b : UInt8} (hlow : p.low ≤ b.toNat) (hhigh : b.toNat ≤ p.high)
      (howed : p.owed = 1) (hc : 64 * p.acc + (b.toNat - 0x80) = c.toNat) : Feeds c p [b]
  | more {p : Pending} {b : UInt8} {bs : Bytes} (hlow : p.low ≤ b.toNat)
      (hhigh : b.toNat ≤ p.high) (howed : p.owed ≠ 1)
      (hbs : Feeds c ⟨p.owed - 1, 64 * p.acc + (b.toNat - 0x80), 0x80, 0xbf⟩ bs) :
      Feeds c p (b :: bs)

/-- A byte that continues a sequence and begins none. -/
def IsTail (b : UInt8) : Prop := 0x80 ≤ b.toNat ∧ b.toNat < 0xc0

/-- A character is one byte of ASCII, or a first byte with the ones that end it. -/
inductive Encodes (c : Char) : Bytes → Prop
  | ascii {b : UInt8} (hb : b.toNat = c.toNat) (hc : c.toNat < 0x80) : Encodes c [b]
  | sequence {b : UInt8} {p : Pending} {bs : Bytes} (hlead : leadByte b = ([], some p))
      (hbs : Feeds c p bs) (htail : ∀ b' ∈ bs, IsTail b') : Encodes c (b :: bs)

lemma toNat_ofNat {n : ℕ} (h : n < 256) : (UInt8.ofNat n).toNat = n := by
  rw [UInt8.toNat_ofNat']
  omega

lemma isTail_ofNat {n : ℕ} (h : n < 0x40) : IsTail (UInt8.ofNat (n + 0x80)) := by
  rw [IsTail, toNat_ofNat (by omega)]
  omega

lemma Feeds.ofLast {c : Char} {p : Pending} {n : ℕ} (hn : n < 0x40) (hlow : p.low ≤ n + 0x80)
    (hhigh : n + 0x80 ≤ p.high) (howed : p.owed = 1) (hc : 64 * p.acc + n = c.toNat) :
    Feeds c p [UInt8.ofNat (n + 0x80)] := by
  have hb : (UInt8.ofNat (n + 0x80)).toNat = n + 0x80 := toNat_ofNat (by omega)
  exact .last (by omega) (by omega) howed (by omega)

lemma Feeds.ofMore {c : Char} {p : Pending} {n : ℕ} {bs : Bytes} (hn : n < 0x40)
    (hlow : p.low ≤ n + 0x80) (hhigh : n + 0x80 ≤ p.high) (howed : p.owed ≠ 1)
    (hbs : Feeds c ⟨p.owed - 1, 64 * p.acc + n, 0x80, 0xbf⟩ bs) :
    Feeds c p (UInt8.ofNat (n + 0x80) :: bs) := by
  have hb : (UInt8.ofNat (n + 0x80)).toNat = n + 0x80 := toNat_ofNat (by omega)
  refine .more (by omega) (by omega) howed ?_
  rw [hb, Nat.add_sub_cancel]
  exact hbs

lemma leadByte_two {n : ℕ} (hlow : 2 ≤ n) (hhigh : n < 0x20) :
    leadByte (UInt8.ofNat (n + 0xc0)) = ([], some ⟨1, n, 0x80, 0xbf⟩) := by
  have hb : (UInt8.ofNat (n + 0xc0)).toNat = n + 0xc0 := toNat_ofNat (by omega)
  rw [leadByte, hb, if_neg (by omega), if_pos (by omega), Nat.add_sub_cancel]

lemma leadByte_three {n : ℕ} (hhigh : n < 0x10) :
    leadByte (UInt8.ofNat (n + 0xe0)) =
      ([], some ⟨2, n, if n = 0 then 0xa0 else 0x80, if n = 0xd then 0x9f else 0xbf⟩) := by
  have hb : (UInt8.ofNat (n + 0xe0)).toNat = n + 0xe0 := toNat_ofNat (by omega)
  rw [leadByte, hb, if_neg (by omega), if_neg (by omega), if_pos (by omega), Nat.add_sub_cancel]
  simp

lemma leadByte_four {n : ℕ} (hhigh : n < 5) :
    leadByte (UInt8.ofNat (n + 0xf0)) =
      ([], some ⟨3, n, if n = 0 then 0x90 else 0x80, if n = 4 then 0x8f else 0xbf⟩) := by
  have hb : (UInt8.ofNat (n + 0xf0)).toNat = n + 0xf0 := toNat_ofNat (by omega)
  rw [leadByte, hb, if_neg (by omega), if_neg (by omega), if_neg (by omega), if_pos (by omega),
    Nat.add_sub_cancel]
  simp

/-- **The encoder writes such a sequence for every character.** -/
lemma encodes (c : Char) : Encodes c (String.utf8EncodeChar c) := by
  have hc : c.toNat < 0xd800 ∨ 0xdfff < c.toNat ∧ c.toNat < 0x110000 := c.valid
  have hv : c.val.toNat = c.toNat := rfl
  have htail : ∀ n, IsTail (UInt8.ofNat (n % 64 + 0x80)) := fun n => isTail_ofNat (by omega)
  unfold String.utf8EncodeChar
  dsimp only
  rw [hv]
  split_ifs with h₁ h₂ h₃
  · exact .ascii (toNat_ofNat (by omega)) (by omega)
  · refine .sequence (leadByte_two (by omega) (by omega)) ?_ ?_
    · exact .ofLast (by omega) (by simp) (by simp; omega) rfl (by simp; omega)
    · rw [List.forall_mem_singleton]
      exact htail _
  · refine .sequence (leadByte_three (by omega)) ?_ ?_
    · refine .ofMore (by omega) ?_ ?_ (by simp) ?_
      · dsimp only
        split_ifs <;> omega
      · dsimp only
        split_ifs <;> omega
      · exact .ofLast (by omega) (by simp) (by simp; omega) rfl (by simp; omega)
    · rw [List.forall_mem_cons, List.forall_mem_singleton]
      exact ⟨htail _, htail _⟩
  · refine .sequence (leadByte_four (by omega)) ?_ ?_
    · refine .ofMore (by omega) ?_ ?_ (by simp) ?_
      · dsimp only
        split_ifs <;> omega
      · dsimp only
        split_ifs <;> omega
      · refine .ofMore (by omega) (by simp) (by simp; omega) (by simp) ?_
        exact .ofLast (by omega) (by simp) (by simp; omega) rfl (by simp; omega)
    · rw [List.forall_mem_cons, List.forall_mem_cons, List.forall_mem_singleton]
      exact ⟨htail _, htail _, htail _⟩

/-- The whole sequence is read as the character. -/
lemma Feeds.whole {c : Char} {p : Pending} {bs : Bytes} (h : Feeds c p bs) (rest : Bytes) :
    utf8ReplaceFrom (some p) (bs ++ rest) = c :: utf8ReplaceFrom none rest := by
  induction h with
  | last hlow hhigh howed hc =>
      simp [utf8ReplaceFrom, nextByte, hlow, hhigh, howed, hc]
  | more hlow hhigh howed _ ih =>
      simp [utf8ReplaceFrom, nextByte, hlow, hhigh, howed, ih]

/-- What is left of it, if it is cut, is replaced once. -/
lemma Feeds.cut {c : Char} {p : Pending} {bs : Bytes} (h : Feeds c p bs) {n : ℕ}
    (hn : n < bs.length) : utf8ReplaceFrom (some p) (bs.take n) = [replacement] := by
  induction h generalizing n with
  | last hlow hhigh howed hc =>
      obtain rfl : n = 0 := by simpa using hn
      rfl
  | more hlow hhigh howed _ ih =>
      cases n with
      | zero => rfl
      | succ n =>
          have hn' := Nat.lt_of_succ_lt_succ hn
          simp [utf8ReplaceFrom, nextByte, hlow, hhigh, howed, ih hn']

/-- The bytes that end a sequence, without the one that begins it, are replaced one by one. -/
lemma replace_tails {bs : Bytes} (h : ∀ b ∈ bs, IsTail b) (rest : Bytes) :
    utf8ReplaceFrom none (bs ++ rest) =
      List.replicate bs.length replacement ++ utf8ReplaceFrom none rest := by
  induction bs with
  | nil => rfl
  | cons b bs ih =>
      have hb : IsTail b := h b List.mem_cons_self
      have hlead : leadByte b = ([replacement], none) := by
        unfold IsTail at hb
        rw [leadByte, if_neg (by omega), if_neg (by omega), if_neg (by omega), if_neg (by omega)]
      simp [utf8ReplaceFrom, nextByte, hlead, List.replicate_succ,
        ih fun b' hb' => h b' (List.mem_cons_of_mem _ hb')]

/-! ## A text -/

@[simp] lemma encodeUtf8_nil : encodeUtf8 [] = [] := rfl

lemma encodeUtf8_cons (c : Char) (cs : List Char) :
    encodeUtf8 (c :: cs) = String.utf8EncodeChar c ++ encodeUtf8 cs := List.flatMap_cons

lemma encodeUtf8_append (cs ds : List Char) :
    encodeUtf8 (cs ++ ds) = encodeUtf8 cs ++ encodeUtf8 ds := List.flatMap_append

lemma Encodes.whole {c : Char} {bs : Bytes} (h : Encodes c bs) (rest : Bytes) :
    utf8ReplaceFrom none (bs ++ rest) = c :: utf8ReplaceFrom none rest := by
  cases h with
  | ascii hb hc => simp [utf8ReplaceFrom, nextByte, leadByte, hb, hc]
  | sequence hlead hbs _ => simp [utf8ReplaceFrom, nextByte, hlead, hbs.whole]

lemma Encodes.take {c : Char} {bs : Bytes} (h : Encodes c bs) {n : ℕ} (hpos : 0 < n)
    (hn : n < bs.length) : utf8ReplaceFrom none (bs.take n) = [replacement] := by
  cases h with
  | ascii hb hc =>
      rw [List.length_singleton] at hn
      omega
  | sequence hlead hbs _ =>
      obtain ⟨n, rfl⟩ := Nat.exists_eq_add_of_lt hpos
      rw [List.length_cons] at hn
      rw [Nat.zero_add, List.take_succ_cons, utf8ReplaceFrom, nextByte, hlead]
      exact hbs.cut (by omega)

lemma Encodes.drop {c : Char} {bs : Bytes} (h : Encodes c bs) {n : ℕ} (hpos : 0 < n)
    (rest : Bytes) :
    utf8ReplaceFrom none (bs.drop n ++ rest) =
      List.replicate (bs.length - n) replacement ++ utf8ReplaceFrom none rest := by
  have htails : ∀ b ∈ bs.drop n, IsTail b := by
    obtain ⟨n, rfl⟩ := Nat.exists_eq_add_of_lt hpos
    rw [Nat.zero_add]
    intro b hb
    cases h with
    | ascii hb' hc => simp at hb
    | sequence hlead hbs htail =>
        rw [List.drop_succ_cons] at hb
        exact htail b (List.mem_of_mem_drop hb)
  rw [replace_tails htails, List.length_drop]

/-- Text in front of whatever follows is read as it is. -/
lemma decode_encode (cs : List Char) (rest : Bytes) :
    utf8ReplaceFrom none (encodeUtf8 cs ++ rest) = cs ++ utf8ReplaceFrom none rest := by
  induction cs with
  | nil => rfl
  | cons c cs ih => rw [encodeUtf8_cons, List.append_assoc, (encodes c).whole, ih, List.cons_append]

lemma length_encodeUtf8 (cs : List Char) : (encodeUtf8 cs).length = (cs.map Char.utf8Size).sum := by
  simp [encodeUtf8, List.length_flatMap]

/-- **Every cut is in a character**: it keeps some of the bytes of one, perhaps none. -/
lemma cut_cases {cs : List Char} {n : ℕ} (h : n < (encodeUtf8 cs).length) :
    ∃ front c rest kept, cs = front ++ c :: rest ∧ n = (encodeUtf8 front).length + kept ∧
      kept < c.utf8Size := by
  induction cs generalizing n with
  | nil => simp [encodeUtf8] at h
  | cons c cs ih =>
      rw [encodeUtf8_cons, List.length_append, String.length_utf8EncodeChar] at h
      rcases Nat.lt_or_ge n c.utf8Size with hlt | hge
      · exact ⟨[], c, cs, n, rfl, by simp [encodeUtf8], hlt⟩
      · have hrest : n - c.utf8Size < (encodeUtf8 cs).length := by omega
        obtain ⟨front, c', rest, kept, hcs, hn, hkept⟩ := ih hrest
        refine ⟨c :: front, c', rest, kept, by rw [hcs, List.cons_append], ?_, hkept⟩
        rw [encodeUtf8_cons, List.length_append, String.length_utf8EncodeChar]
        omega

/-- The number of bytes tells which character is cut, and where. -/
lemma cut_unique {front front' : List Char} {c c' : Char} {rest rest' : List Char}
    {kept kept' : ℕ} (h : front ++ c :: rest = front' ++ c' :: rest')
    (hn : (encodeUtf8 front).length + kept = (encodeUtf8 front').length + kept')
    (hkept : kept < c.utf8Size) (hkept' : kept' < c'.utf8Size) :
    front = front' ∧ kept = kept' := by
  induction front generalizing front' with
  | nil =>
      cases front' with
      | nil => exact ⟨rfl, by simpa using hn⟩
      | cons d front' =>
          obtain ⟨rfl, -⟩ := List.cons.inj h
          simp [encodeUtf8_cons] at hn
          omega
  | cons d front ih =>
      cases front' with
      | nil =>
          obtain ⟨rfl, -⟩ := List.cons.inj h
          simp [encodeUtf8_cons] at hn
          omega
      | cons d' front' =>
          obtain ⟨rfl, htail⟩ := List.cons.inj h
          simp [encodeUtf8_cons] at hn
          obtain ⟨rfl, hkeep⟩ := ih htail (by omega)
          exact ⟨rfl, hkeep⟩

/-- **The front of a text that is cut in `c`.** -/
theorem decode_take (front : List Char) (c : Char) (rest : List Char) {kept : ℕ}
    (h : kept < c.utf8Size) :
    utf8ReplaceFrom none
        ((encodeUtf8 (front ++ c :: rest)).take ((encodeUtf8 front).length + kept)) =
      front ++ if kept = 0 then [] else [replacement] := by
  rw [← String.length_utf8EncodeChar] at h
  rw [encodeUtf8_append, List.take_length_add_append, encodeUtf8_cons,
    List.take_append_of_le_length h.le, decode_encode]
  split_ifs with hkept
  · rw [hkept]
    rfl
  · rw [(encodes c).take (Nat.pos_of_ne_zero hkept) h]

/-- **The rest of a text that is cut in `c`.** -/
theorem decode_drop (front : List Char) (c : Char) (rest : List Char) {kept : ℕ}
    (h : kept < c.utf8Size) :
    utf8ReplaceFrom none
        ((encodeUtf8 (front ++ c :: rest)).drop ((encodeUtf8 front).length + kept)) =
      (if kept = 0 then [c] else List.replicate (c.utf8Size - kept) replacement) ++ rest := by
  have hrest : utf8ReplaceFrom none (encodeUtf8 rest) = rest := by
    simpa [utf8ReplaceFrom] using decode_encode rest []
  have hlength := String.length_utf8EncodeChar c
  rw [encodeUtf8_append, List.drop_length_add_append, encodeUtf8_cons,
    List.drop_append_of_le_length (by omega)]
  split_ifs with hkept
  · rw [hkept, List.drop_zero, (encodes c).whole, hrest]
    rfl
  · rw [(encodes c).drop (Nat.pos_of_ne_zero hkept), hrest, hlength]

end Codec
