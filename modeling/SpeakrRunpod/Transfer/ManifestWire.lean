import SpeakrRunpod.Adapter.ResultTransfer
import SpeakrRunpod.Wrapper.ResultStore

/-!
# The manifest between the two programs

What the wrapper sends after it has stored a result is what the adapter requires of a manifest.

* `render_length_le` — it is small enough.
* `loads_render` — it is read as the object it was written from.
* `readManifest_render` — `read_manifest` accepts it, however it is cut into parts.
-/

namespace SpeakrRunpod

/-- The result was stored: its manifest is that of a body of a permitted size. -/
structure ResultManifest.Describes (manifest : ResultManifest) (body : Bytes) : Prop where
  id : PyText.IsHex 32 manifest.id
  nonempty : 0 < body.length
  bounded : body.length ≤ maxResultBytes
  length : manifest.length = body.length
  sha256 : manifest.sha256 = Sha256.hexdigest body

/-- An accepted store returns the manifest of the body, and the body is found under its id. -/
theorem storeResult_describes {now later : ℚ} {resultId : String} {body : Bytes}
    {results results' : Results} {manifest : ResultManifest} (hid : PyText.IsHex 32 resultId)
    (h : storeResult now later resultId body results = (results', .ok manifest)) :
    manifest.id = resultId ∧ manifest.Describes body ∧
      results'.get? resultId =
        some (later + resultTtlSeconds, ⟨body, Sha256.hexdigest body⟩) := by
  rcases storeResult_cases now later resultId body results with
    ⟨⟨detail, hres⟩, -⟩ | ⟨heq, hbody, hlen, -, -⟩
  · rw [h] at hres
    cases hres
  · rw [h] at heq
    obtain ⟨rfl, hmanifest⟩ := Prod.mk.inj heq
    cases hmanifest
    refine ⟨rfl, ⟨hid, List.length_pos_iff.mpr hbody, hlen, rfl, rfl⟩, ?_⟩
    rw [TtlMap.get?_set, if_pos rfl]

/-! ## Its size -/

/-- The characters that are encoded as themselves, in one byte each. -/
def Plain (cs : List Char) : Prop := ∀ c ∈ cs, c.toNat < 0x80

lemma plain_of_all {cs : List Char} (h : cs.all fun c => c.toNat < 0x80) : Plain cs :=
  fun c hc => of_decide_eq_true (List.all_eq_true.mp h c hc)

lemma Plain.append {cs ds : List Char} (hcs : Plain cs) (hds : Plain ds) : Plain (cs ++ ds) :=
  fun c hc => (List.mem_append.mp hc).elim (hcs c) (hds c)

lemma encodeUtf8_length {cs : List Char} (h : Plain cs) : (Codec.encodeUtf8 cs).length = cs.length := by
  induction cs with
  | nil => rfl
  | cons c cs ih =>
      have hc : c.val.toNat ≤ 0x7f := Nat.le_of_lt_succ (h c List.mem_cons_self)
      have hone : (String.utf8EncodeChar c).length = 1 := by
        rw [String.utf8EncodeChar, if_pos hc]
        rfl
      have htail := ih fun c hc => h c (List.mem_cons_of_mem _ hc)
      rw [Codec.encodeUtf8, List.flatMap_cons, List.length_append, hone, List.length_cons]
      rw [Codec.encodeUtf8] at htail
      omega

/-- A hexadecimal digit is in ASCII and is not escaped. -/
lemma hexDigit_plain {c : Char} (h : PyText.isHexDigit c) : c.toNat < 0x80 ∧ Json.escape c = [c] := by
  have hlt : c.toNat < 0x80 := by
    simp only [PyText.isHexDigit, Bool.or_eq_true, Bool.and_eq_true, decide_eq_true_eq] at h
    rcases h with ⟨-, hle⟩ | ⟨-, hle⟩ <;>
      exact Nat.lt_of_le_of_lt (UInt32.le_iff_toNat_le.mp hle) (by decide)
  have hall : ∀ n < 0x80, PyText.isHexDigit (Char.ofNat n) →
      Json.escape (Char.ofNat n) = [Char.ofNat n] := by decide
  refine ⟨hlt, ?_⟩
  rw [← Char.ofNat_toNat c] at h ⊢
  exact hall c.toNat hlt h

/-- A hexadecimal string is written between its quotes as it is. -/
lemma quote_hex {n : ℕ} {s : String} (h : PyText.IsHex n s) :
    Plain (Json.quote s) ∧ (Json.quote s).length = n + 2 := by
  obtain ⟨hlen, hall⟩ := h
  rw [List.all_eq_true] at hall
  have hflat : s.toList.flatMap Json.escape = s.toList := by
    have hmap : s.toList.flatMap Json.escape = s.toList.flatMap fun c => [c] :=
      List.flatMap_congr fun c hc => (hexDigit_plain (hall c hc)).2
    rw [hmap, List.flatMap_singleton']
  rw [Json.quote, hflat]
  constructor
  · intro c hc
    rcases List.mem_cons.mp (List.cons_append ▸ hc) with rfl | hc
    · decide
    · rcases List.mem_append.mp hc with hc | hc
      · exact (hexDigit_plain (hall c hc)).1
      · rw [List.mem_singleton.mp hc]
        decide
  · rw [List.cons_append, List.length_cons, List.length_append, hlen]
    rfl

/-- A number in decimal. -/
lemma plain_toDigits (n : ℕ) : Plain (Nat.toDigits 10 n) := by
  intro c hc
  have hdigit : c.isDigit := Nat.isDigit_of_mem_toDigits (by decide) (by decide) hc
  rw [Char.isDigit, Bool.and_eq_true, decide_eq_true_eq, decide_eq_true_eq] at hdigit
  exact Nat.lt_of_le_of_lt (UInt32.le_iff_toNat_le.mp hdigit.2) (by decide)

lemma numeral_plain {n : ℕ} (hn : n ≤ maxResultBytes) :
    Plain (Json.numeral n) ∧ (Json.numeral n).length ≤ 7 :=
  ⟨plain_toDigits n, (Nat.length_toDigits_le_iff (by decide) (by decide)).mpr
    (Nat.lt_of_le_of_lt hn (by decide))⟩

/-- The text that is sent. -/
def ResultManifest.text (manifest : ResultManifest) : List Char :=
  Json.compactObject
    [("id", Json.quote manifest.id), ("length", Json.numeral manifest.length),
      ("sha256", Json.quote manifest.sha256)]

lemma text_eq (manifest : ResultManifest) :
    manifest.text = '{' :: (Json.quote "id" ++ ':' :: (Json.quote manifest.id ++ ',' ::
      (Json.quote "length" ++ ':' :: (Json.numeral manifest.length ++ ',' ::
        (Json.quote "sha256" ++ ':' :: (Json.quote manifest.sha256 ++ ['}'])))))) := by
  simp [ResultManifest.text, Json.compactObject, Json.compactMembers]

section Render

variable {manifest : ResultManifest} {body : Bytes}

/-- **The manifest of a stored result is within the limit of the adapter.** -/
theorem render_length_le (h : manifest.Describes body) :
    manifest.render.length ≤ maxManifestBytes := by
  obtain ⟨hid, hidLength⟩ := quote_hex h.id
  obtain ⟨hlength, hlengthLength⟩ : Plain (Json.numeral manifest.length) ∧ _ :=
    numeral_plain (h.length ▸ h.bounded)
  obtain ⟨hdigest, hdigestLength⟩ := quote_hex (h.sha256 ▸ Sha256.hexdigest_isHex body)
  have hname : Plain (Json.quote "id") ∧ Plain (Json.quote "length") ∧
      Plain (Json.quote "sha256") :=
    ⟨plain_of_all (by decide), plain_of_all (by decide), plain_of_all (by decide)⟩
  have hnameLength : (Json.quote "id").length = 4 ∧ (Json.quote "length").length = 8 ∧
      (Json.quote "sha256").length = 8 := by decide
  have hcons : ∀ {c : Char} {cs : List Char}, c.toNat < 0x80 → Plain cs → Plain (c :: cs) := by
    intro c cs hc hcs
    have hhead : Plain [c] := fun x hx => List.mem_singleton.mp hx ▸ hc
    exact hhead.append hcs
  have hplain : Plain manifest.text := by
    rw [text_eq]
    exact hcons (by decide) (hname.1.append (hcons (by decide) (hid.append (hcons (by decide)
      (hname.2.1.append (hcons (by decide) (hlength.append (hcons (by decide)
        (hname.2.2.append (hcons (by decide) (hdigest.append
          (hcons (by decide) fun _ hx => absurd hx List.not_mem_nil))))))))))))
  have hlen : manifest.text.length ≤ maxManifestBytes := by
    rw [text_eq]
    simp only [List.length_cons, List.length_append, List.length_nil, hidLength, hdigestLength,
      hnameLength, maxManifestBytes]
    omega
  exact (encodeUtf8_length hplain).trans_le hlen

/-- The members of the manifest, with their values as they are read back. -/
def ResultManifest.members (manifest : ResultManifest) : List Json.Member :=
  [("id", Json.quote manifest.id, .str manifest.id),
    ("length", Json.numeral manifest.length, .int manifest.length),
    ("sha256", Json.quote manifest.sha256, .str manifest.sha256)]

/-- What is sent is read as the object it was written from. -/
theorem loads_render (nested : ℕ) (h : manifest.Describes body) :
    Json.loads nested manifest.render =
      .ok (.obj [("id", .str manifest.id), ("length", .int manifest.length),
        ("sha256", .str manifest.sha256)]) := by
  have hnumeral : (Json.numeral manifest.length).length ≤ PyText.maxIntDigits :=
    (numeral_plain (h.length ▸ h.bounded)).2.trans (by decide)
  have hne : manifest.members ≠ [] := List.cons_ne_nil _ _
  have hnames : (manifest.members.map Prod.fst).Nodup := by
    simp [ResultManifest.members]
  refine Json.loads_compactObject nested hne hnames fun m hm => ?_
  simp only [ResultManifest.members, List.mem_cons, List.not_mem_nil, or_false] at hm
  rcases hm with rfl | rfl | rfl
  · exact Json.encodes_quote nested manifest.id
  · exact Json.encodes_numeral hnumeral
  · exact Json.encodes_quote nested manifest.sha256

/-- A length that is declared as it is passes the guard. -/
lemma declaredExceeds_length {declared : Option String} {n limit : ℕ} (hn : n ≤ limit)
    (hlimit : limit < 10 ^ PyText.maxIntDigits)
    (h : declared = none ∨ declared = some (toString n)) :
    declaredExceeds declared limit = .ok false := by
  rcases h with rfl | rfl
  · rfl
  · obtain ⟨hdecimal, hparse⟩ := PyText.parseInt_toString (Nat.lt_of_le_of_lt hn hlimit)
    rw [declaredExceeds, if_pos hdecimal, hparse]
    exact congrArg Except.ok (decide_eq_false (Nat.not_lt.mpr hn))

/-- **`read_manifest` accepts the manifest of a stored result**, in whatever parts it arrives. -/
theorem readManifest_render (nested : ℕ) (h : manifest.Describes body) {parts : List Bytes}
    {declared : Option String} (hparts : parts.flatten = manifest.render)
    (hdeclared : declared = none ∨ declared = some (toString manifest.render.length)) :
    ∃ m, readManifest nested ⟨declared, parts, none⟩ = .ok m ∧ m.id = manifest.id ∧
      m.length = body.length ∧ m.sha256 = Sha256.hexdigest body := by
  have hsize := render_length_le h
  have hread : readManifestParts none [] parts = .ok manifest.render := by
    rw [readManifestParts_within (by rw [List.nil_append, hparts]; exact hsize), List.nil_append,
      hparts]
    rfl
  have hlimit : maxManifestBytes < 10 ^ PyText.maxIntDigits :=
    Nat.lt_of_lt_of_le (by decide : maxManifestBytes < 10 ^ 4)
      (Nat.pow_le_pow_right (by decide) (by decide))
  have hchecks : PyText.IsHex 32 manifest.id ∧
      (0 < manifest.length ∧ manifest.length ≤ maxResultBytes) ∧
        PyText.IsHex 64 manifest.sha256 :=
    ⟨h.id, ⟨h.length ▸ h.nonempty, h.length ▸ h.bounded⟩, h.sha256 ▸ Sha256.hexdigest_isHex body⟩
  refine ⟨⟨manifest.id, manifest.length, manifest.sha256, hchecks.1, hchecks.2.1.1, hchecks.2.1.2,
    hchecks.2.2⟩, ?_, rfl, h.length, h.sha256⟩
  unfold readManifest
  rw [declaredExceeds_length hsize hlimit hdeclared]
  show (readManifestParts none [] parts >>= fun data => _) = _
  rw [hread]
  dsimp only [bind, Except.bind]
  rw [loads_render nested h]
  show (if _ : _ ∧ _ then _ else _) = _
  exact dif_pos hchecks

end Render

end SpeakrRunpod
