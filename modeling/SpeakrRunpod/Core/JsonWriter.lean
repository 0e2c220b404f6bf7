import SpeakrRunpod.Core.JsonText

/-!
# Documents that are written

`json.dumps` in its compact form, for documents without floating-point numbers, and reading back what
it wrote.

* `Doc`, `Doc.dump`, `Doc.toJson` — a document, its text, the value it stands for.
* `Fits` — a document that the parser takes: names are distinct, numerals not too long, and containers
  nest no deeper than the stack has room.
* `parse_dump`, `loads_dump` — **what has been written is read back.**
-/

namespace Json

/-- A document without floating-point numbers. -/
inductive Doc
  | null
  | bool (b : Bool)
  | int (n : ℤ)
  | str (s : String)
  | arr (items : List Doc)
  | obj (fields : List (String × Doc))

/-- The encoding of an integer. -/
def intText : ℤ → List Char
  | .ofNat n => numeral n
  | .negSucc n => '-' :: numeral (n + 1)

/-- The encoding of the items of an array, given those of each. -/
def compactItems : List (List Char) → List Char
  | [] => [']']
  | [x] => x ++ [']']
  | x :: xs => x ++ ',' :: compactItems xs

namespace Doc

mutual

/-- The value that a document stands for. -/
def toJson : Doc → Json
  | .null => .null
  | .bool b => .bool b
  | .int n => .int n
  | .str s => .str s
  | .arr items => .arr (toJsons items)
  | .obj fields => .obj (toFields fields)

def toJsons : List Doc → List Json
  | [] => []
  | d :: ds => d.toJson :: toJsons ds

def toFields : List (String × Doc) → List (String × Json)
  | [] => []
  | (name, d) :: fields => (name, d.toJson) :: toFields fields

end

mutual

/-- `json.dumps(…, ensure_ascii=False, separators=(",", ":"))`. -/
def dump : Doc → List Char
  | .null => "null".toList
  | .bool b => if b then "true".toList else "false".toList
  | .int n => intText n
  | .str s => quote s
  | .arr items => '[' :: compactItems (dumps items)
  | .obj fields => compactObject (dumpFields fields)

def dumps : List Doc → List (List Char)
  | [] => []
  | d :: ds => d.dump :: dumps ds

def dumpFields : List (String × Doc) → List (String × List Char)
  | [] => []
  | (name, d) :: fields => (name, d.dump) :: dumpFields fields

end

lemma toJsons_eq (ds : List Doc) : toJsons ds = ds.map toJson := by
  induction ds with
  | nil => rfl
  | cons d ds ih => rw [toJsons, ih, List.map_cons]

lemma dumps_eq (ds : List Doc) : dumps ds = ds.map dump := by
  induction ds with
  | nil => rfl
  | cons d ds ih => rw [dumps, ih, List.map_cons]

/-- The members of an object, each with its text and its value. -/
def member (f : String × Doc) : Member := (f.1, f.2.dump, f.2.toJson)

lemma toFields_eq (fields : List (String × Doc)) :
    toFields fields = (fields.map member).map Member.read := by
  induction fields with
  | nil => rfl
  | cons f fields ih =>
      obtain ⟨name, d⟩ := f
      rw [toFields, ih, List.map_cons, List.map_cons]
      rfl

lemma dumpFields_eq (fields : List (String × Doc)) :
    dumpFields fields = (fields.map member).map Member.written := by
  induction fields with
  | nil => rfl
  | cons f fields ih =>
      obtain ⟨name, d⟩ := f
      rw [dumpFields, ih, List.map_cons, List.map_cons]
      rfl

end Doc

/-- **A document that the parser takes**, where `depth` containers may be open at once. -/
inductive Fits : ℕ → Doc → Prop
  | null (depth : ℕ) : Fits depth .null
  | bool (depth : ℕ) (b : Bool) : Fits depth (.bool b)
  | int (depth : ℕ) (n : ℤ) (h : (numeral n.natAbs).length ≤ PyText.maxIntDigits) :
      Fits depth (.int n)
  | str (depth : ℕ) (s : String) : Fits depth (.str s)
  | arr (depth : ℕ) (items : List Doc) (h : ∀ d ∈ items, Fits depth d) :
      Fits (depth + 1) (.arr items)
  | obj (depth : ℕ) (fields : List (String × Doc)) (hnodup : (fields.map Prod.fst).Nodup)
      (h : ∀ f ∈ fields, Fits depth f.2) : Fits (depth + 1) (.obj fields)

/-! ## Reading one value -/

/-- `written` is read as `v` wherever it stands in front of something that is no part of a number.
It begins neither with white space nor with the end of an array. -/
structure Reads (depth : ℕ) (written : List Char) (v : Json) : Prop where
  scan : ∀ rest, EndsNumber rest → scanValue depth (written ++ rest) = .ok (v, rest)
  opens : ∃ c cs, written = c :: cs ∧ isWhitespace c = false ∧ c ≠ ']'

lemma Reads.tight {depth : ℕ} {written : List Char} {v : Json} (h : Reads depth written v)
    (rest : List Char) : skipSpace (written ++ rest) = written ++ rest := by
  obtain ⟨c, cs, rfl, hspace, -⟩ := h.opens
  exact List.dropWhile_cons_of_neg (by rw [hspace]; exact Bool.false_ne_true)

lemma endsNumber_cons {c : Char} {rest : List Char} (h : c = ',' ∨ c = '}' ∨ c = ']') :
    EndsNumber (c :: rest) := by
  rintro _ ⟨⟩
  rcases h with rfl | rfl | rfl <;> decide

lemma Reads.encodes {depth : ℕ} {written : List Char} {v : Json} (h : Reads depth written v) :
    Encodes depth written v where
  scan c rest hc := h.scan (c :: rest) (endsNumber_cons (hc.imp_right .inl))
  tight := h.tight

section Atoms

variable {depth : ℕ}

/-- A word that the scanner knows. -/
lemma reads_constant {word : String} {v : Json} (h : (word.toList, v) ∈
    [("null".toList, Json.null), ("true".toList, .bool true), ("false".toList, .bool false)]) :
    Reads depth word.toList v := by
  simp only [List.mem_cons, Prod.mk.injEq, List.not_mem_nil, or_false] at h
  rcases h with ⟨hword, rfl⟩ | ⟨hword, rfl⟩ | ⟨hword, rfl⟩ <;> rw [hword]
  · exact ⟨fun rest _ => by cases depth <;> rfl, _, _, rfl, by decide, by decide⟩
  · exact ⟨fun rest _ => by cases depth <;> rfl, _, _, rfl, by decide, by decide⟩
  · exact ⟨fun rest _ => by cases depth <;> rfl, _, _, rfl, by decide, by decide⟩

lemma reads_quote (s : String) : Reads depth (quote s) (.str s) where
  scan rest _ := scanValue_quote depth s rest
  opens := ⟨_, _, rfl, by decide, by decide⟩

/-- A numeral begins with a digit. -/
lemma numeral_cons (n : ℕ) : ∃ d ds, numeral n = d :: ds ∧ d.isDigit := by
  obtain ⟨d, ds, h⟩ := List.exists_cons_of_ne_nil (Nat.toDigits_ne_nil : Nat.toDigits 10 n ≠ [])
  have hmem : d ∈ Nat.toDigits 10 n := by
    rw [h]
    exact List.mem_cons_self
  exact ⟨d, ds, h, Nat.isDigit_of_mem_toDigits (by decide) (by decide) hmem⟩

lemma scanUnsigned_minus {n : ℕ} {rest : List Char}
    (hlen : (numeral n).length ≤ PyText.maxIntDigits) (hrest : EndsNumber rest) :
    scanUnsigned true (numeral n ++ rest) = .ok (.int (-n), rest) := by
  have hfraction : scanFraction rest = ([], rest) := by
    cases rest with
    | nil => rfl
    | cons c rest =>
        rw [scanFraction]
        rintro _ ⟨⟩
        exact absurd rfl (hrest '.' rfl).2.1
  have hexponent : scanExponent rest = (none, rest) := by
    cases rest with
    | nil => rfl
    | cons c rest =>
        obtain ⟨-, -, he, hE⟩ := hrest c rfl
        simp [scanExponent, he, hE]
  rw [scanUnsigned, scanInteger_numeral fun c hc => (hrest c hc).1]
  dsimp only
  rw [hfraction]
  dsimp only
  rw [hexponent]
  dsimp only
  rw [if_pos ⟨rfl, rfl⟩, if_pos hlen, numeral, Nat.ofDigitChars_ten_toDigits]
  simp

lemma reads_int {n : ℤ} (h : (numeral n.natAbs).length ≤ PyText.maxIntDigits) :
    Reads depth (intText n) (.int n) := by
  cases n with
  | ofNat n =>
      obtain ⟨d, ds, hnumeral, hd⟩ := numeral_cons n
      refine ⟨fun rest hrest => scanValue_numeral h hrest, d, ds, hnumeral, ?_, ?_⟩
      · rw [isWhitespace]
        simp only [Bool.or_eq_false_iff, decide_eq_false_iff_not]
        refine ⟨⟨⟨?_, ?_⟩, ?_⟩, fun h13 => ?_⟩
        · rintro rfl
          exact absurd hd (by decide)
        · rintro rfl
          exact absurd hd (by decide)
        · rintro rfl
          exact absurd hd (by decide)
        · rw [← Char.ofNat_toNat d, h13] at hd
          exact absurd hd (by decide)
      · rintro rfl
        exact absurd hd (by decide)
  | negSucc n =>
      refine ⟨fun rest hrest => ?_, _, _, rfl, by decide, by decide⟩
      have hscan := scanUnsigned_minus (n := n + 1) h hrest
      obtain ⟨d, ds, hnumeral, hd⟩ := numeral_cons (n + 1)
      rw [intText, Int.negSucc_eq, ← Nat.cast_succ, ← hscan, hnumeral]
      have hinfinity : 'I' ≠ d := by
        rintro rfl
        exact absurd hd (by decide)
      have hconst : constants.find? (fun k => k.1.isPrefixOf ('-' :: d :: ds ++ rest)) = none := by
        simp [constants, hinfinity]
      have hatom : scanAtom ('-' :: d :: ds ++ rest) = scanUnsigned true (d :: ds ++ rest) := by
        unfold scanAtom
        rw [hconst]
        rfl
      rw [← hatom]
      cases depth <;> rfl

end Atoms

/-! ## Containers -/

lemma scanItems_compact {depth : ℕ} (xs : List (List Char × Json)) :
    ∀ (n : ℕ) (items : List Json) (rest : List Char), xs ≠ [] → xs.length ≤ n →
      (∀ x ∈ xs, Reads depth x.1 x.2) →
      scanItems (scanValue depth) n items (compactItems (xs.map Prod.fst) ++ rest) =
        .ok (items ++ xs.map Prod.snd, rest) := by
  induction xs with
  | nil => exact fun _ _ _ h => absurd rfl h
  | cons x xs ih =>
      rintro (_ | n) items rest - hn hreads
      · exact absurd hn (by simp)
      · have hx := hreads x List.mem_cons_self
        cases xs with
        | nil =>
            have htext : compactItems ([x].map Prod.fst) ++ rest = x.1 ++ ']' :: rest := by
              simp [compactItems]
            rw [htext, scanItems, hx.scan _ (endsNumber_cons (.inr (.inr rfl)))]
            rfl
        | cons x' xs =>
            have htext : compactItems ((x :: x' :: xs).map Prod.fst) ++ rest =
                x.1 ++ ',' :: (compactItems ((x' :: xs).map Prod.fst) ++ rest) := by
              simp [compactItems]
            have htight : skipSpace (compactItems ((x' :: xs).map Prod.fst) ++ rest) =
                compactItems ((x' :: xs).map Prod.fst) ++ rest := by
              have hx' := hreads x' (List.mem_cons_of_mem _ List.mem_cons_self)
              cases xs with
              | nil => simpa [compactItems] using hx'.tight (']' :: rest)
              | cons x'' xs =>
                  simpa [compactItems] using
                    hx'.tight (',' :: (compactItems ((x'' :: xs).map Prod.fst) ++ rest))
            rw [htext, scanItems, hx.scan _ (endsNumber_cons (.inl rfl))]
            show scanItems (scanValue depth) n (items ++ [x.2])
              (skipSpace (compactItems ((x' :: xs).map Prod.fst) ++ rest)) = _
            rw [htight, ih n _ rest (by simp) (Nat.le_of_succ_le_succ hn)
              fun y hy => hreads y (List.mem_cons_of_mem _ hy), List.append_assoc]
            rfl

lemma length_le_compactItems (xs : List (List Char × Json)) :
    xs.length ≤ (compactItems (xs.map Prod.fst)).length := by
  induction xs with
  | nil => exact Nat.zero_le _
  | cons x xs ih =>
      cases xs with
      | nil => simp [compactItems]
      | cons x' xs =>
          simp only [List.map_cons, compactItems, List.length_append, List.length_cons] at ih ⊢
          omega

lemma length_le_compactMembers (ms : List Member) :
    ms.length ≤ (compactMembers (ms.map Member.written)).length := by
  induction ms with
  | nil => exact Nat.zero_le _
  | cons m ms ih =>
      cases ms with
      | nil =>
          simp only [List.map_cons, List.map_nil, compactMembers, List.length_append,
            List.length_cons, List.length_nil]
          omega
      | cons m' ms =>
          simp only [List.map_cons, compactMembers, List.length_append, List.length_cons] at ih ⊢
          omega

/-- What follows the opening bracket of an array that has items. -/
lemma compactItems_opens {depth : ℕ} {x : List Char × Json} (xs : List (List Char × Json))
    (h : Reads depth x.1 x.2) : ∃ c cs, compactItems ((x :: xs).map Prod.fst) = c :: cs ∧
      isWhitespace c = false ∧ c ≠ ']' := by
  obtain ⟨c, cs, hx, hspace, hend⟩ := h.opens
  have hfirst : ∃ more, compactItems ((x :: xs).map Prod.fst) = x.1 ++ more := by
    cases xs <;> exact ⟨_, rfl⟩
  obtain ⟨more, hmore⟩ := hfirst
  exact ⟨c, cs ++ more, by rw [hmore, hx]; rfl, hspace, hend⟩

/-- **An array is read** where its items are. -/
lemma reads_arr (depth : ℕ) (xs : List (List Char × Json))
    (h : ∀ x ∈ xs, Reads depth x.1 x.2) :
    Reads (depth + 1) ('[' :: compactItems (xs.map Prod.fst)) (.arr (xs.map Prod.snd)) where
  scan rest _ := by
    cases xs with
    | nil => rfl
    | cons x xs =>
        have hitems := scanItems_compact (x :: xs)
          (compactItems ((x :: xs).map Prod.fst) ++ rest).length [] rest (List.cons_ne_nil _ _)
          ((length_le_compactItems _).trans (by simp)) h
        obtain ⟨c, cs, hopens, hspace, hend⟩ :=
          compactItems_opens xs (h x List.mem_cons_self)
        rw [hopens] at hitems ⊢
        have hskip : skipSpace (c :: cs ++ rest) = c :: (cs ++ rest) :=
          List.dropWhile_cons_of_neg (by rw [hspace]; exact Bool.false_ne_true)
        show scanValue (depth + 1) ('[' :: (c :: cs ++ rest)) = _
        rw [scanValue, hskip]
        split
        · rename_i heq
          exact absurd (List.cons.inj heq).1 hend
        · show (scanItems (scanValue depth) (c :: cs ++ rest).length [] (c :: cs ++ rest) >>= _) = _
          rw [hitems]
          rfl
  opens := ⟨_, _, rfl, by decide, by decide⟩

/-- **An object is read** where the values of its members are, and its names are distinct. -/
lemma reads_obj (depth : ℕ) (ms : List Member) (hnodup : (ms.map Prod.fst).Nodup)
    (h : ∀ m ∈ ms, Reads depth m.2.1 m.2.2) :
    Reads (depth + 1) (compactObject (ms.map Member.written)) (.obj (ms.map Member.read)) where
  scan rest _ := by
    cases ms with
    | nil => rfl
    | cons m ms =>
        have hkeys : (([] ++ (m :: ms).map Member.read).map Prod.fst).Nodup := by
          rw [List.nil_append, List.map_map]
          exact hnodup
        have hmembers := scanMembers_compact (m :: ms)
          (compactMembers ((m :: ms).map Member.written) ++ rest).length [] rest
          (List.cons_ne_nil _ _) ((length_le_compactMembers _).trans (by simp)) hkeys
          fun m hm => (h m hm).encodes
        obtain ⟨body, hbody⟩ : ∃ body,
            compactMembers ((m :: ms).map Member.written) = '"' :: body := by
          cases ms <;> exact ⟨_, rfl⟩
        rw [hbody] at hmembers
        rw [compactObject, hbody]
        show (scanMembers (scanValue depth) ('"' :: body ++ rest).length [] ('"' :: body ++ rest)
          >>= _) = _
        rw [hmembers]
        rfl
  opens := ⟨_, _, rfl, by decide, by decide⟩

/-! ## Documents -/

/-- **Every document is read**, by induction on what makes it fit. -/
theorem reads_dump {depth : ℕ} {d : Doc} (h : Fits depth d) : Reads depth d.dump d.toJson := by
  induction h with
  | null depth => exact reads_constant List.mem_cons_self
  | bool depth b =>
      cases b with
      | true => exact reads_constant (List.mem_cons_of_mem _ List.mem_cons_self)
      | false =>
          exact reads_constant (List.mem_cons_of_mem _ (List.mem_cons_of_mem _ List.mem_cons_self))
  | int depth n h => exact reads_int h
  | str depth s => exact reads_quote s
  | arr depth items _ ih =>
      have hreads := reads_arr depth (items.map fun d => (d.dump, d.toJson)) (by
        intro x hx
        obtain ⟨d, hd, rfl⟩ := List.mem_map.mp hx
        exact ih d hd)
      rw [List.map_map, List.map_map] at hreads
      rw [Doc.dump, Doc.toJson, Doc.dumps_eq, Doc.toJsons_eq]
      exact hreads
  | obj depth fields hnodup _ ih =>
      have hreads := reads_obj depth (fields.map Doc.member) (by rwa [List.map_map]) (by
        intro m hm
        obtain ⟨f, hf, rfl⟩ := List.mem_map.mp hm
        exact ih f hf)
      rw [Doc.dump, Doc.toJson, Doc.dumpFields_eq, Doc.toFields_eq]
      exact hreads

/-- **What has been written is read back.** -/
theorem parse_dump {depth : ℕ} {d : Doc} (h : Fits depth d) : parse depth d.dump = .ok d.toJson := by
  have hreads := reads_dump h
  have hscan := hreads.scan [] nofun
  have htight := hreads.tight []
  rw [List.append_nil] at hscan htight
  rw [parse, htight]
  show (scanValue depth d.dump >>= _) = _
  rw [hscan]
  rfl

/-- So is an object that is sent. -/
theorem loads_dump {nested : ℕ} {fields : List (String × Doc)}
    (h : Fits (nested + 1) (.obj fields)) :
    loads nested (Codec.encodeUtf8 (Doc.obj fields).dump) = .ok (Doc.obj fields).toJson := by
  have hdetect : Codec.detectEncoding (Codec.encodeUtf8 (Doc.obj fields).dump) = .utf8 := by
    obtain ⟨c, body, hbody, hc⟩ : ∃ c body, (Doc.obj fields).dump = '{' :: c :: body ∧
        (c = '"' ∨ c = '}') := by
      rw [Doc.dump, compactObject, Doc.dumpFields_eq]
      rcases fields with _ | ⟨f, _ | ⟨f', fields⟩⟩
      · exact ⟨_, _, rfl, .inr rfl⟩
      · exact ⟨_, _, rfl, .inl rfl⟩
      · exact ⟨_, _, rfl, .inl rfl⟩
    rw [hbody]
    rcases hc with rfl | rfl
    · exact Codec.detectEncoding_ascii (by decide) (by decide) (by decide)
    · exact Codec.detectEncoding_ascii (by decide) (by decide) (by decide)
  have hdecode : Codec.decodeJson (Codec.encodeUtf8 (Doc.obj fields).dump) =
      some (Doc.obj fields).dump := by
    rw [Codec.decodeJson, hdetect]
    exact Codec.utf8_encodeUtf8 _
  rw [loads, hdecode]
  exact parse_dump h

end Json
